import SchemaForge.Build.Machine
import SchemaForge.CommandLine.Help
import SchemaForge.Project.Generation
import SchemaForge.Project.Loading

/-!
# Running the command line

The command line as a function: from its arguments, the environment and the files to what it
prints, the code that it exits with, and the files that it leaves.

## Main definitions

* `CommandLine.Output` : what a run prints, and its exit code.
* `CommandLine.run` : a run.
-/

namespace SchemaForge.CommandLine

/-- What a run prints, and the code that it exits with. -/
structure Output where
  exitCode : Nat := 0
  stdout : String := ""
  stderr : String := ""
  deriving Repr, DecidableEq

/-- The output of a run that failed. -/
def Output.failure (reason : String) : Output :=
  { exitCode := 1, stderr := "Error: " ++ reason ++ "\n" }

/-- The output when nothing is done. -/
def Early.output : Early → Output
  | help command => { stdout := CommandLine.help command }
  | helpOnHelp => { stdout := CommandLine.helpOnHelp }
  | version => { stdout := CommandLine.version }
  | fault f => { exitCode := 2, stderr := f.message }

/-- The line of a task's fingerprint. -/
def fingerprintLine (t : GenerationTask) : Except Error String :=
  t.fingerprint.map fun print =>
    t.name ++ " " ++ print.toHex ++ " all_inputs_declared=" ++
      (if t.allInputsDeclared then "true" else "false") ++ "\n"

/-- The lines that say what a task would do. -/
def planLines (t : GenerationTask) : Except Error String :=
  let (database, migrations) :=
    if t.engagesContainer then ("ephemeral container", t.migrationsDir.shown)
    else ("configured connection", "skipped")
  .ok ("Task: " ++ t.name ++ "\n" ++
    "  Output:     " ++ t.outputDir.shown ++ "\n" ++
    "  Document:   " ++ t.documentPath.shown ++ "\n" ++
    "  Database:   " ++ database ++ "\n" ++
    "  Migrations: " ++ migrations ++ "\n" ++
    "  Generator:  " ++ t.command.program ++ " " ++ Text.join " " t.command.args ++ "\n")

/-- What is printed about tasks, one after the other up to the first of which nothing can be
said. -/
def lines (line : GenerationTask → Except Error String) : List GenerationTask → Output
  | [] => {}
  | t :: ts =>
    match line t with
    | .error e => .failure e.message
    | .ok text =>
      let rest := lines line ts
      { rest with stdout := text ++ rest.stdout }

/-- What is printed about each of the selected tasks. -/
def describe (line : GenerationTask → Except Error String) (p : Project) (dir : Path)
    (only : List String) : Output :=
  match p.select dir only with
  | .error e => .failure e.message
  | .ok tasks => lines line tasks

/-- Runs the selected tasks. -/
def generate (machine : Machine) (fs : FileSystem) (p : Project) (dir : Path)
    (only : List String) : Output × FileSystem :=
  match (p.generate Machine.backend dir only).run (World.start fs machine) with
  | none => (.failure "the tasks wait for one another", fs)
  | some r =>
    (match r.answer with
      | .error e => .failure e.message
      | .ok 0 => {}
      | .ok n => .failure (toString n ++ " task(s) failed"),
      r.state.files)

/-- Does what arguments ask for. -/
def perform (a : Arguments) (environment : List (String × String)) (fs : FileSystem) :
    Output × FileSystem :=
  match Project.load fs environment a.config with
  | .error fault => (.failure (Error.configuration fault.message).message, fs)
  | .ok p =>
    match p.validate with
    | .error e => (.failure e.message, fs)
    | .ok () =>
      let dir := a.projectDir.getD fs.currentDirectory
      match a.command with
      | .generate =>
        let declared := environment.map fun v => (v.1, RawText.ofText v.2)
        generate { environment := (NameMap.ofList declared).entries } fs p dir a.tasks
      | .fingerprint => (describe fingerprintLine p dir a.tasks, fs)
      | .plan => (describe planLines p dir a.tasks, fs)

/-- Runs the command line. -/
def run (arguments : List String) (environment : List (String × String)) (fs : FileSystem) :
    Output × FileSystem :=
  match Arguments.ofList arguments with
  | .error early => (early.output, fs)
  | .ok a => perform a environment fs

end SchemaForge.CommandLine
