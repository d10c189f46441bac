import SchemaForge.Invocation
import SchemaForge.Shell.Evaluator

/-!
# Launching programs

How a launch finds the program that it names, and what the program leaves behind.

## Main definitions

* `Shell.install` : the programs that come with the system.
* `Shell.locate` : the program of a launch.
* `Shell.run` : what a launched program leaves behind.
-/

namespace SchemaForge.Shell

/-- Puts the programs that come with the system in their place. -/
def install (fs : FileSystem) : FileSystem :=
  (launchers ++ tools.map (·.1)).foldl (fun fs name =>
    fs.put (FileSystem.programs ++ [RawText.ofText name]) (.file [] true)) fs

/-- How deep commands may lie within one another. -/
def depth : Nat := 100000

/-- The files as a launch sees them from its working directory. -/
def entered (fs : FileSystem) (spec : ProcessSpec) : Except IoFault FileSystem :=
  match fs.resolve .target spec.workingDir with
  | .error e => .error e
  | .ok loc =>
    if fs.isDirectoryAt loc then .ok { fs with workingDirectory := loc }
    else .error .notDirectory

/-- The program of a launch, with the path that leads to it. -/
def locate (fs : FileSystem) (spec : ProcessSpec) : Except IoFault (Path × Location) := do
  if (spec.program :: spec.workingDir.text :: spec.args).any RawText.hasNul ||
      spec.env.any fun v => (RawText.ofText v.1).hasNul || v.2.hasNul then
    .error .nulInArgument
  else
    let search := (spec.env.find? (·.1 == "PATH")).map (·.2.shown)
    findProgram (← entered fs spec) (search.getD State.defaultSearch) spec.program.shown

/-- What the launched program does, and the files that it leaves. Programs here work on texts,
and take of their parameters what can be shown. -/
def run (fs : FileSystem) (process : Nat) (spec : ProcessSpec) : ProcessOutput × FileSystem :=
  let program := spec.program.shown
  let args := spec.args.map RawText.shown
  let env := spec.env.map fun v => (v.1, v.2.shown)
  match entered fs spec, locate fs spec with
  | .ok files, .ok (path, loc) =>
    let s : State :=
      { files, bindings := State.importing env, name := program, args := [], process }
    let ended :=
      match systemProgram? loc with
      | some "sh" | some "dash" => runShell depth s args
      | _ => runProgram depth s path loc program args
    ({ exitCode := match ended.detour with
        | some (.killed _) => none
        | _ => some ended.finalStatus
       stdout := (ended.collected[0]?).getD []
       stderr := (ended.collected[1]?).getD [] },
      { ended.files with workingDirectory := fs.workingDirectory })
  | _, _ => ({ exitCode := some 127, stdout := [], stderr := [] }, fs)

end SchemaForge.Shell
