import SchemaForge.Configuration.Fingerprint
import SchemaForge.Document
import SchemaForge.Invocation
import SchemaForge.OutputDirectory

/-!
# Generation tasks

A task names what is generated, from which database, and where everything lies. A draft is
what a caller says about a task; building it fills in what was left out and resolves all
directories against the project's.

## Main definitions

* `GenerationTask`, `GenerationTask.Hooks` : a task, and where a caller may change its course.
* `GenerationTask.Draft`, `GenerationTask.Draft.build` : what a caller says, and the task that
  it makes.
* `GenerationTask.fingerprint`, `GenerationTask.isUpToDate` : whether a task has to run again.
* `GenerationTask.effective` : the configuration that the generator is given.
-/

namespace SchemaForge

/-- What a caller decides about a run of the generator. -/
inductive Verdict where
  | accept
  | reject (reason : String)
  deriving Repr, DecidableEq

/-- Where a caller may change the course of a task. -/
structure GenerationTask.Hooks where
  /-- Changes the copy of the configuration that is fingerprinted. -/
  normalization : Option NormalizationHook := none
  /-- Changes the launch of the generator. -/
  process : Option (ProcessSpec → ProcessSpec) := none
  /-- Decides whether a run of the generator succeeded. -/
  result : Option (GenerationResult → Verdict) := none

/-- One generation from a database to sources. -/
structure GenerationTask where
  name : String
  /-- The configuration as it was declared. -/
  configuration : Configuration
  projectDir : Path
  /-- The one directory that the generator writes to. -/
  outputDir : Path
  /-- The directory of the document. -/
  workDir : Path
  migrationsDir : Path
  useContainer : Bool
  /-- Whether the fingerprint covers every input. -/
  allInputsDeclared : Bool
  command : GeneratorCommand
  schema : SchemaSource
  hooks : GenerationTask.Hooks

namespace GenerationTask

/-- Whether the task needs the shared database: it may use one and names no other. -/
def engagesContainer (t : GenerationTask) : Bool :=
  t.useContainer && t.configuration.connectionUrl?.isNone

/-- The path of the document. -/
def documentPath (t : GenerationTask) : Path := t.workDir / Defaults.documentName

/-- The normal form of the declared configuration. -/
def normalized (t : GenerationTask) : Configuration :=
  t.configuration.normalize t.hooks.normalization

/-- The key under which a build remembers the task. The hook of the task may leave a
configuration that cannot be written, and then there is none. -/
def fingerprint (t : GenerationTask) : Except Error Fingerprint := Fingerprint.of t.normalized

/-- Whether the task need not run again after a run of a fingerprint. A task with inputs
that its fingerprint does not cover always has to. -/
def isUpToDate (t : GenerationTask) (previous : Option Fingerprint) : Except Error Bool :=
  if t.allInputsDeclared then
    match previous with
    | some print => t.fingerprint.map (print == ·)
    | none => .ok false
  else .ok false

/-- The configuration that the generator is given: the declared one, pointed at the shared
database if there is one, without what carries no meaning, and with the output directory. -/
def effective (t : GenerationTask) (handle : Option DatabaseHandle) : Configuration :=
  let connected :=
    match handle with
    | some h => (t.configuration.useDatabase h).excludeMigrationHistory
    | none => t.configuration
  connected.trimDefaults.withDirectory (some t.outputDir)

/-- What a caller says about a task; all but the name and the configuration may be left out. -/
structure Draft where
  name : String
  configuration : Configuration
  projectDir : Option Path := none
  outputDir : Option Path := none
  workDir : Option Path := none
  migrationsDir : Option Path := none
  useContainer : Bool := Defaults.useContainer
  allInputsDeclared : Bool := false
  command : Option GeneratorCommand := none
  schema : SchemaSource := default
  hooks : Hooks := {}

namespace Draft

/-- The command of a draft, which must have a program. -/
def requiredCommand (d : Draft) : Except Error GeneratorCommand :=
  match d.command.filter fun c => !Text.isBlank c.program with
  | some command => .ok command
  | none => .error (.configuration ("task `" ++ d.name ++ "` has no generator program configured"))

/-- The task of a draft. Directories are seen from the project's, and that of a draft
without one is the current directory. -/
def build (d : Draft) (currentDir : Path) : Except Error GenerationTask := do
  if Text.isBlank d.name then .error (.configuration "task name must not be blank")
  else
    let command ← d.requiredCommand
    let projectDir := d.projectDir.getD currentDir
    let name : Path := ⟨d.name⟩
    return {
      name := d.name
      configuration := d.configuration
      projectDir
      outputDir := projectDir / ((d.outputDir.or d.configuration.generator.target.directory).getD
        (Defaults.outputRoot / name))
      workDir := projectDir / d.workDir.getD (Defaults.workDir / name)
      migrationsDir := projectDir / d.migrationsDir.getD Defaults.migrationsDir
      useContainer := d.useContainer
      allInputsDeclared := d.allInputsDeclared
      command
      schema := d.schema
      hooks := d.hooks }

end Draft

end GenerationTask

end SchemaForge
