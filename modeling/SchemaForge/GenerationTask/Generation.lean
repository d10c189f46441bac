import SchemaForge.Build.World
import SchemaForge.GenerationTask.Basic

/-!
# Running generation tasks

A task runs through stages: its checks, then the database and its migration where the task
needs them, then the cleaning of the output directory, the document, and the generator. The
first stage that fails ends the task.

The tasks of a build run side by side. Each goes as far as the start of its generator; the
generators are waited for afterwards, and the shared databases are stopped at the very end.

## Main definitions

* `Stage`, `TaskError` : where a task failed, and why.
* `GenerationTask.launch`, `GenerationTask.conclude` : a run up to the start of the generator,
  and from there.
* `GenerationTask.generate`, `GenerationTask.generateAll` : the run of one task and of all
  tasks of a build.
-/

namespace SchemaForge

/-- The stages of a task. -/
inductive Stage where
  | checks
  | provisioning
  | migration
  | cleaning
  | writing
  | invocation
  deriving Repr, DecidableEq

/-- How messages name a stage. -/
def Stage.text : Stage → String
  | checks => "init"
  | provisioning => "database provisioning"
  | migration => "migration"
  | cleaning => "output cleaning"
  | writing => "document writing"
  | invocation => "generator invocation"

/-- The failure of a task in a stage. -/
structure TaskError where
  task : String
  stage : Stage
  cause : Error
  deriving Repr, DecidableEq

/-- The text of a failure. -/
def TaskError.message (e : TaskError) : String :=
  "task `" ++ e.task ++ "` failed during " ++ e.stage.text ++ ": " ++ e.cause.message

namespace GenerationTask

/-- What a successful run of a task leaves behind. -/
structure Outcome where
  task : String
  fingerprint : Fingerprint
  migrations : List Migration.Applied
  result : GenerationResult
  /-- The verdict of the caller, if the caller was asked. -/
  verdict : Option Verdict
  deriving Repr, DecidableEq

/-- A run whose generator was started. -/
structure Launched where
  fingerprint : Fingerprint
  migrations : List Migration.Applied
  spec : ProcessSpec
  deriving Repr, DecidableEq

variable {δ : Type}

/-- A part of a run of a task, which may fail. -/
abbrev Staged (δ α : Type) := ExceptT TaskError (Program Build.Event (World δ)) α

/-- A part that belongs to a stage. -/
def during {α : Type} (t : GenerationTask) (stage : Stage)
    (p : Build.Operation δ (Except Error α)) : Staged δ α :=
  ExceptT.mk do
    match ← p with
    | .ok a => return .ok a
    | .error cause => return .error { task := t.name, stage, cause }

/-- What is checked before anything happens. -/
def check (t : GenerationTask) : Except Error Unit := do
  OutputDirectory.checkClean t.configuration
  OutputDirectory.checkSafe t.outputDir t.projectDir

/-- The schema that is migrated, which must be named. -/
def requiredSchema (t : GenerationTask) : Except Error String :=
  match t.configuration.generator.database.inputSchema.filter fun s => !Text.isBlank s with
  | some schema => .ok schema
  | none => .error (.configuration
      "generator.database.input_schema is required to migrate an ephemeral database")

/-- Migrates a schema over a connection of its own, which is closed in the end. -/
def migrateConnected (b : Backend δ) (t : GenerationTask) (handle : DatabaseHandle)
    (schema : String) : Build.Operation δ (Except Error (List Migration.Applied)) := do
  let connected ← Program.perform
    (fun w : World δ => let r := b.connect handle w.outside; (r.1, { w with outside := r.2 }))
    fun r => Build.Event.connected (r.map fun _ => ())
  match connected with
  | .error e => return .error e
  | .ok target =>
    let applied ← Build.migrate target t.migrationsDir schema
    let closed ← Program.perform
      (fun w : World δ => let r := target.close w.outside; (r.1, { w with outside := r.2 }))
      Build.Event.closed
    match applied, closed with
    | .error e, _ => return .error e
    | .ok _, .error e => return .error e
    | .ok applied, .ok () => return .ok applied

/-- Migrates a schema while no other task does. -/
def migrate (b : Backend δ) (t : GenerationTask) (handle : DatabaseHandle) (schema : String) :
    Build.Operation δ (Except Error (List Migration.Applied)) := do
  Build.lock Defaults.databaseService schema
  let answer ← t.migrateConnected b handle schema
  Build.unlock Defaults.databaseService schema
  return answer

/-- The shared database with the migrations that were run on it, for a task that needs it. -/
def provision (b : Backend δ) (t : GenerationTask) :
    Staged δ (Option DatabaseHandle × List Migration.Applied) := do
  if t.engagesContainer then
    let schema ← t.during .checks (return t.requiredSchema)
    let handle ← t.during .provisioning (Build.acquire b Defaults.databaseService)
    let migrations ← t.during .migration (t.migrate b handle schema)
    return (some handle, migrations)
  else return (none, [])

/-- Empties the output directory. -/
def clean (t : GenerationTask) : Build.Operation δ (Except Error Unit) :=
  Program.perform
    (fun w => let r := OutputDirectory.clean w.files t.outputDir; (r.1, { w with files := r.2 }))
    (Build.Event.cleaned t.outputDir)

/-- Writes the document of a configuration. -/
def write (b : Backend δ) (t : GenerationTask) (c : Configuration) :
    Build.Operation δ (Except Error Unit) :=
  Program.perform
    (fun w => let r := Document.write b.validator w.files c t.schema t.documentPath
      (r.1, { w with files := r.2 }))
    (Build.Event.wrote t.documentPath)

/-- The launch of the generator on the task's document. -/
def processSpec (t : GenerationTask) : Except Error ProcessSpec := do
  let spec ← ProcessSpec.ofCommand t.command t.documentPath t.projectDir
  return match t.hooks.process with
    | some change => change spec
    | none => spec

/-- Starts the generator. -/
def spawn (b : Backend δ) (spec : ProcessSpec) : Build.Operation δ (Except Error Unit) := do
  let launched ← Program.look (fun w : World δ => b.launch spec w.files w.outside)
    (Build.Event.launched spec)
  match launched with
  | .ok () => return .ok ()
  | .error fault => return .error (.launch spec.program.shown fault)

/-- Runs the task up to the start of the generator. -/
def launch (b : Backend δ) (t : GenerationTask) : Staged δ Launched := do
  t.during .checks (return t.check)
  let fingerprint ← t.during .checks (return t.fingerprint)
  let (handle, migrations) ← t.provision b
  t.during .cleaning t.clean
  t.during .writing (t.write b (t.effective handle))
  let spec ← t.during .invocation (return t.processSpec)
  t.during .invocation (spawn b spec)
  return { fingerprint, migrations, spec }

/-- Whether a run of the generator counts as a success. Without a caller's verdict only the
exit code zero does. -/
def judge (t : GenerationTask) (r : GenerationResult) : Except Error (Option Verdict) :=
  match t.hooks.result with
  | none =>
    if r.succeeded then .ok none else .error (.generator r.exitCode r.failureDetail)
  | some decide =>
    match decide r with
    | .accept => .ok (some .accept)
    | .reject reason => .error (.generator r.exitCode reason)

/-- Waits for the generator and judges what it did. -/
def conclude (b : Backend δ) (t : GenerationTask) (l : Launched) : Staged δ Outcome := do
  let output ← ExceptT.lift (Program.perform
    (fun w : World δ => let r := b.finish l.spec w.files w.outside
      (r.1, { w with files := r.2.1, outside := r.2.2 }))
    (Build.Event.finished l.spec))
  let result := GenerationResult.ofOutput l.spec output
  let verdict ← t.during .invocation (return t.judge result)
  return {
    task := t.name, fingerprint := l.fingerprint, migrations := l.migrations, result, verdict }

/-- Runs the task. -/
def generate (b : Backend δ) (t : GenerationTask) : Staged δ Outcome := do
  t.conclude b (← t.launch b)

/-- Runs the tasks of a build side by side and stops the shared databases. There is one
answer for each task, in the order of the tasks. -/
def generateAll (b : Backend δ) (tasks : List GenerationTask) :
    Build.Operation δ (List (Except TaskError Outcome)) := do
  let launched ← tasks.mapM fun t => (t.launch b).run
  let outcomes ← (tasks.zip launched).mapM fun (t, l) =>
    match l with
    | .ok l => (t.conclude b l).run
    | .error e => return .error e
  let _ ← Build.shutdown b
  return outcomes

end GenerationTask

end SchemaForge
