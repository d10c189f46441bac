import SchemaForge.Build.DatabaseService
import SchemaForge.FileSystem.Basic
import SchemaForge.Invocation
import SchemaForge.Migration.Run
import SchemaForge.Schema.Validator

/-!
# What the tasks of a build share

The file tree, the databases by their names, and one lock for each schema of each database,
so that tasks on one schema migrate one after the other. What lies outside, the databases
themselves, the processes and what documents are checked by, is behind a `Backend`.

## Main definitions

* `Backend` : the outside of a build.
* `World` : the state that tasks share.
* `Build.acquire`, `Build.lock`, `Build.unlock`, `Build.shutdown` : the shared services.
-/

namespace SchemaForge

/-- The outside of a build, on a state of its own. -/
structure Backend (δ : Type) extends Provisioner δ where
  /-- Connects to a running database. -/
  connect : DatabaseHandle → δ → Except Error (Migration.Target δ) × δ
  /-- Whether a process can be started. -/
  launch : ProcessSpec → FileSystem → δ → Except IoFault Unit
  /-- What a started process does until it ends. -/
  finish : ProcessSpec → FileSystem → δ → ProcessOutput × FileSystem × δ
  /-- What documents are held against their schemas by. -/
  validator : Validator

/-- The state that the tasks of a build share. -/
structure World (δ : Type) where
  files : FileSystem
  /-- The databases in ascending order of their names. -/
  services : List (String × DatabaseService)
  /-- The schemas that are being migrated, each with the name of its database. -/
  locks : List (String × String)
  outside : δ

namespace World

variable {δ : Type}

/-- Shared state at the start of a build. -/
def start (files : FileSystem) (outside : δ) : World δ := ⟨files, [], [], outside⟩

/-- The service of a name, a new one if there is none yet. -/
def service (w : World δ) (name : String) : DatabaseService :=
  (Names.find? name w.services).getD { name }

/-- Whether a name has a service. -/
def hasService (w : World δ) (name : String) : Bool :=
  w.services.any (·.1 == name)

/-- Replaces the service of its name. -/
def putService (w : World δ) (s : DatabaseService) : World δ :=
  { w with services := Names.insert (s.name, s) w.services }

end World

namespace Build

/-- What a step of a task announces. -/
inductive Event where
  /-- A database was asked for by its name. -/
  | registered (name : String)
  | database (name : String) (event : DatabaseService.Event)
  /-- All databases of the build were counted up. -/
  | counted (names : List String)
  | locked (database schema : String)
  | unlocked (database schema : String)
  | searched (location : Path) (outcome : Except Error (List Script))
  | connected (outcome : Except Error Unit)
  | migration (event : Migration.Event)
  | closed (outcome : Except Error Unit)
  | cleaned (directory : Path) (outcome : Except Error Unit)
  | wrote (document : Path) (outcome : Except Error Unit)
  | launched (spec : ProcessSpec) (outcome : Except IoFault Unit)
  | finished (spec : ProcessSpec) (output : ProcessOutput)

/-- A program on the shared state. -/
abbrev Operation (δ α : Type) := Program Event (World δ) α

variable {δ : Type}

/-- Makes sure that a name has a service. -/
def register (name : String) : Operation δ Unit :=
  Program.change (fun w => w.putService (w.service name)) (.registered name)

/-- An operation on the service of a name. -/
def onService {α : Type} (name : String) (p : DatabaseService.Operation δ α) : Operation δ α :=
  p.zoom (fun w => (w.service name, w.outside))
    (fun s w => { w.putService { s.1 with name } with outside := s.2 }) (.database name)

/-- The handle of the database of a name. -/
def acquire (b : Backend δ) (name : String) : Operation δ (Except Error DatabaseHandle) := do
  register name
  onService name (DatabaseService.acquire b.toProvisioner name)

/-- Waits until nobody migrates the schema and keeps others from it. -/
def lock (database schema : String) : Operation δ Unit :=
  Program.await (fun w =>
    if w.locks.contains (database, schema) then none
    else some ((), { w with locks := (database, schema) :: w.locks }))
    fun _ => .locked database schema

/-- Lets others migrate the schema. -/
def unlock (database schema : String) : Operation δ Unit :=
  Program.change (fun w => { w with locks := w.locks.erase (database, schema) })
    (.unlocked database schema)

/-- Releases databases one after the other; the first failure is the answer. -/
def releaseEach (b : Backend δ) : List String → Operation δ (Except Error Unit)
  | [] => return .ok ()
  | name :: names => do
    let first ← onService name (DatabaseService.release b.toProvisioner)
    let rest ← releaseEach b names
    match first with
    | .error e => return .error e
    | .ok () => return rest

/-- Releases every database of the build, in ascending order of their names. -/
def shutdown (b : Backend δ) : Operation δ (Except Error Unit) := do
  let names ← Program.look (fun w => w.services.map (·.1)) .counted
  releaseEach b names

/-- A step of a connection. -/
def outside {α : Type} (p : Program Migration.Event δ α) : Operation δ α :=
  p.zoom World.outside (fun d w => { w with outside := d }) .migration

/-- Migrates a schema with the scripts of a directory. If they cannot be read, the database
is not asked for anything. -/
def migrate (target : Migration.Target δ) (location : Path) (schema : String) :
    Operation δ (Except Error (List Migration.Applied)) := do
  match ← Program.look (fun w => Script.discover w.files location) (.searched location) with
  | .error e => return .error e
  | .ok scripts => outside (Migration.migrate target schema scripts)

end Build

end SchemaForge
