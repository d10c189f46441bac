import SchemaForge.Configuration.Basic
import SchemaForge.Error
import SchemaForge.Program

/-!
# A database shared by the tasks of a build

The first task that needs the database starts it; tasks that come while it starts wait, and
all of them get the same handle. A start that failed is remembered and not tried again. The
database is stopped once, by the first release; whoever comes after that is refused.

Each operation is a program, as tasks run side by side: between the look at the released
flag, the entry of the cell, the start, the storing of what runs and the publishing of the
handle, other tasks may take steps of their own.

## Main definitions

* `Provisioner` : starting and stopping a database.
* `DatabaseService` : the flag, the cell and what runs.
* `DatabaseService.acquire`, `DatabaseService.release` : the two operations.
-/

namespace SchemaForge

/-- A running database, told apart from others by its number. -/
structure Instance where
  number : Nat
  handle : DatabaseHandle
  deriving Repr, DecidableEq

/-- What starts and stops databases, on a state of its own. -/
structure Provisioner (δ : Type) where
  start : δ → Except Error Instance × δ
  stop : Instance → δ → Except Error Unit × δ

/-- What is known of the start of a database. -/
inductive Cell where
  | empty
  /-- Someone is starting it. -/
  | starting
  /-- The start has ended, with a handle or with the text of its failure. -/
  | settled (outcome : Except String DatabaseHandle)

/-- A database shared by the tasks of a build. -/
structure DatabaseService where
  name : String
  cell : Cell := .empty
  running : Option Instance := none
  released : Bool := false

namespace DatabaseService

/-- What a step of an operation announces. -/
inductive Event where
  | looked (released : Bool)
  /-- The cell was entered; whoever found it empty has to start the database. -/
  | entered (first : Bool)
  | started (outcome : Except Error Instance)
  | stored (running : Instance)
  | published (outcome : Except String DatabaseHandle)
  | swapped (before : Bool)
  | took (running : Option Instance)
  | stopped (running : Instance) (outcome : Except Error Unit)

/-- Whether a start has ended. -/
def isStarted (s : DatabaseService) : Bool :=
  match s.cell with
  | .settled _ => true
  | _ => false

/-- The refusal of a service that was released. -/
def releasedError (name : String) : Error :=
  .provisioning ("database service `" ++ name ++ "` has already been released")

/-- Enters the cell: the outcome of a start that has ended, or the duty to start. Waits
while someone else is starting. -/
def enter (s : DatabaseService) :
    Option (Option (Except String DatabaseHandle) × DatabaseService) :=
  match s.cell with
  | .empty => some (none, { s with cell := .starting })
  | .starting => none
  | .settled outcome => some (some outcome, s)

/-- What is kept of the outcome of a start. -/
def rendered : Except Error Instance → Except String DatabaseHandle
  | .ok running => .ok running.handle
  | .error e => .error e.message

/-- The answer that an outcome gives to whoever asked. -/
def answer : Except String DatabaseHandle → Except Error DatabaseHandle
  | .ok handle => .ok handle
  | .error text => .error (.provisioning text)

variable {δ : Type}

/-- A program on a service beside the state of its provisioner. -/
abbrev Operation (δ α : Type) := Program Event (DatabaseService × δ) α

/-- Starts the database, keeps what runs and publishes the outcome. -/
def start (p : Provisioner δ) : Operation δ (Except String DatabaseHandle) := do
  let started ← Program.perform
    (fun (s, d) => let r := p.start d; (r.1, (s, r.2))) Event.started
  match started with
  | .ok running =>
    Program.change (fun (s, d) => ({ s with running := some running }, d)) (Event.stored running)
  | .error _ => pure ()
  let outcome := rendered started
  Program.change (fun (s, d) => ({ s with cell := .settled outcome }, d)) (Event.published outcome)
  return outcome

/-- The handle of the database, which is started on first use. -/
def acquire (p : Provisioner δ) (name : String) : Operation δ (Except Error DatabaseHandle) := do
  let released ← Program.look (fun (s, _) => s.released) Event.looked
  if released then
    return .error (releasedError name)
  else
    let found ← Program.await (fun (s, d) => s.enter.map fun r => (r.1, (r.2, d)))
      fun found => Event.entered found.isNone
    match found with
    | some outcome => return answer outcome
    | none => return answer (← start p)

/-- Stops the database. Only the first call has an effect. -/
def release (p : Provisioner δ) : Operation δ (Except Error Unit) := do
  let before ← Program.perform (fun (s, d) => (s.released, ({ s with released := true }, d)))
    Event.swapped
  if before then
    return .ok ()
  else
    let running ← Program.perform (fun (s, d) => (s.running, ({ s with running := none }, d)))
      Event.took
    match running with
    | none => return .ok ()
    | some running =>
      Program.perform (fun (s, d) => let r := p.stop running d; (r.1, (s, r.2)))
        (Event.stopped running)

end DatabaseService

end SchemaForge
