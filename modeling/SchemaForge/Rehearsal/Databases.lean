import SchemaForge.Build.World
import SchemaForge.Schema.Reader
import SchemaForge.Shell.Launch

/-!
# Rehearsing a build

A backend that needs neither databases nor processes: databases exist in memory and can be
told to fail, generators are shell scripts that run on the file tree. Every call to a
database is written down, so a rehearsal shows what a build would ask for and in which order.

## Main definitions

* `Rehearsal.Call` : a call to a database.
* `Rehearsal.Rules` : which calls fail, and how.
* `Rehearsal` : the databases in memory.
* `Rehearsal.backend` : the backend on them.
-/

namespace SchemaForge

namespace Rehearsal

/-- A call to a database. -/
inductive Call where
  | start
  | stop (url : String)
  | connect (url user : String)
  | prepare (schema : String)
  | applied (schema : String)
  | execute (schema fileName : String)
  | record (schema : String) (entry : HistoryEntry)
  | close
  deriving Repr, DecidableEq

/-- A call as a line of text. -/
def Call.text : Call → String
  | .start => "start"
  | .stop url => "stop " ++ url
  | .connect url user => "connect " ++ url ++ " as " ++ user
  | .prepare schema => "prepare " ++ schema
  | .applied schema => "applied " ++ schema
  | .execute schema fileName => "execute " ++ schema ++ " " ++ fileName
  | .record schema e =>
    "record " ++ schema ++ " " ++ toString e.rank ++ " " ++ e.version.toText ++ " " ++
      (if e.success then "true" else "false")
  | .close => "close"

/-- Which calls fail, and how. -/
structure Rules where
  start : Option Error := none
  stop : Option Error := none
  connect : Option Error := none
  prepare : Option Error := none
  applied : Option Error := none
  record : Option Error := none
  close : Option Error := none
  /-- A script fails by the first of these whose text occurs in it. -/
  execute : List (String × Error) := []

/-- The outcome of a call under a rule. -/
def outcome : Option Error → Except Error Unit
  | some e => .error e
  | none => .ok ()

end Rehearsal

/-- The databases of a rehearsal. -/
structure Rehearsal where
  /-- The handle of the database of each start. -/
  handleOf : Nat → DatabaseHandle
  rules : Rehearsal.Rules := {}
  starts : Nat := 0
  stops : Nat := 0
  /-- The history of each schema that has one. -/
  histories : List (String × List HistoryEntry) := []
  /-- The calls so far, in order. -/
  calls : List Rehearsal.Call := []

namespace Rehearsal

/-- Writes a call down. -/
def note (r : Rehearsal) (c : Call) : Rehearsal := { r with calls := r.calls ++ [c] }

/-- The history of a schema. -/
def history (r : Rehearsal) (schema : String) : List HistoryEntry :=
  match r.histories.find? (·.1 == schema) with
  | some h => h.2
  | none => []

/-- Replaces the history of a schema. -/
def setHistory (r : Rehearsal) (schema : String) (rows : List HistoryEntry) : Rehearsal :=
  { r with histories := (schema, rows) :: r.histories.filter (·.1 != schema) }

/-- Starts a database. -/
def start (r : Rehearsal) : Except Error Instance × Rehearsal :=
  let n := r.starts + 1
  let r := { r with starts := n }.note .start
  match r.rules.start with
  | some e => (.error e, r)
  | none => (.ok ⟨n, r.handleOf n⟩, r)

/-- Stops a database; it counts as stopped even if that fails. -/
def stop (i : Instance) (r : Rehearsal) : Except Error Unit × Rehearsal :=
  (outcome r.rules.stop, { r with stops := r.stops + 1 }.note (.stop i.handle.url))

/-- The failure of a script, if a rule wants one. -/
def scriptFault? (rules : Rules) (sql : String) : Option Error :=
  (rules.execute.find? fun rule => Text.occursIn rule.1.toList sql.toList).map (·.2)

/-- A connection to a database. A row whose recording fails is not kept. -/
def target : Migration.Target Rehearsal where
  prepare schema r := (outcome r.rules.prepare, r.note (.prepare schema))
  applied schema r :=
    ((outcome r.rules.applied).map fun _ => r.history schema, r.note (.applied schema))
  execute schema s r :=
    (⟨outcome (scriptFault? r.rules s.sql), 0⟩, r.note (.execute schema s.fileName))
  record schema entry r :=
    let noted := r.note (.record schema entry)
    match r.rules.record with
    | some e => (.error e, noted)
    | none => (.ok (), noted.setHistory schema (r.history schema ++ [entry]))
  close r := (outcome r.rules.close, r.note .close)

/-- Connects to a database. -/
def connect (handle : DatabaseHandle) (r : Rehearsal) :
    Except Error (Migration.Target Rehearsal) × Rehearsal :=
  ((outcome r.rules.connect).map fun _ => target, r.note (.connect handle.url handle.user))

/-- The number that the processes of a rehearsal have. -/
def processNumber : Nat := 4711

/-- The backend of a rehearsal. -/
def backend : Backend Rehearsal where
  start := start
  stop := stop
  connect := connect
  launch spec files _ := (Shell.locate files spec).map fun _ => ()
  finish spec files r :=
    let (output, files) := Shell.run files processNumber spec
    (output, files, r)
  validator := Schema.validator

end Rehearsal

end SchemaForge
