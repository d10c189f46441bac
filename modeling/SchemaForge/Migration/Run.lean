import SchemaForge.Migration.History
import SchemaForge.Program

/-!
# Migrating a schema

The scripts that are still to run are executed in ascending order, and each is recorded in
the history with its success. The first that fails ends the migration; nothing is undone.

## Main definitions

* `Migration.Target` : the database that scripts are run on.
* `Migration.runPending` : executing and recording a list of scripts.
* `Migration.migrate` : the whole migration of a schema with given scripts.
-/

namespace SchemaForge

namespace Migration

/-- What came of a script and how long it took. -/
structure Execution where
  outcome : Except Error Unit
  milliseconds : Nat

/-- An open connection to the database that scripts are run on, on a state `δ`. Every
operation names the schema that it is about. -/
structure Target (δ : Type) where
  /-- Creates the schema and its history where they are missing. -/
  prepare : String → δ → Except Error Unit × δ
  /-- The rows of the history. -/
  applied : String → δ → Except Error (List HistoryEntry) × δ
  /-- Runs a script. -/
  execute : String → Script → δ → Execution × δ
  /-- Adds a row to the history. -/
  record : String → HistoryEntry → δ → Except Error Unit × δ
  /-- Ends the connection. -/
  close : δ → Except Error Unit × δ

/-- What a step of a migration announces. -/
inductive Event where
  | prepared (schema : String) (outcome : Except Error Unit)
  | listed (schema : String) (outcome : Except Error (List HistoryEntry))
  | executed (schema : String) (script : Script) (outcome : Except Error Unit)
  | recorded (schema : String) (entry : HistoryEntry) (outcome : Except Error Unit)

/-- A script that one migration has run. -/
structure Applied where
  path : Path
  version : Version
  deriving Repr, DecidableEq

/-- The row that records a script. -/
def entryOf (rank : Nat) (s : Script) (e : Execution) : HistoryEntry where
  rank
  version := s.version
  description := s.description
  fileName := s.fileName
  checksum := s.checksum
  milliseconds := e.milliseconds
  success := e.outcome.isOk

/-- The failure of a script: an error of the database, with the script's path. What a
migration error says of another script is kept. -/
def onScript (path : Path) : Error → Error
  | .migration _ reason => .migration (some path) reason
  | .duplicateVersion version _ other =>
    .migration (some path) (Error.duplicateReason version other)
  | e => .migration (some path) e.message

variable {δ : Type}

/-- Executes and records scripts one after the other, up to the first that fails. -/
def runPending (target : Target δ) (schema : String) :
    Nat → List Script → Program Event δ (Except Error (List Applied))
  | _, [] => return .ok []
  | rank, s :: ss => do
    let execution ← Program.perform (target.execute schema s)
      fun e => Event.executed schema s e.outcome
    let entry := entryOf rank s execution
    let recorded ← Program.perform (target.record schema entry) (Event.recorded schema entry)
    match execution.outcome, recorded with
    | .error e, _ => return .error (onScript s.path e)
    | .ok (), .error e => return .error e
    | .ok (), .ok () =>
      match ← runPending target schema (rank + 1) ss with
      | .error e => return .error e
      | .ok rest => return .ok (⟨s.path, s.version⟩ :: rest)

/-- Migrates a schema with the scripts of a directory, in ascending order of their versions.
The answer lists what this migration has run. -/
def migrate (target : Target δ) (schema : String) (scripts : List Script) :
    Program Event δ (Except Error (List Applied)) := do
  match ← Program.perform (target.prepare schema) (Event.prepared schema) with
  | .error e => return .error e
  | .ok () =>
    match ← Program.perform (target.applied schema) (Event.listed schema) with
    | .error e => return .error e
    | .ok history =>
      match History.pending scripts history with
      | .error e => return .error e
      | .ok pending => runPending target schema (History.nextRank history) pending

end Migration

end SchemaForge
