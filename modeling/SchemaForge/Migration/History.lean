import SchemaForge.Migration.Script

/-!
# The history of a schema

Each schema keeps a table of the scripts that were run on it. Before anything runs, the
scripts on disk are checked against it; what passes is the list of scripts still to run.

## Main definitions

* `HistoryEntry` : a row of the table.
* `History.pending` : the scripts still to run, if the history allows it.
* `History.nextRank` : the place of the next row.
-/

namespace SchemaForge

/-- A row of the history: a script that was run. -/
structure HistoryEntry where
  /-- The place in the order of installation. -/
  rank : Nat
  version : Version
  description : String
  fileName : String
  checksum : String
  milliseconds : Nat
  success : Bool
  deriving Repr, DecidableEq

namespace History

/-- The rank after all others. -/
def nextRank (history : List HistoryEntry) : Nat :=
  history.foldl (fun n h => max n h.rank) 0 + 1

/-- The greatest version of the history. -/
def latest? (history : List HistoryEntry) : Option Version :=
  history.foldl (fun v h =>
    match v with
    | none => some h.version
    | some w => some (if h.version.isBefore w then w else h.version)) none

/-- Whether a version is in the history. -/
def holds (history : List HistoryEntry) (v : Version) : Bool :=
  history.any (·.version == v)

/-- Refuses a history with a failed row. -/
def checkSuccess (history : List HistoryEntry) : Except Error Unit :=
  match history.find? (!·.success) with
  | none => .ok ()
  | some h =>
    .error (.migration none ("history contains failed migration " ++ h.version.toText ++ " (" ++
      h.fileName ++ "); repair the schema before migrating again"))

/-- Refuses a row whose script has changed. A row without a script on disk is fine. -/
def checkEntry (scripts : List Script) (h : HistoryEntry) : Except Error Unit :=
  match scripts.find? (·.version == h.version) with
  | none => .ok ()
  | some s =>
    if s.checksum == h.checksum then .ok ()
    else .error (.migration (some s.path) ("checksum mismatch for version " ++ h.version.toText ++
      ": applied " ++ h.checksum ++ ", resolved locally " ++ s.checksum))

/-- Refuses a first script that is older than the latest version of the history. -/
def checkOrder (history : List HistoryEntry) (pending : List Script) : Except Error Unit :=
  match latest? history, pending with
  | some latest, first :: _ =>
    if first.version.isBefore latest then
      .error (.migration (some first.path) ("version " ++ first.version.toText ++
        " is older than the latest applied version " ++ latest.toText))
    else .ok ()
  | _, _ => .ok ()

/-- The scripts whose versions are not in the history, in their order, if the history allows
that they run. -/
def pending (scripts : List Script) (history : List HistoryEntry) :
    Except Error (List Script) := do
  checkSuccess history
  history.forM (checkEntry scripts)
  let missing := scripts.filter fun s => !holds history s.version
  checkOrder history missing
  return missing

end History

end SchemaForge
