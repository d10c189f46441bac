import SchemaForge.Datum.Basic
import SchemaForge.Toml.Moment

/-!
# TOML documents as trees

A document defines its tables piece by piece: by headers, by dotted keys and in braces. A
tree therefore keeps of each table how it was defined, which decides what may still be added
to it.

## Main definitions

* `Toml.Node` : a part of a document; `Toml.Origin` says how a table was defined.
* `Toml.assign` : the effect of a key with a value on a table.
* `Toml.openTable`, `Toml.openItem` : the effect of a header on a document.
* `Toml.Node.toDatum` : a part as untyped data.
-/

namespace SchemaForge.Toml

/-- A value without parts. -/
inductive Scalar where
  | text (s : String)
  | whole (n : Int)
  | real (x : Binary64)
  | flag (b : Bool)
  | moment (m : Moment)
  deriving Repr

/-- How a table was defined. -/
inductive Origin where
  /-- By the header of a table inside it; its own header may still follow. -/
  | implied
  /-- By a dotted key; more dotted keys may add to it. -/
  | dotted
  /-- By its own header. -/
  | declared
  /-- In braces; nothing may be added. -/
  | inline
  deriving Repr, DecidableEq

/-- A part of a document. -/
inductive Node where
  | scalar (v : Scalar)
  | list (items : List Node)
  | table (origin : Origin) (entries : List (String × Node))
  /-- Tables under one repeated header, the last one first. -/
  | tables (last : List (String × Node)) (earlier : List (List (String × Node)))
  deriving Repr

/-- The entries of a table. -/
abbrev Entries := List (String × Node)

/-- A key: the names of the tables that lead to it, and its own name. -/
structure Key where
  tables : List String
  name : String
  deriving Repr, DecidableEq

/-- Puts another node in the place of an entry. -/
def replace (name : String) (node : Node) (entries : Entries) : Entries :=
  entries.map fun e => if e.1 == name then (name, node) else e

/-- Adds an entry, whose name must be new. -/
def add? (name : String) (node : Node) (entries : Entries) : Option Entries :=
  if (Names.find? name entries).isSome then none else some (entries ++ [(name, node)])

/-- Adds the value of a key to a table. The tables on the way are created by the key, or were
created by others like it; a table on the way that is only implied by headers, or the last
one under a repeated header, may lead to such a table, but not receive the value. -/
def assign (name : String) (value : Node) : List String → Entries → Option Entries
  | [], entries => add? name value entries
  | t :: ts, entries =>
    match Names.find? t entries with
    | none => do
      return entries ++ [(t, .table .dotted (← assign name value ts []))]
    | some (.table .dotted inner) => do
      return replace t (.table .dotted (← assign name value ts inner)) entries
    | some (.table .implied inner) =>
      if ts.isEmpty then none
      else do
        return replace t (.table .implied (← assign name value ts inner)) entries
    | some (.tables last earlier) =>
      if ts.isEmpty then none
      else do
        return replace t (.tables (← assign name value ts last) earlier) entries
    | some _ => none

/-- Changes the table to which names in a header lead. Tables on the way are created; of
tables under a repeated header the last one is meant. -/
def within (change : Entries → Option Entries) : List String → Entries → Option Entries
  | [], entries => change entries
  | t :: ts, entries =>
    match Names.find? t entries with
    | none => do return entries ++ [(t, .table .implied (← within change ts []))]
    | some (.table .inline _) => none
    | some (.table origin inner) => do
      return replace t (.table origin (← within change ts inner)) entries
    | some (.tables last earlier) => do
      return replace t (.tables (← within change ts last) earlier) entries
    | some _ => none

/-- Declares the table of a header, which may so far be implied at most. -/
def openTable (key : Key) : Entries → Option Entries :=
  within (fun entries =>
    match Names.find? key.name entries with
    | none => some (entries ++ [(key.name, .table .declared [])])
    | some (.table .implied inner) =>
      some (replace key.name (.table .declared inner) entries)
    | some _ => none) key.tables

/-- Begins the next table under a repeated header. -/
def openItem (key : Key) : Entries → Option Entries :=
  within (fun entries =>
    match Names.find? key.name entries with
    | none => some (entries ++ [(key.name, .tables [] [])])
    | some (.tables last earlier) =>
      some (replace key.name (.tables [] (last :: earlier)) entries)
    | some _ => none) key.tables

namespace Node

mutual

/-- A part of a document as data; `moment` says what becomes of dates and times. -/
def toDatum (moment : Moment → Datum) : Node → Datum
  | .scalar (.text s) => .text s
  | .scalar (.whole n) => .whole n
  | .scalar (.real x) => .real x
  | .scalar (.flag b) => .flag b
  | .scalar (.moment m) => moment m
  | .list items => .list (itemsToData moment items)
  | .table _ entries => .table (entriesToData moment [] entries)
  | .tables last earlier =>
    .list (tablesToData moment earlier [.table (entriesToData moment [] last)])

/-- The items of a list as data. -/
def itemsToData (moment : Moment → Datum) : List Node → List Datum
  | [] => []
  | n :: ns => n.toDatum moment :: itemsToData moment ns

/-- Entries as data, put into a sorted list. -/
def entriesToData (moment : Moment → Datum) (acc : List (String × Datum)) :
    List (String × Node) → List (String × Datum)
  | [] => acc
  | (k, n) :: es => entriesToData moment (Names.insert (k, n.toDatum moment) acc) es

/-- Tables, the last one first, as data in front of others. -/
def tablesToData (moment : Moment → Datum) :
    List (List (String × Node)) → List Datum → List Datum
  | [], after => after
  | t :: ts, after => tablesToData moment ts (.table (entriesToData moment [] t) :: after)

end

end Node

end SchemaForge.Toml
