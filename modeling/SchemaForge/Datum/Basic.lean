import SchemaForge.Json.Basic

/-!
# Untyped data

What a configuration is before it has a type: the common shape of JSON values, TOML
documents and environment variables.

## Main definitions

* `Datum` : a piece of untyped data.
* `Datum.ofJson` : a JSON value as data, the members of its objects sorted.
-/

namespace SchemaForge

/-- A piece of untyped data. The members of a table are in ascending order of their names,
each name once. -/
inductive Datum where
  | nothing
  | flag (b : Bool)
  | whole (n : Int)
  | real (x : Binary64)
  | text (s : String)
  | list (items : List Datum)
  | table (members : List (String × Datum))
  deriving Repr

namespace Datum

instance : Inhabited Datum := ⟨.nothing⟩

/-- A number as data. -/
def ofNumber : Json.Number → Datum
  | .whole n => .whole n
  | .real x => .real x

mutual

/-- A JSON value as data. -/
def ofJson : Json → Datum
  | .null => .nothing
  | .bool b => .flag b
  | .number n => ofNumber n
  | .string s => .text s
  | .array items => .list (ofJsonItems items)
  | .object members => .table (ofJsonMembers [] members)

/-- The items of an array as data. -/
def ofJsonItems : List Json → List Datum
  | [] => []
  | j :: js => ofJson j :: ofJsonItems js

/-- The members of an object, put into a sorted list. -/
def ofJsonMembers (acc : List (String × Datum)) : List (String × Json) → List (String × Datum)
  | [] => acc
  | (k, v) :: ms => ofJsonMembers (Names.insert (k, ofJson v) acc) ms

end

mutual

/-- Whether 64 bits hold every whole number. -/
def isNarrow : Datum → Bool
  | .whole n => Width.fitsSigned 64 n
  | .list items => areNarrow items
  | .table members => membersAreNarrow members
  | _ => true

/-- Whether 64 bits hold every whole number in a list. -/
def areNarrow : List Datum → Bool
  | [] => true
  | d :: ds => d.isNarrow && areNarrow ds

/-- Whether 64 bits hold every whole number in a table. -/
def membersAreNarrow : List (String × Datum) → Bool
  | [] => true
  | (_, d) :: ms => d.isNarrow && membersAreNarrow ms

end

/-- How a message names the kind of a piece of data. -/
def described : Datum → String
  | .nothing => "null"
  | .flag b => "boolean `" ++ (if b then "true" else "false") ++ "`"
  | .whole n => "integer `" ++ toString n ++ "`"
  | .real x => "floating point `" ++ x.withPoint ++ "`"
  | .text _ => "string"
  | .list _ => "sequence"
  | .table _ => "map"

end Datum

end SchemaForge
