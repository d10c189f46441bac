import SchemaForge.Datum.Basic
import SchemaForge.Json.Reader

/-!
# Addresses of settings

A setting inside others is addressed by the names of those that it is in, with dots between
them, and by its position within a list: `generator.args[0]`. Setting it makes a way to it.

## Main definitions

* `Settings.Address` : a way to a setting; `Settings.Address.parse?` reads one.
* `Settings.Address.change` : the effect of a change at an address.
-/

namespace SchemaForge.Settings

/-- A step on the way to a setting. -/
inductive Step where
  | name (s : String)
  /-- A position in a list; a negative one counts from the end. -/
  | index (n : Int)
  deriving Repr, DecidableEq

/-- The steps on the way to a setting. -/
abbrev Address := List Step

namespace Address

/-- The address that is one name, whatever characters are in it. -/
def ofName (name : String) : Address := [.name name]

/-- A name without quotes at the front of a text. -/
def readName (cs : List Char) : Option (Step × List Char) :=
  match cs.takeWhile Names.isBare with
  | [] => none
  | name => some (.name (String.ofList name), cs.drop name.length)

/-- Whether a character is a blank within brackets. -/
def isSpace (c : Char) : Bool := c == ' ' || c == '\t'

/-- A position, up to its closing bracket. -/
def readIndex (cs : List Char) : Option (Step × List Char) :=
  let (negative, cs) :=
    match cs.dropWhile isSpace with
    | '-' :: cs => (true, cs)
    | cs => (false, cs)
  match Json.spanDigits cs with
  | ([], _) => none
  | (ds, rest) =>
    let n : Int := Json.decimalValue ds
    let n := if negative then -n else n
    match rest.dropWhile isSpace with
    | ']' :: rest => if Width.fitsSigned 64 n then some (.index n, rest) else none
    | _ => none

/-- The steps after the first one. -/
def readSteps : Nat → List Char → Option Address
  | 0, _ => none
  | _ + 1, [] => some []
  | fuel + 1, '.' :: cs => do
    let (step, rest) ← readName cs
    return step :: (← readSteps fuel rest)
  | fuel + 1, '[' :: cs => do
    let (step, rest) ← readIndex cs
    return step :: (← readSteps fuel rest)
  | _ + 1, _ => none

/-- The address that a text is. -/
def parse? (s : String) : Option Address := do
  let (step, rest) ← readName s.toList
  return step :: (← readSteps (rest.length + 1) rest)

/-- The members of a table; all else has none. -/
def membersOf : Datum → List (String × Datum)
  | .table members => members
  | _ => []

/-- The items of a list; all else has none. -/
def itemsOf : Datum → List Datum
  | .list items => items
  | _ => []

/-- Changes the item at a position, up to which the list is filled with nothing. -/
def changeItem (change : Datum → Datum) (n : Int) (items : List Datum) : List Datum :=
  if 0 ≤ n then
    let padded := items ++ List.replicate (n.toNat + 1 - items.length) .nothing
    padded.modify n.toNat change
  else
    let padded := List.replicate (n.natAbs - items.length) .nothing ++ items
    padded.modify (padded.length - n.natAbs) change

/-- Changes the setting at an address. What stands in the way is replaced by a table or a
list. -/
def change (f : Datum → Datum) : Address → Datum → Datum
  | [], d => f d
  | .name s :: steps, d =>
    let members := membersOf d
    .table (Names.insert (s, change f steps ((Names.find? s members).getD .nothing)) members)
  | .index n :: steps, d => .list (changeItem (change f steps) n (itemsOf d))

end Address

end SchemaForge.Settings
