import SchemaForge.Decimal.Binary64
import SchemaForge.Decimal.Width
import SchemaForge.Names

/-!
# JSON values

## Main definitions

* `Json` : a JSON value; an object keeps its members in order.
* `Json.member?` : the value under a name.
* `Json.sorted` : the same value with the members of every object in ascending order of
  their names.
-/

namespace SchemaForge

/-- A JSON number: whole numbers are kept exactly, all others as floating point. -/
inductive Json.Number where
  | whole (n : Int)
  | real (x : Binary64)
  deriving Repr, DecidableEq

/-- A JSON value. The members of an object are in the order in which they were given. -/
inductive Json where
  | null
  | bool (b : Bool)
  | number (n : Json.Number)
  | string (s : String)
  | array (items : List Json)
  | object (members : List (String × Json))
  deriving Repr

namespace Json

instance : Inhabited Json := ⟨.null⟩

mutual

/-- Whether two values are the same, members in the same order. -/
def same : Json → Json → Bool
  | .null, .null => true
  | .bool a, .bool b => a == b
  | .number a, .number b => a == b
  | .string a, .string b => a == b
  | .array a, .array b => sameItems a b
  | .object a, .object b => sameMembers a b
  | _, _ => false

/-- Whether two lists of values are the same. -/
def sameItems : List Json → List Json → Bool
  | [], [] => true
  | a :: as, b :: bs => same a b && sameItems as bs
  | _, _ => false

/-- Whether two lists of members are the same. -/
def sameMembers : List (String × Json) → List (String × Json) → Bool
  | [], [] => true
  | (j, a) :: as, (k, b) :: bs => j == k && same a b && sameMembers as bs
  | _, _ => false

end

instance : BEq Json := ⟨same⟩

/-- The value under a name; of several, the last one counts. -/
def member? (name : String) : Json → Option Json
  | .object members => (members.reverse.find? (·.1 == name)).map (·.2)
  | _ => none

mutual

/-- The same value with the members of every object in ascending order of their names; of
several members of one name the last one stays. -/
def sorted : Json → Json
  | .array items => .array (sortedItems items)
  | .object members => .object (sortedMembers [] members)
  | j => j

/-- Sorts each of the values. -/
def sortedItems : List Json → List Json
  | [] => []
  | j :: js => sorted j :: sortedItems js

/-- Inserts members, themselves sorted, into a sorted list. -/
def sortedMembers (acc : List (String × Json)) : List (String × Json) → List (String × Json)
  | [] => acc
  | (k, v) :: ms => sortedMembers (Names.insert (k, sorted v) acc) ms

end

mutual

/-- How many arrays and objects lie within one another at most. -/
def depth : Json → Nat
  | .array items => depthOfItems items + 1
  | .object members => depthOfMembers members + 1
  | _ => 0

/-- The greatest depth of a list of values. -/
def depthOfItems : List Json → Nat
  | [] => 0
  | j :: js => max j.depth (depthOfItems js)

/-- The greatest depth of a list of members. -/
def depthOfMembers : List (String × Json) → Nat
  | [] => 0
  | (_, j) :: ms => max j.depth (depthOfMembers ms)

end

/-- A member that is present when its value is. -/
def field? (name : String) (value : Option Json) : List (String × Json) :=
  match value with
  | some v => [(name, v)]
  | none => []

/-- A text, or null in its absence. -/
def ofString? : Option String → Json
  | some s => .string s
  | none => .null

/-- A whole number. -/
def ofInt (n : Int) : Json := .number (.whole n)

/-- A natural number. -/
def ofNat (n : Nat) : Json := .number (.whole n)

/-- A list of texts. -/
def ofStrings (ss : List String) : Json := .array (ss.map .string)

end Json

end SchemaForge
