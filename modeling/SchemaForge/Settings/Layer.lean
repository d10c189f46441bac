import SchemaForge.Decimal.Numeral
import SchemaForge.Settings.Address
import SchemaForge.Text.Lowercase

/-!
# Layers of settings

Settings come in layers, each of which stands above those before it. Tables are laid over
one another member by member; anything else replaces what was there.

## Main definitions

* `Settings.overlay` : one piece of data laid over another.
* `Settings.Layer`, `Settings.Layer.apply` : a layer, and the settings once it is on top.
* `Settings.Layer.ofVariables` : the layer of the environment variables.
-/

namespace SchemaForge.Settings

mutual

/-- Lays one piece of data over another. -/
def overlay : Datum → Datum → Datum
  | .table members, d => .table (overlayMembers members (Address.membersOf d))
  | top, _ => top

/-- Lays members over others. -/
def overlayMembers : List (String × Datum) → List (String × Datum) → List (String × Datum)
  | [], below => below
  | (name, d) :: rest, below =>
    overlayMembers rest
      (Names.insert (name, overlay d ((Names.find? name below).getD .nothing)) below)

end

/-- Settings by their addresses. -/
abbrev Layer := List (String × Datum)

namespace Layer

/-- The address that a text is; a text that is none is a name. -/
def addressOf (s : String) : Address := (Address.parse? s).getD (.ofName s)

/-- Lays a layer over settings. -/
def apply (layer : Layer) (settings : Datum) : Datum :=
  layer.foldl (fun d m => (addressOf m.1).change (overlay m.2) d) settings

/-! ### Environment variables -/

/-- How the names of the variables that are settings begin, in lower case. -/
def variableMark : String := "schemagen__"

/-- Two underscores stand for the dot of an address. -/
def withDots : List Char → List Char
  | '_' :: '_' :: rest => '.' :: withDots rest
  | c :: rest => c :: withDots rest
  | [] => []

/-- The address that the name of a variable stands for, in any case of letters. -/
def addressOfVariable? (name : String) : Option String :=
  let lower := (Text.lowercase name).toList
  let mark := variableMark.toList
  if mark.isPrefixOf lower then some (String.ofList (withDots (lower.drop mark.length)))
  else none

/-- What the text of a variable means: a flag, a number, or a text. -/
def valueOf (s : String) : Datum :=
  let lower := Text.lowercase s
  if lower == "true" then .flag true
  else if lower == "false" then .flag false
  else
    match Decimal.wholeOf? s, Decimal.realOf? s with
    | some n, _ => .whole n
    | none, some x => .real x
    | none, none => .text s

/-- The layer of variables. -/
def ofVariables (environment : List (String × String)) : Layer :=
  environment.foldl (fun layer v =>
    match addressOfVariable? v.1 with
    | some address => Names.insert (address, valueOf v.2) layer
    | none => layer) []

end Layer

end SchemaForge.Settings
