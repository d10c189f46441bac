import SchemaForge.Datum.Basic
import SchemaForge.Text.Quoted

/-!
# Giving data a type

Reading typed values out of untyped data. What counts as a text or a flag differs between
the formats that data comes from, so it is a parameter, the `Dialect`; how records, lists
and choices are read is the same for all.

A record is read from a table, its members in ascending order of their names, or from a list
that gives its fields in the order of declaration. The first problem found is reported.

## Main definitions

* `Mismatch`, `Mismatch.message` : why data does not fit a type.
* `Dialect` : what scalars and choices look like in a format; `Dialect.json`,
  `Dialect.strict` and `Dialect.lenient` are the three in use.
* `Record` : a record type by its fields; `Record.decode` reads one.
-/

namespace SchemaForge

/-- Why data does not fit a type. -/
inductive Mismatch where
  | wrongType (got : Datum) (want : String)
  | wrongValue (got : Datum) (want : String)
  | wrongLength (length : Nat) (want : String)
  | unknownField (name : String) (known : List String)
  | missingField (name : String)
  | unknownVariant (name : String) (known : List String)
  deriving Repr

namespace Mismatch

/-- The names among which one was to be chosen. -/
def choice (known : List String) : String :=
  let marked := known.map fun k => "`" ++ k ++ "`"
  match marked with
  | [a] => a
  | [a, b] => a ++ " or " ++ b
  | _ => "one of " ++ ", ".intercalate marked

/-- How a message shows the data that does not fit. -/
def shown : Datum → String
  | .text s => "string " ++ Text.quoted s
  | d => d.described

/-- The text of a mismatch. -/
def message : Mismatch → String
  | .wrongType got want => "invalid type: " ++ shown got ++ ", expected " ++ want
  | .wrongValue got want => "invalid value: " ++ shown got ++ ", expected " ++ want
  | .wrongLength n want => "invalid length " ++ toString n ++ ", expected " ++ want
  | .unknownField name known =>
    "unknown field `" ++ name ++ "`, expected " ++ choice known
  | .missingField name => "missing field `" ++ name ++ "`"
  | .unknownVariant name known =>
    "unknown variant `" ++ name ++ "`, expected " ++ choice known

end Mismatch

/-- What data of a type is read to. -/
abbrev Decoded := Except Mismatch

/-- What scalars and choices look like in a format. -/
structure Dialect where
  /-- Reads a text where the kind named `want` is asked for. -/
  text (want : String) : Datum → Decoded String
  /-- Reads a flag. -/
  flag : Datum → Decoded Bool
  /-- Checks what stands beside the name of a choice that holds nothing. -/
  unit : Datum → Decoded Unit
  /-- Whether a list for a record may hold items past its fields, which are passed over. -/
  passesOver : Bool

namespace Dialect

/-- Reads texts from texts alone. -/
def exactText (want : String) : Datum → Decoded String
  | .text s => .ok s
  | d => .error (.wrongType d want)

/-- Reads flags from flags alone. -/
def exactFlag : Datum → Decoded Bool
  | .flag b => .ok b
  | d => .error (.wrongType d "a boolean")

/-- JSON: nothing is converted. -/
def json : Dialect where
  text := exactText
  flag := exactFlag
  unit
    | .nothing => .ok ()
    | d => .error (.wrongType d "unit")
  passesOver := false

/-- TOML: nothing is converted. -/
def strict : Dialect where
  text := exactText
  flag := exactFlag
  unit
    | .list [] => .ok ()
    | .table [] => .ok ()
    | d => .error (.wrongType d "table")
  passesOver := true

/-- The text of a scalar. -/
def scalarText (want : String) : Datum → Decoded String
  | .text s => .ok s
  | .flag b => .ok (if b then "true" else "false")
  | .whole n => .ok (toString n)
  | .real x => .ok x.positional
  | d => .error (.wrongType d want)

/-- The flag that a scalar means: numbers other than zero, and four words either way. -/
def scalarFlag : Datum → Decoded Bool
  | .flag b => .ok b
  | .whole n => .ok (n != 0)
  | .real x => .ok x.isNonzero
  | .text s =>
    let word := s.toLower
    if ["1", "true", "on", "yes"].contains word then .ok true
    else if ["0", "false", "off", "no"].contains word then .ok false
    else .error (.wrongType (.text s) "a boolean")
  | d => .error (.wrongType d "a boolean")

/-- Layered settings: scalars convert into one another. -/
def lenient : Dialect where
  text := scalarText
  flag := scalarFlag
  unit _ := .ok ()
  passesOver := true

end Dialect

namespace Decoded

/-- An optional value: nothing is its absence. -/
def optional {α : Type} (read : Datum → Decoded α) : Datum → Decoded (Option α)
  | .nothing => .ok none
  | d => (read d).map some

/-- A list. -/
def list {α : Type} (read : Datum → Decoded α) : Datum → Decoded (List α)
  | .list items => items.mapM read
  | d => .error (.wrongType d "a sequence")

/-- A table with free names. -/
def mapping {α : Type} (read : Datum → Decoded α) : Datum → Decoded (List (String × α))
  | .table members => members.mapM fun m => (read m.2).map fun v => (m.1, v)
  | d => .error (.wrongType d "a map")

/-- One of several named choices that hold nothing: its name, or a table with its name as the
only member. -/
def choice {α : Type} (dialect : Dialect) (choices : List (String × α)) :
    Datum → Decoded α := fun d =>
  let pick (name : String) : Decoded α :=
    match choices.find? (·.1 == name) with
    | some c => .ok c.2
    | none => .error (.unknownVariant name (choices.map (·.1)))
  match d with
  | .text name => pick name
  | .table [(name, inner)] => do
    let value ← pick name
    dialect.unit inner
    return value
  | .table _ => .error (.wrongValue d "map with a single key")
  | d => .error (.wrongType d "string or map")

end Decoded

/-- A field of a record: its name and how data sets it. -/
structure Field (α : Type) where
  name : String
  set : Datum → α → Decoded α

/-- A field that a reader and an update describe. -/
def Field.of {α β : Type} (name : String) (read : Datum → Decoded β) (update : β → α → α) :
    Field α :=
  ⟨name, fun d a => (read d).map fun b => update b a⟩

/-- A record type by its fields in the order of declaration. -/
structure Record (α : Type) where
  name : String
  fields : List (Field α)
  /-- The record before any field is set. -/
  initial : α
  /-- Whether members that are no fields are passed over. -/
  isOpen : Bool := false

namespace Record

variable {α : Type}

/-- Sets the field of a member's name. -/
def setMember (r : Record α) (a : α) (m : String × Datum) : Decoded α :=
  match r.fields.find? (·.name == m.1) with
  | some f => f.set m.2 a
  | none => if r.isOpen then .ok a else .error (.unknownField m.1 (r.fields.map (·.name)))

/-- Sets fields in the order of declaration. -/
def setInOrder : List (Field α) → List Datum → α → Decoded α
  | f :: fs, d :: ds, a => (f.set d a).bind (setInOrder fs ds)
  | _, _, a => .ok a

/-- Reads a record. -/
def decode (r : Record α) (dialect : Dialect) : Datum → Decoded α
  | .table members => members.foldlM r.setMember r.initial
  | .list items => do
    let a ← setInOrder r.fields items r.initial
    if items.length ≤ r.fields.length || dialect.passesOver then return a
    else .error (.wrongLength items.length "fewer elements in array")
  | d => .error (.wrongType d ("struct " ++ r.name))

end Record

end SchemaForge
