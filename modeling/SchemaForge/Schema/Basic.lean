import SchemaForge.Json.Writer
import SchemaForge.Pattern.Basic

/-!
# Schemas of documents

What a JSON document must look like before a generator is given it. A schema is a constraint
together with named constraints that it may refer to, also to itself through them.

## Main definitions

* `Constraint`, `Schema` : what is asked of a value; a constraint with those it refers to.
* `Violation`, `Violation.message` : where a value falls short, and the words for it.
* `Schema.violations` : all violations of a document.
* `Schema.accepts` : a document without any.
-/

namespace SchemaForge

/-- The kinds of JSON values that a schema tells apart. A whole number is of two kinds. -/
inductive Kind where
  | array | boolean | integer | null | number | object | string
  deriving Repr, DecidableEq

namespace Kind

/-- All kinds by their names. -/
def all : List Kind := [array, boolean, integer, null, number, object, string]

/-- The name of a kind. -/
def name : Kind → String
  | array => "array"
  | boolean => "boolean"
  | integer => "integer"
  | null => "null"
  | number => "number"
  | object => "object"
  | string => "string"

/-- Whether a value is of the kind. -/
def covers : Kind → Json → Bool
  | array, .array _ => true
  | boolean, .bool _ => true
  | integer, .number (.whole _) => true
  | null, .null => true
  | number, .number _ => true
  | object, .object _ => true
  | string, .string _ => true
  | _, _ => false

end Kind

/-- What is asked of a value. A constraint on one kind of value says nothing about values of
other kinds. -/
inductive Constraint where
  /-- No value will do. -/
  | nothing
  | all (parts : List Constraint)
  | kinds (ks : List Kind)
  /-- An object has a member of each of the names. -/
  | required (names : List String)
  /-- An object has no members. -/
  | memberless
  /-- Members of an object by their names, and all others. -/
  | members (named : List (String × Constraint)) (others : Constraint)
  /-- Every item of an array. -/
  | items (each : Constraint)
  /-- An array has at least so many items. -/
  | fewest (count : Nat)
  | constant (value : Json)
  | listed (values : List Json)
  /-- A text has at least so many characters. -/
  | shortest (count : Nat)
  /-- A text has at most so many characters. -/
  | longest (count : Nat)
  /-- A text holds a match of a pattern. -/
  | matching (text : String) (pattern : Pattern)
  | anyOf (alternatives : List Constraint)
  /-- The constraint of a name. -/
  | reference (name : String)
  deriving Repr

/-- Where a value falls short of a constraint. -/
inductive Violation where
  | forbidden (value : Json)
  | wrongKind (value : Json) (ks : List Kind)
  | missing (name : String)
  | unexpected (names : List String)
  | tooFew (value : Json) (count : Nat)
  | differs (wanted : Json)
  | unlisted (value : Json) (values : List Json)
  | tooShort (value : Json) (count : Nat)
  | tooLong (value : Json) (count : Nat)
  | unmatched (value : Json) (text : String)
  | noAlternative (value : Json)
  deriving Repr

namespace Violation

/-- A value in a message. -/
def shown (j : Json) : String := j.compact

/-- So many of a thing. -/
def counted (n : Nat) (one many : String) : String :=
  toString n ++ " " ++ (if n == 1 then one else many)

/-- The texts of all choices, the last two with `or` between them. Of more than three the
first two are shown and the others counted. -/
def choices : List String → String
  | [] => ""
  | [a] => a
  | [a, b] => a ++ " or " ++ b
  | [a, b, c] => a ++ ", " ++ b ++ " or " ++ c
  | a :: b :: rest => a ++ ", " ++ b ++ " or " ++ toString rest.length ++ " other candidates"

/-- The text of a violation. -/
def message : Violation → String
  | forbidden v => "False schema does not allow " ++ shown v
  | wrongKind v [k] => shown v ++ " is not of type \"" ++ k.name ++ "\""
  | wrongKind v ks =>
    shown v ++ " is not of types " ++ ", ".intercalate (ks.map fun k => "\"" ++ k.name ++ "\"")
  | missing name => String.ofList (Json.writeString name) ++ " is a required property"
  | unexpected names =>
    "Additional properties are not allowed (" ++
      ", ".intercalate (names.map fun n => "'" ++ n ++ "'") ++
      (if names.length == 1 then " was unexpected)" else " were unexpected)")
  | tooFew v n => shown v ++ " has less than " ++ counted n "item" "items"
  | differs wanted => shown wanted ++ " was expected"
  | unlisted v values => shown v ++ " is not one of " ++ choices (values.map shown)
  | tooShort v n => shown v ++ " is shorter than " ++ counted n "character" "characters"
  | tooLong v n => shown v ++ " is longer than " ++ counted n "character" "characters"
  | unmatched v text => shown v ++ " does not match \"" ++ text ++ "\""
  | noAlternative v =>
    shown v ++ " is not valid under any of the schemas listed in the 'anyOf' keyword"

end Violation

/-- A constraint with the constraints that its references name. -/
structure Schema where
  root : Constraint
  definitions : List (String × Constraint)
  deriving Repr

namespace Constraint

/-- The constraint that holds for every value. -/
def anything : Constraint := all []

/-- The violation that stands for a member that no constraint names: under `nothing` all
such members are reported at once. -/
def unexpected (named : List (String × Constraint)) (members : List (String × Json)) :
    List String :=
  (members.filter fun m => !named.any (·.1 == m.1)).map (·.1)

/-- The violations of a value. The fuel bounds how deep constraints lead, through parts of
the value and through references. -/
def violations (definitions : List (String × Constraint)) :
    Nat → Constraint → Json → List Violation
  | 0, _, _ => []
  | fuel + 1, c, v =>
    match c, v with
    | nothing, v => [.forbidden v]
    | all parts, v => parts.flatMap fun p => violations definitions fuel p v
    | kinds ks, v => if ks.any (·.covers v) then [] else [.wrongKind v ks]
    | required names, .object ms =>
      (names.filter fun n => !ms.any (·.1 == n)).map .missing
    | memberless, .object ms => (ms.head?.map fun m => .forbidden m.2).toList
    | members named others, .object ms =>
      let inner := ms.flatMap fun m =>
        match named.find? (·.1 == m.1) with
        | some n => violations definitions fuel n.2 m.2
        | none =>
          match others with
          | nothing => []
          | _ => violations definitions fuel others m.2
      match others, unexpected named ms with
      | nothing, n :: ns => inner ++ [.unexpected (n :: ns)]
      | _, _ => inner
    | items each, .array vs => vs.flatMap fun v => violations definitions fuel each v
    | fewest n, .array vs => if vs.length < n then [.tooFew v n] else []
    | constant wanted, v => if v == wanted then [] else [.differs wanted]
    | listed values, v => if values.any (v == ·) then [] else [.unlisted v values]
    | shortest n, .string s => if s.length < n then [.tooShort v n] else []
    | longest n, .string s => if n < s.length then [.tooLong v n] else []
    | matching text pattern, .string s => if pattern.occursIn s then [] else [.unmatched v text]
    | anyOf cs, v =>
      if cs.any fun c => (violations definitions fuel c v).isEmpty then [] else [.noAlternative v]
    | reference name, v =>
      match definitions.find? (·.1 == name) with
      | some d => violations definitions fuel d.2 v
      | none => []
    | _, _ => []

mutual

/-- The number of constraints in a constraint. -/
def size : Constraint → Nat
  | all parts => 1 + sizeOfAll parts
  | anyOf parts => 1 + sizeOfAll parts
  | members named others => 1 + sizeOfNamed named + others.size
  | items each => 1 + each.size
  | _ => 1

/-- The number of constraints in a list. -/
def sizeOfAll : List Constraint → Nat
  | [] => 0
  | c :: cs => c.size + sizeOfAll cs

/-- The number of constraints in a list of named ones. -/
def sizeOfNamed : List (String × Constraint) → Nat
  | [] => 0
  | (_, c) :: cs => c.size + sizeOfNamed cs

end

end Constraint

namespace Schema

/-- How deep constraints can lead into a document: between two steps down into the document
no constraint comes twice, unless a definition leads back to itself on one value. -/
def budget (s : Schema) (document : Json) : Nat :=
  (document.depth + 1) * (s.root.size + Constraint.sizeOfNamed s.definitions + 1)

/-- The violations of a document. -/
def violations (s : Schema) (document : Json) : List Violation :=
  s.root.violations s.definitions (s.budget document) document

/-- Whether a document satisfies the schema. -/
def accepts (s : Schema) (document : Json) : Bool :=
  (s.violations document).isEmpty

end Schema

end SchemaForge
