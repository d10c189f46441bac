import SchemaForge.Json.Reader
import SchemaForge.Pattern.Reader
import SchemaForge.Schema.Basic
import SchemaForge.Schema.Validator
import SchemaForge.Text.Blank
import SchemaForge.Url.Percent

/-!
# Reading schemas

The schema that a JSON value denotes. A value whose keywords do not have the form that the
edition of its `$schema` asks for is no schema, and neither is one that refers to what is
not there. What nothing refers to only needs that form.

Only a part of the schema language is defined here. A value with a keyword of the rest
(`Schema.foreign`) is not read, so what is read means what the standard says. Keywords that no
edition knows mean nothing and are passed over.

## Main definitions

* `Schema.Edition` : the editions of the schema language.
* `Schema.foreign` : the keywords of the language that are not defined here.
* `Schema.isWellFormed` : whether the keywords of a value have the form that an edition asks for.
* `Constraint.ofJson?` : the constraint of one value.
* `Schema.ofJson?` : the constraint of a whole value with all that it refers to.
* `Schema.validator` : the validator of this part of the language.
-/

namespace SchemaForge

/-- The editions of the schema language. -/
inductive Schema.Edition where
  | draft4 | draft6 | draft7 | draft2019 | draft2020
  deriving Repr, DecidableEq

namespace Schema

namespace Edition

/-- The names of the editions. -/
def names : List (String × Edition) := [
  ("http://json-schema.org/draft-04/schema", draft4),
  ("http://json-schema.org/draft-06/schema", draft6),
  ("http://json-schema.org/draft-07/schema", draft7),
  ("https://json-schema.org/draft/2019-09/schema", draft2019),
  ("https://json-schema.org/draft/2020-12/schema", draft2020)]

/-- Whether the edition is one of the older ones, in which a reference stands alone: keywords
beside it do not count. In these a pattern has to be one wherever it stands. -/
def isOlder : Edition → Bool
  | draft4 | draft6 | draft7 => true
  | draft2019 | draft2020 => false

/-- Whether `true` and `false` are schemas, numbers like `2.0` are whole, and there is a
keyword for a constant. -/
def hasConstants (e : Edition) : Bool := e != draft4

/-- Whether a list of names or choices needs a member. -/
def needsMembers (e : Edition) : Bool := e == draft4

/-- The edition in which a schema is written: the one that it names, or the latest. -/
def of? (j : Json) : Option Edition :=
  match j.member? "$schema" with
  | none => some draft2020
  | some (.string name) =>
    let bare := String.ofList (name.toList.reverse.dropWhile (· == '#')).reverse
    (names.find? (·.1 == bare)).map (·.2)
  | some _ => none

end Edition

/-! ### Keywords -/

/-- The keyword of the name of a schema. -/
def nameKeyword (e : Edition) : String := if e == .draft4 then "id" else "$id"

/-- The keywords of the language that are not defined here. Edition and name of a schema are
only read where it begins. -/
def foreign (e : Edition) : List String := [
  "$schema", nameKeyword e, "$anchor", "$dynamicAnchor", "$dynamicRef", "$recursiveAnchor",
  "$recursiveRef", "$vocabulary",
  "allOf", "oneOf", "not", "if", "then", "else",
  "minimum", "maximum", "exclusiveMinimum", "exclusiveMaximum", "multipleOf",
  "maxItems", "uniqueItems", "prefixItems", "additionalItems", "unevaluatedItems",
  "contains", "minContains", "maxContains",
  "minProperties", "maxProperties", "patternProperties", "propertyNames",
  "unevaluatedProperties", "dependencies", "dependentRequired", "dependentSchemas",
  "format", "contentEncoding", "contentMediaType", "contentSchema",
  "deprecated", "examples", "readOnly", "writeOnly"]

/-- Whether the members of a value are keywords that are defined here, or none at all. -/
def areDomestic (e : Edition) (ms : List (String × Json)) : Bool :=
  ms.all fun m => !(foreign e).contains m.1

/-! ### References -/

/-- Whether a character may stand in the part of a reference after its number sign. -/
def isFragmentChar (c : Char) : Bool := c.isAlphanum || "-._~!$&'()*+,;=:@/?".toList.contains c

/-- Whether a text may stand in a reference after its number sign. -/
def isFragment : List Char → Bool
  | '%' :: a :: b :: rest =>
    (Json.hexValue? a).isSome && (Json.hexValue? b).isSome && isFragment rest
  | c :: rest => isFragmentChar c && isFragment rest
  | [] => true

/-- One name of a pointer, with its two escapes undone. -/
def unescapePointer : List Char → List Char
  | '~' :: '0' :: rest => '~' :: unescapePointer rest
  | '~' :: '1' :: rest => '/' :: unescapePointer rest
  | c :: rest => c :: unescapePointer rest
  | [] => []

/-- The position that a name in a pointer denotes. -/
def position? (name : String) : Option Nat :=
  let digits := match name.toList with
    | '+' :: cs => cs
    | cs => cs
  if digits.isEmpty || !digits.all Json.isDecimal then none else some (Json.decimalValue digits)

/-- Follows the names of a pointer into a value. -/
def follow? : Json → List String → Option Json
  | j, [] => some j
  | .array items, name :: names =>
    (position? name).bind fun n => items[n]?.bind fun j => follow? j names
  | j, name :: names => (j.member? name).bind fun j => follow? j names

/-- The part of a value that a reference within it points to. -/
def target? (whole : Json) (reference : String) : Option Json :=
  match reference.toList with
  | [] => some whole
  | '#' :: pointer =>
    if !isFragment pointer then none
    else
      match (Utf8.decode? (Url.percentDecode pointer)).map String.toList with
      | some [] => some whole
      | some ('/' :: names) =>
        follow? whole
          ((Text.pieces (· == '/') names).map fun n => String.ofList (unescapePointer n))
      | _ => none
  | _ => none

/-! ### The values of keywords -/

/-- The kind of a name. -/
def kind? : Json → Option Kind
  | .string s => Kind.all.find? (·.name == s)
  | _ => none

/-- The kinds of a `type` keyword: one, or several different ones. -/
def kinds? : Json → Option (List Kind)
  | .array vs => do
    let ks ← vs.mapM kind?
    if ks.isEmpty || ks.eraseDups.length != ks.length then none
    else some (Kind.all.filter (ks.contains ·))
  | j => (kind? j).map ([·])

/-- A list of different texts. -/
def names? (e : Edition) : Json → Option (List String)
  | .array vs => do
    let names ← vs.mapM fun
      | .string s => some s
      | _ => none
    if names.eraseDups.length != names.length || (e.needsMembers && names.isEmpty) then none
    else some names
  | _ => none

/-- The values to choose from. -/
def choices? (e : Edition) : Json → Option (List Json)
  | .array vs => if e.needsMembers && vs.isEmpty then none else some (vs.map Json.sorted)
  | _ => none

/-- The greatest number of things that is told from greater ones. -/
def greatestCount : Nat := Width.count 64 - 1

/-- A number of things. -/
def count? (e : Edition) : Json → Option Nat
  | .number (.whole n) => if 0 ≤ n then some n.toNat else none
  | .number (.real x) =>
    match x.whole? with
    | some n => if e.hasConstants && 0 ≤ n then some (min n.toNat greatestCount) else none
    | none => none
  | _ => none

/-- A pattern. -/
def pattern? : Json → Option (String × Pattern)
  | .string s => (Pattern.parse? s).map fun p => (s, p)
  | _ => none

/-! ### Form -/

/-- Whether a keyword is absent or has a value that passes a check. -/
def allows (ms : List (String × Json)) (name : String) (check : Json → Bool) : Bool :=
  match Json.member? name (.object ms) with
  | none => true
  | some j => check j

/-- Whether a value is a text. -/
def isText : Json → Bool
  | .string _ => true
  | _ => false

/-- Whether a value is an object whose values all pass a check. -/
def areMembers (check : Json → Bool) : Json → Bool
  | .object ms => ms.all fun m => check m.2
  | _ => false

/-- Whether a value is a list that is not empty, whose items all pass a check. -/
def areItems (check : Json → Bool) : Json → Bool
  | .array js => !js.isEmpty && js.all check
  | _ => false

/-- Whether the keywords of a value have the form that an edition asks for. The fuel bounds
how deep schemas lie within one another. -/
def isWellFormed (e : Edition) : Nat → Json → Bool
  | 0, _ => false
  | _ + 1, .bool _ => e.hasConstants
  | fuel + 1, .object ms =>
    let inner := isWellFormed e fuel
    let isFlag : Json → Bool := fun
      | .bool _ => true
      | _ => false
    let texts := ["title", "description"] ++ (if e == .draft4 then [] else ["$ref"]) ++
      (if e == .draft4 || e == .draft6 then [] else ["$comment"])
    areDomestic e ms && texts.all (allows ms · isText) &&
    ["definitions", "properties"].all (allows ms · (areMembers inner)) &&
    (e.isOlder || allows ms "$defs" (areMembers inner)) &&
    allows ms "additionalProperties" (fun j => isFlag j || inner j) &&
    allows ms "items" (fun j => inner j || (e != .draft2020 && areItems inner j)) &&
    allows ms "anyOf" (areItems inner) &&
    allows ms "type" (fun j => (kinds? j).isSome) &&
    allows ms "required" (fun j => (names? e j).isSome) &&
    allows ms "enum" (fun j => (choices? e j).isSome) &&
    ["minItems", "minLength", "maxLength"].all (allows ms · fun j => (count? e j).isSome) &&
    allows ms "pattern" (fun j => isText j && (!e.isOlder || (pattern? j).isSome))
  | _ + 1, _ => false

end Schema

namespace Constraint

open Schema

/-- The constraint of a keyword, if the keyword is there; `none` if it is malformed. -/
def keyword (ms : List (String × Json)) (name : String)
    (read : Json → Option Constraint) : Option (List Constraint) :=
  match Json.member? name (.object ms) with
  | none => some []
  | some j => (read j).map ([·])

/-- The constraints of named schemas. -/
def named? (read : Json → Option Constraint) : Json → Option (List (String × Constraint))
  | .object ms => ms.mapM fun m => (read m.2).map fun c => (m.1, c)
  | _ => none

/-- The constraint of a reference. -/
def reference? : Json → Option Constraint
  | .string s => some (reference s)
  | _ => none

/-- The constraint on the members of an object. -/
def ofMembers (named : Option (List (String × Constraint))) (others : List Constraint) :
    List Constraint :=
  match named, others with
  | none, [] => []
  | none, [nothing] => [memberless]
  | _, _ => [members (named.getD []) (others.headD anything)]

/-- The constraint of one value. The fuel bounds how deep schemas lie within one another. -/
def read (e : Edition) : Nat → Json → Option Constraint
  | 0, _ => none
  | _ + 1, .bool b => some (if b then anything else nothing)
  | fuel + 1, .object ms => do
    let inner := read e fuel
    let references ← keyword ms "$ref" reference?
    match areDomestic e ms, e.isOlder, references with
    | false, _, _ => none
    | true, true, [r] => return r
    | true, _, _ =>
      let named ←
        match Json.member? "properties" (.object ms) with
        | none => some none
        | some j => (named? inner j).map some
      let others ← keyword ms "additionalProperties" inner
      let byKind ← keyword ms "type" fun j => (kinds? j).map kinds
      let present ← keyword ms "required" fun j => (names? e j).map required
      let byItem ← keyword ms "items" fun j => (inner j).map items
      let least ← keyword ms "minItems" fun j => (count? e j).map fewest
      let exact ← keyword ms "const" fun j => some (constant j.sorted)
      let choice ← keyword ms "enum" fun j => (choices? e j).map listed
      let lower ← keyword ms "minLength" fun j => (count? e j).map shortest
      let upper ← keyword ms "maxLength" fun j => (count? e j).map longest
      let form ← keyword ms "pattern" fun j => (pattern? j).map fun p => matching p.1 p.2
      let alternatives ← keyword ms "anyOf" fun
        | .array [] => none
        | .array js => (js.mapM inner).map anyOf
        | _ => none
      return all (references ++ byKind ++ present ++ ofMembers named others ++ byItem ++ least ++
        (if e.hasConstants then exact else []) ++ choice ++ lower ++ upper ++ form ++
        alternatives)
  | _ + 1, _ => none

/-- The constraint of one value. -/
def ofJson? (e : Edition) (j : Json) : Option Constraint :=
  read e (j.depth + 1) j

mutual

/-- The names that a constraint refers to. -/
def references : Constraint → List String
  | reference name => [name]
  | all parts => referencesOfAll parts
  | anyOf parts => referencesOfAll parts
  | members named others => referencesOfNamed named ++ others.references
  | items each => each.references
  | _ => []

/-- The names that the constraints of a list refer to. -/
def referencesOfAll : List Constraint → List String
  | [] => []
  | c :: cs => c.references ++ referencesOfAll cs

/-- The names that named constraints refer to. -/
def referencesOfNamed : List (String × Constraint) → List String
  | [] => []
  | (_, c) :: cs => c.references ++ referencesOfNamed cs

end

end Constraint

namespace Schema

/-- Adds the constraints that names refer to, and those that these refer to in turn. The fuel
bounds the number of names. -/
def define (e : Edition) (whole : Json) :
    Nat → List String → List (String × Constraint) → Option (List (String × Constraint))
  | _, [], known => some known
  | 0, _ :: _, _ => none
  | fuel + 1, name :: names, known =>
    if known.any (·.1 == name) then define e whole fuel names known
    else do
      let part ← target? whole name
      let c ← Constraint.ofJson? e part
      define e whole fuel (names ++ c.references) (known ++ [(name, c)])

/-- How many names are looked up at most: no constraint has more references than parts, and
no name is defined twice. -/
def lookups (root : Constraint) (whole : Json) : Nat :=
  (root.size + 1) * (whole.compact.length + 1)

/-- Whether a value is a name that a schema can go by. -/
def isName : Json → Bool
  | .string s => s.toList.all isFragmentChar
  | _ => false

/-- Whether the name of a value is one, if it has any. -/
def isNamed (e : Edition) : Json → Bool
  | .object ms => allows ms (nameKeyword e) isName
  | _ => true

/-- The value without its edition and its name. -/
def body (e : Edition) : Json → Json
  | .object ms => .object (ms.filter fun m => m.1 != "$schema" && m.1 != nameKeyword e)
  | j => j

/-- The schema that a JSON value denotes. -/
def ofJson? (j : Json) : Option Schema := do
  let e ← Edition.of? j
  let j' := body e j
  if !isNamed e j || !isWellFormed e (j'.depth + 1) j' then none
  else
    let root ← Constraint.ofJson? e j'
    let definitions ← define e j' (lookups root j') root.references []
    return { root, definitions }

/-- The validator of the part of the language that is defined here. -/
def validator : Validator where
  compile j :=
    match ofJson? j with
    | some s => .ok fun document => (s.violations document).map Violation.message
    | none => .error "not a schema"

end Schema

end SchemaForge
