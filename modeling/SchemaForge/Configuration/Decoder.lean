import SchemaForge.Configuration.Json
import SchemaForge.Datum.Decoder

/-!
# Reading configurations

Each part of a configuration as a record type over untyped data. No part passes over a name
that it does not know.

## Main definitions

* `Configuration.decode` : a configuration in a dialect.
* `Configuration.ofJson` : a configuration from its JSON value.
* `Preset.decode` : a preset by its name.
-/

namespace SchemaForge

open Decoded

variable (dialect : Dialect)

/-- Reads a text. -/
def Decoded.text : Datum → Decoded String := dialect.text "a string"

/-- Reads a path. -/
def Decoded.path (d : Datum) : Decoded Path := (dialect.text "path string" d).map (⟨·⟩)

/-- Connections. -/
def Jdbc.record : Record Jdbc where
  name := "Jdbc"
  initial := {}
  fields := [
    .of "driver" (optional (text dialect)) fun v a => { a with driver := v },
    .of "url" (optional (text dialect)) fun v a => { a with url := v },
    .of "user" (optional (text dialect)) fun v a => { a with user := v },
    .of "password" (optional (text dialect)) fun v a => { a with password := v },
    .of "auto_commit" (optional dialect.flag) fun v a => { a with autoCommit := v },
    .of "properties" (mapping (text dialect)) fun v a => { a with properties := v }]

/-- Reads a transform by its written name. -/
def Transform.decode : Datum → Decoded Transform :=
  choice dialect ([Transform.asIs, .lower, .upper, .camel, .pascal].map fun t => (t.name, t))

/-- A rule whose expression may still be missing. -/
structure MatcherRule.Draft where
  expression : Option String := none
  transform : Option Transform := none

/-- Rules with a part missing. -/
def MatcherRule.draft : Record MatcherRule.Draft where
  name := "MatcherRule"
  initial := {}
  fields := [
    .of "expression" (text dialect) fun v a => { a with expression := some v },
    .of "transform" (optional (Transform.decode dialect)) fun v a => { a with transform := v }]

/-- Reads a rule, which must have an expression. -/
def MatcherRule.decode (d : Datum) : Decoded MatcherRule := do
  let draft ← (MatcherRule.draft dialect).decode dialect d
  match draft.expression, d with
  | some expression, _ => .ok { expression, transform := draft.transform }
  | none, .list _ => .error (.wrongLength 0 "struct MatcherRule with 2 elements")
  | none, _ => .error (.missingField "expression")

/-- Naming rules. -/
def Matchers.record : Record Matchers where
  name := "Matchers"
  initial := {}
  fields := [
    .of "schemas" (list (MatcherRule.decode dialect)) fun v a => { a with schemas := v },
    .of "tables" (list (MatcherRule.decode dialect)) fun v a => { a with tables := v },
    .of "fields" (list (MatcherRule.decode dialect)) fun v a => { a with fields := v }]

/-- Reads naming rules. -/
def Matchers.decode : Datum → Decoded Matchers := (Matchers.record dialect).decode dialect

/-- Naming strategies. -/
def Strategy.record : Record Strategy where
  name := "Strategy"
  initial := {}
  fields := [
    .of "name" (optional (text dialect)) fun v a => { a with name := v },
    .of "matchers" (optional (Matchers.decode dialect)) fun v a => { a with matchers := v }]

/-- Reads a naming strategy. -/
def Strategy.decode : Datum → Decoded Strategy := (Strategy.record dialect).decode dialect

/-- Forced types. -/
def ForcedType.record : Record ForcedType where
  name := "ForcedType"
  initial := {}
  fields := [
    .of "name" (optional (text dialect)) fun v a => { a with name := v },
    .of "user_type" (optional (text dialect)) fun v a => { a with userType := v },
    .of "converter" (optional (text dialect)) fun v a => { a with converter := v },
    .of "include_expression" (optional (text dialect)) fun v a =>
      { a with includeExpression := v },
    .of "include_types" (optional (text dialect)) fun v a => { a with includeTypes := v }]

/-- Reads a forced type. -/
def ForcedType.decode : Datum → Decoded ForcedType := (ForcedType.record dialect).decode dialect

/-- The part of the schema that is read. -/
def Database.record : Record Database where
  name := "Database"
  initial := {}
  fields := [
    .of "input_schema" (optional (text dialect)) fun v a => { a with inputSchema := v },
    .of "includes" (optional (text dialect)) fun v a => { a with includes := v },
    .of "excludes" (optional (text dialect)) fun v a => { a with excludes := v },
    .of "forced_types" (list (ForcedType.decode dialect)) fun v a => { a with forcedTypes := v }]

/-- What is generated. -/
def Generate.record : Record Generate where
  name := "Generate"
  initial := {}
  fields := [
    .of "pojos" dialect.flag fun v a => { a with pojos := v },
    .of "records" dialect.flag fun v a => { a with records := v },
    .of "relations" dialect.flag fun v a => { a with relations := v },
    .of "deprecated" dialect.flag fun v a => { a with deprecated := v },
    .of "immutable_pojos" dialect.flag fun v a => { a with immutablePojos := v },
    .of "fluent_setters" dialect.flag fun v a => { a with fluentSetters := v },
    .of "pojos_equals_and_hash_code" dialect.flag fun v a =>
      { a with pojosEqualsAndHashCode := v },
    .of "spring_annotations" dialect.flag fun v a => { a with springAnnotations := v }]

/-- Where the sources go. -/
def Target.record : Record Target where
  name := "Target"
  initial := {}
  fields := [
    .of "package_name" (text dialect) fun v a => { a with packageName := v },
    .of "directory" (optional (path dialect)) fun v a => { a with directory := v },
    .of "clean" dialect.flag fun v a => { a with clean := v }]

/-- What the generator does. -/
def Generator.record : Record Generator where
  name := "Generator"
  initial := {}
  fields := [
    .of "strategy" (optional (Strategy.decode dialect)) fun v a => { a with strategy := v },
    .of "database" ((Database.record dialect).decode dialect) fun v a => { a with database := v },
    .of "generate" ((Generate.record dialect).decode dialect) fun v a => { a with generate := v },
    .of "target" ((Target.record dialect).decode dialect) fun v a => { a with target := v }]

/-- Reads a connection. -/
def Jdbc.decode : Datum → Decoded Jdbc := (Jdbc.record dialect).decode dialect

/-- Configurations. -/
def Configuration.record : Record Configuration where
  name := "Configuration"
  initial := {}
  fields := [
    .of "jdbc" (optional (Jdbc.decode dialect)) fun v a => { a with jdbc := v },
    .of "generator" ((Generator.record dialect).decode dialect) fun v a =>
      { a with generator := v }]

/-- Reads a configuration. -/
def Configuration.decode : Datum → Decoded Configuration :=
  (Configuration.record dialect).decode dialect

/-- The configuration of a JSON value. -/
def Configuration.ofJson (j : Json) : Decoded Configuration :=
  Configuration.decode .json (.ofJson j)

/-- The written name of a preset. -/
def Preset.name : Preset → String
  | .timestampToInstant => "timestamp_to_instant"

/-- Reads a preset by its written name. -/
def Preset.decode : Datum → Decoded Preset :=
  choice dialect ([Preset.timestampToInstant].map fun p => (p.name, p))

end SchemaForge
