import SchemaForge.Configuration.Basic
import SchemaForge.Error
import SchemaForge.Json.Writer

/-!
# Configurations as JSON

The JSON value of a configuration, its members in the order in which the parts are declared.
What is absent or empty has no member. An output directory that is no text cannot be written,
and then there is no value of the configuration as a whole.

## Main definitions

* `Configuration.toJson` : the value, of all parts that can be written.
* `Configuration.serialize` : the value, if all parts can be written.
* `Configuration.canonical` : its compact text. Equal configurations have equal texts, which
  is what fingerprints rest on.
-/

namespace SchemaForge

/-- A member with a text, if there is one. -/
def Json.textField (name : String) (s : Option String) : List (String × Json) :=
  Json.field? name (s.map .string)

/-- A member with a list, unless it is empty. -/
def Json.listField (name : String) (items : List Json) : List (String × Json) :=
  if items.isEmpty then [] else [(name, .array items)]

/-- The JSON value of a connection. -/
def Jdbc.toJson (jdbc : Jdbc) : Json :=
  .object (Json.textField "driver" jdbc.driver ++ Json.textField "url" jdbc.url ++
    Json.textField "user" jdbc.user ++ Json.textField "password" jdbc.password ++
    Json.field? "auto_commit" (jdbc.autoCommit.map .bool) ++
    (if jdbc.properties.isEmpty then []
      else [("properties", .object (jdbc.properties.map fun p => (p.1, .string p.2)))]))

/-- The written name of a transform. -/
def Transform.name : Transform → String
  | .asIs => "AS_IS"
  | .lower => "LOWER"
  | .upper => "UPPER"
  | .camel => "CAMEL"
  | .pascal => "PASCAL"

/-- The JSON value of a rule. -/
def MatcherRule.toJson (rule : MatcherRule) : Json :=
  .object (("expression", .string rule.expression) ::
    Json.textField "transform" (rule.transform.map Transform.name))

/-- The JSON value of naming rules. -/
def Matchers.toJson (m : Matchers) : Json :=
  .object (Json.listField "schemas" (m.schemas.map MatcherRule.toJson) ++
    Json.listField "tables" (m.tables.map MatcherRule.toJson) ++
    Json.listField "fields" (m.fields.map MatcherRule.toJson))

/-- The JSON value of a naming strategy. -/
def Strategy.toJson (s : Strategy) : Json :=
  .object (Json.textField "name" s.name ++
    Json.field? "matchers" (s.matchers.map Matchers.toJson))

/-- The JSON value of a forced type. -/
def ForcedType.toJson (f : ForcedType) : Json :=
  .object (Json.textField "name" f.name ++ Json.textField "user_type" f.userType ++
    Json.textField "converter" f.converter ++
    Json.textField "include_expression" f.includeExpression ++
    Json.textField "include_types" f.includeTypes)

/-- The JSON value of the part of the schema that is read. -/
def Database.toJson (db : Database) : Json :=
  .object (Json.textField "input_schema" db.inputSchema ++
    Json.textField "includes" db.includes ++ Json.textField "excludes" db.excludes ++
    Json.listField "forced_types" (db.forcedTypes.map ForcedType.toJson))

/-- The JSON value of what is generated. -/
def Generate.toJson (g : Generate) : Json :=
  .object [("pojos", .bool g.pojos), ("records", .bool g.records),
    ("relations", .bool g.relations), ("deprecated", .bool g.deprecated),
    ("immutable_pojos", .bool g.immutablePojos), ("fluent_setters", .bool g.fluentSetters),
    ("pojos_equals_and_hash_code", .bool g.pojosEqualsAndHashCode),
    ("spring_annotations", .bool g.springAnnotations)]

/-- The JSON value of where the sources go. A directory that is no text has none. -/
def Target.toJson (t : Target) : Json :=
  .object (("package_name", .string t.packageName) ::
    Json.textField "directory" (t.directory.bind Path.text?) ++ [("clean", .bool t.clean)])

/-- Whether the directory, if there is one, can be written: it has to be a text. -/
def Target.isWritable (t : Target) : Bool :=
  t.directory.all fun directory => directory.text?.isSome

/-- The JSON value of what the generator does. -/
def Generator.toJson (g : Generator) : Json :=
  .object (Json.field? "strategy" (g.strategy.map Strategy.toJson) ++
    [("database", g.database.toJson), ("generate", g.generate.toJson),
      ("target", g.target.toJson)])

/-- The JSON value of a configuration. -/
def Configuration.toJson (c : Configuration) : Json :=
  .object (Json.field? "jdbc" (c.jdbc.map Jdbc.toJson) ++ [("generator", c.generator.toJson)])

/-- Whether every part of a configuration can be written. -/
def Configuration.isWritable (c : Configuration) : Bool := c.generator.target.isWritable

/-- The JSON value of a configuration, if every part of it can be written. -/
def Configuration.serialize (c : Configuration) : Except Error Json :=
  if c.isWritable then .ok c.toJson
  else .error (.serialization "path contains invalid UTF-8 characters")

/-- The compact text of a configuration. -/
def Configuration.canonical (c : Configuration) : String :=
  c.toJson.compact

end SchemaForge
