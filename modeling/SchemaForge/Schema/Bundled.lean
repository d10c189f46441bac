import SchemaForge.Configuration.Basic
import SchemaForge.Json.Basic

/-!
# The bundled schema

The schema of the documents that a generator is given, under the identifier by which
projects ask for it. It describes a configuration whose output directory is set.

## Main definitions

* `Schema.bundled` : the schema as a JSON value.
* `Schema.bundled?` : the schema of an identifier.
-/

namespace SchemaForge.Schema

/-- The schema of a kind of value. -/
def ofKind (kind : String) : Json := .object [("type", .string kind)]

/-- A reference to one of the definitions. -/
def definition (name : String) : Json :=
  .object [("$ref", .string ("#/definitions/" ++ name))]

/-- The schema of a list. -/
def listOf (each : Json) : Json :=
  .object [("type", .string "array"), ("items", each)]

/-- The members of a record schema: these properties and no others. -/
def recordMembers (properties : List (String × Json)) : List (String × Json) :=
  [("type", .string "object"), ("additionalProperties", .bool false),
    ("properties", .object properties)]

/-- The schema of a record. -/
def recordOf (properties : List (String × Json)) : Json :=
  .object (recordMembers properties)

/-- The schema of a record that must have some of its properties. -/
def recordWith (required : List String) (properties : List (String × Json)) : Json :=
  .object (("required", .ofStrings required) :: recordMembers properties)

/-- The pattern of package names: identifiers with points between them. -/
def packagePattern : String := "^[A-Za-z_][A-Za-z0-9_]*(\\.[A-Za-z_][A-Za-z0-9_]*)*$"

/-- The schemas that the others refer to. -/
def bundledDefinitions : List (String × Json) := [
  ("nonEmptyString", .object [("type", .string "string"), ("minLength", .ofNat 1)]),
  ("jdbc", recordOf [
    ("driver", ofKind "string"),
    ("url", definition "nonEmptyString"),
    ("user", ofKind "string"),
    ("password", ofKind "string"),
    ("auto_commit", ofKind "boolean"),
    ("properties", .object [("type", .string "object"),
      ("additionalProperties", ofKind "string")])]),
  ("generator", recordWith ["database", "generate", "target"] [
    ("strategy", definition "strategy"),
    ("database", definition "database"),
    ("generate", definition "generate"),
    ("target", definition "target")]),
  ("strategy", recordOf [
    ("name", definition "nonEmptyString"),
    ("matchers", definition "matchers")]),
  ("matchers", recordOf [
    ("schemas", listOf (definition "matcherRule")),
    ("tables", listOf (definition "matcherRule")),
    ("fields", listOf (definition "matcherRule"))]),
  ("matcherRule", recordWith ["expression"] [
    ("expression", definition "nonEmptyString"),
    ("transform", .object [("enum", .ofStrings ["AS_IS", "LOWER", "UPPER", "CAMEL", "PASCAL"])])]),
  ("database", recordOf [
    ("input_schema", definition "nonEmptyString"),
    ("includes", ofKind "string"),
    ("excludes", ofKind "string"),
    ("forced_types", listOf (definition "forcedType"))]),
  ("forcedType", .object (("anyOf", .array [
      .object [("required", .ofStrings ["name"])],
      .object [("required", .ofStrings ["user_type"])]]) :: recordMembers [
    ("name", definition "nonEmptyString"),
    ("user_type", definition "nonEmptyString"),
    ("converter", definition "nonEmptyString"),
    ("include_expression", ofKind "string"),
    ("include_types", ofKind "string")])),
  ("generate", recordOf [
    ("pojos", ofKind "boolean"),
    ("records", ofKind "boolean"),
    ("relations", ofKind "boolean"),
    ("deprecated", ofKind "boolean"),
    ("immutable_pojos", ofKind "boolean"),
    ("fluent_setters", ofKind "boolean"),
    ("pojos_equals_and_hash_code", ofKind "boolean"),
    ("spring_annotations", ofKind "boolean")]),
  ("target", recordWith ["package_name", "directory", "clean"] [
    ("package_name", .object [("type", .string "string"), ("pattern", .string packagePattern)]),
    ("directory", definition "nonEmptyString"),
    ("clean", ofKind "boolean")])]

/-- The bundled schema. -/
def bundled : Json :=
  .object ([
    ("$schema", .string "http://json-schema.org/draft-07/schema#"),
    ("$id", .string "urn:schemagen:codegen-config:1.0"),
    ("title", .string "Code generation configuration"),
    ("required", .ofStrings ["generator"]),
    ("definitions", .object bundledDefinitions)] ++ recordMembers [
      ("jdbc", definition "jdbc"),
      ("generator", definition "generator")])

/-- The bundled schema of an identifier. -/
def bundled? (id : String) : Option Json :=
  if id == Defaults.documentSchema then some bundled else none

end SchemaForge.Schema
