import SchemaForge.Json.Basic

/-!
# Validators

A document is held against its schema by a validator. What the words of a schema mean is laid
down by the standard of the schema language, and in which words a violation is reported is up
to the validator, so all that is done with documents is done for any validator.

## Main definitions

* `Validator` : what makes a report on documents out of a schema.
-/

namespace SchemaForge

/-- What holds documents against schemas. -/
structure Validator where
  /-- The report of a schema on documents: the texts of all violations, in their order. Of a
  value that is no schema, why it is none. -/
  compile : Json → Except String (Json → List String)

end SchemaForge
