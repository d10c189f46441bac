import SchemaForge.Path
import SchemaForge.IoFault
import SchemaForge.Migration.Version
import SchemaForge.Text.Blank

/-!
# Errors

Every way in which preparing or running a generation task can fail, each with what its
message needs, and the one place where the messages are worded.

## Main definitions

* `Error` : a failure by its cause.
* `Error.message` : its text.
-/

namespace SchemaForge

/-- Why a document schema cannot be used. -/
inductive SchemaFault where
  /-- Its text cannot be read. -/
  | unreadable (fault : IoFault)
  /-- Its text is no JSON, or no schema. -/
  | unusable (reason : String)
  deriving Repr, DecidableEq

/-- The reason as a text. -/
def SchemaFault.message : SchemaFault → String
  | .unreadable fault => fault.message
  | .unusable reason => reason

/-- A failure while preparing or running a generation task. -/
inductive Error where
  /-- The configuration is wrong or incomplete. -/
  | configuration (reason : String)
  /-- The configuration asks for what is always refused. -/
  | invariant (reason : String)
  /-- The shared database could not be started, or is gone. -/
  | provisioning (reason : String)
  /-- Migrating failed, possibly on one script. -/
  | migration (script : Option Path) (reason : String)
  /-- Two scripts have one version. -/
  | duplicateVersion (version : Version) (script other : Path)
  /-- The document does not satisfy its schema. -/
  | validation (schema : String) (violations : List String) (document : String)
  /-- There is no such schema. -/
  | schemaMissing (resource : String)
  /-- The schema cannot be used. -/
  | schemaUnusable (resource : String) (fault : SchemaFault)
  /-- The generator could not be started. -/
  | launch (program : String) (fault : IoFault)
  /-- The generator ran and failed; without an exit code, by a signal. -/
  | generator (exitCode : Option Int) (detail : String)
  /-- An operation on a file failed. -/
  | file (path : Path) (fault : IoFault)
  /-- A value has no written form. -/
  | serialization (reason : String)
  /-- An operation of the system failed. -/
  | system (fault : IoFault)
  deriving Repr, DecidableEq

namespace Error

/-- What is said of a version that a script shares with another one. -/
def duplicateReason (version : Version) (other : Path) : String :=
  "version " ++ version.toText ++ " is also used by " ++ other.shown

/-- The text of an error. -/
def message : Error → String
  | .configuration reason => "Configuration error: " ++ reason
  | .invariant reason => "Configuration invariant violated: " ++ reason
  | .provisioning reason => "Failed to provision ephemeral database: " ++ reason
  | .migration none reason => "Migration failed: " ++ reason
  | .migration (some script) reason => "Migration failed (" ++ script.shown ++ "): " ++ reason
  | .duplicateVersion version script other =>
    "Migration failed (" ++ script.shown ++ "): " ++ duplicateReason version other
  | .validation schema violations document =>
    "Configuration document violates schema " ++ schema ++ ":\n  - " ++
      Text.join "\n  - " violations ++ "\nDocument:\n" ++ document
  | .schemaMissing resource => "Failed to locate code generation schema: " ++ resource
  | .schemaUnusable resource fault =>
    "Failed to load code generation schema " ++ resource ++ ": " ++ fault.message
  | .launch program fault => "Failed to launch generator `" ++ program ++ "`: " ++ fault.message
  | .generator exitCode detail =>
    let how :=
      match exitCode with
      | some code => "exit code " ++ toString code
      | none => "terminated by signal"
    "Generator process failed (" ++ how ++ "): " ++ detail
  | .file path fault => "I/O error on " ++ path.shown ++ ": " ++ fault.message
  | .serialization reason => "Serialization error: " ++ reason
  | .system fault => "IO error: " ++ fault.message

end Error

end SchemaForge
