import SchemaForge.Configuration.Decoder
import SchemaForge.Project.Basic
import SchemaForge.Toml.Reader

/-!
# Reading projects

A project as a record type over untyped data. Names that a project does not know are passed
over, except within the configuration of a task.

## Main definitions

* `Project.decode` : a project in a dialect.
* `Project.ofToml` : the project of a TOML document.
* `Project.ofFile` : the project of a file.
-/

namespace SchemaForge

open Decoded

namespace Project

variable (dialect : Dialect)

/-- What is said about the database image. -/
def imageTag.record : Record (Option String) where
  name := "ContainerSettings"
  initial := none
  isOpen := true
  fields := [.of "image_tag" (optional (text dialect)) fun v _ => v]

/-- How the generator is launched. -/
def GeneratorSettings.record : Record GeneratorSettings where
  name := "GeneratorSettings"
  initial := {}
  isOpen := true
  fields := [
    .of "program" (text dialect) fun v a => { a with program := v },
    .of "args" (list (text dialect)) fun v a => { a with args := v },
    .of "classpath" (list (path dialect)) fun v a => { a with classpath := v },
    .of "env" (mapping (text dialect)) fun v a => { a with env := v },
    .of "schema" (text dialect) fun v a => { a with schema := v },
    .of "schema_file" (optional (path dialect)) fun v a => { a with schemaFile := v }]

/-- One task. -/
def TaskSettings.record : Record TaskSettings where
  name := "TaskSettings"
  initial := {}
  isOpen := true
  fields := [
    .of "use_container" (optional dialect.flag) fun v a => { a with useContainer := v },
    .of "all_inputs_declared" dialect.flag fun v a => { a with allInputsDeclared := v },
    .of "forced_type_presets" (list (Preset.decode dialect)) fun v a => { a with presets := v },
    .of "configuration" (Configuration.decode dialect) fun v a => { a with configuration := v }]

/-- The project as a whole. -/
def record : Record Project where
  name := "ProjectConfig"
  initial := {}
  isOpen := true
  fields := [
    .of "use_container" dialect.flag fun v a => { a with useContainer := v },
    .of "migrations_dir" (path dialect) fun v a => { a with migrationsDir := v },
    .of "work_dir" (path dialect) fun v a => { a with workDir := v },
    .of "output_root" (path dialect) fun v a => { a with outputRoot := v },
    .of "container" ((imageTag.record dialect).decode dialect) fun v a => { a with imageTag := v },
    .of "generator" ((GeneratorSettings.record dialect).decode dialect) fun v a =>
      { a with generator := v },
    .of "tasks" (mapping ((TaskSettings.record dialect).decode dialect)) fun v a =>
      { a with tasks := .ofList v },
    .of "log_level" (optional (text dialect)) fun v a => { a with logLevel := v }]

/-- Reads a project. -/
def decode : Datum → Decoded Project := (record dialect).decode dialect

/-! ### From documents -/

/-- Why a document is no project. -/
inductive DocumentFault where
  /-- It is no TOML document. -/
  | malformed
  /-- It is one of another shape. -/
  | mismatch (m : Mismatch)
  deriving Repr

/-- What a date or a time is where a table is asked for: a table with its text. -/
def momentTable (m : Toml.Moment) : Datum :=
  .table [("$__toml_private_datetime", .text m.text)]

/-- The project of a TOML document. A whole number of more than 64 bits makes the document
malformed unless the whole of it could be read without that number. -/
def ofToml (document : String) : Except DocumentFault Project :=
  match Toml.parse? document with
  | none => .error .malformed
  | some node =>
    let data := node.toDatum momentTable
    match decode .strict data with
    | .ok p => .ok p
    | .error m => .error (if data.isNarrow then .mismatch m else .malformed)

/-- How the message of a project file that cannot be used begins. -/
def unusableFile (path : Path) : String := "Failed to parse config file " ++ path.shown ++ ": "

/-- Why there is no project in a file. -/
inductive FileFault where
  | unreadable (fault : IoFault)
  | unusable (fault : DocumentFault)
  deriving Repr

/-- The project of a TOML file. -/
def ofFile (fs : FileSystem) (path : Path) : Except FileFault Project :=
  match fs.readText path with
  | .error fault => .error (.unreadable fault)
  | .ok document =>
    match ofToml document with
    | .ok p => .ok p
    | .error fault => .error (.unusable fault)

end Project

end SchemaForge
