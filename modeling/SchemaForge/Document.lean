import SchemaForge.Configuration.Json
import SchemaForge.Error
import SchemaForge.FileSystem.Operations
import SchemaForge.Schema.Bundled
import SchemaForge.Schema.Reader

/-!
# Documents for the generator

A generator is told what to do by a document, the JSON text of a configuration. A document
is written only when it satisfies its schema, so a generator never sees one that it does not
understand, and nothing at all is written when it does not.

## Main definitions

* `SchemaSource` : where the schema of a document comes from.
* `SchemaSource.report` : what a validator makes of the schema.
* `Document.ofConfiguration` : the document as a JSON value.
* `Document.check` : the document's text, if its schema allows it.
* `Document.write` : checking and writing.
-/

namespace SchemaForge

/-- Where the schema of a document comes from. -/
inductive SchemaSource where
  /-- It is bundled under an identifier. -/
  | bundled (id : String)
  /-- It is in a file. -/
  | file (path : Path)
  deriving Repr, DecidableEq

namespace SchemaSource

instance : Inhabited SchemaSource := ⟨.bundled Defaults.documentSchema⟩

/-- How messages name the schema. -/
def resource : SchemaSource → String
  | .bundled id => id
  | .file path => path.shown

/-- The JSON value of the schema. -/
def load (fs : FileSystem) : SchemaSource → Except Error Json
  | .bundled id =>
    match Schema.bundled? id with
    | some j => .ok j
    | none => .error (.schemaMissing id)
  | .file path =>
    match fs.readText path with
    | .error fault =>
      if fault == .notFound then .error (.schemaMissing path.shown)
      else .error (.schemaUnusable path.shown (.unreadable fault))
    | .ok text =>
      match Json.parse? text with
      | some j => .ok j
      | none => .error (.schemaUnusable path.shown (.unusable "not a JSON text"))

/-- The report of the schema on documents. -/
def report (v : Validator) (fs : FileSystem) (source : SchemaSource) :
    Except Error (Json → List String) := do
  match v.compile (← source.load fs) with
  | .ok report => .ok report
  | .error reason => .error (.schemaUnusable source.resource (.unusable reason))

/-- The schema itself, if it is one of the language that is defined here. -/
def schema (fs : FileSystem) (source : SchemaSource) : Except Error Schema := do
  match Schema.ofJson? (← source.load fs) with
  | some s => .ok s
  | none => .error (.schemaUnusable source.resource (.unusable "not a schema"))

end SchemaSource

namespace Document

/-- The document of a configuration that can be written: its JSON value with the members of all
objects sorted. -/
def ofConfiguration (c : Configuration) : Json := c.toJson.sorted

/-- What stands in a message for the connection's password. -/
def mask : String := "******"

/-- The document without the connection's password. -/
def redacted (c : Configuration) : Json :=
  ofConfiguration { c with
    jdbc := c.jdbc.map fun jdbc => { jdbc with password := jdbc.password.map fun _ => mask } }

/-- The text of the document, if there is one and its schema allows it. -/
def check (v : Validator) (fs : FileSystem) (c : Configuration) (source : SchemaSource) :
    Except Error String := do
  let report ← source.report v fs
  let document := (← c.serialize).sorted
  match report document with
  | [] => return document.pretty
  | vs => .error (.validation source.resource vs (redacted c).pretty)

/-- Writes a text to a file, with the directories that are missing above it. -/
def place (fs : FileSystem) (path : Path) (text : String) : Except Error Unit × FileSystem :=
  let write (fs : FileSystem) : Except Error Unit × FileSystem :=
    match fs.writeBytes path (Utf8.encode text) with
    | (.ok (), fs') => (.ok (), fs')
    | (.error fault, fs') => (.error (.file path fault), fs')
  match path.parent? with
  | none => write fs
  | some dir =>
    match fs.makeDirectories dir with
    | (.error fault, fs') => (.error (.file dir fault), fs')
    | (.ok (), fs') => write fs'

/-- Checks the document of a configuration and writes it to a file. -/
def write (v : Validator) (fs : FileSystem) (c : Configuration) (source : SchemaSource)
    (path : Path) : Except Error Unit × FileSystem :=
  match check v fs c source with
  | .error e => (.error e, fs)
  | .ok text => place fs path text

end Document

end SchemaForge
