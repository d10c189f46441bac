import SchemaForge.FileSystem.Operations
import SchemaForge.Project.Decoder
import SchemaForge.Settings.Layer

/-!
# Loading projects

A project is loaded from a file and from environment variables, which stand above the file.
The file is a TOML document or a JSON text, as its extension says; one that was not asked
for may be missing.

## Main definitions

* `Project.findFile` : the file that a path means, and its format.
* `Project.load` : the project of a file and of variables.
-/

namespace SchemaForge.Project

/-- The formats of project files. -/
inductive Format where
  | toml
  | json
  deriving Repr, DecidableEq

namespace Format

/-- The formats in the order in which they are tried. -/
def all : List Format := [.toml, .json]

/-- The extension of files of a format. -/
def extension : Format → String
  | toml => "toml"
  | json => "json"

/-- The settings in a text. A time in a document is a text, and a number of more than 64 bits
makes the document unusable. -/
def settings? (text : String) : Format → Option Datum
  | toml =>
    (Toml.parse? text).bind fun node =>
      let data := node.toDatum fun m => .text m.text
      if data.isNarrow then some data else none
  | json => (Json.parse? text).map Datum.ofJson

end Format

/-- Why a project cannot be loaded. -/
inductive LoadFault where
  /-- There is no such file. -/
  | missing (path : Path)
  /-- The extension of the file belongs to no format. -/
  | unknownFormat (path : Path)
  | unreadable (path : Path) (fault : IoFault)
  /-- The text of the file is not of its format. -/
  | malformed (path : Path)
  /-- The settings are of another shape than a project. -/
  | mismatch (m : Mismatch)
  deriving Repr

/-- The text of a fault. -/
def LoadFault.message : LoadFault → String
  | .missing path => "configuration file " ++ Text.quoted path.shown ++ " not found"
  | .unknownFormat path =>
    "configuration file " ++ Text.quoted path.shown ++ " is not of a registered file format"
  | .unreadable path fault => fault.message ++ " in " ++ path.shown
  | .malformed path => "syntax error in " ++ path.shown
  | .mismatch m => m.message

/-- The file that a path means, with its format: the file itself, or else the first with the
extension of a format behind its name. -/
def findFile (fs : FileSystem) (path : Path) : Except LoadFault (Path × Format) :=
  if fs.isFile path then
    match Format.all.find? fun f => path.extension? == some (.ofText f.extension) with
    | some format => .ok (path, format)
    | none => .error (.unknownFormat path)
  else
    let candidates := Format.all.filterMap fun f =>
      (path.withSuffix? f.extension).map fun p => (p, f)
    match candidates.find? fun c => fs.isFile c.1 with
    | some found => .ok found
    | none => .error (.missing path)

/-- The settings in the file that a path means. Bytes that are no text are replaced, and a
byte order mark is passed over. -/
def readFile (fs : FileSystem) (path : Path) : Except LoadFault (List (String × Datum)) := do
  let (file, format) ← findFile fs path
  match fs.readBytes file with
  | .error fault => .error (.unreadable file fault)
  | .ok bytes =>
    let cs := (Utf8.decodeLossy bytes).toList
    let cs := if cs.head? == some '\ufeff' then cs.drop 1 else cs
    match format.settings? (String.ofList cs) with
    | some (.table members) => return members
    | _ => .error (.malformed file)

/-- Where a project file is looked for unless one is asked for. -/
def defaultFile : Path := ⟨"schemagen"⟩

/-- The layer of the file: the one that was asked for, or else the default one, which may be
missing. -/
def fileLayer (fs : FileSystem) : Option Path → Except LoadFault Settings.Layer
  | some path => readFile fs path
  | none =>
    match readFile fs defaultFile with
    | .error (.malformed path) => .error (.malformed path)
    | .error _ => .ok []
    | .ok layer => .ok layer

/-- The project of a file and of environment variables. -/
def load (fs : FileSystem) (environment : List (String × String)) (path : Option Path) :
    Except LoadFault Project := do
  let layer ← fileLayer fs path
  let settings := (Settings.Layer.ofVariables environment).apply (layer.apply (.table []))
  match Project.decode .lenient settings with
  | .ok p => return p
  | .error m => .error (.mismatch m)

end SchemaForge.Project
