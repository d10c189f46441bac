import SchemaForge.Error
import SchemaForge.FileSystem.Operations
import SchemaForge.Migration.Checksum
import SchemaForge.Migration.ScriptName

/-!
# Migration scripts on disk

The scripts of a directory in ascending order of their versions. What is no file, or not
named like a script, is passed over; two scripts of one version are an error.

## Main definitions

* `Script` : a script read from disk.
* `Script.ofEntry` : what one entry of a directory contributes.
* `Script.arrange` : the order of versions, with the check that each occurs once.
* `Script.discover` : all scripts of a directory.
-/

namespace SchemaForge

/-- A migration script read from disk. -/
structure Script where
  version : Version
  description : String
  path : Path
  /-- The file name, by which the history knows the script. -/
  fileName : String
  checksum : String
  sql : String
  deriving Repr, DecidableEq

namespace Script

/-- What the entry `name` of a directory contributes: nothing, a script, or an error. `dir` is
the path under which the directory was asked for. -/
def ofEntry (fs : FileSystem) (dir : Path) (name : FileName) : Except Error (Option Script) :=
  match name.text? with
  | none => .ok none
  | some fileName =>
    let path := dir / ⟨fileName⟩
    if !fs.isFile path then .ok none
    else
      match ScriptName.parse? fileName with
      | none => .ok none
      | some (.error fault) => .error (.migration (some path) fault.message)
      | some (.ok parsed) =>
        match fs.readText path with
        | .error e => .error (.file path e)
        | .ok sql => .ok (some {
            version := parsed.version
            description := parsed.description
            path
            fileName
            checksum := Checksum.ofScript sql
            sql })

/-- The scripts of a list of entries; the first entry with an error decides. -/
def ofEntries (fs : FileSystem) (dir : Path) : List FileName → Except Error (List Script)
  | [] => .ok []
  | name :: names => do
    let script ← ofEntry fs dir name
    let scripts ← ofEntries fs dir names
    return script.toList ++ scripts

/-- Puts a script in front of the first one that does not come before it. -/
def insert (s : Script) : List Script → List Script
  | [] => [s]
  | t :: ts => if t.version.isBefore s.version then t :: insert s ts else s :: t :: ts

/-- The scripts in ascending order of their versions; those of one version stay in the order
in which they were found. -/
def sort : List Script → List Script
  | [] => []
  | s :: ss => insert s (sort ss)

/-- The first two neighbours of one version. -/
def duplicate? : List Script → Option (Script × Script)
  | s :: t :: rest => if s.version == t.version then some (s, t) else duplicate? (t :: rest)
  | _ => none

/-- The scripts in ascending order of their versions, each version once. -/
def arrange (scripts : List Script) : Except Error (List Script) :=
  let sorted := sort scripts
  match duplicate? sorted with
  | some (s, t) => .error (.duplicateVersion t.version t.path s.path)
  | none => .ok sorted

/-- The scripts of a directory in ascending order of their versions. What is no directory has
none. -/
def discover (fs : FileSystem) (dir : Path) : Except Error (List Script) :=
  if !fs.isDirectory dir then .ok []
  else
    match fs.list dir with
    | .error e => .error (.file dir e)
    | .ok (_, names) => (ofEntries fs dir names).bind arrange

end Script

end SchemaForge
