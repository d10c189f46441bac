import SchemaForge.Path
import SchemaForge.IoFault

/-!
# A file tree as a value

Files, directories and symbolic links by their place below the root. Everything that reads
or changes files does so on such a value, so what an operation leaves alone can be stated.

There are no permissions: a file can always be read and written by whoever finds it, and only
a directory can refuse a change. Devices are there for what is written to them. Reading one
gives nothing, also where the real device never comes to an end, as `/dev/zero` and
`/dev/full` do not.

## Main definitions

* `FileName`, `Location`, `Node` : a name in a directory, a place below the root, and what
  can be there.
* `FileSystem.node?` : what is at a place. All else is stated in terms of it.
* `FileSystem.put`, `FileSystem.erase` : a change at one place.
* `FileSystem.entries` : the names in a directory.
-/

namespace SchemaForge

/-- A name in a directory. -/
abbrev FileName := RawText

/-- A place in the tree: the names on the way down from the root. -/
abbrev Location := List FileName

/-- What is at a place. -/
inductive Node where
  /-- A file, which may be run as a program or not. -/
  | file (content : Bytes) (executable : Bool)
  /-- A directory. One with a refusal keeps its entries as they are, and that is what an
  attempt to change them comes to. -/
  | directory (refusal : Option IoFault)
  /-- A symbolic link. -/
  | link (target : Path)
  /-- A device that gives nothing when it is read. What is written to it is gone, unless it
  is full. -/
  | device (full : Bool)
  deriving Repr, DecidableEq

/-- A file tree with a working directory. The root is a directory and has no node of its
own. -/
structure FileSystem where
  nodes : List (Location × Node)
  workingDirectory : Location
  deriving Repr

namespace FileSystem

/-- A tree with nothing in it. -/
def empty : FileSystem := ⟨[], []⟩

/-- What is at a place. -/
def node? (fs : FileSystem) (loc : Location) : Option Node :=
  if loc == [] then some (.directory none)
  else (fs.nodes.find? (·.1 == loc)).map (·.2)

/-- Puts a node at a place. -/
def put (fs : FileSystem) (loc : Location) (node : Node) : FileSystem :=
  { fs with nodes := (loc, node) :: fs.nodes.filter (·.1 != loc) }

/-- Takes away what is at a place. -/
def erase (fs : FileSystem) (loc : Location) : FileSystem :=
  { fs with nodes := fs.nodes.filter (·.1 != loc) }

/-- Whether there is a directory at a place. -/
def isDirectoryAt (fs : FileSystem) (loc : Location) : Bool :=
  match fs.node? loc with
  | some (.directory _) => true
  | _ => false

/-- Why the entries of the directory at a place cannot be changed, if they cannot. -/
def refusalAt (fs : FileSystem) (loc : Location) : Option IoFault :=
  match fs.node? loc with
  | some (.directory refusal) => refusal
  | some _ => some .notDirectory
  | none => some .notFound

/-- The name of a place right below `dir`. -/
def nameBelow? (dir loc : Location) : Option FileName :=
  if dir.isPrefixOf loc then
    match loc.drop dir.length with
    | [name] => some name
    | _ => none
  else none

/-- Whether a place is somewhere below `dir`. -/
def isBelow (dir loc : Location) : Bool :=
  dir.isPrefixOf loc && dir.length < loc.length

/-- The names in the directory at a place, in no particular order. -/
def entries (fs : FileSystem) (dir : Location) : List FileName :=
  fs.nodes.filterMap fun n => nameBelow? dir n.1

/-- The places below `dir`, those further down first. -/
def below (fs : FileSystem) (dir : Location) : List Location :=
  ((fs.nodes.map (·.1)).filter (isBelow dir)).mergeSort fun a b => b.length ≤ a.length

/-- The path of a place from the root. -/
def pathOf (loc : Location) : Path :=
  match loc with
  | [] => ⟨"/"⟩
  | _ => ⟨⟨loc.flatMap fun n => Path.slash :: n.bytes⟩⟩

/-- The path of the working directory. -/
def currentDirectory (fs : FileSystem) : Path := pathOf fs.workingDirectory

end FileSystem

end SchemaForge
