import SchemaForge.FileSystem.Resolution

/-!
# Operations on files

Reading, writing, and creating and removing directories. An operation that changes the tree
answers with the tree it leaves behind, also when it fails part of the way.

## Main definitions

* `FileSystem.readBytes`, `readText`, `writeBytes` : whole files.
* `FileSystem.makeDirectories` : a directory with all that are missing above it.
* `FileSystem.list` : the entries of a directory.
* `FileSystem.removeTree` : a directory with all below it; links are removed, not followed.
-/

namespace SchemaForge.FileSystem

/-- The outcome of an operation that may change the tree. -/
abbrev Outcome (α : Type) := Except IoFault α × FileSystem

/-- The content of the file that a path leads to. -/
def readBytes (fs : FileSystem) (p : Path) : Except IoFault Bytes :=
  match fs.stat p with
  | .ok (.file content _) => .ok content
  | .ok (.device _) => .ok []
  | .ok (.directory _) => .error .isDirectory
  | .ok (.link _) => .error .linkLoop
  | .error e => .error e

/-- The text of the file that a path leads to. -/
def readText (fs : FileSystem) (p : Path) : Except IoFault String :=
  match fs.readBytes p with
  | .ok content =>
    match Utf8.decode? content with
    | some s => .ok s
    | none => .error .notText
  | .error e => .error e

/-- Puts a node at a free name of the directory at `dir`. -/
def create (fs : FileSystem) (dir : Location) (name : FileName) (node : Node) : Outcome Unit :=
  match fs.refusalAt dir with
  | some e => (.error e, fs)
  | none => (.ok (), fs.put (dir ++ [name]) node)

/-- Writes a whole file. A link at the end is followed, and one to a free name makes that
name the place. -/
def writeBytes (fs : FileSystem) (p : Path) (content : Bytes) : Outcome Unit :=
  match fs.locate .writing p with
  | .error e => (.error e, fs)
  | .ok (.free dir name) => fs.create dir name (.file content false)
  | .ok (.taken loc) =>
    match fs.node? loc with
    | some (.file _ executable) => (.ok (), fs.put loc (.file content executable))
    | some (.device full) => (if full && content != [] then .error .noSpace else .ok (), fs)
    | some (.directory _) => (.error .isDirectory, fs)
    | _ => (.error .notFound, fs)

/-- Creates one directory in a directory that exists. -/
def makeDirectory (fs : FileSystem) (p : Path) : Outcome Unit :=
  match fs.locate .entry p with
  | .error e => (.error e, fs)
  | .ok (.taken _) => (.error .alreadyExists, fs)
  | .ok (.free dir name) => fs.create dir name (.directory none)

/-- Creates the directories of a list in turn; one that is there already is left alone. -/
def makeEach (fs : FileSystem) : List Path → Outcome Unit
  | [] => (.ok (), fs)
  | p :: ps =>
    match fs.makeDirectory p with
    | (.ok (), fs') => makeEach fs' ps
    | (.error e, fs') =>
      if fs'.isDirectory p then makeEach fs' ps else (.error e, fs')

/-- Creates the nearest directory whose parent exists, of a path and those above it, and then
the directories below it, which `missing` holds in the order in which they are to be created.
The fuel bounds how many are above the path. -/
def makeFrom (fs : FileSystem) (missing : List Path) : Nat → Path → Outcome Unit
  | 0, _ => fs.makeEach missing
  | fuel + 1, p =>
    if p.text == "" then fs.makeEach missing
    else
      match fs.makeDirectory p with
      | (.ok (), fs') => fs'.makeEach missing
      | (.error e, fs') =>
        if e == .notFound then
          match p.parent? with
          | some above => makeFrom fs' (p :: missing) fuel above
          | none => (.error .notFound, fs')
        else if fs'.isDirectory p then fs'.makeEach missing
        else (.error e, fs')

/-- Creates a directory with all that are missing above it. Nothing is to be done for the
empty path. -/
def makeDirectories (fs : FileSystem) (p : Path) : Outcome Unit :=
  fs.makeFrom [] (p.text.bytes.length + 1) p

/-- The directory that a path leads to, with the names in it. -/
def list (fs : FileSystem) (p : Path) : Except IoFault (Location × List FileName) :=
  match fs.resolve .target p with
  | .error e => .error e
  | .ok loc =>
    if fs.isDirectoryAt loc then .ok (loc, fs.entries loc) else .error .notDirectory

/-- Removes what is at a place, if its directory allows it. -/
def removeAt (fs : FileSystem) (loc : Location) : Outcome Unit :=
  match fs.refusalAt loc.dropLast with
  | some e => (.error e, fs)
  | none => (.ok (), fs.erase loc)

/-- Removes the places of a list in turn, up to the first that cannot be. -/
def removeEach (fs : FileSystem) : List Location → Outcome Unit
  | [] => (.ok (), fs)
  | loc :: locs =>
    match fs.removeAt loc with
    | (.ok (), fs') => removeEach fs' locs
    | (.error e, fs') => (.error e, fs')

/-- Removes what is at a place with all below it. A link is removed and not followed. -/
def removeTree (fs : FileSystem) (loc : Location) : Outcome Unit :=
  fs.removeEach (fs.below loc ++ [loc])

/-- How a place is written in a listing: a directory ends in a slash, a link in `@`. -/
def listingMark : Node → String
  | .file .. => ""
  | .directory _ => "/"
  | .link _ => "@"
  | .device _ => ""

/-- Whether the bytes of one text come before those of another. -/
def bytesBefore : Bytes → Bytes → Bool
  | [], _ => true
  | _ :: _, [] => false
  | a :: as, b :: bs => if a == b then bytesBefore as bs else a < b

/-- Everything below the directory that a path leads to, by the bytes of its full relative
path: `none` if the path leads to no directory. -/
def listing? (fs : FileSystem) (p : Path) : Option (List String) :=
  match fs.resolve .target p with
  | .error _ => none
  | .ok dir =>
    if fs.isDirectoryAt dir then
      let found := fs.nodes.filterMap fun n =>
        if isBelow dir n.1 then
          let name := "/".intercalate ((n.1.drop dir.length).map RawText.shown)
          some (name ++ listingMark n.2)
        else none
      some (found.mergeSort fun a b => bytesBefore (Utf8.encode a) (Utf8.encode b))
    else none

end SchemaForge.FileSystem
