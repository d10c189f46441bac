import SchemaForge.Text.Blank
import SchemaForge.Text.Raw

/-!
# Paths

A path is what names a file, absolute when it starts with a slash. It is kept as it was given,
byte by byte, and need not be a text: joining and taking a parent cut and append, and nothing
is simplified unless `normalize` is asked to.

## Main definitions

* `Path.steps`, `Path.endsInSlash` : every part of the path, as a step through the file tree,
  and whether it asks for a directory.
* `Path.components` : the parts that tell two paths apart; paths are compared by them.
* `Path.join`, `Path.parent?` : appending and cutting.
* `Path.normalize` : the components once `.` and `..` are resolved without looking at files.
* `Path.text?`, `Path.shown` : the path as a text, and as messages show it.
-/

namespace SchemaForge

/-- What names a file. -/
structure Path where
  /-- The name as given. -/
  text : RawText
  deriving Repr, DecidableEq, Inhabited

/-- A part of a path. -/
inductive Component where
  /-- The slash at the start of an absolute path. -/
  | root
  /-- The directory itself. -/
  | current
  /-- The directory above. -/
  | parent
  /-- The entry of that name. -/
  | name (s : RawText)
  deriving Repr, DecidableEq

namespace Path

/-- The path as a text, if it is one. -/
def text? (p : Path) : Option String := p.text.text?

/-- The path as messages show it. -/
def shown (p : Path) : String := p.text.shown

/-- The byte of a slash. -/
def slash : UInt8 := 0x2F

/-- The byte of a dot. -/
def dot : UInt8 := 0x2E

/-- Whether the path starts at the root. -/
def isAbsolute (p : Path) : Bool :=
  p.text.bytes.head? == some slash

/-- The component that a piece between slashes stands for. -/
def componentOf (piece : Bytes) : Component :=
  if piece == [dot] then .current
  else if piece == [dot, dot] then .parent
  else .name ⟨piece⟩

/-- The pieces between slashes that are not empty, as components. -/
def piecesOf (bytes : Bytes) : List Component :=
  ((Text.pieces (· == slash) bytes).filter (· != [])).map componentOf

/-- Every part of the path as a step through the file tree. Repeated slashes and one at the
end make no steps. -/
def steps (p : Path) : List Component :=
  if p.isAbsolute then .root :: piecesOf p.text.bytes else piecesOf p.text.bytes

/-- Whether the path ends in a slash, which asks for a directory. -/
def endsInSlash (p : Path) : Bool :=
  p.text.bytes.getLast? == some slash

/-- The steps that lead elsewhere. -/
def moves (cs : List Component) : List Component :=
  cs.filter (· != .current)

/-- The parts that tell two paths apart: the steps that lead elsewhere, and a leading `.` of
a relative path. -/
def components (p : Path) : List Component :=
  match p.steps with
  | .current :: rest => .current :: moves rest
  | cs => moves cs

/-- Paths are the same when they have the same components: repeated slashes, a slash at the
end and `.` inside make no difference. -/
instance : BEq Path := ⟨fun a b => a.components == b.components⟩

/-- The path `q` as seen from the directory `p`. An absolute `q` stands alone; joining the
empty path leaves a slash at the end. -/
def join (p q : Path) : Path :=
  if q.isAbsolute || p.text == "" then q
  else if p.endsInSlash then ⟨⟨p.text.bytes ++ q.text.bytes⟩⟩
  else ⟨⟨p.text.bytes ++ slash :: q.text.bytes⟩⟩

instance : HDiv Path Path Path := ⟨join⟩

/-- Whether a piece between slashes leads nowhere. -/
def isIdle (piece : Bytes) : Bool :=
  piece == [] || piece == [dot]

/-- Pieces with slashes between them. -/
def ofPieces : List Bytes → Bytes
  | [] => []
  | [p] => p
  | p :: q :: ps => p ++ slash :: ofPieces (q :: ps)

/-- The path of the directory that holds the entry: all up to the last component that leads
elsewhere. The root and the empty path have none. -/
def parent? (p : Path) : Option Path :=
  match Text.pieces (· == slash) p.text.bytes with
  | [] => none
  | first :: rest =>
    match rest.reverse.dropWhile isIdle with
    | [] => if first == [] then none else some ⟨""⟩
    | _ :: before =>
      match before.dropWhile isIdle with
      | [] => some (if p.isAbsolute then ⟨"/"⟩ else ⟨⟨first⟩⟩)
      | kept => some ⟨⟨ofPieces (first :: kept.reverse)⟩⟩

/-- The name of the entry, unless the path ends in the root, in `.` alone or in `..`. -/
def fileName? (p : Path) : Option RawText :=
  match p.components.getLast? with
  | some (.name s) => some s
  | _ => none

/-- What follows the last dot of the entry's name. A dot at its start does not count. -/
def extension? (p : Path) : Option RawText := do
  let name ← p.fileName?
  match (Text.pieces (· == dot) name.bytes).reverse with
  | last :: before :: more => if before.isEmpty && more.isEmpty then none else some ⟨last⟩
  | _ => none

/-- The path with an extension behind the entry's name; `none` if it has no such name. -/
def withSuffix? (p : Path) (extension : String) : Option Path := do
  let name ← p.fileName?
  let parent ← p.parent?
  return parent / ⟨name ++ RawText.ofText ("." ++ extension)⟩

/-- One component on top of those already resolved, the latest first. A `..` takes back a
name; at the root, and where nothing is left, it has no effect. -/
def resolveStep (resolved : List Component) (c : Component) : List Component :=
  match c with
  | .current => resolved
  | .parent =>
    match resolved with
    | .name _ :: rest => rest
    | _ => resolved
  | c => c :: resolved

/-- The components of a path once `.` and `..` are resolved without looking at files. -/
def normalize (p : Path) : List Component :=
  (p.components.foldl resolveStep []).reverse

end Path

end SchemaForge
