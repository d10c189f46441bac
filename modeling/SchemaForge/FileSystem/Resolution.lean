import SchemaForge.FileSystem.Basic

/-!
# Following a path

A path is followed step by step through the tree. A link on the way is replaced by its
target. What happens at the last name depends on what the path is followed for.

## Main definitions

* `Purpose` : what a path is followed for.
* `Place` : where a path leads: to something, or to a free name in a directory.
* `FileSystem.walk` : following steps from a place.
* `FileSystem.locate` : following a path from the working directory.
-/

namespace SchemaForge

/-- What a path is followed for. -/
inductive Purpose where
  /-- For what it leads to, through all links. -/
  | target
  /-- For the entry that it names, which may be a link. -/
  | entry
  /-- For a file to write to, through all links. A name with a slash behind it can be none. -/
  | writing
  deriving Repr, DecidableEq

/-- Where a path leads. -/
inductive Place where
  /-- To what is at a location. -/
  | taken (loc : Location)
  /-- To a name in the directory `dir` that is free. -/
  | free (dir : Location) (name : FileName)
  deriving Repr, DecidableEq

namespace FileSystem

/-- The longest name that a directory can hold, in bytes. -/
def maxNameLength : Nat := 255

/-- The longest path that can be followed, in bytes. -/
def maxPathLength : Nat := 4095

/-- How many links a path may lead through. -/
def maxLinks : Nat := 40

/-- How many steps remain once all links are followed is not known in advance; this many
always suffice, as no link is longer than the tree's longest target. -/
def stepBudget (fs : FileSystem) (steps : List Component) : Nat :=
  let longest := fs.nodes.foldl (fun n e =>
    match e.2 with
    | .link target => max n target.steps.length
    | _ => n) 0
  steps.length + (maxLinks + 1) * (longest + 1) + 1

/-- Follows steps from the directory `loc`. `slash` says whether a slash follows the last of
them, and `links` how many more links may be followed. -/
def walk (fs : FileSystem) (purpose : Purpose) (slash : Bool) :
    Nat → Nat → Location → List Component → Except IoFault Place
  | 0, _, _, _ => .error .linkLoop
  | _ + 1, _, loc, [] => .ok (.taken loc)
  | fuel + 1, links, loc, step :: rest =>
    match step with
    | .root => walk fs purpose slash fuel links [] rest
    | .current => walk fs purpose slash fuel links loc rest
    | .parent => walk fs purpose slash fuel links loc.dropLast rest
    | .name name =>
      let entry := loc ++ [name]
      if rest.isEmpty && slash && purpose == .writing then .error .isDirectory
      else if maxNameLength < name.bytes.length then .error .nameTooLong
      else
        match fs.node? entry with
        | none => if rest.isEmpty then .ok (.free loc name) else .error .notFound
        | some (.directory _) => walk fs purpose slash fuel links entry rest
        | some (.link target) =>
          if rest.isEmpty && purpose == .entry then .ok (.taken entry)
          else
            match links with
            | 0 => .error .linkLoop
            | links + 1 =>
              if target.text == "" then .error .notFound
              else
                walk fs purpose (slash || rest.isEmpty && target.endsInSlash) fuel links loc
                  (target.steps ++ rest)
        | some _ => if rest.isEmpty && !slash then .ok (.taken entry) else .error .notDirectory

/-- Follows a path from the working directory. The empty path leads nowhere. -/
def locate (fs : FileSystem) (purpose : Purpose) (p : Path) : Except IoFault Place :=
  if p.text.hasNul then .error .nulInPath
  else if p.text == "" then .error .notFound
  else if maxPathLength < p.text.bytes.length then .error .nameTooLong
  else walk fs purpose p.endsInSlash (fs.stepBudget p.steps) maxLinks fs.workingDirectory p.steps

/-- The place of what a path leads to. -/
def resolve (fs : FileSystem) (purpose : Purpose) (p : Path) : Except IoFault Location :=
  match fs.locate purpose p with
  | .ok (.taken loc) => .ok loc
  | .ok (.free ..) => .error .notFound
  | .error e => .error e

/-- What a path leads to, through all links. -/
def stat (fs : FileSystem) (p : Path) : Except IoFault Node :=
  match fs.resolve .target p with
  | .ok loc =>
    match fs.node? loc with
    | some node => .ok node
    | none => .error .notFound
  | .error e => .error e

/-- Whether a path leads to a directory. -/
def isDirectory (fs : FileSystem) (p : Path) : Bool :=
  match fs.stat p with
  | .ok (.directory _) => true
  | _ => false

/-- Whether a path leads to a file. -/
def isFile (fs : FileSystem) (p : Path) : Bool :=
  match fs.stat p with
  | .ok (.file ..) => true
  | _ => false

end FileSystem

end SchemaForge
