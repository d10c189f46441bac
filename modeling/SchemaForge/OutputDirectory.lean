import SchemaForge.Configuration.Basic
import SchemaForge.Error
import SchemaForge.FileSystem.Operations

/-!
# Output directories

A task owns its output directory and empties it before every run. Two checks guard this: a
configuration must want the cleaning, and the directory must not hold the project itself.

## Main definitions

* `OutputDirectory.checkClean` : the configuration must not turn the cleaning off.
* `OutputDirectory.checkSafe` : the directory is neither the project nor above it.
* `OutputDirectory.clean` : the directory is there and empty.
-/

namespace SchemaForge.OutputDirectory

/-- Refuses a configuration that does not want its output directory cleaned. -/
def checkClean (c : Configuration) : Except Error Unit :=
  if c.generator.target.clean then .ok ()
  else .error (.invariant ("generator.target.clean must not be set to false. " ++
    "Disabling the cleaning of the output directory can leave stale generated files behind."))

/-- Whether the output directory, by its path, holds the project or cannot be told. -/
def holdsProject (output project : Path) : Bool :=
  output.normalize.isEmpty || output.normalize.isPrefixOf project.normalize

/-- Refuses an output directory whose cleaning would wipe the project itself. -/
def checkSafe (output project : Path) : Except Error Unit :=
  if holdsProject output project then
    .error (.invariant ("output directory " ++ output.shown ++ " contains the project directory " ++
      project.shown))
  else .ok ()

/-- The place of an entry of the directory that a path leads to, found by the path with the name
of the entry behind it. -/
def entryAt (fs : FileSystem) (dir : Path) (name : FileName) : Except IoFault Location :=
  if FileSystem.maxPathLength < (dir / ⟨""⟩).text.bytes.length + name.bytes.length then
    .error .nameTooLong
  else
    match fs.list dir with
    | .error e => .error e
    | .ok (loc, names) => if name ∈ names then .ok (loc ++ [name]) else .error .notFound

/-- Removes an entry of the directory that a path leads to, with all below it. A link is removed and
not followed. The path is followed anew for the entry itself, once nothing is below it; if it leads
there no more, the entry stays. -/
def removeEntry (fs : FileSystem) (dir : Path) (name : FileName) : FileSystem.Outcome Unit :=
  match entryAt fs dir name with
  | .error e => (.error e, fs)
  | .ok loc =>
    match fs.removeEach (fs.below loc) with
    | (.error e, fs') => (.error e, fs')
    | (.ok (), fs') =>
      match entryAt fs' dir name with
      | .error e => if e == .notFound then (.ok (), fs') else (.error e, fs')
      | .ok loc' => fs'.removeAt loc'

/-- Removes entries one by one, up to the first that cannot be removed. -/
def removeEntries (fs : FileSystem) (dir : Path) : List FileName → Except Error Unit × FileSystem
  | [] => (.ok (), fs)
  | name :: names =>
    match removeEntry fs dir name with
    | (.ok (), fs') => removeEntries fs' dir names
    | (.error e, fs') => (.error (.file (dir / ⟨name⟩) e), fs')

/-- Leaves the directory present and empty. Links in it are removed and not followed. -/
def clean (fs : FileSystem) (dir : Path) : Except Error Unit × FileSystem :=
  match fs.makeDirectories dir with
  | (.error e, fs') => (.error (.file dir e), fs')
  | (.ok (), fs') =>
    match fs'.list dir with
    | .error e => (.error (.file dir e), fs')
    | .ok (_, names) => removeEntries fs' dir names

end SchemaForge.OutputDirectory
