import SchemaForge.FileSystem.Operations

/-!
# The tree of a system

What every system has in its file tree before anything is added to it: the usual directories
at the root, a few devices, and directories that belong to the system alone.

## Main definitions

* `FileSystem.system` : the tree.
* `FileSystem.programs` : the directory of the programs.
-/

namespace SchemaForge.FileSystem

/-- The place that names lead to from the root. -/
def placeOf (names : List String) : Location := names.map RawText.ofText

/-- The directory of the programs that come with the system. -/
def programs : Location := placeOf ["usr", "bin"]

/-- The directories that every system has. -/
def usualDirectories : List (List String) := [
  ["boot"], ["dev"], ["dev", "shm"], ["etc"], ["home"], ["media"], ["mnt"], ["opt"], ["root"],
  ["run"], ["srv"], ["tmp"], ["usr"], ["usr", "bin"], ["usr", "include"], ["usr", "lib"],
  ["usr", "lib64"], ["usr", "local"], ["usr", "local", "bin"], ["usr", "local", "lib"],
  ["usr", "local", "sbin"], ["usr", "sbin"], ["usr", "share"], ["usr", "src"], ["var"],
  ["var", "cache"], ["var", "lib"], ["var", "log"], ["var", "tmp"]]

/-- The names at the root that lead to directories of the same name below another one. -/
def merged : List String := ["bin", "lib", "lib64", "sbin"]

/-- The devices, and whether they are full. -/
def devices : List (String × Bool) := [("null", false), ("zero", false), ("full", true)]

/-- The tree that every system has. What describes the processes can be looked at and holds
nothing that a path could create. -/
def system : FileSystem where
  nodes :=
    usualDirectories.map (fun names => (placeOf names, .directory none)) ++
    merged.map (fun name => (placeOf [name], .link ⟨"usr/" ++ name⟩)) ++
    devices.map (fun d => (placeOf ["dev", d.1], .device d.2)) ++
    [(placeOf ["proc"], .directory (some .notFound))]
  workingDirectory := []

end SchemaForge.FileSystem
