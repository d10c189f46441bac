import SchemaForge.CommandLine.Run

/-!
# The command line

Reads the files that a run may ask for, runs it, and carries out what it did: the files that
it left are written, and what it printed is printed.
-/

namespace SchemaForge.Main

open CommandLine

/-- The files that settings can come from. -/
def settingsFiles (arguments : List String) : List Path :=
  let asked := (Arguments.ofList arguments).toOption.bind (·.config)
  let path := asked.getD Project.defaultFile
  path :: Project.Format.all.filterMap fun f => path.withSuffix? f.extension

/-- The schema file of the project that the settings describe. -/
def schemaFiles (arguments : List String) (environment : List (String × String))
    (fs : FileSystem) : List Path :=
  match Arguments.ofList arguments with
  | .error _ => []
  | .ok a =>
    match Project.load fs environment a.config with
    | .error _ => []
    | .ok p =>
      let dir := a.projectDir.getD fs.currentDirectory
      (p.generator.schemaFile.map (dir / ·)).toList

/-- The variables in a list of entries, each ended by a NUL character. -/
def variablesOf (content : String) : List (String × String) :=
  (content.splitOn "\x00").filterMap fun entry =>
    match entry.splitOn "=" with
    | name :: value => if name == "" then none else some (name, "=".intercalate value)
    | [] => none

/-- Takes the content of files over into a tree; files that cannot be read are left out. -/
def takeOver (fs : FileSystem) : List Path → IO FileSystem
  | [] => return fs
  | path :: paths => do
    let taken ← try
        let content ← IO.FS.readBinFile path.shown
        let parent := (path.parent?.getD ⟨""⟩)
        pure ((fs.makeDirectories parent).2.writeBytes path content.toList).2
      catch _ => pure fs
    takeOver taken paths

/-- Writes what is new in a tree, directories before what is in them. -/
def carryOut (before after : FileSystem) : IO Unit := do
  let nodes := after.nodes.filter fun n => before.node? n.1 != some n.2
  for (loc, node) in nodes.mergeSort fun a b => a.1.length ≤ b.1.length do
    let path := (FileSystem.pathOf loc).shown
    match node with
    | .directory _ => IO.FS.createDirAll path
    | .file content _ => IO.FS.writeBinFile path ⟨content.toArray⟩
    | .link _ | .device _ => pure ()

/-- Runs the command line on the files of the machine. -/
def run (arguments : List String) : IO UInt32 := do
  let environ ← try IO.FS.readFile "/proc/self/environ" catch _ => pure ""
  let environment := variablesOf environ
  let directory : Path := ⟨(← IO.currentDir).toString⟩
  let (_, tree) := FileSystem.system.makeDirectories directory
  let here := (tree.resolve .target directory).toOption.getD []
  let settings ← takeOver { tree with workingDirectory := here } (settingsFiles arguments)
  let files ← takeOver settings (schemaFiles arguments environment settings)
  let before := Shell.install files
  let (output, after) := CommandLine.run arguments environment before
  carryOut before after
  IO.print output.stdout
  IO.eprint output.stderr
  return output.exitCode.toUInt32

end SchemaForge.Main

/-- The command line. -/
def main (arguments : List String) : IO UInt32 := SchemaForge.Main.run arguments
