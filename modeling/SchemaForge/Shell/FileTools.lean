import SchemaForge.Shell.Condition

/-!
# Programs that work on files

What the programs of the system do that list, copy, move and remove files.

## Main definitions

* `Shell.fileTools` : the programs by name.
-/

namespace SchemaForge.Shell

/-- The reason of a failure without its number. -/
def reason : IoFault → String
  | .os n => IoFault.osText n
  | .custom text => text

/-- Applies an operation to each argument; the status says whether all succeeded. -/
def forEach (operation : State → String → State × Bool) : Tool := fun s args =>
  let (s, ok) := args.foldl (fun (s, ok) arg =>
    let (s, ok') := operation s arg
    (s, ok && ok')) (s, true)
  s.withStatus (if ok then 0 else 1)

/-- The letters of the options among the arguments, and the arguments that are none. -/
def lettersOf (args : List String) : List Char × List String :=
  let isOption (a : String) : Bool := a.length > 1 && a.startsWith "-" && a != "--"
  let options := args.takeWhile (· != "--")
  let after := args.drop (options.length + 1)
  ((options.filter isOption).flatMap (fun a => a.toList.drop 1),
    options.filter (!isOption ·) ++ after)

/-- The complaint of a program about an argument. -/
def complainOf (s : State) (program what arg why : String) : State × Bool :=
  (s.complain (program ++ ": " ++ what ++ " '" ++ arg ++ "': " ++ why), false)

/-- The names in a text between slashes, joined again without those at its end. -/
def lastName (path : String) : String :=
  ((path.splitOn "/").filter (· != "")).getLast?.getD path

/-- The path of an entry under a name in a directory. -/
def inDirectory (dir name : String) : String :=
  if dir.endsWith "/" then dir ++ name else dir ++ "/" ++ name

/-- The path that a file is put at: a directory takes it under its own name. -/
def targetOf (fs : FileSystem) (source target : String) : String :=
  if fs.isDirectory ⟨target⟩ then inDirectory target (lastName source) else target

/-! ### Contents -/

/-- The content of a file by its name, or of the input for a dash; the input is used up. -/
def contentOf (s : State) (arg : String) : Except IoFault (Bytes × State) :=
  if arg == "-" then .ok (s.input, { s with input := [] })
  else (s.files.readBytes ⟨arg⟩).map fun bs => (bs, s)

/-- Prints files, or the input. -/
def concatenate : Tool := fun s args =>
  let paths := (lettersOf args).2
  forEach (fun s arg =>
    match contentOf s arg with
    | .ok (bytes, s) => (s.emit bytes, true)
    | .error e => (s.complain ("cat: " ++ arg ++ ": " ++ reason e), false))
    s (if paths.isEmpty then ["-"] else paths)

/-- Creates files that are missing. -/
def touch : Tool := forEach fun s arg =>
  if (s.files.stat ⟨arg⟩).isOk then (s, true)
  else
    match s.files.writeBytes ⟨arg⟩ [] with
    | (.ok (), files) => ({ s with files }, true)
    | (.error e, files) => complainOf { s with files } "touch" "cannot touch" arg (reason e)

/-- Copies the input to files and to the output. -/
def tee : Tool := fun s args =>
  let (letters, paths) := lettersOf args
  let s := s.emit s.input
  let append := letters.contains 'a'
  let ended := forEach (fun s arg =>
    let before := if append then ((s.files.readBytes ⟨arg⟩).toOption).getD [] else []
    match s.files.writeBytes ⟨arg⟩ (before ++ s.input) with
    | (.ok (), files) => ({ s with files }, true)
    | (.error e, files) => ({ s with files }.complain ("tee: " ++ arg ++ ": " ++ reason e), false))
    s paths
  { ended with input := [] }

/-! ### Directories -/

/-- Creates directories. -/
def makeDirectories : Tool := fun s args =>
  let (letters, args) := lettersOf args
  forEach (fun s arg =>
    let (r, files) :=
      if letters.contains 'p' then s.files.makeDirectories ⟨arg⟩ else s.files.makeDirectory ⟨arg⟩
    match r with
    | .ok () => ({ s with files }, true)
    | .error e => complainOf { s with files } "mkdir" "cannot create directory" arg (reason e))
    s args

/-- Removes empty directories. -/
def removeDirectories : Tool := fun s args =>
  forEach (fun s arg =>
    let refuse (why : String) : State × Bool :=
      (s.complain ("rmdir: failed to remove '" ++ arg ++ "': " ++ why), false)
    match s.files.resolve .entry ⟨arg⟩ with
    | .error e => refuse (reason e)
    | .ok loc =>
      if !s.files.isDirectoryAt loc then refuse (reason .notDirectory)
      else if !(s.files.entries loc).isEmpty then refuse "Directory not empty"
      else
        match s.files.removeAt loc with
        | (.ok (), files) => ({ s with files }, true)
        | (.error e, _) => refuse (reason e)) s args

/-- The names in a directory, in order; hidden ones only if all are wanted. -/
def namesIn (fs : FileSystem) (loc : Location) (all : Bool) : List String :=
  let names := ((fs.entries loc).map RawText.shown).filter fun n => all || !n.startsWith "."
  names.mergeSort fun a b => FileSystem.bytesBefore (Utf8.encode a) (Utf8.encode b)

/-- Lists directories and files. -/
def list : Tool := fun s args =>
  let (letters, paths) := lettersOf args
  let paths := if paths.isEmpty then ["."] else paths
  let sorted := paths.mergeSort fun a b => FileSystem.bytesBefore (Utf8.encode a) (Utf8.encode b)
  let (missing, found) := sorted.partition fun (p : String) =>
    (s.files.resolve .entry ⟨p⟩).toOption.isNone
  let s := missing.foldl (fun s p =>
    match s.files.resolve .entry ⟨p⟩ with
    | .error e => s.complain ("ls: cannot access '" ++ p ++ "': " ++ reason e)
    | .ok _ => s) s
  let asDirectory (p : String) : Bool := s.files.isDirectory ⟨p⟩ && !letters.contains 'd'
  let (dirs, files) := found.partition asDirectory
  let s := files.foldl (fun s p => s.say p) s
  let s := (dirs.foldl (fun (s, first) p =>
    let heading := paths.length > 1
    let s := if first then s else s.say ""
    let s := if heading then s.say (p ++ ":") else s
    match s.files.resolve .target ⟨p⟩ with
    | .error _ => (s, false)
    | .ok loc =>
      let dots := if letters.contains 'a' then [".", ".."] else []
      let all := letters.contains 'a' || letters.contains 'A'
      ((dots ++ namesIn s.files loc all).foldl (fun s n => s.say n) s, false))
    (s, files.isEmpty)).1
  s.withStatus (if missing.isEmpty then 0 else 2)

/-! ### Entries -/

/-- Removes files, and directories where the options allow it. -/
def remove : Tool := fun s args =>
  let (letters, args) := lettersOf args
  let deep := letters.any ['r', 'R'].contains
  if args.isEmpty && !letters.contains 'f' then
    (s.complain "rm: missing operand\nTry 'rm --help' for more information.").withStatus 1
  else
    forEach (fun s arg =>
      let refuse (why : String) : State × Bool := complainOf s "rm" "cannot remove" arg why
      match s.files.resolve .entry ⟨arg⟩ with
      | .error e =>
        if letters.contains 'f' && (e == .notFound || e == .notDirectory) then (s, true)
        else refuse (reason e)
      | .ok loc =>
        if s.files.isDirectoryAt loc && !deep then
          if letters.contains 'd' && (s.files.entries loc).isEmpty then
            ({ s with files := (s.files.removeAt loc).2 }, true)
          else refuse "Is a directory"
        else
          match s.files.removeTree loc with
          | (.ok (), files) => ({ s with files }, true)
          | (.error e, _) => refuse (reason e)) s args

/-- Puts copies of all that is below one place below another. -/
def copyBelow (fs : FileSystem) (source target : Location) : FileSystem :=
  ((fs.below source).reverse.filterMap fun loc =>
    (fs.node? loc).map fun n => (target ++ loc.drop source.length, n)).foldl
    (fun fs n => fs.put n.1 n.2) fs

/-- Applies an operation to each source with its target; several sources, or a source for a
directory, keep their names. -/
def forSources (program : String) (operation : State → String → String → State × Bool) : Tool :=
  fun s args =>
    let usage (why : String) : State :=
      (s.complain (program ++ ": " ++ why ++ "\nTry '" ++ program ++
        " --help' for more information.")).withStatus 1
    match args.getLast?, args.dropLast with
    | none, _ => usage "missing file operand"
    | some only, [] => usage ("missing destination file operand after '" ++ only ++ "'")
    | some target, sources =>
      if sources.length > 1 && !s.files.isDirectory ⟨target⟩ then
        (s.complain (program ++ ": target '" ++ target ++ "': " ++
          (if (s.files.stat ⟨target⟩).isOk then "Not a directory"
            else "No such file or directory"))).withStatus 1
      else forEach (fun s source => operation s source (targetOf s.files source target)) s sources

/-- Copies files, and directories where the options allow it. -/
def copy : Tool := fun s args =>
  let (letters, args) := lettersOf args
  let deep := letters.any ['r', 'R', 'a'].contains
  forSources "cp" (fun s source target =>
    let cannotCreate (e : IoFault) : State × Bool :=
      complainOf s "cp" "cannot create regular file" target (reason e)
    match s.files.resolve .target ⟨source⟩ with
    | .error e => complainOf s "cp" "cannot stat" source (reason e)
    | .ok loc =>
      if s.files.isDirectoryAt loc then
        if !deep then
          (s.complain ("cp: -r not specified; omitting directory '" ++ source ++ "'"), false)
        else
          let made :=
            if s.files.isDirectory ⟨target⟩ then (.ok (), s.files)
            else s.files.makeDirectory ⟨target⟩
          match made with
          | (.error e, _) => complainOf s "cp" "cannot create directory" target (reason e)
          | (.ok (), files) =>
            match files.resolve .target ⟨target⟩ with
            | .ok place => ({ s with files := copyBelow files loc place }, true)
            | .error e => cannotCreate e
      else
        match s.files.readBytes ⟨source⟩ with
        | .error e => complainOf s "cp" "cannot open" source (reason e)
        | .ok bytes =>
          match s.files.writeBytes ⟨target⟩ bytes with
          | (.ok (), files) => ({ s with files }, true)
          | (.error e, _) => cannotCreate e) s args

/-- Moves entries to other places. -/
def move : Tool := fun s args =>
  let args := (lettersOf args).2
  forSources "mv" (fun s source target =>
    match s.files.resolve .entry ⟨source⟩ with
    | .error e => complainOf s "mv" "cannot stat" source (reason e)
    | .ok loc =>
      let place : Except IoFault Location :=
        match s.files.locate .entry ⟨target⟩ with
        | .ok (.free dir name) => .ok (dir ++ [name])
        | .ok (.taken place) => .ok place
        | .error e => .error e
      match place, s.files.node? loc with
      | .ok place, some node =>
        let files := (s.files.removeTree place).2.put place node
        ({ s with files := ((copyBelow files loc place).removeTree loc).2 }, true)
      | .error e, _ =>
        let why := "mv: cannot move '" ++ source ++ "' to '" ++ target ++ "': " ++ reason e
        (s.complain why, false)
      | _, none => (s, true)) s args

/-- Puts a second name for a file, or a symbolic link, at a free place. -/
def link : Tool := fun s args =>
  let (letters, args) := lettersOf args
  let symbolic := letters.contains 's'
  let args := match args with
    | [only] => [only, "."]
    | args => args
  forSources "ln" (fun s source target =>
    let kind := if symbolic then "symbolic link" else "hard link"
    let refuse (why : String) : State × Bool :=
      complainOf s "ln" ("failed to create " ++ kind) target why
    let node : Except IoFault Node :=
      if symbolic then .ok (.link ⟨source⟩) else s.files.stat ⟨source⟩
    match node with
    | .error e => complainOf s "ln" "failed to access" source (reason e)
    | .ok node =>
      match s.files.locate .entry ⟨target⟩ with
      | .ok (.free dir name) => ({ s with files := (s.files.create dir name node).2 }, true)
      | .ok (.taken loc) =>
        if letters.contains 'f' then ({ s with files := s.files.put loc node }, true)
        else refuse "File exists"
      | .error e => refuse (reason e)) s args

/-- Whether a mode lets its file be run; `none` where it says nothing about that. -/
def modeRuns? (mode : String) : Option Bool :=
  if mode.toList.all Char.isDigit then
    some (mode.toList.any fun c => (c.toNat - 0x30) % 2 == 1)
  else if !mode.toList.contains 'x' then none
  else if mode.toList.contains '-' then some false
  else some true

/-- Lets files be run, or no longer. -/
def changeMode : Tool := fun s args =>
  match args.filter (· != "-R") with
  | mode :: paths =>
    forEach (fun s arg =>
      match s.files.resolve .target ⟨arg⟩ with
      | .error e => (s.complain ("chmod: cannot access '" ++ arg ++ "': " ++ reason e), false)
      | .ok loc =>
        match s.files.node? loc, modeRuns? mode with
        | some (.file content _), some runs =>
          ({ s with files := s.files.put loc (.file content runs) }, true)
        | _, _ => (s, true)) s paths
  | [] =>
    (s.complain "chmod: missing operand\nTry 'chmod --help' for more information.").withStatus 1

/-- Prints where links lead. -/
def readLink : Tool := fun s args =>
  let (letters, args) := lettersOf args
  forEach (fun s arg =>
    if letters.any ['f', 'e', 'm'].contains then
      match s.files.locate .target ⟨arg⟩ with
      | .ok (.taken loc) => (s.say (FileSystem.pathOf loc).shown, true)
      | .ok (.free dir name) => (s.say (FileSystem.pathOf (dir ++ [name])).shown, true)
      | .error _ => (s, false)
    else
      match Condition.nodeNamed s.files arg with
      | some (.link target) => (s.say target.shown, true)
      | _ => (s, false)) s args

/-- The programs that work on files, by name. -/
def fileTools : List (String × Tool) := [
  ("cat", concatenate), ("touch", touch), ("tee", tee), ("mkdir", makeDirectories),
  ("rmdir", removeDirectories), ("ls", list), ("rm", remove), ("cp", copy), ("mv", move),
  ("ln", link), ("chmod", changeMode), ("readlink", readLink),
  ("realpath", fun s args => readLink s ("-f" :: args))]

end SchemaForge.Shell
