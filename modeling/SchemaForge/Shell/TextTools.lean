import SchemaForge.Pattern.Reader
import SchemaForge.Shell.FileTools

/-!
# Programs that work on texts

What the programs of the system do that count, choose and change the lines of a text.

## Main definitions

* `Shell.textTools` : the programs by name.
-/

namespace SchemaForge.Shell

/-- The lines of a sequence of bytes, and whether a line end follows the last. -/
def byteLines (bs : Bytes) : List Bytes :=
  let ps := Text.pieces (· == 0x0A) bs
  if ps.getLast? == some [] then ps.dropLast else ps

/-- Lines with a line end behind each. -/
def ofLines (lines : List Bytes) : Bytes := lines.flatMap (· ++ [0x0A])

/-- Applies a program to each file, or to the input if there is none. -/
def forContents (program : String) (operation : State → String → Bytes → State) : Tool :=
  fun s args =>
    forEach (fun s arg =>
      match contentOf s arg with
      | .ok (bytes, s) => (operation s arg bytes, true)
      | .error .isDirectory =>
        (s.complain (program ++ ": " ++ arg ++ ": " ++ reason .isDirectory), false)
      | .error e =>
        (s.complain (program ++ ": cannot open '" ++ arg ++ "' for reading: " ++ reason e), false))
      s (if args.isEmpty then ["-"] else args)

/-! ### Parts of a text -/

/-- How much of a text is wanted: so many lines or bytes. -/
structure Portion where
  bytes : Bool := false
  /-- Whether the count says where the part starts. -/
  fromStart : Bool := false
  count : Nat := 10

/-- The portion that options ask for, and the arguments that are no options. -/
def portionOf (p : Portion) : List String → Portion × List String
  | "-n" :: n :: args => portionOf (counted p false n) args
  | "-c" :: n :: args => portionOf (counted p true n) args
  | arg :: args =>
    match arg.toList with
    | '-' :: 'n' :: n => portionOf (counted p false (String.ofList n)) args
    | '-' :: 'c' :: n => portionOf (counted p true (String.ofList n)) args
    | '-' :: c :: n =>
      if c.isDigit then portionOf (counted p false (String.ofList (c :: n))) args
      else
        let (p, rest) := portionOf p args
        (p, arg :: rest)
    | _ =>
      let (p, rest) := portionOf p args
      (p, arg :: rest)
  | [] => (p, [])
where
  /-- The portion with a count. -/
  counted (p : Portion) (bytes : Bool) (n : String) : Portion :=
    if n.startsWith "+" then ⟨bytes, true, ((n.drop 1).toString.toNat?).getD p.count⟩
    else ⟨bytes, false, (n.toNat?).getD p.count⟩

/-- The lines of a text with their line ends. -/
def linesWithEnds (bs : Bytes) : List Bytes :=
  let ps := Text.pieces (· == 0x0A) bs
  ps.dropLast.map (· ++ [0x0A]) ++ (ps.getLast?.toList.filter (· != []))

/-- Applies a program that keeps a portion of each text, under a heading if there are several. -/
def keepPortion (program : String) (keep : {α : Type} → Portion → List α → List α) : Tool :=
  fun s args =>
    let (p, paths) := portionOf {} args
    let heading := paths.length > 1
    forContents program (fun s arg bytes =>
      let s := if heading then s.say ("==> " ++ arg ++ " <==") else s
      s.emit (if p.bytes then keep p bytes else (keep p (linesWithEnds bytes)).flatten)) s paths

/-- Prints the first lines. -/
def head : Tool := keepPortion "head" fun p l => l.take p.count

/-- Prints the last lines. -/
def tail : Tool := keepPortion "tail" fun p l =>
  if p.fromStart then l.drop (p.count - 1) else l.drop (l.length - p.count)

/-! ### Counting -/

/-- How many lines, words and bytes a text has. -/
def countsOf (bs : Bytes) : List Nat :=
  let blank (b : UInt8) : Bool := b == 0x20 || (0x09 ≤ b && b ≤ 0x0D)
  [(bs.filter (· == 0x0A)).length, ((Text.pieces blank bs).filter (· != [])).length, bs.length]

/-- Counts the lines, words and bytes of texts. -/
def count : Tool := fun s args =>
  let (letters, paths) := lettersOf args
  let wanted := ['l', 'w', 'c'].map fun c => letters.isEmpty || letters.contains c
  let chosen (counts : List Nat) : List Nat :=
    ((counts.zip wanted).filter (·.2)).map (·.1)
  let sizes := paths.map fun (p : String) => ((s.files.readBytes ⟨p⟩).toOption.getD []).length
  let width :=
    if (wanted.filter id).length == 1 && paths.length ≤ 1 then 1
    else if paths.isEmpty then 7
    else (toString (sizes.foldl (· + ·) 0)).length
  let line (counts : List Nat) (name : String) : String :=
    let columns := (chosen counts).map fun n =>
      let digits := toString n
      String.ofList (List.replicate (width - digits.length) ' ') ++ digits
    " ".intercalate (columns ++ if name == "" then [] else [name])
  let ended := forEach (fun s arg =>
    match contentOf s arg with
    | .ok (bytes, s) => (s.say (line (countsOf bytes) (if paths.isEmpty then "" else arg)), true)
    | .error e => (s.complain ("wc: " ++ arg ++ ": " ++ reason e), false))
    s (if paths.isEmpty then ["-"] else paths)
  if paths.length > 1 then
    let all := paths.map fun (p : String) => countsOf ((s.files.readBytes ⟨p⟩).toOption.getD [])
    let total := all.foldl (fun a b => List.zipWith (· + ·) a b) [0, 0, 0]
    (ended.say (line total "total")).withStatus ended.status
  else ended

/-- Prints numbers one after the other. -/
def sequence : Tool := fun s args =>
  match args.filterMap String.toInt? with
  | [last] => numbers s 1 1 last
  | [first, last] => numbers s first 1 last
  | [first, step, last] => numbers s first step last
  | _ => (s.complain "seq: missing operand\nTry 'seq --help' for more information.").withStatus 1
where
  /-- Prints the numbers from one to another. -/
  numbers (s : State) (first step last : Int) : State :=
    let count := if step == 0 then 0 else (Int.fdiv (last - first) step + 1).toNat
    ((List.range count).foldl (fun s (i : Nat) => s.say (toString (first + step * i))) s).withStatus
      0

/-! ### Order -/

/-- The number at the front of a line. -/
def lineNumber (line : Bytes) : Int :=
  let cs := ((Utf8.decodeLossy line).toList).dropWhile (· == ' ')
  match cs with
  | '-' :: ds => -((leadingDigits 10 ds.length ds).1 : Int)
  | ds => (leadingDigits 10 ds.length ds).1

/-- Drops lines that are the same as the one before. -/
def dropRepeated : List Bytes → List Bytes
  | a :: b :: rest => if a == b then dropRepeated (b :: rest) else a :: dropRepeated (b :: rest)
  | lines => lines

/-- The lines of all files, or of the input. -/
def allLines (s : State) (paths : List String) : List Bytes × State :=
  if paths.isEmpty then (byteLines s.input, { s with input := [] })
  else (paths.flatMap fun p => byteLines ((contentOf s p).toOption.map (·.1) |>.getD []), s)

/-- Prints lines in order. -/
def sort : Tool := fun s args =>
  let (letters, paths) := lettersOf args
  match paths.find? fun p => p != "-" && (s.files.readBytes ⟨p⟩).toOption.isNone with
  | some p =>
    (s.complain ("sort: cannot read: " ++ p ++ ": No such file or directory")).withStatus 2
  | none =>
    let (lines, s) := allLines s paths
    let before (a b : Bytes) : Bool :=
      if letters.contains 'n' && lineNumber a != lineNumber b then lineNumber a < lineNumber b
      else FileSystem.bytesBefore a b
    let sorted := lines.mergeSort before
    let ordered := if letters.contains 'r' then sorted.reverse else sorted
    (s.emit (ofLines (if letters.contains 'u' then dropRepeated ordered else ordered))).withStatus 0

/-- Prints lines without those that repeat the one before. -/
def unique : Tool := fun s args =>
  let (lines, s) := allLines s (lettersOf args).2
  (s.emit (ofLines (dropRepeated lines))).withStatus 0

/-! ### Changing -/

/-- The characters of a set, with its ranges written out. -/
def setCharacters : List Char → List Char
  | a :: '-' :: b :: rest =>
    (List.range (b.toNat + 1 - a.toNat)).map (fun i => Char.ofNat (a.toNat + i)) ++
      setCharacters rest
  | '\\' :: 'n' :: rest => '\n' :: setCharacters rest
  | '\\' :: 't' :: rest => '\t' :: setCharacters rest
  | '\\' :: c :: rest => c :: setCharacters rest
  | c :: rest => c :: setCharacters rest
  | [] => []

/-- The characters of a set, which may be named. -/
def setOf (s : String) : List Char :=
  match s with
  | "[:upper:]" => setCharacters "A-Z".toList
  | "[:lower:]" => setCharacters "a-z".toList
  | "[:digit:]" => setCharacters "0-9".toList
  | "[:space:]" => [' ', '\t', '\n', '\r', '\x0b', '\x0c']
  | _ => setCharacters s.toList

/-- Drops characters of a set that repeat the one before. -/
def squeeze (set : List Char) : List Char → List Char
  | a :: b :: rest =>
    if a == b && set.contains a then squeeze set (b :: rest) else a :: squeeze set (b :: rest)
  | cs => cs

/-- Replaces or drops the characters of the input. -/
def translate : Tool := fun s args =>
  let cs := (Utf8.decodeLossy s.input).toList
  let print (cs : List Char) : State :=
    ({ s with input := [] }.emit (Utf8.encode (String.ofList cs))).withStatus 0
  match args with
  | ["-d", set] => print (cs.filter fun c => !(setOf set).contains c)
  | ["-s", set] => print (squeeze (setOf set) cs)
  | [a, b] =>
    let source := setOf a
    let target := setOf b
    print (cs.map fun c =>
      match source.findIdx? (· == c) with
      | some i => (target[i]?).getD (target.getLast?.getD c)
      | none => c)
  | _ => (s.complain "tr: missing operand\nTry 'tr --help' for more information.").withStatus 1

/-- The name of a path without the directories above it, and without a suffix. -/
def baseName : Tool := fun s args =>
  match args with
  | [] =>
    (s.complain "basename: missing operand\nTry 'basename --help' for more information.").withStatus
      1
  | path :: more =>
    let name := if path != "" && path.toList.all (· == '/') then "/" else lastName path
    let suffix := more.headD ""
    let short := if name != suffix && name.endsWith suffix then
      (name.dropEnd suffix.length).toString else name
    (s.say short).withStatus 0

/-- The directory of a path, by its text. -/
def directoryOf (path : String) : String :=
  let slash (c : Char) : Bool := c == '/'
  let trimmed := (path.toList.reverse.dropWhile slash)
  let above := (trimmed.dropWhile (!slash ·)).dropWhile slash
  if !above.isEmpty then String.ofList above.reverse
  else if path.startsWith "/" then "/"
  else "."

/-- Prints the directories of paths. -/
def printDirectoryOf : Tool := fun s args =>
  (args.foldl (fun s p => s.say (directoryOf p)) s).withStatus 0

/-! ### Searching -/

/-- A basic pattern as an extended one: the signs that need a backslash in one need none in the
other. -/
def extended : List Char → List Char
  | '\\' :: c :: rest =>
    if ['+', '?', '\x7b', '\x7d', '|', '(', ')'].contains c then c :: extended rest
    else '\\' :: c :: extended rest
  | c :: rest =>
    if ['+', '?', '\x7b', '\x7d', '|', '(', ')'].contains c then '\\' :: c :: extended rest
    else c :: extended rest
  | [] => []

/-- A text as a pattern that describes nothing but itself. -/
def escaped (cs : List Char) : List Char :=
  cs.flatMap fun c => if c.isAlphanum || c.toNat > 127 || c == ' ' then [c] else ['\\', c]

/-- Prints the lines in which a pattern occurs. -/
def search : Tool := fun s args =>
  let (letters, args) := lettersOf args
  match args with
  | [] =>
    (s.complain ("Usage: grep [OPTION]... PATTERNS [FILE]...\n" ++
      "Try 'grep --help' for more information.")).withStatus 2
  | text :: paths =>
    let cs := text.toList
    let written :=
      if letters.contains 'F' then escaped cs else if letters.contains 'E' then cs else extended cs
    let folded := if letters.contains 'i' then "(?i)" else ""
    match Pattern.parse? (folded ++ String.ofList written) with
    | none => (s.complain "grep: Invalid regular expression").withStatus 2
    | some pattern =>
      let found (line : Bytes) : Bool :=
        pattern.occursIn (Utf8.decodeLossy line) != letters.contains 'v'
      let missing := paths.filter fun p => p != "-" && (s.files.readBytes ⟨p⟩).toOption.isNone
      let s := missing.foldl (fun s p =>
        match s.files.readBytes ⟨p⟩ with
        | .error e => s.complain ("grep: " ++ p ++ ": " ++ reason e)
        | .ok _ => s) s
      let readable := paths.filter (!missing.contains ·)
      let sources := if paths.isEmpty then ["-"] else readable
      let (s, any) := sources.foldl (fun (s, any) p =>
        match contentOf s p with
        | .error _ => (s, any)
        | .ok (bytes, s) =>
          let lines := (byteLines bytes).zipIdx.filter fun l => found l.1
          let label := if paths.length > 1 then Utf8.encode (p ++ ":") else []
          let shown (l : Bytes × Nat) : Bytes :=
            let number := toString (l.2 + 1) ++ ":"
            label ++ (if letters.contains 'n' then Utf8.encode number else []) ++ l.1
          let s :=
            if letters.contains 'q' then s
            else if letters.contains 'c' then
              s.emit (label ++ Utf8.encode (toString lines.length ++ "\n"))
            else if letters.contains 'l' then (if lines.isEmpty then s else s.say p)
            else s.emit (ofLines (lines.map shown))
          (s, any || !lines.isEmpty)) (s, false)
      s.withStatus (if !missing.isEmpty then 2 else if any then 0 else 1)

/-- The programs that work on texts, by name. -/
def textTools : List (String × Tool) := [
  ("head", head), ("tail", tail), ("wc", count), ("seq", sequence), ("sort", sort),
  ("uniq", unique), ("tr", translate), ("basename", baseName), ("dirname", printDirectoryOf),
  ("grep", search)]

end SchemaForge.Shell
