import SchemaForge.FileSystem.Operations
import SchemaForge.Shell.Glob

/-!
# From words to arguments

A word whose parameters are replaced is split where a replaced value holds separators, and a
part that is a pattern is replaced by the paths that match it.

## Main definitions

* `Shell.Fragment` : a part of a word whose parameters are replaced.
* `Shell.fields` : the words that remain after splitting.
* `Shell.pathsOf` : the paths that a word stands for.
-/

namespace SchemaForge.Shell

/-- A part of a word whose parameters are replaced. -/
inductive Fragment where
  | solid (ls : List Letter)
  /-- Separators in it separate words. -/
  | loose (ls : List Letter)
  /-- One word ends and another begins. -/
  | cut
  deriving Repr

/-- The value of a parameter as a fragment. -/
def Fragment.ofValue (s : String) (quoted : Bool) : Fragment :=
  if quoted then .solid (Letter.ofText s true) else .loose (Letter.ofText s false)

/-- Whether a character is blank, so that several of it separate only once. -/
def isBlankSeparator (c : Char) : Bool := c == ' ' || c == '\t' || c == '\n'

/-- Adds the letters of a loose part to the word that is being read. `blank` says whether the
word before was ended by blanks alone. -/
def addLoose (separators : List Char) (word : Option (List Letter)) (blank : Bool) :
    List Letter → List (List Letter) × Option (List Letter)
  | [] => ([], word)
  | l :: ls =>
    if !separators.contains l.char then
      addLoose separators (some (word.getD [] ++ [l])) false ls
    else if isBlankSeparator l.char then
      let (ws, last) := addLoose separators none (blank || word.isSome) ls
      (word.toList ++ ws, last)
    else if word.isNone && blank then addLoose separators none false ls
    else
      let (ws, last) := addLoose separators none false ls
      (word.getD [] :: ws, last)

/-- The words of a list of parts; `word` is the one that is being read. -/
def fields (separators : List Char) (word : Option (List Letter)) :
    List Fragment → List (List Letter)
  | [] => word.toList
  | .solid ls :: fs => fields separators (some (word.getD [] ++ ls)) fs
  | .loose ls :: fs =>
    let (ws, word) := addLoose separators word false ls
    ws ++ fields separators word fs
  | .cut :: fs => word.toList ++ fields separators none fs

/-- The letters of a list of parts that is not split. -/
def joined : List Fragment → List Letter
  | [] => []
  | .solid ls :: fs => ls ++ joined fs
  | .loose ls :: fs => ls ++ joined fs
  | .cut :: fs => ⟨' ', true⟩ :: joined fs

/-- The names in a directory that match a pattern. A dot at the start is matched only by
itself. -/
def namesMatching (fs : FileSystem) (dir : String) (pattern : Glob) : List String :=
  match fs.list ⟨if dir == "" then "." else dir⟩ with
  | .error _ => []
  | .ok (_, names) =>
    let hidden := pattern.head? == some (.exactly '.')
    let names := (names.filterMap RawText.text?).filter fun n =>
      (hidden || n.toList.head? != some '.') && Glob.accepts pattern n.toList
    names.mergeSort fun a b => FileSystem.bytesBefore (Utf8.encode a) (Utf8.encode b)

/-- The paths that start with `start` and go on as the pieces of a pattern between slashes. -/
def pathsFrom (fs : FileSystem) (start : String) : List (List Letter) → List String
  | [] => []
  | [piece] =>
    let pattern := Glob.ofLetters piece
    if pattern.isPlain then
      let path := start ++ Letter.text piece
      if (fs.locate .entry ⟨path⟩ matches .ok (.taken _)) then [path] else []
    else (namesMatching fs start pattern).map (start ++ ·)
  | piece :: rest =>
    let pattern := Glob.ofLetters piece
    let names := if pattern.isPlain then [Letter.text piece] else namesMatching fs start pattern
    names.flatMap fun n => pathsFrom fs (start ++ n ++ "/") rest

/-- The paths that a word stands for: those that match it, or else the word itself. -/
def pathsOf (fs : FileSystem) (word : List Letter) : List String :=
  if (Glob.ofLetters word).isPlain then [Letter.text word]
  else
    match pathsFrom fs "" (Text.pieces (·.char == '/') word) with
    | [] => [Letter.text word]
    | paths => paths

end SchemaForge.Shell
