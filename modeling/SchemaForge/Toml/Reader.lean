import SchemaForge.Toml.Node
import SchemaForge.Toml.Number
import SchemaForge.Toml.Text

/-!
# Reading TOML

A reader of TOML 1.1 documents. A document is read line by line into statements, which are
then carried out one after the other on an empty tree.

## Main definitions

* `Toml.Statement` : a header, or a key with its value.
* `Toml.readValue` : a value at the front of a text.
* `Toml.statements?` : the statements of a document.
* `Toml.parse?` : the tree of a document.
-/

namespace SchemaForge.Toml

/-- A line of a document that says something. -/
inductive Statement where
  /-- The header of a table. -/
  | table (key : Key)
  /-- The header of one of several tables. -/
  | item (key : Key)
  /-- A key with its value. -/
  | assign (key : Key) (value : Node)
  deriving Repr

/-- How many lists and tables in braces may stand inside one another. -/
def maxDepth : Nat := 80

/-- How many tables may lead to a key. -/
def maxTables : Nat := 79

/-- Drops blanks within a line. -/
def skipSpace (cs : List Char) : Rest := cs.dropWhile isSpace

/-- Drops blanks, line ends and comments; `inComment` says that a comment has begun. -/
def skipFill (inComment : Bool) : List Char → Option Rest
  | [] => some []
  | c :: rest =>
    if atLineEnd (c :: rest) then skipFill (inComment && c == '\r') rest
    else if inComment then if isPlain c then skipFill true rest else none
    else if isSpace c then skipFill false rest
    else if c == '#' then skipFill true rest
    else some (c :: rest)

/-- Drops what may follow a statement on its line, and the line end. -/
def skipLine (inComment : Bool) : List Char → Option Rest
  | [] => some []
  | '\n' :: rest => some rest
  | '\r' :: '\n' :: rest => some rest
  | c :: rest =>
    if inComment then if isPlain c then skipLine true rest else none
    else if isSpace c then skipLine false rest
    else if c == '#' then skipLine true rest
    else none

/-! ### Keys -/

/-- A name in a key. -/
def readName : List Char → Option (String × Rest)
  | '"' :: rest => (readBasic rest).map fun r => (String.ofList r.1, r.2)
  | '\'' :: rest => (readLiteral rest).map fun r => (String.ofList r.1, r.2)
  | cs =>
    match cs.takeWhile Names.isBare with
    | [] => none
    | name => some (String.ofList name, cs.drop name.length)

/-- The names of a key, blanks around them included. -/
def readNames : Nat → List Char → Option (List String × Rest)
  | 0, _ => none
  | fuel + 1, cs => do
    let (name, rest) ← readName (skipSpace cs)
    match skipSpace rest with
    | '.' :: rest =>
      let (names, rest) ← readNames fuel rest
      return (name :: names, rest)
    | rest => return ([name], rest)

/-- A key at the front of a text, blanks around it included. -/
def readKey (cs : List Char) : Option (Key × Rest) := do
  let (names, rest) ← readNames (cs.length + 1) cs
  let name ← names.getLast?
  if maxTables < names.dropLast.length then none
  else return (⟨names.dropLast, name⟩, rest)

/-! ### Values -/

/-- Whether a character belongs to a word that is a value. -/
def isWord (c : Char) : Bool :=
  Names.isBare c || c == '+' || c == '.' || c == ':'

/-- The word at the front of a text. A date and a time with one blank between them are one
word. -/
def readWord (cs : List Char) : List Char × Rest :=
  let word := cs.takeWhile isWord
  let rest := cs.drop word.length
  match readDate word, rest with
  | some (_, []), ' ' :: next =>
    let time := next.takeWhile isWord
    if time.isEmpty then (word, rest) else (word ++ ' ' :: time, next.drop time.length)
  | _, _ => (word, rest)

/-- The value that a word denotes. -/
def scalarOf? (word : List Char) : Option Scalar :=
  if word == "true".toList then some (.flag true)
  else if word == "false".toList then some (.flag false)
  else
    match wholeOf? word with
    | some n => some (.whole n)
    | none =>
      match realOf? word with
      | some x => some (.real x)
      | none => (Moment.ofText? word).map .moment

mutual

/-- A value at the front of a text. `depth` is how many lists and tables may still be opened
inside one another; the fuel bounds the steps. -/
def readValue : Nat → Nat → List Char → Option (Node × Rest)
  | 0, _, _ => none
  | fuel + 1, depth, cs =>
    match cs with
    | '"' :: _ => (readText cs).map fun r => (.scalar (.text r.1), r.2)
    | '\'' :: _ => (readText cs).map fun r => (.scalar (.text r.1), r.2)
    | '[' :: rest =>
      match depth with
      | 0 => none
      | depth + 1 => (readItems fuel depth rest).map fun r => (.list r.1, r.2)
    | '\x7b' :: rest =>
      match depth with
      | 0 => none
      | depth + 1 =>
        (readEntries fuel depth [] rest).map fun r => (.table .inline r.1, r.2)
    | _ =>
      let (word, rest) := readWord cs
      (scalarOf? word).map fun v => (.scalar v, rest)

/-- The items of a list and its end. A comma may follow the last item. -/
def readItems : Nat → Nat → List Char → Option (List Node × Rest)
  | 0, _, _ => none
  | fuel + 1, depth, cs => do
    match ← skipFill false cs with
    | ']' :: rest => return ([], rest)
    | cs =>
      let (item, rest) ← readValue fuel depth cs
      match ← skipFill false rest with
      | ']' :: rest => return ([item], rest)
      | ',' :: rest =>
        let (items, rest) ← readItems fuel depth rest
        return (item :: items, rest)
      | _ => none

/-- The entries of a table in braces, added to those before them, and its end. A comma may
follow the last entry. -/
def readEntries : Nat → Nat → Entries → List Char → Option (Entries × Rest)
  | 0, _, _, _ => none
  | fuel + 1, depth, entries, cs => do
    match ← skipFill false cs with
    | '\x7d' :: rest => return (entries, rest)
    | cs =>
      let (key, rest) ← readKey cs
      let rest ← afterMark? '=' rest
      let (value, rest) ← readValue fuel depth (skipSpace rest)
      let entries ← assign key.name value key.tables entries
      match ← skipFill false rest with
      | '\x7d' :: rest => return (entries, rest)
      | ',' :: rest => readEntries fuel depth entries rest
      | _ => none

end

/-! ### Documents -/

/-- A statement at the front of a text that is not blank. -/
def readStatement (cs : List Char) : Option (Statement × Rest) := do
  match cs with
  | '[' :: '[' :: rest =>
    let (key, rest) ← readKey rest
    let rest ← afterMark? ']' rest
    let rest ← afterMark? ']' rest
    return (.item key, rest)
  | '[' :: rest =>
    let (key, rest) ← readKey rest
    let rest ← afterMark? ']' rest
    return (.table key, rest)
  | cs =>
    let (key, rest) ← readKey cs
    let rest ← afterMark? '=' rest
    let value := skipSpace rest
    let (value, rest) ← readValue (2 * value.length + 2) maxDepth value
    return (.assign key value, rest)

/-- The statements of a text, each on a line of its own. -/
def readStatements : Nat → List Char → Option (List Statement)
  | 0, _ => none
  | fuel + 1, cs => do
    match ← skipFill false cs with
    | [] => return []
    | cs =>
      let (statement, rest) ← readStatement cs
      let rest ← skipLine false rest
      return statement :: (← readStatements fuel rest)

/-- The statements of a document, which may begin with a byte order mark. -/
def statements? (document : String) : Option (List Statement) :=
  let cs := document.toList
  let cs := if cs.head? == some '\ufeff' then cs.drop 1 else cs
  readStatements (cs.length + 1) cs

/-- A document in the making: its tree, and the table that keys are added to. -/
structure Draft where
  entries : Entries := []
  current : List String := []

/-- Carries out a statement. -/
def Draft.step (d : Draft) : Statement → Option Draft
  | .table key => do
    return { entries := ← openTable key d.entries, current := key.tables ++ [key.name] }
  | .item key => do
    return { entries := ← openItem key d.entries, current := key.tables ++ [key.name] }
  | .assign key value => do
    return { d with entries := ← within (assign key.name value key.tables) d.current d.entries }

/-- The tree of a document. -/
def parse? (document : String) : Option Node := do
  let draft ← (← statements? document).foldlM Draft.step {}
  return .table .declared draft.entries

end SchemaForge.Toml
