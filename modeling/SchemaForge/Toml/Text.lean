import SchemaForge.Json.Reader

/-!
# Strings in TOML documents

The four ways in which a document writes a text: on one line or on several, and with escapes
or without.

## Main definitions

* `Toml.readBasic`, `Toml.readBasicBlock` : texts in double quotes, with escapes.
* `Toml.readLiteral`, `Toml.readLiteralBlock` : texts in single quotes, taken as they stand.
* `Toml.readText` : a text in any of the four.
-/

namespace SchemaForge.Toml

/-- What a reader of a part leaves over. -/
abbrev Rest := List Char

/-- Whether a character may stand in a line: no control but the tabulator. -/
def isPlain (c : Char) : Bool := c == '\t' || (0x20 ≤ c.toNat && c.toNat != 0x7f)

/-- Whether a character is a blank within a line. -/
def isSpace (c : Char) : Bool := c == ' ' || c == '\t'

/-- Whether the front of a text ends a line. -/
def atLineEnd : List Char → Bool
  | '\n' :: _ => true
  | '\r' :: '\n' :: _ => true
  | _ => false

/-- The character of a code in hexadecimal digits, unless it is none. -/
def charOfHex? (digits : List Char) : Option Char := do
  let values ← digits.mapM Json.hexValue?
  let code := values.foldl (fun n v => 16 * n + v) 0
  if code < 0xD800 || (0xE000 ≤ code && code < 0x110000) then some (Char.ofNat code) else none

/-- The character that a one-letter escape stands for. -/
def escaped? : Char → Option Char
  | '"' => some '"'
  | '\\' => some '\\'
  | 'b' => some '\x08'
  | 'e' => some '\x1b'
  | 'f' => some '\x0c'
  | 'n' => some '\n'
  | 'r' => some '\r'
  | 't' => some '\t'
  | _ => none

/-- Puts a character in front of what was read. -/
def before (c : Char) (r : Option (List Char × Rest)) : Option (List Char × Rest) :=
  r.map fun r => (c :: r.1, r.2)

/-- A text on one line with escapes, up to its closing quote, and what follows the quote. -/
def readBasic : List Char → Option (List Char × Rest)
  | [] => none
  | '"' :: rest => some ([], rest)
  | '\\' :: 'x' :: a :: b :: rest =>
    match charOfHex? [a, b] with
    | some x => before x (readBasic rest)
    | none => none
  | '\\' :: 'u' :: a :: b :: c :: d :: rest =>
    match charOfHex? [a, b, c, d] with
    | some x => before x (readBasic rest)
    | none => none
  | '\\' :: 'U' :: a :: b :: c :: d :: e :: f :: g :: h :: rest =>
    match charOfHex? [a, b, c, d, e, f, g, h] with
    | some x => before x (readBasic rest)
    | none => none
  | '\\' :: e :: rest =>
    match escaped? e with
    | some x => before x (readBasic rest)
    | none => none
  | c :: rest => if isPlain c && c != '\\' then before c (readBasic rest) else none

/-- A text on several lines with escapes, up to its closing quotes. At most two quotes may
stand directly before them. A backslash at the end of a line takes with it all blanks and
line ends that follow; `skipping` says that it is doing so. -/
def readBasicBlock (skipping : Bool) : List Char → Option (List Char × Rest)
  | [] => none
  | '"' :: '"' :: '"' :: '"' :: '"' :: rest => some (['"', '"'], rest)
  | '"' :: '"' :: '"' :: '"' :: rest => some (['"'], rest)
  | '"' :: '"' :: '"' :: rest => some ([], rest)
  | '\\' :: 'x' :: a :: b :: rest =>
    match charOfHex? [a, b] with
    | some x => before x (readBasicBlock false rest)
    | none => none
  | '\\' :: 'u' :: a :: b :: c :: d :: rest =>
    match charOfHex? [a, b, c, d] with
    | some x => before x (readBasicBlock false rest)
    | none => none
  | '\\' :: 'U' :: a :: b :: c :: d :: e :: f :: g :: h :: rest =>
    match charOfHex? [a, b, c, d, e, f, g, h] with
    | some x => before x (readBasicBlock false rest)
    | none => none
  | '\\' :: e :: rest =>
    if atLineEnd ((e :: rest).dropWhile isSpace) then readBasicBlock true (e :: rest)
    else
      match escaped? e with
      | some x => before x (readBasicBlock false rest)
      | none => none
  | c :: rest =>
    if skipping && (isSpace c || atLineEnd (c :: rest)) then readBasicBlock true rest
    else if (isPlain c && c != '\\') || c == '\n' || atLineEnd (c :: rest) then
      before c (readBasicBlock false rest)
    else none

/-- A text on one line without escapes, up to its closing quote. -/
def readLiteral : List Char → Option (List Char × Rest)
  | [] => none
  | '\'' :: rest => some ([], rest)
  | c :: rest => if isPlain c then before c (readLiteral rest) else none

/-- A text on several lines without escapes, up to its closing quotes. -/
def readLiteralBlock : List Char → Option (List Char × Rest)
  | [] => none
  | '\'' :: '\'' :: '\'' :: '\'' :: '\'' :: rest => some (['\'', '\''], rest)
  | '\'' :: '\'' :: '\'' :: '\'' :: rest => some (['\''], rest)
  | '\'' :: '\'' :: '\'' :: rest => some ([], rest)
  | c :: rest =>
    if isPlain c || atLineEnd (c :: rest) then before c (readLiteralBlock rest) else none

/-- Drops the line end at the front of a block. -/
def dropFirstLineEnd : List Char → Rest
  | '\n' :: rest => rest
  | '\r' :: '\n' :: rest => rest
  | rest => rest

/-- A text in quotes of any kind at the front of a document. -/
def readText : List Char → Option (String × Rest)
  | '"' :: '"' :: '"' :: rest => finish (readBasicBlock false (dropFirstLineEnd rest))
  | '"' :: rest => finish (readBasic rest)
  | '\'' :: '\'' :: '\'' :: rest => finish (readLiteralBlock (dropFirstLineEnd rest))
  | '\'' :: rest => finish (readLiteral rest)
  | _ => none
where
  /-- The characters as a text. -/
  finish (r : Option (List Char × Rest)) : Option (String × Rest) :=
    r.map fun r => (String.ofList r.1, r.2)

end SchemaForge.Toml
