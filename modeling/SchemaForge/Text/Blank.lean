/-!
# Blank text

Which characters count as blank, and the operations that depend on it: trimming a text,
asking whether it carries anything at all, and cutting it into lines.

## Main definitions

* `isBlankChar` : the characters with the Unicode property White_Space.
* `isBlank`, `trim` : nothing but blank characters; the text without blank ends.
* `pieces` : cutting a list at separators.
* `lines` : the lines of a text, each without its terminator.
-/

namespace SchemaForge.Text

/-- The characters with the Unicode property White_Space. The zero-width space, the word
joiner and the byte order mark are not among them. -/
def isBlankChar (c : Char) : Bool :=
  let n := c.toNat
  (0x09 ≤ n && n ≤ 0x0D) || n == 0x20 || n == 0x85 || n == 0xA0 || n == 0x1680 ||
    (0x2000 ≤ n && n ≤ 0x200A) || n == 0x2028 || n == 0x2029 || n == 0x202F ||
    n == 0x205F || n == 0x3000

/-- Drops the blank characters at the end of a list. -/
def dropBlankEnd (cs : List Char) : List Char :=
  (cs.reverse.dropWhile isBlankChar).reverse

/-- The text without the blank characters at either end. -/
def trim (s : String) : String :=
  String.ofList (dropBlankEnd (s.toList.dropWhile isBlankChar))

/-- The text without the blank characters at its end. -/
def trimEnd (s : String) : String :=
  String.ofList (dropBlankEnd s.toList)

/-- Whether a text is empty or holds blank characters only. -/
def isBlank (s : String) : Bool :=
  s.toList.all isBlankChar

/-- Whether an optional text is absent or blank. -/
def isBlank? : Option String → Bool
  | none => true
  | some s => isBlank s

/-- Cuts a list at every element that separates; the pieces between, empty ones included.
There is always at least one piece. -/
def pieces {α : Type} (separates : α → Bool) : List α → List (List α)
  | [] => [[]]
  | a :: as =>
    if separates a then [] :: pieces separates as
    else
      match pieces separates as with
      | [] => [[a]]
      | p :: ps => (a :: p) :: ps

/-- Drops one carriage return at the end of a line. -/
def dropReturn (line : List Char) : List Char :=
  if line.getLast? == some '\r' then line.dropLast else line

/-- The lines of a text: cut at each line feed, without the carriage return before it. A
final line feed ends the last line and starts no other. -/
def lines (s : String) : List String :=
  let ps := pieces (· == '\n') s.toList
  match ps.getLast? with
  | some [] => ps.dropLast.map fun l => String.ofList (dropReturn l)
  | some last => ps.dropLast.map (fun l => String.ofList (dropReturn l)) ++ [String.ofList last]
  | none => []

/-- Whether a list occurs in another, without gaps. -/
def occursIn {α : Type} [BEq α] (part : List α) : List α → Bool
  | [] => part.isEmpty
  | a :: as => part.isPrefixOf (a :: as) || occursIn part as

/-- Joins texts with `sep` between neighbours. -/
def join (sep : String) : List String → String
  | [] => ""
  | [s] => s
  | s :: t :: rest => s ++ sep ++ join sep (t :: rest)

end SchemaForge.Text
