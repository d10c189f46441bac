import SchemaForge.Json.Basic
import SchemaForge.Text.Quoted

/-!
# Writing JSON

Two written forms: a compact one without any blank, and a pretty one that indents by two
blanks and ends without a line feed. Both keep the order of the members.

## Main definitions

* `Json.writeString` : a text between quotes. Only the quote, the backslash and the
  characters below U+0020 are escaped.
* `Json.compact`, `Json.pretty` : the two written forms.
-/

namespace SchemaForge.Json

/-- One character inside a JSON string. -/
def escapeChar (c : Char) : List Char :=
  match c with
  | '"' => ['\\', '"']
  | '\\' => ['\\', '\\']
  | '\x08' => ['\\', 'b']
  | '\t' => ['\\', 't']
  | '\n' => ['\\', 'n']
  | '\x0c' => ['\\', 'f']
  | '\r' => ['\\', 'r']
  | _ =>
    if c.toNat < 0x20 then
      ['\\', 'u', '0', '0', Text.hexDigit (c.toNat / 16), Text.hexDigit (c.toNat % 16)]
    else [c]

/-- A text as a JSON string. -/
def writeString (s : String) : List Char :=
  '"' :: s.toList.flatMap escapeChar ++ ['"']

/-- A number in decimal. -/
def writeNumber : Number → List Char
  | .whole n => (toString n).toList
  | .real x => x.general.toList

mutual

/-- The value without any blank. -/
def writeCompact : Json → List Char
  | .null => "null".toList
  | .bool true => "true".toList
  | .bool false => "false".toList
  | .number n => writeNumber n
  | .string s => writeString s
  | .array [] => ['[', ']']
  | .array (j :: js) => '[' :: writeCompact j ++ compactItems js
  | .object [] => ['\x7b', '\x7d']
  | .object ((k, v) :: ms) =>
    '\x7b' :: writeString k ++ ':' :: writeCompact v ++ compactMembers ms

/-- The further items of an array and its end. -/
def compactItems : List Json → List Char
  | [] => [']']
  | j :: js => ',' :: writeCompact j ++ compactItems js

/-- The further members of an object and its end. -/
def compactMembers : List (String × Json) → List Char
  | [] => ['\x7d']
  | (k, v) :: ms => ',' :: writeString k ++ ':' :: writeCompact v ++ compactMembers ms

end

/-- The start of a line at a depth of indentation. -/
def lineStart (depth : Nat) : List Char :=
  '\n' :: List.replicate (2 * depth) ' '

mutual

/-- The value with one item or member a line, at a depth of indentation. An empty array or
object takes no line of its own. -/
def writePretty (depth : Nat) : Json → List Char
  | .null => "null".toList
  | .bool true => "true".toList
  | .bool false => "false".toList
  | .number n => writeNumber n
  | .string s => writeString s
  | .array [] => ['[', ']']
  | .array (j :: js) =>
    '[' :: lineStart (depth + 1) ++ writePretty (depth + 1) j ++ prettyItems depth js
  | .object [] => ['\x7b', '\x7d']
  | .object ((k, v) :: ms) =>
    '\x7b' :: lineStart (depth + 1) ++ writeString k ++ ':' :: ' ' ::
      writePretty (depth + 1) v ++ prettyMembers depth ms

/-- The further items of an array and its end. -/
def prettyItems (depth : Nat) : List Json → List Char
  | [] => lineStart depth ++ [']']
  | j :: js => ',' :: lineStart (depth + 1) ++ writePretty (depth + 1) j ++ prettyItems depth js

/-- The further members of an object and its end. -/
def prettyMembers (depth : Nat) : List (String × Json) → List Char
  | [] => lineStart depth ++ ['\x7d']
  | (k, v) :: ms =>
    ',' :: lineStart (depth + 1) ++ writeString k ++ ':' :: ' ' ::
      writePretty (depth + 1) v ++ prettyMembers depth ms

end

/-- The written form without any blank. -/
def compact (j : Json) : String := String.ofList (writeCompact j)

/-- The written form with one item or member a line. -/
def pretty (j : Json) : String := String.ofList (writePretty 0 j)

end SchemaForge.Json
