/-!
# Patterns of the shell

A pattern describes whole texts: `*` stands for any text, `?` for any character, and brackets
for one character of a set. All other characters, and quoted ones, stand for themselves.

## Main definitions

* `Shell.Letter` : a character of a word that is literal or has its meaning in patterns.
* `Shell.Glob.ofLetters` : the pattern that a word denotes.
* `Shell.Glob.accepts` : whether a text matches.
-/

namespace SchemaForge.Shell

/-- A character of a word. One that is not literal has its meaning in patterns. -/
structure Letter where
  char : Char
  literal : Bool
  deriving Repr, DecidableEq

namespace Letter

/-- The characters of a text, all literal or none. -/
def ofText (s : String) (literal : Bool) : List Letter :=
  s.toList.map fun c => ⟨c, literal⟩

/-- The text of letters. -/
def text (ls : List Letter) : String := String.ofList (ls.map char)

end Letter

/-- A part of a pattern. -/
inductive Glob.Item where
  | exactly (c : Char)
  | anyCharacter
  | anyText
  | oneOf (negated : Bool) (ranges : List (Char × Char))
  deriving Repr, DecidableEq

/-- A pattern. -/
abbrev Glob := List Glob.Item

namespace Glob

/-- The bracket that closes a set. -/
def closing : Letter := ⟨']', false⟩

/-- The ranges up to the bracket that closes them; the first letter closes nothing. -/
def readRanges (first : Bool) : List Letter → Option (List (Char × Char) × List Letter)
  | [] => none
  | l :: rest =>
    if l == closing && !first then some ([], rest)
    else
      match rest with
      | ⟨'-', false⟩ :: hi :: after =>
        if hi == closing then some ([(l.char, l.char), ('-', '-')], after)
        else (readRanges false after).map fun r => ((l.char, hi.char) :: r.1, r.2)
      | more => (readRanges false more).map fun r => ((l.char, l.char) :: r.1, r.2)
termination_by ls => ls.length

/-- The set of characters that follows an opening bracket, if it is closed. -/
def readSet? : List Letter → Option (Item × List Letter)
  | ⟨'!', false⟩ :: rest | ⟨'^', false⟩ :: rest =>
    (readRanges true rest).map fun r => (.oneOf true r.1, r.2)
  | rest => (readRanges true rest).map fun r => (.oneOf false r.1, r.2)

/-- Reads a pattern. The fuel bounds the number of its parts. -/
def readItems : Nat → List Letter → Glob
  | 0, _ => []
  | _ + 1, [] => []
  | fuel + 1, l :: rest =>
    if l.literal then .exactly l.char :: readItems fuel rest
    else
      match l.char with
      | '*' => .anyText :: readItems fuel rest
      | '?' => .anyCharacter :: readItems fuel rest
      | '[' =>
        match readSet? rest with
        | some (set, rest) => set :: readItems fuel rest
        | none => .exactly '[' :: readItems fuel rest
      | c => .exactly c :: readItems fuel rest

/-- The pattern that a word denotes. -/
def ofLetters (ls : List Letter) : Glob := readItems ls.length ls

/-- Whether a pattern describes nothing but itself. -/
def isPlain (g : Glob) : Bool :=
  g.all fun
    | .exactly _ => true
    | _ => false

/-- Whether a part of a pattern stands for one given character. -/
def Item.takes : Item → Char → Bool
  | .exactly c, d => c == d
  | .anyCharacter, _ => true
  | .anyText, _ => true
  | .oneOf negated ranges, d => (ranges.any fun r => r.1 ≤ d && d ≤ r.2) != negated

/-- The ends of a list, the list itself first. -/
def suffixes : List Char → List (List Char)
  | [] => [[]]
  | c :: cs => (c :: cs) :: suffixes cs

/-- Whether a text matches a pattern from its start to its end. -/
def accepts : Glob → List Char → Bool
  | [], cs => cs.isEmpty
  | .anyText :: items, cs => (suffixes cs).any (accepts items)
  | _ :: _, [] => false
  | item :: items, c :: cs => item.takes c && accepts items cs

/-- The text without its shortest or longest start that matches. -/
def cutStart (g : Glob) (longest : Bool) (cs : List Char) : List Char :=
  let lengths := List.range (cs.length + 1)
  let order := if longest then lengths.reverse else lengths
  match order.find? fun n => accepts g (cs.take n) with
  | some n => cs.drop n
  | none => cs

/-- The text without its shortest or longest end that matches. -/
def cutEnd (g : Glob) (longest : Bool) (cs : List Char) : List Char :=
  let lengths := List.range (cs.length + 1)
  let order := if longest then lengths else lengths.reverse
  match order.find? fun n => accepts g (cs.drop n) with
  | some n => cs.take n
  | none => cs

end Glob

end SchemaForge.Shell
