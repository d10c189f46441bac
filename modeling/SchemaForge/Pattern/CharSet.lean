import SchemaForge.Text.CaseFold
import SchemaForge.Text.Property

/-!
# Sets of characters

## Main definitions

* `CharSet` : sets built from ranges and properties by the operations on sets.
* `CharSet.contains` : whether a character is in a set.
-/

namespace SchemaForge

/-- A set of characters. -/
inductive CharSet where
  | empty
  /-- The characters from one to another, both included. -/
  | range (first last : Char)
  /-- The characters of several ranges of codes. -/
  | among (ranges : Array (Nat × Nat))
  /-- The characters of general categories. -/
  | categories (cs : List Text.Category)
  /-- The characters with a property. -/
  | property (p : Text.Property)
  /-- The characters of words. -/
  | words
  | union (s t : CharSet)
  | inter (s t : CharSet)
  | diff (s t : CharSet)
  | symmDiff (s t : CharSet)
  | complement (s : CharSet)
  /-- The characters that are the same as one of a set but for their case. -/
  | anyCase (s : CharSet)
  deriving Repr, DecidableEq

namespace CharSet

/-- Whether a character is in the set. -/
def contains (c : Char) : CharSet → Bool
  | empty => false
  | range first last => first ≤ c && c ≤ last
  | among ranges => Text.inRanges ranges c.toNat
  | categories cs => cs.contains (.ofChar c)
  | property p => p.holds c
  | words => Text.isWordChar c
  | union s t => s.contains c || t.contains c
  | inter s t => s.contains c && t.contains c
  | diff s t => s.contains c && !t.contains c
  | symmDiff s t => s.contains c != t.contains c
  | complement s => !s.contains c
  | anyCase s => (Text.caseVariants c).any fun d => s.contains d

/-- The set of one character. -/
def single (c : Char) : CharSet := range c c

/-- The characters of a list. -/
def ofList (cs : List Char) : CharSet := cs.foldl (fun s c => union s (single c)) empty

/-- All characters. -/
def all : CharSet := complement empty

/-- Everything but the line feed. -/
def withinLine : CharSet := complement (single '\n')

/-- The ten decimal digits. -/
def digit : CharSet := range '0' '9'

/-- The letters from A to Z in both cases. -/
def letter : CharSet := union (range 'a' 'z') (range 'A' 'Z')

/-- The letters from A to Z, the ten digits and the underscore. -/
def word : CharSet := union letter (union digit (single '_'))

/-- Blanks of common widths, tabulators and what ends a line. -/
def space : CharSet :=
  union (range '\t' '\r') (ofList [' ', '\u00A0', '\u2003', '\u2029', '\uFEFF'])

/-- The hexadecimal digits. -/
def hexDigit : CharSet := union digit (union (range 'a' 'f') (range 'A' 'F'))

/-- The set, or with `negated` everything outside it. -/
def negatedIf (negated : Bool) (s : CharSet) : CharSet := if negated then complement s else s

/-- The set, or with `ignoring` also what differs from its characters in case. -/
def ignoringCaseIf (ignoring : Bool) (s : CharSet) : CharSet := if ignoring then anyCase s else s

end CharSet

end SchemaForge
