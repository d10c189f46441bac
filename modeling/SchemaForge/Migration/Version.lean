import SchemaForge.Decimal.Width
import SchemaForge.Text.Blank
import SchemaForge.Text.Quoted

/-!
# Versions of migration scripts

A version is a sequence of numbers. Zeros at its end do not count, so `1.0` and `1` are the
same version; the first number always stays.

## Main definitions

* `Version` : the numbers without the zeros at the end.
* `Version.ofSegments` : the version of any numbers.
* `Version.compare` : the order of versions, number by number.
* `Version.parse`, `Version.toText` : reading and writing.
-/

namespace SchemaForge

namespace Version

/-- The numbers up to the last that is not zero. -/
def dropZeros : List Nat → List Nat
  | [] => []
  | n :: ns =>
    match dropZeros ns with
    | [] => if n == 0 then [] else [n]
    | m :: ms => n :: m :: ms

/-- The first number, and of the others those up to the last that is not zero. -/
def trim : List Nat → List Nat
  | [] => []
  | n :: ns => n :: dropZeros ns

theorem dropZeros_dropZeros (ns : List Nat) : dropZeros (dropZeros ns) = dropZeros ns := by
  induction ns with
  | nil => rfl
  | cons n ns ih =>
    rw [dropZeros]
    split
    · split
      · rfl
      · simp_all [dropZeros]
    · rename_i m ms h
      rw [h] at ih
      simp [dropZeros] at ih ⊢
      rw [ih]

theorem trim_trim (ns : List Nat) : trim (trim ns) = trim ns := by
  cases ns with
  | nil => rfl
  | cons n ns => simp [trim, dropZeros_dropZeros]

end Version

/-- The version of a migration: numbers of which no zero at the end counts. -/
structure Version where
  segments : List Nat
  /-- No number could still be dropped. -/
  trimmed : Version.trim segments = segments
  deriving DecidableEq

namespace Version

instance : Repr Version := ⟨fun v _ => repr v.segments⟩

/-- The version of a sequence of numbers. -/
def ofSegments (segments : List Nat) : Version :=
  ⟨trim segments, trim_trim segments⟩

instance : Inhabited Version := ⟨ofSegments [0]⟩

/-- The order of sequences of numbers: by the first in which they differ; one that another
continues comes first. -/
def compareSegments : List Nat → List Nat → Ordering
  | [], [] => .eq
  | [], _ :: _ => .lt
  | _ :: _, [] => .gt
  | a :: as, b :: bs => (Ord.compare a b).then (compareSegments as bs)

/-- The order of versions. -/
def compare (v w : Version) : Ordering :=
  compareSegments v.segments w.segments

instance : Ord Version := ⟨Version.compare⟩

/-- Whether one version comes before another. -/
def isBefore (v w : Version) : Bool := v.compare w == .lt

/-- The greatest number a version may have. -/
def maxSegment : Nat := Width.count 64 - 1

/-- Why a text is no version. -/
inductive Fault where
  | empty
  | segment (part whole : String)
  deriving Repr, DecidableEq

/-- The text of a fault. -/
def Fault.message : Fault → String
  | .empty => "empty version"
  | .segment part whole =>
    "invalid version segment " ++ Text.quoted part ++ " in " ++ Text.quoted whole

/-- Whether a character is a decimal digit. -/
def isDigit (c : Char) : Bool := '0' ≤ c && c ≤ '9'

/-- The number that digits denote. -/
def valueOf (digits : List Char) : Nat :=
  digits.foldl (fun n c => 10 * n + (c.toNat - 0x30)) 0

/-- The number of a list of digits, of which there must be one. -/
def digitsValue? (digits : List Char) : Option Nat :=
  if digits.isEmpty || !digits.all isDigit then none
  else if valueOf digits ≤ maxSegment then some (valueOf digits)
  else none

/-- The number of one part of a version, which may have a plus sign in front. -/
def segment? : List Char → Option Nat
  | '+' :: digits => digitsValue? digits
  | digits => digitsValue? digits

/-- Whether a character separates the parts of a version. -/
def separates (c : Char) : Bool := c == '.' || c == '_'

/-- Reads the parts of a version; `whole` is what they are parts of. -/
def readSegments (whole : String) : List (List Char) → Except Fault (List Nat)
  | [] => .ok []
  | part :: parts =>
    match segment? part with
    | none => .error (.segment (String.ofList part) whole)
    | some n => (readSegments whole parts).map (n :: ·)

/-- Reads a version: numbers with a point or an underscore between neighbours. -/
def parse (s : String) : Except Fault Version :=
  if s == "" then .error .empty
  else (readSegments s (Text.pieces separates s.toList)).map ofSegments

/-- The text of a version: its numbers with points between them. -/
def toText (v : Version) : String :=
  Text.join "." (v.segments.map toString)

end Version

end SchemaForge
