import SchemaForge.Decimal.Scaled
import SchemaForge.Json.Basic

/-!
# Reading JSON

A strict reader of JSON text: no comments, no trailing commas, no lone surrogates, at most
127 arrays and objects inside one another, and nothing after the value.

## Main definitions

* `Json.readString` : the rest of a string after its opening quote.
* `Json.readNumber` : a number at the front of a text.
* `Json.parse?` : the value of a whole text.
-/

namespace SchemaForge.Json

/-- What a reader of a part leaves over. -/
abbrev Rest := List Char

/-- Drops blanks, tabulators and line ends. -/
def skipBlank (cs : List Char) : Rest :=
  cs.dropWhile fun c => c == ' ' || c == '\t' || c == '\n' || c == '\r'

/-- The value of a hexadecimal digit. -/
def hexValue? (c : Char) : Option Nat :=
  if '0' ≤ c ∧ c ≤ '9' then some (c.toNat - 0x30)
  else if 'a' ≤ c ∧ c ≤ 'f' then some (c.toNat - 0x57)
  else if 'A' ≤ c ∧ c ≤ 'F' then some (c.toNat - 0x37)
  else none

/-- The value of four hexadecimal digits. -/
def hexValue4? (a b c d : Char) : Option Nat := do
  let a ← hexValue? a
  let b ← hexValue? b
  let c ← hexValue? c
  let d ← hexValue? d
  return ((a * 16 + b) * 16 + c) * 16 + d

/-- The character that a one-letter escape stands for. -/
def escaped? : Char → Option Char
  | '"' => some '"'
  | '\\' => some '\\'
  | '/' => some '/'
  | 'b' => some '\x08'
  | 'f' => some '\x0c'
  | 'n' => some '\n'
  | 'r' => some '\r'
  | 't' => some '\t'
  | _ => none

/-- The characters of a string up to its closing quote, and what follows the quote. -/
def readChars : List Char → Option (List Char × Rest)
  | [] => none
  | '"' :: rest => some ([], rest)
  | '\\' :: 'u' :: a :: b :: c :: d :: rest =>
    match hexValue4? a b c d with
    | none => none
    | some n =>
      if 0xD800 ≤ n ∧ n < 0xDC00 then
        match rest with
        | '\\' :: 'u' :: e :: f :: g :: h :: rest =>
          match hexValue4? e f g h with
          | none => none
          | some m =>
            if 0xDC00 ≤ m ∧ m < 0xE000 then
              let code := 0x10000 + (n - 0xD800) * 0x400 + (m - 0xDC00)
              (readChars rest).map fun r => (Char.ofNat code :: r.1, r.2)
            else none
        | _ => none
      else if 0xDC00 ≤ n ∧ n < 0xE000 then none
      else (readChars rest).map fun r => (Char.ofNat n :: r.1, r.2)
  | '\\' :: e :: rest =>
    match escaped? e with
    | none => none
    | some c => (readChars rest).map fun r => (c :: r.1, r.2)
  | c :: rest =>
    if c == '\\' || c.toNat < 0x20 then none
    else (readChars rest).map fun r => (c :: r.1, r.2)

/-- The rest of a string after its opening quote. -/
def readString (cs : List Char) : Option (String × Rest) :=
  (readChars cs).map fun r => (String.ofList r.1, r.2)

/-- The number of a list of decimal digits. -/
def decimalValue (ds : List Char) : Nat :=
  ds.foldl (fun n c => 10 * n + (c.toNat - 0x30)) 0

/-- Whether a character is a decimal digit. -/
def isDecimal (c : Char) : Bool := '0' ≤ c && c ≤ '9'

/-- The digits at the front of a text and the rest. -/
def spanDigits (cs : List Char) : List Char × Rest :=
  (cs.takeWhile isDecimal, cs.dropWhile isDecimal)

/-- The digits after a decimal point; none if there is no point. -/
def readFraction : List Char → Option (List Char × Rest)
  | '.' :: cs =>
    match spanDigits cs with
    | ([], _) => none
    | (ds, rest) => some (ds, rest)
  | cs => some ([], cs)

/-- The exponent at the front of a text, if there is one. -/
def readExponent (cs : List Char) : Option (Option Int × Rest) :=
  match cs with
  | [] => some (none, cs)
  | c :: rest =>
    if c == 'e' || c == 'E' then
      let (negative, rest) :=
        match rest with
        | '-' :: r => (true, r)
        | '+' :: r => (false, r)
        | r => (false, r)
      match spanDigits rest with
      | ([], _) => none
      | (ds, rest) =>
        let n : Int := decimalValue ds
        some (some (if negative then -n else n), rest)
    else some (none, cs)

/-- The digits of a text, added to those before them. -/
def pushDigits (s : Decimal.Significand) (digits : List Char) : Decimal.Significand :=
  digits.foldl (fun s c => s.push (c.toNat - 0x30)) s

/-- A number with a fraction or an exponent, or one of more than 64 bits. Of its digits as
many count as 64 bits hold; those of the fraction are held to that anew. -/
def realOf? (negative : Bool) (whole fraction : List Char) (exponent : Option Int) :
    Option Binary64 :=
  let head := pushDigits {} whole
  let all := pushDigits { head with kept := 0, dropped := 0 } fraction
  let exponent := exponent.getD 0
  if Width.fitsSigned 32 exponent then
    Decimal.scale? negative all.digits ((head.dropped : Int) - (all.kept : Int) + exponent)
  else if all.digits != 0 && 0 < exponent then none
  else some (.finite negative 0 0)

/-- A number from its parts. A whole number without fraction and exponent is kept exactly as
long as 64 bits hold it. -/
def numberOf? (negative : Bool) (whole fraction : List Char) (exponent : Option Int) :
    Option Number :=
  let digits := decimalValue whole
  let fits := if negative then 0 < digits && digits ≤ Width.count 63 else digits < Width.count 64
  if fraction.isEmpty && exponent.isNone && fits then
    some (.whole (if negative then -(digits : Int) else digits))
  else (realOf? negative whole fraction exponent).map .real

/-- A number at the front of a text. A leading zero stands alone. -/
def readNumber (cs : List Char) : Option (Number × Rest) := do
  let (negative, cs) :=
    match cs with
    | '-' :: cs => (true, cs)
    | _ => (false, cs)
  let (whole, cs) := spanDigits cs
  match whole with
  | [] => none
  | '0' :: _ :: _ => none
  | _ =>
    let (fraction, cs) ← readFraction cs
    let (exponent, cs) ← readExponent cs
    let n ← numberOf? negative whole fraction exponent
    return (n, cs)

/-- What follows a word at the front of a text. -/
def afterWord? (word : List Char) (cs : List Char) : Option Rest :=
  if word.isPrefixOf cs then some (cs.drop word.length) else none

mutual

/-- A value at the front of a text, blanks before it included. `depth` is how many arrays and
objects may still be opened inside one another; the fuel bounds the steps. -/
def readValue : Nat → Nat → List Char → Option (Json × Rest)
  | 0, _, _ => none
  | fuel + 1, depth, cs =>
    match skipBlank cs with
    | '"' :: rest => (readString rest).map fun r => (.string r.1, r.2)
    | '[' :: rest =>
      match depth with
      | 0 => none
      | depth + 1 =>
        match skipBlank rest with
        | ']' :: rest => some (.array [], rest)
        | _ => (readItems fuel depth rest).map fun r => (.array r.1, r.2)
    | '\x7b' :: rest =>
      match depth with
      | 0 => none
      | depth + 1 =>
        match skipBlank rest with
        | '\x7d' :: rest => some (.object [], rest)
        | _ => (readMembers fuel depth rest).map fun r => (.object r.1, r.2)
    | 'n' :: rest => (afterWord? "ull".toList rest).map fun r => (.null, r)
    | 't' :: rest => (afterWord? "rue".toList rest).map fun r => (.bool true, r)
    | 'f' :: rest => (afterWord? "alse".toList rest).map fun r => (.bool false, r)
    | cs => (readNumber cs).map fun r => (.number r.1, r.2)

/-- The items of an array and its end. -/
def readItems : Nat → Nat → List Char → Option (List Json × Rest)
  | 0, _, _ => none
  | fuel + 1, depth, cs =>
    match readValue fuel depth cs with
    | none => none
    | some (j, rest) =>
      match skipBlank rest with
      | ']' :: rest => some ([j], rest)
      | ',' :: rest => (readItems fuel depth rest).map fun r => (j :: r.1, r.2)
      | _ => none

/-- The members of an object and its end. -/
def readMembers : Nat → Nat → List Char → Option (List (String × Json) × Rest)
  | 0, _, _ => none
  | fuel + 1, depth, cs =>
    match skipBlank cs with
    | '"' :: rest =>
      match readString rest with
      | none => none
      | some (k, rest) =>
        match skipBlank rest with
        | ':' :: rest =>
          match readValue fuel depth rest with
          | none => none
          | some (v, rest) =>
            match skipBlank rest with
            | '\x7d' :: rest => some ([(k, v)], rest)
            | ',' :: rest => (readMembers fuel depth rest).map fun r => ((k, v) :: r.1, r.2)
            | _ => none
        | _ => none
    | _ => none

end

/-- How many arrays and objects a text may hold inside one another. -/
def maxDepth : Nat := 127

/-- The value of a text that holds exactly one. -/
def parse? (text : String) : Option Json :=
  let cs := text.toList
  match readValue (2 * cs.length + 2) maxDepth cs with
  | some (j, rest) => if (skipBlank rest).isEmpty then some j else none
  | none => none

end SchemaForge.Json
