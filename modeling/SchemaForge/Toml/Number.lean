import SchemaForge.Json.Reader

/-!
# Numbers in TOML documents

Whole numbers in base ten, two, eight and sixteen, and floating point numbers. Underscores
may stand between two digits.

## Main definitions

* `Toml.wholeOf?` : the whole number that a word denotes.
* `Toml.realOf?` : the floating point number that a word denotes.
-/

namespace SchemaForge.Toml

/-- The digits of a numeral without the underscores, each of which must stand between two
digits. -/
def ungroup (isDigit : Char → Bool) : List Char → Option (List Char)
  | [] => none
  | [c] => if isDigit c then some [c] else none
  | c :: '_' :: rest => if isDigit c then (ungroup isDigit rest).map (c :: ·) else none
  | c :: rest => if isDigit c then (ungroup isDigit rest).map (c :: ·) else none

/-- The value of digits in a base. -/
def valueIn (base : Nat) (digits : List Char) : Nat :=
  digits.foldl (fun n c => base * n + (Json.hexValue? c).getD 0) 0

/-- Whether a character is a digit of a base of at most sixteen. -/
def isDigitOf (base : Nat) (c : Char) : Bool :=
  match Json.hexValue? c with
  | some v => v < base
  | none => false

/-- A numeral in a base. -/
def numeral? (base : Nat) (cs : List Char) : Option Nat :=
  (ungroup (isDigitOf base) cs).map (valueIn base)

/-- The digits of a numeral in base ten, of which a leading zero stands alone. -/
def decimalDigits? (cs : List Char) : Option (List Char) :=
  match ungroup Json.isDecimal cs with
  | some ('0' :: _ :: _) => none
  | ds => ds

/-- A word without its sign, and whether the sign is a minus. -/
def splitSign : List Char → Bool × List Char
  | '-' :: cs => (true, cs)
  | '+' :: cs => (false, cs)
  | cs => (false, cs)

/-- The whole number that a word denotes, as long as 128 bits hold it. Only a number in base
ten may have a sign. -/
def wholeOf? (word : List Char) : Option Int :=
  let value : Option Int :=
    match word with
    | '0' :: 'x' :: cs => (numeral? 16 cs).map Int.ofNat
    | '0' :: 'o' :: cs => (numeral? 8 cs).map Int.ofNat
    | '0' :: 'b' :: cs => (numeral? 2 cs).map Int.ofNat
    | _ =>
      let (negative, cs) := splitSign word
      (decimalDigits? cs).map fun ds =>
        if negative then -(valueIn 10 ds : Int) else valueIn 10 ds
  value.filter fun n => Width.fitsSigned 128 n || (0 ≤ n && n.toNat < Width.count 128)

/-- The exponent of a number, after its letter. -/
def exponentOf? (cs : List Char) : Option Int :=
  let (negative, cs) := splitSign cs
  (numeral? 10 cs).map fun n => if negative then -(n : Int) else n

/-- A number from its parts. -/
def realFrom? (negative : Bool) (mantissa : List Char) (exponent : Int) : Option Binary64 :=
  let whole := mantissa.takeWhile (· != '.')
  match decimalDigits? whole, mantissa.drop whole.length with
  | some ds, [] => some (.ofDecimal negative (valueIn 10 ds) exponent)
  | some ds, '.' :: fraction =>
    (ungroup Json.isDecimal fraction).map fun fs =>
      .ofDecimal negative (valueIn 10 (ds ++ fs)) (exponent - (fs.length : Int))
  | _, _ => none

/-- The floating point number that a word denotes: a numeral with a point or an exponent, and
within range, or one of the words for what is no finite number. -/
def realOf? (word : List Char) : Option Binary64 :=
  let (negative, cs) := splitSign word
  if cs == "inf".toList then some (.infinite negative)
  else if cs == "nan".toList then some .nan
  else
    let isLetter (c : Char) : Bool := c == 'e' || c == 'E'
    let mantissa := cs.takeWhile fun c => !isLetter c
    let value :=
      match cs.drop mantissa.length with
      | [] => if mantissa.contains '.' then realFrom? negative mantissa 0 else none
      | _ :: exponent => (exponentOf? exponent).bind (realFrom? negative mantissa)
    value.filter fun x =>
      match x with
      | .infinite _ => false
      | _ => true

end SchemaForge.Toml
