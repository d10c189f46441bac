/-!
# Binary floating point numbers

The 64-bit floating point numbers of IEEE 754 as exact values, without arithmetic: which
one a decimal numeral denotes, and the shortest decimal that denotes it.

## Main definitions

* `Binary64` : an infinity, the value that is no number, or `± m · 2^e`.
* `Binary64.ofDecimal` : the nearest number to `digits · 10^scale`, ties to even.
* `Binary64.positional`, `Binary64.general` : the shortest digits that read back, without an
  exponent and with one where it saves zeros.
-/

namespace SchemaForge

/-- A 64-bit floating point number. A finite one is `± mantissa · 2^exponent`, with the
mantissa below `2^53`. -/
inductive Binary64 where
  | finite (negative : Bool) (mantissa : Nat) (exponent : Int)
  | infinite (negative : Bool)
  | nan
  deriving Repr, DecidableEq

namespace Binary64

/-- The quotient rounded to the nearest integer, ties to the even one. -/
def divRound (num den : Nat) : Nat :=
  let q := num / den
  let r := num % den
  if 2 * r < den then q
  else if den < 2 * r then q + 1
  else if q % 2 == 0 then q else q + 1

/-- `num / den` over `2^exponent`, rounded to an integer. -/
def scaled (num den : Nat) (exponent : Int) : Nat :=
  if 0 ≤ exponent then divRound num (den * Nat.pow 2 exponent.toNat)
  else divRound (num * Nat.pow 2 (-exponent).toNat) den

/-- Whether `num / den` is at least `2^exponent`. -/
def reaches (num den : Nat) (exponent : Int) : Bool :=
  if 0 ≤ exponent then den * Nat.pow 2 exponent.toNat ≤ num
  else den ≤ num * Nat.pow 2 (-exponent).toNat

/-- The number nearest to the positive quotient `num / den`. -/
def ofRatio (negative : Bool) (num den : Nat) : Binary64 :=
  if num == 0 then .finite negative 0 0
  else
    let guess : Int := (Nat.log2 num : Int) - (Nat.log2 den : Int)
    let lead := if reaches num den guess then guess else guess - 1
    let exponent := max (lead - 52) (-1074)
    let m := scaled num den exponent
    let (m, exponent) := if m == Nat.pow 2 53 then (Nat.pow 2 52, exponent + 1) else (m, exponent)
    if 971 < exponent then .infinite negative else .finite negative m exponent

/-- The number nearest to `± digits · 10^scale`. Numerals far outside the range are decided
by their size alone. -/
def ofDecimal (negative : Bool) (digits : Nat) (scale : Int) : Binary64 :=
  if digits == 0 then .finite negative 0 0
  else
    let magnitude : Int := scale + ((Nat.toDigits 10 digits).length : Int)
    if 400 < magnitude then .infinite negative
    else if magnitude < -400 then .finite negative 0 0
    else if 0 ≤ scale then ofRatio negative (digits * Nat.pow 10 scale.toNat) 1
    else ofRatio negative digits (Nat.pow 10 (-scale).toNat)

/-- Whether the number is different from zero. What is no number differs from it. -/
def isNonzero : Binary64 → Bool
  | .finite _ m _ => m != 0
  | .infinite _ => true
  | .nan => true

/-- The whole number that a number is, if it is one. -/
def whole? : Binary64 → Option Int
  | .finite negative m e =>
    let magnitude : Option Nat :=
      if 0 ≤ e then some (m * Nat.pow 2 e.toNat)
      else
        let d := Nat.pow 2 (-e).toNat
        if m % d == 0 then some (m / d) else none
    magnitude.map fun n => if negative then -(n : Int) else n
  | _ => none

/-- The bounds of the reals that round to `mantissa · 2^exponent`, with the number between
them, as numerators over the common denominator in the last place. -/
def interval (mantissa : Nat) (exponent : Int) : Nat × Nat × Nat × Nat :=
  let narrow := mantissa == Nat.pow 2 52 && (-1074 : Int) < exponent
  -- in quarters of the last place
  let v := 4 * mantissa
  let lo := if narrow then v - 1 else v - 2
  let hi := v + 2
  if 0 ≤ exponent then
    let s := Nat.pow 2 exponent.toNat
    (lo * s, v * s, hi * s, 4)
  else (lo, v, hi, 4 * Nat.pow 2 (-exponent).toNat)

/-- Whether `candidate · 10^place` lies in the interval, whose ends belong to it when
`closed`. -/
def contains (lo hi den : Nat) (closed : Bool) (candidate : Nat) (place : Int) : Bool :=
  let (c, d) :=
    if 0 ≤ place then (candidate * Nat.pow 10 place.toNat * den, 1)
    else (candidate * den, Nat.pow 10 (-place).toNat)
  if closed then lo * d ≤ c && c ≤ hi * d else lo * d < c && c < hi * d

/-- The neighbours of `v / den` on the grid of multiples of `10^place`, the lower one first,
and whether the upper one is nearer. -/
def neighbours (v den : Nat) (place : Int) : Nat × Nat × Bool :=
  let (n, d) :=
    if 0 ≤ place then (v, den * Nat.pow 10 place.toNat) else (v * Nat.pow 10 (-place).toNat, den)
  let q := n / d
  (q, q + 1, decide (d < 2 * (n % d)))

/-- The first grid, from the coarsest down, with a point in the interval, and that point. -/
def search (lo v hi den : Nat) (closed : Bool) : Nat → Int → Nat × Int
  | 0, place => (v / den, place)
  | fuel + 1, place =>
    let (a, b, upper) := neighbours v den place
    let hasA := a != 0 && contains lo hi den closed a place
    let hasB := contains lo hi den closed b place
    if hasA && hasB then (if upper then b else a, place)
    else if hasA then (a, place)
    else if hasB then (b, place)
    else search lo v hi den closed fuel (place - 1)

/-- The fewest decimal digits that read back as `mantissa · 2^exponent`, and the power of
ten of the last of them. -/
def shortest (mantissa : Nat) (exponent : Int) : Nat × Int :=
  let (lo, v, hi, den) := interval mantissa exponent
  search lo v hi den (mantissa % 2 == 0) 650 309

/-- The decimal digits of a number, without leading zeros. -/
def decimalDigits (n : Nat) : List Char :=
  Nat.toDigits 10 n

/-- `digits · 10^place` written out in full. -/
def writeOut (digits : Nat) (place : Int) : List Char :=
  let ds := decimalDigits digits
  if 0 ≤ place then ds ++ List.replicate place.toNat '0'
  else
    let fraction := (-place).toNat
    let ds := List.replicate (fraction + 1 - ds.length) '0' ++ ds
    ds.take (ds.length - fraction) ++ '.' :: ds.drop (ds.length - fraction)

/-- The text of a number: the fewest digits that read back, written out without an
exponent. A whole number has no decimal point. -/
def positional : Binary64 → String
  | .nan => "NaN"
  | .infinite negative => if negative then "-inf" else "inf"
  | .finite negative m e =>
    let body := if m == 0 then ['0'] else
      let (digits, place) := shortest m e
      writeOut digits place
    String.ofList (if negative then '-' :: body else body)

/-- The text of a number, with `.0` after a whole one. -/
def withPoint (x : Binary64) : String :=
  let s := x.positional
  if s.toList.any (· == '.') then s else
    match x with
    | .finite .. => s ++ ".0"
    | _ => s

/-- `digits · 10^place` with one digit before the point and the power of ten after the
letter `e`, with its sign. -/
def writeWithExponent (digits : Nat) (place : Int) : List Char :=
  let ds := decimalDigits digits
  let exponent : Int := place + ((ds.length : Int) - 1)
  let mantissa := if ds.length == 1 then ds else ds.take 1 ++ '.' :: ds.drop 1
  let sign := if exponent < 0 then '-' else '+'
  mantissa ++ 'e' :: sign :: decimalDigits exponent.natAbs

/-- The text of a number: the fewest digits that read back. From `10^-5` up to, but not
including, `10^16` it is written out, with `.0` after a whole one; otherwise it has an
exponent. -/
def general (x : Binary64) : String :=
  match x with
  | .finite negative m e =>
    let (digits, place) := if m == 0 then (0, 0) else shortest m e
    let lead : Int := place + (((decimalDigits digits).length : Int) - 1)
    if m == 0 || (-5 ≤ lead && lead < 16) then x.withPoint
    else
      let body := writeWithExponent digits place
      String.ofList (if negative then '-' :: body else body)
  | _ => x.withPoint

end Binary64

end SchemaForge
