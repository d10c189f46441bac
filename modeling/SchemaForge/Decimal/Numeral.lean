import SchemaForge.Decimal.Binary64
import SchemaForge.Json.Reader

/-!
# Numerals in free text

The numerals that a number may be given by where no format rules: a sign, digits with a
point anywhere among them, an exponent, and words for what is no finite number.

## Main definitions

* `Decimal.wholeOf?` : the whole number of 64 bits that a text denotes.
* `Decimal.realOf?` : the floating point number that a text denotes.
-/

namespace SchemaForge.Decimal

/-- A numeral without its sign, and whether the sign is a minus. -/
def splitSign : List Char → Bool × List Char
  | '-' :: cs => (true, cs)
  | '+' :: cs => (false, cs)
  | cs => (false, cs)

/-- The whole number that a text denotes, if 64 bits hold it. -/
def wholeOf? (s : String) : Option Int :=
  let (negative, ds) := splitSign s.toList
  if ds.isEmpty || !ds.all Json.isDecimal then none
  else
    let n : Int := Json.decimalValue ds
    let n := if negative then -n else n
    if Width.fitsSigned 64 n then some n else none

/-- The power of ten that follows the digits of a numeral, which may be missing. -/
def exponentOf? : List Char → Option Int
  | [] => some 0
  | e :: cs =>
    if e == 'e' || e == 'E' then
      let (negative, ds) := splitSign cs
      if ds.isEmpty || !ds.all Json.isDecimal then none
      else
        let n : Int := Json.decimalValue ds
        some (if negative then -n else n)
    else none

/-- The number that a numeral without sign denotes. There is a digit before or after the
point. -/
def finiteOf? (negative : Bool) (cs : List Char) : Option Binary64 :=
  let (whole, rest) := Json.spanDigits cs
  let (fraction, rest) :=
    match rest with
    | '.' :: rest => Json.spanDigits rest
    | rest => ([], rest)
  if whole.isEmpty && fraction.isEmpty then none
  else
    (exponentOf? rest).map fun exponent =>
      .ofDecimal negative (Json.decimalValue (whole ++ fraction))
        (exponent - (fraction.length : Int))

/-- The floating point number that a text denotes; words count in any case. -/
def realOf? (s : String) : Option Binary64 :=
  let (negative, cs) := splitSign s.toList
  let word := String.ofList (cs.map Char.toLower)
  if word == "inf" || word == "infinity" then some (.infinite negative)
  else if word == "nan" then some .nan
  else finiteOf? negative cs

end SchemaForge.Decimal
