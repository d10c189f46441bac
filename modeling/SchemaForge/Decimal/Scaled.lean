import SchemaForge.Decimal.Binary64
import SchemaForge.Decimal.Width

/-!
# Numerals scaled in floating point

The floating point number that a reader of numerals arrives at which keeps at most 64 bits of
the digits and then scales them: one rounding for the digits, and one for every step of the
scaling. The result may differ in its last place from the number nearest to the numeral.

## Main definitions

* `Binary64.times`, `Binary64.dividedBy` : a product and a quotient, rounded.
* `Decimal.Significand` : the digits of a numeral as far as they are kept.
* `Decimal.scale?` : the number of a significand and a power of ten.
-/

namespace SchemaForge

namespace Binary64

/-- The finite number as a quotient, without its sign. -/
def ratio (mantissa : Nat) (exponent : Int) : Nat × Nat :=
  if 0 ≤ exponent then (mantissa * Nat.pow 2 exponent.toNat, 1)
  else (mantissa, Nat.pow 2 (-exponent).toNat)

/-- The number nearest to a product of finite numbers. -/
def times : Binary64 → Binary64 → Binary64
  | .finite s m e, .finite t n f =>
    let (a, b) := ratio m e
    let (c, d) := ratio n f
    ofRatio (s != t) (a * c) (b * d)
  | _, _ => .nan

/-- The number nearest to a quotient of finite numbers, of which the second is not zero. -/
def dividedBy : Binary64 → Binary64 → Binary64
  | .finite s m e, .finite t n f =>
    let (a, b) := ratio m e
    let (c, d) := ratio n f
    ofRatio (s != t) (a * d) (b * c)
  | _, _ => .nan

/-- The number nearest to a power of ten. -/
def powerOfTen (n : Nat) : Binary64 := ofDecimal false 1 n

/-- The number with the other sign. -/
def negate : Binary64 → Binary64
  | .finite s m e => .finite (!s) m e
  | .infinite s => .infinite (!s)
  | .nan => .nan

end Binary64

namespace Decimal

/-- The digits of a numeral as far as 64 bits hold them. -/
structure Significand where
  digits : Nat := 0
  /-- How many digits were kept. -/
  kept : Nat := 0
  /-- How many digits were dropped. -/
  dropped : Nat := 0

/-- Adds a digit. Once one is dropped, so are those after it. -/
def Significand.push (s : Significand) (digit : Nat) : Significand :=
  let n := 10 * s.digits + digit
  if s.dropped == 0 && n < Width.count 64 then { s with digits := n, kept := s.kept + 1 }
  else { s with dropped := s.dropped + 1 }

/-- The greatest power of ten that is a floating point number. -/
def greatestPower : Nat := 308

/-- Scales a number by a power of ten; there is no result beyond the finite numbers. The fuel
bounds the steps by which a number becomes smaller. -/
def scaleBy : Nat → Binary64 → Int → Option Binary64
  | 0, x, _ => some x
  | fuel + 1, x, exponent =>
    if !x.isNonzero then some x
    else if exponent < -(greatestPower : Int) then
      scaleBy fuel (x.dividedBy (.powerOfTen greatestPower)) (exponent + greatestPower)
    else if exponent < 0 then some (x.dividedBy (.powerOfTen exponent.natAbs))
    else if exponent ≤ greatestPower then
      match x.times (.powerOfTen exponent.natAbs) with
      | .finite s m e => some (.finite s m e)
      | _ => none
    else none

/-- The number of a significand and a power of ten. Three steps leave nothing of 64 bits. -/
def scale? (negative : Bool) (significand : Nat) (exponent : Int) : Option Binary64 :=
  (scaleBy 4 (.ofDecimal false significand 0) exponent).map fun x =>
    if negative then x.negate else x

end Decimal

end SchemaForge
