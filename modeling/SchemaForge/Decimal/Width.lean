/-!
# Widths of numbers

## Main definitions

* `Width.count` : how many numbers a width holds.
* `Width.fitsSigned` : whether a number fits into a width with a sign.
-/

namespace SchemaForge.Width

/-- How many numbers there are of so many bits. -/
def count (bits : Nat) : Nat := Nat.pow 2 bits

/-- Whether a number fits into so many bits, one of which is its sign. -/
def fitsSigned (bits : Nat) (n : Int) : Bool :=
  -(count (bits - 1) : Int) ≤ n && n < (count (bits - 1) : Int)

end SchemaForge.Width
