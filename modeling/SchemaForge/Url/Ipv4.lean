import SchemaForge.Json.Reader
import SchemaForge.Text.Blank

/-!
# Addresses of four numbers

A host whose last part is a number has to be an address: up to four numbers between points, of
which the last fills the places that are left out.

## Main definitions

* `Ipv4.number?` : a number, to the base that its first characters announce.
* `Ipv4.isNumeric` : whether a host has to be an address.
* `Ipv4.parse?` : the 32-bit number of an address.
-/

namespace SchemaForge.Ipv4

/-- The value of one digit to a base. -/
def digit? (base : Nat) (c : Char) : Option Nat :=
  (Json.hexValue? c).bind fun d => if d < base then some d else none

/-- The value of digits to a base; no digits are zero. -/
def value? (base : Nat) (cs : List Char) : Option Nat :=
  (cs.mapM (digit? base)).map fun ds => ds.foldl (fun n d => base * n + d) 0

/-- The number that a part of an address denotes: hexadecimal after `0x`, octal after a zero,
else decimal. -/
def number? : List Char → Option Nat
  | [] => none
  | '0' :: 'x' :: cs | '0' :: 'X' :: cs => value? 16 cs
  | '0' :: c :: cs => value? 8 (c :: cs)
  | cs => value? 10 cs

/-- The parts between points; a point at the end opens none. -/
def parts (cs : List Char) : List (List Char) :=
  let ps := Text.pieces (· == '.') cs
  if 1 < ps.length && ps.getLast? == some [] then ps.dropLast else ps

/-- Whether the last part of a host is a number. -/
def isNumeric (cs : List Char) : Bool :=
  match (parts cs).getLast? with
  | some p => (!p.isEmpty && p.all Json.isDecimal) || (number? p).isSome
  | none => false

/-- The number of an address. -/
def parse? (cs : List Char) : Option Nat := do
  let ps := parts cs
  if 4 < ps.length then none
  else
    let ns ← ps.mapM number?
    let before := ns.dropLast
    let last ← ns.getLast?
    if before.all (· < 256) && last < Nat.pow 256 (4 - before.length) then
      return (before.foldl (fun n b => 256 * n + b) 0) * Nat.pow 256 (4 - before.length) + last
    else none

end SchemaForge.Ipv4
