import SchemaForge.Json.Reader
import SchemaForge.Text.Blank
import SchemaForge.Text.Quoted

/-!
# Addresses in brackets

The eight numbers of an IPv6 address: read with the longest run of zeros left out or not, and
with the last two numbers as four decimal ones or not; written with the longest run left out.

## Main definitions

* `Ipv6.parse?` : the numbers of an address.
* `Ipv6.toText` : the one written form of eight numbers.
-/

namespace SchemaForge.Ipv6

/-- A number from 0 to 255 without a needless zero in front. -/
def byte? (cs : List Char) : Option Nat :=
  let n := Json.decimalValue cs
  if cs.isEmpty || !cs.all Json.isDecimal || 255 < n then none
  else if 1 < cs.length && cs.head? == some '0' then none
  else some n

/-- The two numbers that four decimal ones stand for. -/
def dotted? (cs : List Char) : Option (List Nat) :=
  match (Text.pieces (· == '.') cs).mapM byte? with
  | some [a, b, c, d] => some [256 * a + b, 256 * c + d]
  | _ => none

/-- What is read of an address: its numbers, with one zero in place of those left out, and
after how many numbers that zero stands, counting it. -/
structure Parts where
  numbers : List Nat
  gap : Option Nat

/-- The number of up to four hexadecimal digits at the front, how many they are, and the
rest. -/
def readDigits : Nat → Nat → Nat → List Char → Nat × Nat × List Char
  | 0, count, n, cs => (n, count, cs)
  | _ + 1, count, n, [] => (n, count, [])
  | fuel + 1, count, n, c :: cs =>
    match Json.hexValue? c with
    | some v => readDigits fuel (count + 1) (16 * n + v) cs
    | none => (n, count, c :: cs)

/-- Reads the numbers of an address after those that were read before. The fuel bounds their
number. -/
def readParts : Nat → Parts → List Char → Option Parts
  | 0, _, _ => none
  | _ + 1, parts, [] => some parts
  | fuel + 1, parts, c :: cs =>
    if 8 ≤ parts.numbers.length then none
    else if c == ':' then
      match parts.gap with
      | some _ => none
      | none =>
        readParts fuel ⟨parts.numbers ++ [0], some (parts.numbers.length + 1)⟩ cs
    else
      let (n, count, rest) := readDigits 4 0 0 (c :: cs)
      match rest with
      | [] => some { parts with numbers := parts.numbers ++ [n] }
      | '.' :: _ =>
        if count == 0 || 6 < parts.numbers.length then none
        else (dotted? (c :: cs)).map fun ns => { parts with numbers := parts.numbers ++ ns }
      | ':' :: rest =>
        if rest.isEmpty then none
        else readParts fuel { parts with numbers := parts.numbers ++ [n] } rest
      | _ => none

/-- The eight numbers: zeros are filled in at the gap. -/
def fill (parts : Parts) : Option (List Nat) :=
  match parts.gap with
  | none => if parts.numbers.length == 8 then some parts.numbers else none
  | some n =>
    some (parts.numbers.take n ++ List.replicate (8 - parts.numbers.length) 0 ++
      parts.numbers.drop n)

/-- The numbers of an address. -/
def parse? (cs : List Char) : Option (List Nat) :=
  match cs with
  | ':' :: ':' :: rest => (readParts 10 ⟨[0], some 1⟩ rest).bind fill
  | ':' :: _ => none
  | [] => none
  | _ => (readParts 10 ⟨[], none⟩ cs).bind fill

/-- The length of the run of zeros at the front. -/
def zeros : List Nat → Nat
  | 0 :: ns => zeros ns + 1
  | _ => 0

/-- Where the first longest run of two zeros or more begins, and its length. -/
def longestRun (ns : List Nat) : Option (Nat × Nat) :=
  (List.range ns.length).foldl (fun best i =>
    let n := zeros (ns.drop i)
    match best with
    | some (_, m) => if m < n then some (i, n) else best
    | none => if 2 ≤ n then some (i, n) else none) none

/-- Numbers in hexadecimal with colons between them. -/
def hexList (ns : List Nat) : String :=
  Text.join ":" (ns.map fun n => String.ofList (Text.hexDigits n))

/-- The written form of eight numbers. -/
def toText (ns : List Nat) : String :=
  match longestRun ns with
  | none => hexList ns
  | some (i, n) => hexList (ns.take i) ++ "::" ++ hexList (ns.drop (i + n))

end SchemaForge.Ipv6
