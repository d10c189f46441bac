/-!
# Bytes as text

Reading a sequence of bytes as UTF-8, strictly and leniently. The strict reader accepts
exactly well-formed text; the lenient one writes U+FFFD for each maximal part of the bytes
that starts no character, as the Unicode Standard recommends.

## Main definitions

* `Utf8.encode`, `Utf8.decode?` : text to bytes and back.
* `Utf8.decodeLossy` : every byte sequence has a text.
-/

namespace SchemaForge

/-- A sequence of bytes: the content of a file or what a process wrote. -/
abbrev Bytes := List UInt8

namespace Utf8

/-- The bytes of a text. -/
def encode (s : String) : Bytes :=
  s.toUTF8.data.toList

/-- What the bytes at the front of a sequence are: a character and its length, or a part
of that many bytes that starts none. -/
inductive Front where
  | char (c : Char) (size : Nat)
  | broken (size : Nat)
  deriving Repr, DecidableEq

/-- A continuation byte within the bounds `lo` and `hi`, as its six payload bits. -/
def continuation? (lo hi : UInt8) : Bytes → Option Nat
  | b :: _ => if lo ≤ b && b ≤ hi then some (b.toNat % 64) else none
  | [] => none

/-- Reads the front of a sequence whose first byte is `b` and whose others are `rest`. A
first byte fixes how many follow and the bounds of the second, which exclude long forms,
surrogates and numbers above U+10FFFF. -/
def front (b : UInt8) (rest : Bytes) : Front :=
  let two (lead : Nat) : Front :=
    match continuation? 0x80 0xBF rest with
    | some p => .char (Char.ofNat (lead * 64 + p)) 2
    | none => .broken 1
  let three (lead : Nat) (lo hi : UInt8) : Front :=
    match continuation? lo hi rest with
    | none => .broken 1
    | some p =>
      match continuation? 0x80 0xBF (rest.drop 1) with
      | none => .broken 2
      | some q => .char (Char.ofNat ((lead * 64 + p) * 64 + q)) 3
  let four (lead : Nat) (lo hi : UInt8) : Front :=
    match continuation? lo hi rest with
    | none => .broken 1
    | some p =>
      match continuation? 0x80 0xBF (rest.drop 1) with
      | none => .broken 2
      | some q =>
        match continuation? 0x80 0xBF (rest.drop 2) with
        | none => .broken 3
        | some r => .char (Char.ofNat (((lead * 64 + p) * 64 + q) * 64 + r)) 4
  if b < 0x80 then .char (Char.ofNat b.toNat) 1
  else if b < 0xC2 then .broken 1
  else if b < 0xE0 then two (b.toNat % 32)
  else if b == 0xE0 then three 0 0xA0 0xBF
  else if b == 0xED then three 13 0x80 0x9F
  else if b < 0xF0 then three (b.toNat % 16) 0x80 0xBF
  else if b == 0xF0 then four 0 0x90 0xBF
  else if b < 0xF4 then four (b.toNat % 8) 0x80 0xBF
  else if b == 0xF4 then four 4 0x80 0x8F
  else .broken 1

/-- The characters of a byte sequence, `none` in place of each broken part. The fuel bounds
the number of parts. -/
def parts : Nat → Bytes → List (Option Char)
  | 0, _ => []
  | _ + 1, [] => []
  | fuel + 1, b :: rest =>
    match front b rest with
    | .char c size => some c :: parts fuel (rest.drop (size - 1))
    | .broken size => none :: parts fuel (rest.drop (size - 1))

/-- The text of well-formed bytes. -/
def decode? (bytes : Bytes) : Option String :=
  String.fromUTF8? (ByteArray.mk bytes.toArray)

/-- The text of any bytes, each maximal broken part written as U+FFFD. -/
def decodeLossy (bytes : Bytes) : String :=
  String.ofList ((parts bytes.length bytes).map fun p => p.getD '\uFFFD')

end Utf8

end SchemaForge
