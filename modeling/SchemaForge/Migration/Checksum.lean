import SchemaForge.Digest.Sha256

/-!
# Checksums of migration scripts

A script is sealed by the digest of its text with every pair of carriage return and line feed
read as a line feed, so a checkout that changes line ends changes no checksum.

## Main definitions

* `Checksum.unifyLineEnds` : line feeds for pairs of carriage return and line feed.
* `Checksum.ofScript` : the checksum as hexadecimal text.
-/

namespace SchemaForge.Checksum

/-- Replaces each pair of carriage return and line feed by a line feed, from the front in one
pass. A carriage return alone stays. -/
def unifyLineEnds : List Char → List Char
  | '\r' :: '\n' :: rest => '\n' :: unifyLineEnds rest
  | c :: rest => c :: unifyLineEnds rest
  | [] => []

/-- The bytes that are hashed. -/
def preimage (sql : String) : Bytes :=
  Utf8.encode (String.ofList (unifyLineEnds sql.toList))

/-- The checksum of a script's text. -/
def ofScript (sql : String) : String :=
  hex (Sha256.digest (preimage sql))

end SchemaForge.Checksum
