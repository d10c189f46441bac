import SchemaForge.Json.Reader
import SchemaForge.Text.Utf8

/-!
# Percent-encoding

## Main definitions

* `Url.percentDecode` : the bytes of a text whose percent-escapes are undone.
* `Url.formDecode` : the same for the parts of a query, where a plus sign is a blank.
-/

namespace SchemaForge.Url

/-- Undoes percent-encoding; a percent sign without two hexadecimal digits stays. -/
def percentDecode : List Char → Bytes
  | '%' :: a :: b :: rest =>
    match Json.hexValue? a, Json.hexValue? b with
    | some x, some y => UInt8.ofNat (16 * x + y) :: percentDecode rest
    | _, _ => 0x25 :: percentDecode (a :: b :: rest)
  | c :: rest => Utf8.encode (String.singleton c) ++ percentDecode rest
  | [] => []
termination_by cs => cs.length

/-- The text of a part of a query. -/
def formDecode (cs : List Char) : String :=
  Utf8.decodeLossy (percentDecode (cs.map fun c => if c == '+' then ' ' else c))

end SchemaForge.Url
