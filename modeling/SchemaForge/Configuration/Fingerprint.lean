import SchemaForge.Configuration.Json
import SchemaForge.Configuration.Normal
import SchemaForge.Digest.Sha256

/-!
# Fingerprints

The key under which a build remembers that a task is up to date: the digest of the compact
text of its normal form, set apart from all other digests by a fixed front.

## Main definitions

* `Fingerprint` : the bytes of a digest.
* `Fingerprint.preimage` : the bytes that are hashed.
* `Fingerprint.ofNormal` : the digest of a configuration in normal form.
* `Fingerprint.of` : the fingerprint of a configuration in normal form, if it can be written.
-/

namespace SchemaForge

/-- The key of a configuration in normal form. -/
structure Fingerprint where
  bytes : Bytes
  deriving Repr, DecidableEq

namespace Fingerprint

/-- What sets these digests apart from all others. -/
def domain : String := "schemagen-config:v1"

/-- The bytes that are hashed: the front, a zero byte, and the compact text. -/
def preimage (normal : Configuration) : Bytes :=
  Utf8.encode domain ++ 0 :: Utf8.encode normal.canonical

/-- The digest of a configuration in normal form. -/
def ofNormal (normal : Configuration) : Fingerprint :=
  ⟨Sha256.digest (preimage normal)⟩

/-- The fingerprint of a configuration in normal form. There is none of a configuration that
cannot be written. -/
def of (normal : Configuration) : Except Error Fingerprint :=
  normal.serialize.map fun _ => ofNormal normal

/-- The fingerprint as lower-case hexadecimal. -/
def toHex (f : Fingerprint) : String := hex f.bytes

end Fingerprint

end SchemaForge
