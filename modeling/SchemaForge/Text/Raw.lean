import SchemaForge.Text.Utf8

/-!
# Text as a system takes it

The name of a file, a path, and what a process is started with are bytes to a system. Mostly
they are the bytes of a text, but nothing makes sure of that, so what is made of them has to
say what it does with others.

## Main definitions

* `RawText` : any bytes, text or not.
* `RawText.ofText`, `RawText.text?` : the bytes of a text, and the text of bytes.
* `RawText.shown` : the bytes as a message shows them.
-/

namespace SchemaForge

/-- What a system takes where a text is meant: any bytes, text or not. -/
structure RawText where
  bytes : Bytes
  deriving Repr, DecidableEq, Inhabited

namespace RawText

/-- The bytes of a text. -/
def ofText (s : String) : RawText := ⟨Utf8.encode s⟩

/-- Texts can stand where bytes are meant. -/
instance : Coe String RawText := ⟨ofText⟩

instance : Append RawText := ⟨fun r s => ⟨r.bytes ++ s.bytes⟩⟩

/-- The text, if it is one. -/
def text? (r : RawText) : Option String := Utf8.decode? r.bytes

/-- The text as it is shown, with what is no text replaced. -/
def shown (r : RawText) : String := Utf8.decodeLossy r.bytes

/-- Whether there is a NUL character in it, which neither a path nor a process can be given. -/
def hasNul (r : RawText) : Bool := r.bytes.contains 0

end RawText

end SchemaForge
