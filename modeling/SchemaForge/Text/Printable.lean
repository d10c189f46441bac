import SchemaForge.Text.Property

/-!
# Characters that print

The characters that a quoted text may show as they are. Excluded are controls, format
characters, private-use and unassigned code points, every separator but the space, what is
ignored by default, and the characters that extend the grapheme before them: those would not
be seen, or would change the look of what precedes them.

## Main definitions

* `isPrintable` : whether a character may be shown as it is.
-/

namespace SchemaForge.Text

/-- The categories of characters that are not seen. -/
def unseenCategories : List Category := [.cc, .cf, .cn, .co, .cs, .zl, .zp, .zs]

/-- Whether a character changes the look of the one before it. The half-width voicing marks of
katakana have a width of their own and do not. -/
def changesLook (c : Char) : Bool :=
  Property.extending.holds c && c != '\uFF9E' && c != '\uFF9F'

/-- Whether a quoted text may show the character as it is. -/
def isPrintable (c : Char) : Bool :=
  let n := c.toNat
  if n < 0x80 then 0x20 ≤ n && n < 0x7F
  else
    !unseenCategories.contains (.ofChar c) && !Property.defaultIgnorable.holds c &&
      !changesLook c

end SchemaForge.Text
