import SchemaForge.Text.Raw

/-!
# Texts among the bytes

The bytes of a text are read as that text (`RawText.text?_ofText`), and no others are
(`RawText.eq_ofText_of_text?`). So bytes that are a text can be taken for it.
-/

namespace SchemaForge

/-- The text of the bytes of a text. -/
theorem Utf8.decode?_encode (s : String) : decode? (encode s) = some s := by
  rw [decode?, encode, Array.toArray_toList]
  exact dif_pos s.isValidUTF8

namespace RawText

theorem text?_ofText (s : String) : (ofText s).text? = some s :=
  Utf8.decode?_encode s

theorem ofText_injective : Function.Injective ofText := by
  intro s t h
  have htext := congrArg text? h
  rw [text?_ofText, text?_ofText] at htext
  exact Option.some.inj htext

/-- Bytes that have a text are the bytes of that text. -/
theorem eq_ofText_of_text? {r : RawText} {s : String} (h : r.text? = some s) : r = ofText s := by
  rw [text?, Utf8.decode?, String.fromUTF8?] at h
  split at h
  · obtain rfl := Option.some.inj h
    rfl
  · cases h

theorem text?_eq_some_iff {r : RawText} {s : String} : r.text? = some s ↔ r = ofText s :=
  ⟨eq_ofText_of_text?, fun h ↦ h ▸ text?_ofText s⟩

theorem eq_empty_iff {r : RawText} : r = "" ↔ r.bytes = [] := by
  cases r with
  | mk bytes => exact RawText.mk.injEq bytes [] ▸ Iff.rfl

theorem bytes_inj {r s : RawText} : r.bytes = s.bytes ↔ r = s :=
  ⟨fun h ↦ by cases r; cases s; exact congrArg RawText.mk h, fun h ↦ h ▸ rfl⟩

end RawText

end SchemaForge
