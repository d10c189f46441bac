import Mathlib.Data.List.TakeWhile
import SchemaForge.Json.Reader
import SchemaForge.Json.Writer

/-!
# Reading back what was written

The two written forms of a value differ in their blanks only. `Json.Written` is the rule that both
follow: where a text of JSON may have blanks, and that a string is written by `Json.writeString`.
The rule is about a `Stretch` of the text, which holds a value or what is left of an array or an
object together with its end, so that one induction over it covers the three readers.

`Json.Written.reads` is that induction: whatever follows the rule is read back, with what comes
after it left over. So a text is written from one value at most (`Json.Written.value_unique`), and
the pretty text of a value is read back (`Json.parse?_pretty`). No two values have the same compact
text (`Json.compact_inj`), and for that it does not matter how deep they are.

Numbers stand apart: where a number ends is seen from what comes after it. What is said here is
about values in which none occurs (`Json.NumberFree`).
-/

namespace SchemaForge.Json

/-! ### Strings -/

theorem hexValue?_hexDigit : ∀ n < 16, hexValue? (Text.hexDigit n) = some n := by
  decide

theorem readChars_of_plain {c : Char} (hquote : c ≠ '"') (hbackslash : c ≠ '\\')
    (hcontrol : ¬c.toNat < 0x20) (cs : List Char) :
    readChars (c :: cs) = (readChars cs).map fun r ↦ (c :: r.1, r.2) := by
  rw [readChars, if_neg]
  all_goals simp_all

theorem readChars_control {n : Nat} (h : n < 0x20) (cs : List Char) :
    readChars ('\\' :: 'u' :: '0' :: '0' ::
        Text.hexDigit (n / 16) :: Text.hexDigit (n % 16) :: cs) =
      (readChars cs).map fun r ↦ (Char.ofNat n :: r.1, r.2) := by
  have hvalue : hexValue4? '0' '0' (Text.hexDigit (n / 16)) (Text.hexDigit (n % 16)) = some n := by
    have hzero : hexValue? '0' = some 0 := rfl
    rw [hexValue4?, hzero, hexValue?_hexDigit _ (by omega), hexValue?_hexDigit _ (by omega)]
    exact congrArg some (by omega)
  rw [readChars, hvalue]
  simp only
  rw [if_neg (by omega), if_neg (by omega)]

/-- An escaped character is read back. -/
theorem readChars_escapeChar (c : Char) (cs : List Char) :
    readChars (escapeChar c ++ cs) = (readChars cs).map fun r ↦ (c :: r.1, r.2) := by
  unfold escapeChar
  split
  all_goals try rfl
  rename_i hquote hbackslash _ _ _ _ _
  split
  · rename_i hcontrol
    exact (readChars_control hcontrol cs).trans (by rw [Char.ofNat_toNat])
  · rename_i hcontrol
    exact readChars_of_plain hquote hbackslash hcontrol cs

theorem readChars_flatMap_escapeChar (cs rest : List Char) :
    readChars (cs.flatMap escapeChar ++ '"' :: rest) = some (cs, rest) := by
  induction cs with
  | nil => rfl
  | cons c cs ih =>
    rw [List.flatMap_cons, List.append_assoc, readChars_escapeChar, ih]
    rfl

/-- A text between quotes is read back. -/
theorem readString_writeString (s : String) (rest : List Char) :
    ∃ cs, writeString s ++ rest = '"' :: cs ∧ readString cs = some (s, rest) := by
  refine ⟨s.toList.flatMap escapeChar ++ '"' :: rest, ?_, ?_⟩
  · rw [writeString, List.append_assoc]
    rfl
  · rw [readString, readChars_flatMap_escapeChar, Option.map_some, String.ofList_toList]

/-! ### The rule of written values -/

/-- What is passed over between the parts of a written value. -/
def Blank (cs : List Char) : Prop := skipBlank cs = []

theorem Blank.nil : Blank [] := rfl

theorem Blank.skipBlank_append {blank : List Char} (h : Blank blank) (cs : List Char) :
    skipBlank (blank ++ cs) = skipBlank cs :=
  List.dropWhile_append_of_pos (List.dropWhile_eq_nil_iff.1 h)

theorem blank_lineStart (depth : Nat) : Blank (lineStart depth) :=
  List.dropWhile_eq_nil_iff.2 fun c hc ↦ by
    rcases List.mem_cons.1 hc with rfl | hc
    · rfl
    · rw [List.eq_of_mem_replicate hc]
      rfl

/-- What a stretch of a written text holds: a value, or the items or members of one that are left
and the end of it. -/
inductive Stretch where
  | value (v : Json)
  | items (js : List Json)
  | members (ms : List (String × Json))

/-- The rule of written values, with blanks between their parts. There is none for numbers. -/
inductive Written : Stretch → List Char → Prop
  | null : Written (.value .null) "null".toList
  | true : Written (.value (.bool true)) "true".toList
  | false : Written (.value (.bool false)) "false".toList
  | string (s : String) : Written (.value (.string s)) (writeString s)
  | emptyArray : Written (.value (.array [])) ['[', ']']
  | array {js : List Json} {t : List Char} (h : Written (.items js) t) :
      Written (.value (.array js)) ('[' :: t)
  | emptyObject : Written (.value (.object [])) ['\x7b', '\x7d']
  | object {ms : List (String × Json)} {t : List Char} (h : Written (.members ms) t) :
      Written (.value (.object ms)) ('\x7b' :: t)
  | lastItem {j : Json} {before t after : List Char} (hbefore : Blank before)
      (h : Written (.value j) t) (hafter : Blank after) :
      Written (.items [j]) (before ++ t ++ after ++ [']'])
  | item {j : Json} {js : List Json} {before t after u : List Char} (hbefore : Blank before)
      (h : Written (.value j) t) (hafter : Blank after) (hrest : Written (.items js) u) :
      Written (.items (j :: js)) (before ++ t ++ after ++ ',' :: u)
  | lastMember {k : String} {v : Json} {before gap t after : List Char} (hbefore : Blank before)
      (hgap : Blank gap) (h : Written (.value v) t) (hafter : Blank after) :
      Written (.members [(k, v)]) (before ++ writeString k ++ ':' :: gap ++ t ++ after ++ ['\x7d'])
  | member {k : String} {v : Json} {ms : List (String × Json)} {before gap t after u : List Char}
      (hbefore : Blank before) (hgap : Blank gap) (h : Written (.value v) t) (hafter : Blank after)
      (hrest : Written (.members ms) u) :
      Written (.members ((k, v) :: ms))
        (before ++ writeString k ++ ':' :: gap ++ t ++ after ++ ',' :: u)

namespace Stretch

/-- How many arrays and objects lie within one another at most. -/
def depth : Stretch → Nat
  | value v => v.depth
  | items js => depthOfItems js
  | members ms => depthOfMembers ms

/-- The reader of such a stretch finds it at the front of a text and leaves the rest over. -/
def ReadsBack (fuel depth : Nat) (cs : List Char) (rest : List Char) : Stretch → Prop
  | value v => readValue fuel depth cs = some (v, rest)
  | items js => readItems fuel depth cs = some (js, rest)
  | members ms => readMembers fuel depth cs = some (ms, rest)

end Stretch

/-- A stretch that is written ends neither an array nor an object at its front. -/
theorem Written.front {s : Stretch} {t : List Char} (h : Written s t) (rest : List Char) :
    ∃ c cs, skipBlank (t ++ rest) = c :: cs ∧ c ≠ ']' ∧ c ≠ '\x7d' := by
  induction h generalizing rest with
  | null | true | false | string | emptyArray | array | emptyObject | object =>
    exact ⟨_, _, rfl, by decide, by decide⟩
  | lastItem hbefore h hafter ih | item hbefore h hafter hrest ih =>
    simp only [List.append_assoc, hbefore.skipBlank_append]
    exact ih _
  | lastMember hbefore hgap h hafter ih | member hbefore hgap h hafter hrest ih =>
    simp only [List.append_assoc, hbefore.skipBlank_append]
    exact ⟨_, _, rfl, by decide, by decide⟩

theorem readValue_append {blank : List Char} (h : Blank blank) (fuel depth : Nat)
    (cs : List Char) : readValue fuel depth (blank ++ cs) = readValue fuel depth cs := by
  cases fuel with
  | zero => rfl
  | succ fuel => rw [readValue, readValue, h.skipBlank_append]

theorem readValue_writeString (fuel depth : Nat) (s : String) (rest : List Char) :
    readValue (fuel + 1) depth (writeString s ++ rest) = some (.string s, rest) := by
  obtain ⟨cs, htext, hread⟩ := readString_writeString s rest
  have hquote : skipBlank ('"' :: cs) = '"' :: cs := rfl
  rw [readValue, htext, hquote]
  simp only [hread, Option.map_some]

theorem readValue_array {fuel depth : Nat} {t rest : List Char} {js : List Json}
    (h : Written (.items js) t) (hitems : readItems fuel depth (t ++ rest) = some (js, rest)) :
    readValue (fuel + 1) (depth + 1) ('[' :: t ++ rest) = some (.array js, rest) := by
  obtain ⟨c, cs, hfront, hc, -⟩ := h.front rest
  have hopen : skipBlank ('[' :: (t ++ rest)) = '[' :: (t ++ rest) := rfl
  rw [readValue, List.cons_append, hopen]
  simp only [hitems, hfront]
  split
  · rename_i heq
    exact absurd (List.cons.inj heq).1 hc
  · rfl

theorem readValue_object {fuel depth : Nat} {t rest : List Char} {ms : List (String × Json)}
    (h : Written (.members ms) t)
    (hmembers : readMembers fuel depth (t ++ rest) = some (ms, rest)) :
    readValue (fuel + 1) (depth + 1) ('\x7b' :: t ++ rest) = some (.object ms, rest) := by
  obtain ⟨c, cs, hfront, -, hc⟩ := h.front rest
  have hopen : skipBlank ('\x7b' :: (t ++ rest)) = '\x7b' :: (t ++ rest) := rfl
  rw [readValue, List.cons_append, hopen]
  simp only [hmembers, hfront]
  split
  · rename_i heq
    exact absurd (List.cons.inj heq).1 hc
  · rfl

theorem readItems_of_value {fuel depth : Nat} {before cs rest : List Char} {j : Json}
    (hbefore : Blank before) (hvalue : readValue fuel depth cs = some (j, rest)) :
    readItems (fuel + 1) depth (before ++ cs) =
      match skipBlank rest with
      | ']' :: rest => some ([j], rest)
      | ',' :: rest => (readItems fuel depth rest).map fun r ↦ (j :: r.1, r.2)
      | _ => none := by
  rewrite [readItems, readValue_append hbefore, hvalue]
  rfl

theorem readMembers_of_value {fuel depth : Nat} {k : String} {v : Json}
    {before gap cs rest : List Char} (hbefore : Blank before) (hgap : Blank gap)
    (hvalue : readValue fuel depth cs = some (v, rest)) :
    readMembers (fuel + 1) depth (before ++ (writeString k ++ ':' :: (gap ++ cs))) =
      match skipBlank rest with
      | '\x7d' :: rest => some ([(k, v)], rest)
      | ',' :: rest => (readMembers fuel depth rest).map fun r ↦ ((k, v) :: r.1, r.2)
      | _ => none := by
  obtain ⟨text, htext, hkey⟩ := readString_writeString k (':' :: (gap ++ cs))
  have hquote : skipBlank ('"' :: text) = '"' :: text := rfl
  have hcolon : skipBlank (':' :: (gap ++ cs)) = ':' :: (gap ++ cs) := rfl
  rw [readMembers, hbefore.skipBlank_append, htext, hquote]
  simp only [hkey, hcolon, readValue_append hgap]
  rewrite [hvalue]
  rfl

/-- **What follows the rule is read back.** The fuel is that of `parse?`; the depth is one within
which the arrays and objects of the stretch lie. -/
theorem Written.reads {s : Stretch} {t : List Char} (h : Written s t) {fuel depth : Nat}
    (hfuel : 2 * t.length < fuel) (hdepth : s.depth ≤ depth) (rest : List Char) :
    s.ReadsBack fuel depth (t ++ rest) rest := by
  -- on the rule: an item and its value take two units of fuel, and at least one character ends them
  induction h generalizing fuel depth rest with
  | null | true | false =>
    obtain ⟨fuel, rfl⟩ := Nat.exists_eq_add_of_lt hfuel
    rfl
  | string s =>
    obtain ⟨fuel, rfl⟩ := Nat.exists_eq_add_of_lt hfuel
    exact readValue_writeString _ depth s rest
  | emptyArray | emptyObject =>
    obtain ⟨fuel, rfl⟩ := Nat.exists_eq_add_of_lt hfuel
    obtain ⟨depth, rfl⟩ := Nat.exists_eq_add_of_le' hdepth
    rfl
  | array h ih =>
    obtain ⟨fuel, rfl⟩ := Nat.exists_eq_add_of_lt hfuel
    obtain ⟨depth, rfl⟩ := Nat.exists_eq_add_of_lt hdepth
    refine readValue_array h (ih ?_ ?_ rest)
    · rw [List.length_cons]
      omega
    · exact Nat.le_add_right ..
  | object h ih =>
    obtain ⟨fuel, rfl⟩ := Nat.exists_eq_add_of_lt hfuel
    obtain ⟨depth, rfl⟩ := Nat.exists_eq_add_of_lt hdepth
    refine readValue_object h (ih ?_ ?_ rest)
    · rw [List.length_cons]
      omega
    · exact Nat.le_add_right ..
  | lastItem hbefore h hafter ih =>
    obtain ⟨fuel, rfl⟩ := Nat.exists_eq_add_of_lt hfuel
    simp only [List.append_assoc]
    refine (readItems_of_value hbefore (ih ?_ (le_trans (Nat.le_max_left ..) hdepth) _)).trans ?_
    · simp only [List.length_append, List.length_singleton]
      omega
    · rw [hafter.skipBlank_append]
      rfl
  | item hbefore h hafter hrest ih ihrest =>
    obtain ⟨fuel, rfl⟩ := Nat.exists_eq_add_of_lt hfuel
    simp only [List.append_assoc, List.cons_append]
    refine (readItems_of_value hbefore (ih ?_ (le_trans (Nat.le_max_left ..) hdepth) _)).trans ?_
    · simp only [List.length_append, List.length_cons]
      omega
    · rw [hafter.skipBlank_append]
      refine congrArg (Option.map _) (ihrest ?_ (le_trans (Nat.le_max_right ..) hdepth) rest)
      simp only [List.length_append, List.length_cons]
      omega
  | lastMember hbefore hgap h hafter ih =>
    obtain ⟨fuel, rfl⟩ := Nat.exists_eq_add_of_lt hfuel
    simp only [List.append_assoc, List.cons_append]
    refine (readMembers_of_value hbefore hgap
      (ih ?_ (le_trans (Nat.le_max_left ..) hdepth) _)).trans ?_
    · simp only [List.length_append, List.length_cons]
      omega
    · rw [hafter.skipBlank_append]
      rfl
  | member hbefore hgap h hafter hrest ih ihrest =>
    obtain ⟨fuel, rfl⟩ := Nat.exists_eq_add_of_lt hfuel
    simp only [List.append_assoc, List.cons_append]
    refine (readMembers_of_value hbefore hgap
      (ih ?_ (le_trans (Nat.le_max_left ..) hdepth) _)).trans ?_
    · simp only [List.length_append, List.length_cons]
      omega
    · rw [hafter.skipBlank_append]
      refine congrArg (Option.map _) (ihrest ?_ (le_trans (Nat.le_max_right ..) hdepth) rest)
      simp only [List.length_append, List.length_cons]
      omega

theorem parse?_of_written {v : Json} {t : List Char} (h : Written (.value v) t)
    (hdepth : v.depth ≤ maxDepth) : parse? (String.ofList t) = some v := by
  have hread : readValue (2 * t.length + 2) maxDepth (t ++ []) = some (v, []) :=
    h.reads (by omega) hdepth []
  rw [List.append_nil] at hread
  rw [parse?, String.toList_ofList, hread]
  rfl

/-- A text is written from one value at most, however deep. -/
theorem Written.value_unique {v w : Json} {t : List Char} (hv : Written (.value v) t)
    (hw : Written (.value w) t) : v = w := by
  have hreadv : readValue (2 * t.length + 1) (max v.depth w.depth) (t ++ []) = some (v, []) :=
    hv.reads (Nat.lt_succ_self _) (Nat.le_max_left ..) []
  have hreadw : readValue (2 * t.length + 1) (max v.depth w.depth) (t ++ []) = some (w, []) :=
    hw.reads (Nat.lt_succ_self _) (Nat.le_max_right ..) []
  exact congrArg Prod.fst (Option.some.inj (hreadv.symm.trans hreadw))

/-! ### The two written forms -/

/-- No number occurs in the value. -/
inductive NumberFree : Json → Prop
  | null : NumberFree .null
  | bool (b : Bool) : NumberFree (.bool b)
  | string (s : String) : NumberFree (.string s)
  | array {items : List Json} (h : ∀ j ∈ items, NumberFree j) : NumberFree (.array items)
  | object {members : List (String × Json)} (h : ∀ m ∈ members, NumberFree m.2) :
      NumberFree (.object members)

theorem depthOfItems_le_iff {js : List Json} {n : ℕ} :
    depthOfItems js ≤ n ↔ ∀ j ∈ js, j.depth ≤ n := by
  induction js with
  | nil => simp [depthOfItems]
  | cons j js ih => rw [depthOfItems, Nat.max_le, ih, List.forall_mem_cons]

theorem depthOfMembers_le_iff {ms : List (String × Json)} {n : ℕ} :
    depthOfMembers ms ≤ n ↔ ∀ m ∈ ms, m.2.depth ≤ n := by
  induction ms with
  | nil => simp [depthOfMembers]
  | cons m ms ih => rw [depthOfMembers, Nat.max_le, ih, List.forall_mem_cons]

/-- Texts and flags, in at most so many arrays and objects within one another. -/
inductive Plain : ℕ → Json → Prop
  | bool {n : ℕ} (b : Bool) : Plain n (.bool b)
  | string {n : ℕ} (s : String) : Plain n (.string s)
  | array {n : ℕ} {items : List Json} (h : ∀ j ∈ items, Plain n j) : Plain (n + 1) (.array items)
  | object {n : ℕ} {members : List (String × Json)} (h : ∀ m ∈ members, Plain n m.2) :
      Plain (n + 1) (.object members)

theorem Plain.numberFree {n : ℕ} {v : Json} (h : v.Plain n) : v.NumberFree := by
  induction h with
  | bool b => exact .bool b
  | string s => exact .string s
  | array h ih => exact .array ih
  | object h ih => exact .object ih

theorem Plain.depth_le {n : ℕ} {v : Json} (h : v.Plain n) : v.depth ≤ n := by
  induction h with
  | bool | string => exact Nat.zero_le _
  | array h ih => exact Nat.succ_le_succ (depthOfItems_le_iff.2 ih)
  | object h ih => exact Nat.succ_le_succ (depthOfMembers_le_iff.2 ih)

theorem written_compactItems {j : Json} {js : List Json}
    (h : ∀ i ∈ j :: js, Written (.value i) i.writeCompact) :
    Written (.items (j :: js)) (j.writeCompact ++ compactItems js) := by
  induction js generalizing j with
  | nil =>
    rw [compactItems]
    simpa using Written.lastItem .nil (h j List.mem_cons_self) .nil
  | cons i js ih =>
    rw [compactItems]
    simpa using Written.item .nil (h j List.mem_cons_self) .nil
      (ih fun i hi ↦ h i (List.mem_cons_of_mem j hi))

theorem written_compactMembers {m : String × Json} {ms : List (String × Json)}
    (h : ∀ n ∈ m :: ms, Written (.value n.2) n.2.writeCompact) :
    Written (.members (m :: ms))
      (writeString m.1 ++ ':' :: m.2.writeCompact ++ compactMembers ms) := by
  induction ms generalizing m with
  | nil =>
    rw [compactMembers]
    simpa using Written.lastMember .nil .nil (h m List.mem_cons_self) .nil
  | cons n ms ih =>
    rw [compactMembers]
    simpa using Written.member .nil .nil (h m List.mem_cons_self) .nil
      (ih fun n hn ↦ h n (List.mem_cons_of_mem m hn))

/-- The compact text follows the rule, without any blank. -/
theorem written_writeCompact {v : Json} (h : v.NumberFree) :
    Written (.value v) v.writeCompact := by
  induction h with
  | null => exact .null
  | bool b =>
    cases b with
    | true => exact .true
    | false => exact .false
  | string s => exact .string s
  | @array items h ih =>
    cases items with
    | nil => exact .emptyArray
    | cons j js => exact .array (written_compactItems ih)
  | @object members h ih =>
    cases members with
    | nil => exact .emptyObject
    | cons m ms => exact .object (written_compactMembers ih)

theorem written_prettyItems (depth : Nat) {j : Json} {js : List Json}
    (h : ∀ i ∈ j :: js, Written (.value i) (i.writePretty (depth + 1))) :
    Written (.items (j :: js))
      (lineStart (depth + 1) ++ j.writePretty (depth + 1) ++ prettyItems depth js) := by
  have hline := blank_lineStart (depth + 1)
  induction js generalizing j with
  | nil =>
    rw [prettyItems]
    simpa using Written.lastItem hline (h j List.mem_cons_self) (blank_lineStart depth)
  | cons i js ih =>
    rw [prettyItems]
    simpa using Written.item hline (h j List.mem_cons_self) .nil
      (ih fun i hi ↦ h i (List.mem_cons_of_mem j hi))

theorem written_prettyMembers (depth : Nat) {m : String × Json} {ms : List (String × Json)}
    (h : ∀ n ∈ m :: ms, Written (.value n.2) (n.2.writePretty (depth + 1))) :
    Written (.members (m :: ms))
      (lineStart (depth + 1) ++ writeString m.1 ++
        ':' :: ' ' :: m.2.writePretty (depth + 1) ++ prettyMembers depth ms) := by
  have hline := blank_lineStart (depth + 1)
  have hgap : Blank [' '] := rfl
  induction ms generalizing m with
  | nil =>
    rw [prettyMembers]
    simpa using Written.lastMember hline hgap (h m List.mem_cons_self) (blank_lineStart depth)
  | cons n ms ih =>
    rw [prettyMembers]
    simpa using Written.member hline hgap (h m List.mem_cons_self) .nil
      (ih fun n hn ↦ h n (List.mem_cons_of_mem m hn))

/-- The pretty text follows the rule at every depth of indentation. -/
theorem written_writePretty {v : Json} (h : v.NumberFree) (depth : Nat) :
    Written (.value v) (v.writePretty depth) := by
  induction h generalizing depth with
  | null => exact .null
  | bool b =>
    cases b with
    | true => exact .true
    | false => exact .false
  | string s => exact .string s
  | @array items h ih =>
    cases items with
    | nil => exact .emptyArray
    | cons j js => exact .array (written_prettyItems depth fun i hi ↦ ih i hi (depth + 1))
  | @object members h ih =>
    cases members with
    | nil => exact .emptyObject
    | cons m ms => exact .object (written_prettyMembers depth fun n hn ↦ ih n hn (depth + 1))

/-- The pretty text of a value is read back, unless the value is too deep to be read at all. -/
theorem parse?_pretty {v : Json} (h : v.NumberFree) (hdepth : v.depth ≤ maxDepth) :
    parse? v.pretty = some v :=
  parse?_of_written (written_writePretty h 0) hdepth

/-- No two values have the same compact text. -/
theorem compact_inj {v w : Json} (hv : v.NumberFree) (hw : w.NumberFree) :
    v.compact = w.compact ↔ v = w := by
  refine ⟨fun h ↦ ?_, congrArg compact⟩
  have htext : v.writeCompact = w.writeCompact := String.ofList_injective h
  exact (written_writeCompact hv).value_unique (htext ▸ written_writeCompact hw)

end SchemaForge.Json
