import Mathlib.Data.List.Basic
import SchemaForge.Migration.Version
import SchemaForge.Proofs.Text.Pieces

/-!
# Texts of versions

The text of a version has points between its numbers, and is read as a version again: the same one,
for every version that was read from some text (`Version.parse_toText`). The text that it was read
from may be another one, with underscores, plus signs, zeros in front of a number or at the end.

What can be read are the versions that have a number, and none above what fits into a number of the
format (`Version.exists_parse_iff`).
-/

namespace SchemaForge.Version

variable {n : ℕ} {ns : List ℕ} {part : List Char} {parts : List (List Char)} {whole : String}

/-! ### Numbers -/

/-- The digits of a number denote it. -/
theorem valueOf_toDigits (n : ℕ) : valueOf (Nat.toDigits 10 n) = n :=
  Nat.ofDigitChars_ten_toDigits

theorem isDigit_of_mem_toDigits {c : Char} (hc : c ∈ Nat.toDigits 10 n) : isDigit c = true := by
  have hdigit := Nat.isDigit_of_mem_toDigits (by decide) (by decide) hc
  rw [Char.isDigit, Bool.and_eq_true, decide_eq_true_eq, decide_eq_true_eq] at hdigit
  rw [isDigit, Bool.and_eq_true, decide_eq_true_eq, decide_eq_true_eq]
  exact hdigit

theorem digitsValue?_toDigits (hn : n ≤ maxSegment) :
    digitsValue? (Nat.toDigits 10 n) = some n := by
  have hempty : (Nat.toDigits 10 n).isEmpty = false :=
    List.isEmpty_eq_false_iff.2 Nat.toDigits_ne_nil
  have hall : (Nat.toDigits 10 n).all isDigit = true :=
    List.all_eq_true.2 fun c hc ↦ isDigit_of_mem_toDigits hc
  rw [digitsValue?, hempty, hall, valueOf_toDigits, if_pos hn]
  rfl

theorem toList_toString (n : ℕ) : (toString n).toList = Nat.toDigits 10 n := by
  rw [Nat.toString_eq_ofList_toDigits, String.toList_ofList]

/-- A number that fits is read back from its text. -/
theorem segment?_toString (hn : n ≤ maxSegment) : segment? (toString n).toList = some n := by
  rw [toList_toString]
  unfold segment?
  split
  · -- no digit is a plus sign
    rename_i digits hdigits
    have hplus : isDigit '+' = true :=
      isDigit_of_mem_toDigits (n := n) (hdigits ▸ List.mem_cons_self)
    cases hplus
  · exact digitsValue?_toDigits hn

theorem le_maxSegment_of_segment? (h : segment? part = some n) : n ≤ maxSegment := by
  have hdigits {digits : List Char} (h : digitsValue? digits = some n) : n ≤ maxSegment := by
    rw [digitsValue?] at h
    split at h
    · cases h
    · split at h
      · obtain rfl := Option.some.inj h
        assumption
      · cases h
  unfold segment? at h
  split at h
  · exact hdigits h
  · exact hdigits h

/-! ### Sequences of numbers -/

theorem readSegments_map_toString (whole : String) (hns : ∀ n ∈ ns, n ≤ maxSegment) :
    readSegments whole (ns.map fun n ↦ (toString n).toList) = .ok ns := by
  induction ns with
  | nil => rfl
  | cons n ns ih =>
    obtain ⟨hn, hns⟩ := List.forall_mem_cons.1 hns
    rw [List.map_cons, readSegments, segment?_toString hn, ih hns]
    rfl

/-- There is a number for each part, and each of them fits. -/
theorem of_readSegments (h : readSegments whole parts = .ok ns) :
    ns.length = parts.length ∧ ∀ n ∈ ns, n ≤ maxSegment := by
  induction parts generalizing ns with
  | nil =>
    obtain rfl := Except.ok.inj h
    exact ⟨rfl, List.forall_mem_nil _⟩
  | cons part parts ih =>
    rw [readSegments] at h
    split at h
    · cases h
    · rename_i n hn
      cases hrest : readSegments whole parts with
      | error e =>
        rw [hrest] at h
        cases h
      | ok rest =>
        rw [hrest] at h
        obtain rfl := Except.ok.inj h
        obtain ⟨hlength, hall⟩ := ih hrest
        refine ⟨?_, List.forall_mem_cons.2 ⟨le_maxSegment_of_segment? hn, hall⟩⟩
        rw [List.length_cons, hlength, List.length_cons]

theorem dropZeros_isPrefix (ns : List ℕ) : dropZeros ns <+: ns := by
  induction ns with
  | nil => exact List.prefix_rfl
  | cons n ns ih =>
    rw [dropZeros]
    split
    · split
      · exact List.nil_prefix
      · exact List.cons_prefix_cons.2 ⟨rfl, List.nil_prefix⟩
    · rename_i m ms hdrop
      exact List.cons_prefix_cons.2 ⟨rfl, hdrop ▸ ih⟩

theorem trim_isPrefix (ns : List ℕ) : trim ns <+: ns := by
  cases ns with
  | nil => exact List.prefix_rfl
  | cons n ns => exact List.cons_prefix_cons.2 ⟨rfl, dropZeros_isPrefix ns⟩

theorem trim_ne_nil (h : ns ≠ []) : trim ns ≠ [] := by
  cases ns with
  | nil => exact absurd rfl h
  | cons n ns => exact List.cons_ne_nil _ _

/-! ### Versions -/

/-- A version that can be read: it has a number, and each of its numbers fits. -/
structure Legible (v : Version) : Prop where
  ne_nil : v.segments ≠ []
  le_maxSegment : ∀ n ∈ v.segments, n ≤ maxSegment

theorem legible_of_parse {s : String} {v : Version} (h : parse s = .ok v) : v.Legible := by
  rw [parse] at h
  split at h
  · cases h
  · cases hsegments : readSegments s (Text.pieces separates s.toList) with
    | error e =>
      rw [hsegments] at h
      cases h
    | ok ns =>
      rw [hsegments] at h
      obtain rfl := Except.ok.inj h
      obtain ⟨hlength, hall⟩ := of_readSegments hsegments
      have hne : ns ≠ [] := by
        rintro rfl
        exact Text.pieces_ne_nil separates s.toList (List.length_eq_zero_iff.1 hlength.symm)
      exact ⟨trim_ne_nil hne, fun n hn ↦ hall n ((trim_isPrefix ns).subset hn)⟩

theorem not_separates_of_isDigit {c : Char} (hc : isDigit c = true) : separates c = false := by
  by_contra hsep
  rw [Bool.not_eq_false, separates, Bool.or_eq_true, beq_iff_eq, beq_iff_eq] at hsep
  rcases hsep with rfl | rfl
  · cases hc
  · cases hc

/-- The parts of a version's text are its numbers. -/
theorem pieces_toText {v : Version} (hne : v.segments ≠ []) :
    Text.pieces separates v.toText.toList = v.segments.map fun n ↦ (toString n).toList := by
  rw [toText, Text.pieces_join (c := '.') rfl rfl (mt List.map_eq_nil_iff.1 hne), List.map_map]
  · rfl
  · intro t ht c hc
    obtain ⟨n, -, rfl⟩ := List.mem_map.1 ht
    rw [toList_toString] at hc
    exact not_separates_of_isDigit (isDigit_of_mem_toDigits hc)

/-- **A version is read back from its text.** -/
theorem parse_toText {v : Version} (h : v.Legible) : parse v.toText = .ok v := by
  have hpieces := pieces_toText h.ne_nil
  have hempty : (v.toText == "") = false := by
    refine beq_false_of_ne fun hempty ↦ ?_
    -- the parts of the empty text are one empty part, which no number is
    obtain ⟨n, ns, hns⟩ := List.exists_cons_of_ne_nil h.ne_nil
    rw [hempty, hns, List.map_cons, toList_toString] at hpieces
    exact Nat.toDigits_ne_nil (List.cons.inj hpieces).1.symm
  rw [parse, hempty, hpieces, readSegments_map_toString _ h.le_maxSegment]
  show Except.ok (ofSegments v.segments) = Except.ok v
  rw [ofSegments]
  cases v with
  | mk segments trimmed =>
    congr 2

/-- The versions that can be read. -/
theorem exists_parse_iff {v : Version} : (∃ s, parse s = .ok v) ↔ v.Legible :=
  ⟨fun ⟨_, h⟩ ↦ legible_of_parse h, fun h ↦ ⟨_, parse_toText h⟩⟩

end SchemaForge.Version
