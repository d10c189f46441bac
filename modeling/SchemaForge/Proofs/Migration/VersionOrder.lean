import Mathlib.Data.List.Lex
import SchemaForge.Migration.History
import SchemaForge.Migration.Script

/-!
# The order of versions

`Version.isBefore` decides the lexicographic order of the numbers, which makes it a strict total
order on versions. That is all that the sorting of scripts and the checks of a history need to know
about versions: `isBefore_trans`, `isBefore_irrefl` and `eq_or_isBefore_of_not_isBefore`.

The scripts of a directory come out of `Script.discover` strictly ascending. Sorting alone only
gives neighbours in weak order; it is the search for neighbours of one version that makes the order
strict, so the two are proved side by side here.
-/

namespace SchemaForge

namespace Version

/-! ### A strict total order -/

theorem compareSegments_eq_lt_iff {as bs : List ℕ} :
    compareSegments as bs = .lt ↔ as < bs := by
  induction as generalizing bs with
  | nil => cases bs <;> simp [compareSegments]
  | cons a as ih =>
    cases bs with
    | nil => simp [compareSegments]
    | cons b bs =>
      rw [compareSegments, Ordering.then_eq_lt, ih, List.cons_lt_cons_iff, Nat.compare_eq_lt,
        Nat.compare_eq_eq]

/-- One version comes before another when its numbers come first in lexicographic order. -/
theorem isBefore_iff {v w : Version} : v.isBefore w = true ↔ v.segments < w.segments := by
  rw [isBefore, beq_iff_eq, compare, compareSegments_eq_lt_iff]

theorem segments_injective {v w : Version} (h : v.segments = w.segments) : v = w := by
  cases v
  cases w
  simpa using h

theorem isBefore_irrefl (v : Version) : ¬v.isBefore v = true :=
  fun h ↦ lt_irrefl _ (isBefore_iff.1 h)

theorem isBefore_trans {u v w : Version} (h : u.isBefore v = true) (h' : v.isBefore w = true) :
    u.isBefore w = true :=
  isBefore_iff.2 (lt_trans (isBefore_iff.1 h) (isBefore_iff.1 h'))

theorem not_isBefore_of_isBefore {v w : Version} (h : v.isBefore w = true) :
    ¬w.isBefore v = true :=
  fun h' ↦ isBefore_irrefl v (isBefore_trans h h')

theorem ne_of_isBefore {v w : Version} (h : v.isBefore w = true) : v ≠ w := by
  rintro rfl
  exact isBefore_irrefl v h

theorem eq_or_isBefore_of_not_isBefore {v w : Version} (h : ¬v.isBefore w = true) :
    v = w ∨ w.isBefore v = true := by
  rw [isBefore_iff, not_lt] at h
  rcases h.eq_or_lt with h | h
  · exact Or.inl (segments_injective h.symm)
  · exact Or.inr (isBefore_iff.2 h)

end Version

namespace Script

/-! ### Scripts in strictly ascending order -/

/-- Scripts in strictly ascending order of their versions. -/
def Ascending (scripts : List Script) : Prop :=
  scripts.Pairwise fun s t ↦ s.version.isBefore t.version = true

/-- Scripts in weakly ascending order: none before one that it does not come after. -/
def Sorted (scripts : List Script) : Prop :=
  scripts.Pairwise fun s t ↦ ¬t.version.isBefore s.version = true

theorem mem_insert {s t : Script} {scripts : List Script} :
    t ∈ insert s scripts ↔ t = s ∨ t ∈ scripts := by
  induction scripts with
  | nil => simp [insert]
  | cons u us ih =>
    rw [insert]
    split
    · rw [List.mem_cons, ih, List.mem_cons]
      tauto
    · exact List.mem_cons

theorem sorted_insert {s : Script} {scripts : List Script} (h : Sorted scripts) :
    Sorted (insert s scripts) := by
  induction scripts with
  | nil => exact List.pairwise_singleton _ s
  | cons t ts ih =>
    obtain ⟨hfirst, hrest⟩ := List.pairwise_cons.1 h
    rw [insert]
    split
    · rename_i hbefore
      refine List.pairwise_cons.2 ⟨fun u hu ↦ ?_, ih hrest⟩
      rcases mem_insert.1 hu with rfl | hu
      · exact Version.not_isBefore_of_isBefore hbefore
      · exact hfirst u hu
    · rename_i hnot
      refine List.pairwise_cons.2 ⟨fun u hu ↦ ?_, h⟩
      rcases List.mem_cons.1 hu with rfl | hu
      · exact hnot
      · -- `u` does not come before `t`, nor `t` before `s`
        intro hus
        rcases Version.eq_or_isBefore_of_not_isBefore hnot with heq | hst
        · exact hfirst u hu (heq ▸ hus)
        · exact hfirst u hu (Version.isBefore_trans hus hst)

theorem sorted_sort (scripts : List Script) : Sorted (sort scripts) := by
  induction scripts with
  | nil => exact List.Pairwise.nil
  | cons s ss ih => exact sorted_insert ih

/-- In a sorted list without neighbours of one version the order is strict. -/
theorem ascending_of_duplicate?_eq_none {scripts : List Script} (h : Sorted scripts)
    (hnone : duplicate? scripts = none) : Ascending scripts := by
  induction scripts with
  | nil => exact List.Pairwise.nil
  | cons s rest ih =>
    obtain ⟨hfirst, hrest⟩ := List.pairwise_cons.1 h
    cases rest with
    | nil => exact List.pairwise_singleton _ s
    | cons t ts =>
      rw [duplicate?] at hnone
      split at hnone
      · cases hnone
      · rename_i hne
        have htail : Ascending (t :: ts) := ih hrest hnone
        have hst : s.version.isBefore t.version = true := by
          rcases Version.eq_or_isBefore_of_not_isBefore (hfirst t List.mem_cons_self) with heq | hlt
          · exact absurd (beq_iff_eq.2 heq.symm) hne
          · exact hlt
        refine List.pairwise_cons.2 ⟨fun u hu ↦ ?_, htail⟩
        rcases List.mem_cons.1 hu with rfl | hu
        · exact hst
        · exact Version.isBefore_trans hst ((List.pairwise_cons.1 htail).1 u hu)

theorem ascending_of_arrange {scripts arranged : List Script}
    (h : arrange scripts = .ok arranged) : Ascending arranged := by
  rw [arrange] at h
  split at h
  · cases h
  · rename_i hnone
    obtain rfl := Except.ok.inj h
    exact ascending_of_duplicate?_eq_none (sorted_sort scripts) hnone

/-- The scripts of a directory are strictly ascending: no version occurs twice. -/
theorem ascending_of_discover {fs : FileSystem} {dir : Path} {scripts : List Script}
    (h : discover fs dir = .ok scripts) : Ascending scripts := by
  rw [discover] at h
  split at h
  · obtain rfl := Except.ok.inj h
    exact List.Pairwise.nil
  · split at h
    · cases h
    · rename_i loc names _
      cases hentries : ofEntries fs dir names with
      | error e => rw [hentries] at h; cases h
      | ok found => rw [hentries] at h; exact ascending_of_arrange h

end Script

end SchemaForge
