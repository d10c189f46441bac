import Mathlib.Data.List.Basic
import SchemaForge.Text.Blank

/-!
# Texts cut at separators

`Text.pieces` cuts a list at every element that separates. A separator in between cuts it into the
pieces of either side (`Text.pieces_append`), and no piece has one in it
(`Text.notMem_of_mem_pieces`). So cutting undoes joining, as long as the texts that are joined are
without separators (`Text.pieces_intercalate`).
-/

namespace SchemaForge.Text

variable {α : Type} {separates : α → Bool}

theorem pieces_ne_nil (separates : α → Bool) (as : List α) : pieces separates as ≠ [] := by
  cases as with
  | nil => exact List.cons_ne_nil _ _
  | cons a as =>
    rw [pieces]
    split
    · exact List.cons_ne_nil _ _
    · split <;> exact List.cons_ne_nil _ _

theorem pieces_append {c : α} (hc : separates c = true) (as bs : List α) :
    pieces separates (as ++ c :: bs) = pieces separates as ++ pieces separates bs := by
  induction as with
  | nil =>
    show pieces separates (c :: bs) = [] :: pieces separates bs
    rw [pieces, if_pos hc]
  | cons a as ih =>
    rw [List.cons_append, pieces, pieces]
    split
    · rw [ih]
      rfl
    · obtain ⟨p, ps, hps⟩ := List.exists_cons_of_ne_nil (pieces_ne_nil separates as)
      rw [ih, hps]
      rfl

theorem notMem_of_mem_pieces {as p : List α} {a : α} (ha : separates a = true)
    (hp : p ∈ pieces separates as) : a ∉ p := by
  induction as generalizing p with
  | nil =>
    rw [pieces, List.mem_singleton] at hp
    rw [hp]
    exact List.not_mem_nil
  | cons b as ih =>
    rw [pieces] at hp
    split at hp
    · rcases List.mem_cons.1 hp with rfl | hp
      · exact List.not_mem_nil
      · exact ih hp
    · rename_i hb
      obtain ⟨q, qs, hqs⟩ := List.exists_cons_of_ne_nil (pieces_ne_nil separates as)
      rw [hqs] at hp ih
      rcases List.mem_cons.1 hp with rfl | hp
      · rintro hmem
        rcases List.mem_cons.1 hmem with rfl | hmem
        · exact hb ha
        · exact ih List.mem_cons_self hmem
      · exact ih (List.mem_cons_of_mem _ hp)

/-- What has no separator is one piece. -/
theorem pieces_of_forall {p : List α} (hp : ∀ a ∈ p, separates a = false) :
    pieces separates p = [p] := by
  induction p with
  | nil => rfl
  | cons a p ih =>
    obtain ⟨ha, hp⟩ := List.forall_mem_cons.1 hp
    rw [pieces, if_neg (Bool.eq_false_iff.1 ha), ih hp]

theorem pieces_of_notMem [BEq α] [LawfulBEq α] {c : α} {p : List α} (hp : c ∉ p) :
    pieces (· == c) p = [p] :=
  pieces_of_forall fun _ ha ↦ beq_false_of_ne fun heq ↦ hp (heq ▸ ha)

/-- There are no more pieces with something in them than there are elements. -/
theorem length_filter_pieces [BEq α] [LawfulBEq α] (separates : α → Bool) (as : List α) :
    ((pieces separates as).filter (· != [])).length ≤ as.length := by
  induction as with
  | nil => exact Nat.le_refl 0
  | cons a as ih =>
    rw [pieces]
    split
    · exact Nat.le_succ_of_le ih
    · obtain ⟨p, ps, hps⟩ := List.exists_cons_of_ne_nil (pieces_ne_nil separates as)
      rw [hps] at ih ⊢
      rw [List.filter_cons_of_pos (by simp), List.length_cons, List.length_cons]
      refine Nat.succ_le_succ (Nat.le_trans ?_ ih)
      exact ((List.sublist_cons_self p ps).filter _).length_le

/-- Cutting undoes joining. -/
theorem pieces_intercalate {c : α} (hc : separates c = true) {ps : List (List α)} (hne : ps ≠ [])
    (hps : ∀ p ∈ ps, ∀ a ∈ p, separates a = false) :
    pieces separates ([c].intercalate ps) = ps := by
  induction ps with
  | nil => exact absurd rfl hne
  | cons p rest ih =>
    obtain ⟨hp, hrest⟩ := List.forall_mem_cons.1 hps
    cases rest with
    | nil =>
      rw [List.intercalate_singleton]
      exact pieces_of_forall hp
    | cons q rest =>
      rw [List.intercalate_cons_cons, List.append_assoc, List.singleton_append, pieces_append hc,
        pieces_of_forall hp, ih (List.cons_ne_nil _ _) hrest]
      rfl

theorem toList_join {sep : String} {c : Char} (hsep : sep.toList = [c]) (texts : List String) :
    (join sep texts).toList = [c].intercalate (texts.map String.toList) := by
  induction texts with
  | nil => rfl
  | cons t rest ih =>
    cases rest with
    | nil => exact (List.intercalate_singleton ..).symm
    | cons u rest =>
      rw [join, String.toList_append, String.toList_append, hsep, ih, List.map_cons, List.map_cons,
        List.map_cons, List.intercalate_cons_cons]

theorem pieces_join {separates : Char → Bool} {sep : String} {c : Char} (hsep : sep.toList = [c])
    (hc : separates c = true) {texts : List String} (hne : texts ≠ [])
    (htexts : ∀ t ∈ texts, ∀ a ∈ t.toList, separates a = false) :
    pieces separates (join sep texts).toList = texts.map String.toList := by
  rw [toList_join hsep]
  exact pieces_intercalate hc (List.map_eq_nil_iff.not.2 hne) (List.forall_mem_map.2 htexts)

end SchemaForge.Text
