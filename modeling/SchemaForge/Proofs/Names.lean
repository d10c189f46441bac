import Mathlib.Logic.Basic
import SchemaForge.Names

/-!
# Looking up values by name

A value that is put into a list of values by name is found under its name, and under all other names
the list is as before (`Names.find?_insert`). Neither needs the names to be in order; where they
are, a value that is there already is put in its own place (`Names.insert_of_find?`).
-/

namespace SchemaForge.Names

variable {α : Type}

@[simp] theorem find?_nil (name : String) : find? name ([] : List (String × α)) = none := rfl

theorem find?_cons (name : String) (m : String × α) (members : List (String × α)) :
    find? name (m :: members) = if m.1 = name then some m.2 else find? name members := by
  rw [find?, List.find?_cons]
  split
  · rename_i h
    rw [if_pos (beq_iff_eq.1 h)]
    rfl
  · rename_i h
    rw [if_neg (beq_eq_false_iff_ne.1 h)]
    rfl

theorem find?_insert (name : String) (m : String × α) (members : List (String × α)) :
    find? name (insert m members) = if m.1 = name then some m.2 else find? name members := by
  induction members with
  | nil => exact find?_cons name m []
  | cons n members ih =>
    rw [insert]
    split
    · exact find?_cons name m (n :: members)
    · split
      · rename_i heq
        -- the value goes in place of one that had the same name
        rw [find?_cons, find?_cons, ← beq_iff_eq.1 heq]
        split <;> rfl
      · rename_i hne
        rw [find?_cons, ih, find?_cons]
        by_cases hn : n.1 = name
        · rw [if_pos hn, if_pos hn, if_neg fun hm ↦ hne (beq_iff_eq.2 (hm.trans hn.symm))]
        · rw [if_neg hn, if_neg hn]

theorem mem_map_fst_iff {name : String} {members : List (String × α)} :
    name ∈ members.map Prod.fst ↔ ∃ a, find? name members = some a := by
  induction members with
  | nil => simp
  | cons m members ih =>
    rw [List.map_cons, List.mem_cons, ih, find?_cons]
    by_cases hm : m.1 = name
    · simp [hm]
    · simp [hm, Ne.symm hm]

theorem mem_map_fst_insert {name : String} {m : String × α} {members : List (String × α)} :
    name ∈ (insert m members).map Prod.fst ↔ name = m.1 ∨ name ∈ members.map Prod.fst := by
  rw [mem_map_fst_iff, find?_insert, mem_map_fst_iff]
  by_cases hm : m.1 = name
  · simp [hm]
  · simp [hm, Ne.symm hm]

/-- A value that is there already is put in its own place. -/
theorem insert_of_find? {name : String} {a : α} {members : List (String × α)}
    (h : Ascending members) (hfind : find? name members = some a) :
    insert (name, a) members = members := by
  induction members with
  | nil => cases hfind
  | cons m members ih =>
    obtain ⟨hbelow, hrest⟩ := List.pairwise_cons.1 h
    rw [find?_cons] at hfind
    rw [insert]
    split at hfind
    · rename_i hm
      obtain rfl := Option.some.inj hfind
      rw [← hm, if_neg (String.lt_irrefl _), if_pos BEq.rfl]
    · have hlt : m.1 < name := by
        obtain ⟨x, hx, rfl⟩ := List.mem_map.1 (mem_map_fst_iff.2 ⟨a, hfind⟩)
        exact hbelow x hx
      rw [if_neg (String.lt_asymm hlt), if_neg fun heq ↦ String.ne_of_lt hlt (beq_iff_eq.1 heq).symm,
        ih hrest hfind]

end SchemaForge.Names
