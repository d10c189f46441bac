import Mathlib.Data.List.Nodup
import Mathlib.Data.List.Perm.Basic

/-!
# Tables as lists of pairs

The nodes of a file tree and the histories of a rehearsal are lists of pairs, in which the first
pair with a key counts. An entry is replaced by a new pair in front of the list without the old
ones. Here is what a lookup finds after that: the new value under its key, and all else as before.
Where each key has one pair only, a lookup does not see in which order they are (`find?_perm`).
-/

namespace SchemaForge

variable {α β : Type} [BEq α] [LawfulBEq α] {a b : α}

theorem find?_filter_of_ne (hne : b ≠ a) (l : List (α × β)) :
    (l.filter (·.1 != a)).find? (·.1 == b) = l.find? (·.1 == b) := by
  rw [List.find?_filter]
  congr 1
  funext x
  by_cases hx : x.1 = b
  · simp [hx, hne]
  · simp [hx]

theorem find?_replace_of_ne (hne : b ≠ a) (x : β) (l : List (α × β)) :
    ((a, x) :: l.filter (·.1 != a)).find? (·.1 == b) = l.find? (·.1 == b) := by
  rw [List.find?_cons_of_neg (by simpa using Ne.symm hne), find?_filter_of_ne hne]

theorem find?_replace_self (x : β) (l : List (α × β)) :
    ((a, x) :: l.filter (·.1 != a)).find? (·.1 == a) = some (a, x) :=
  List.find?_cons_of_pos (by simp)

theorem find?_eq_some_of_mem {l : List (α × β)} (h : (l.map (·.1)).Nodup) {e : α × β}
    (he : e ∈ l) : l.find? (·.1 == e.1) = some e := by
  obtain ⟨d, hd⟩ : ∃ d, l.find? (·.1 == e.1) = some d := by
    rw [← Option.isSome_iff_exists, List.find?_isSome]
    exact ⟨e, he, beq_self_eq_true _⟩
  have hkey : d.1 = e.1 := by simpa using List.find?_some hd
  rw [hd, List.inj_on_of_nodup_map h (List.mem_of_find?_eq_some hd) he hkey]

theorem find?_eq_some_iff {l : List (α × β)} (h : (l.map (·.1)).Nodup) {e : α × β} :
    l.find? (·.1 == a) = some e ↔ e ∈ l ∧ e.1 = a := by
  constructor
  · intro hfind
    exact ⟨List.mem_of_find?_eq_some hfind, by simpa using List.find?_some hfind⟩
  · rintro ⟨he, rfl⟩
    exact find?_eq_some_of_mem h he

/-- Where each key has one pair, a lookup does not see their order. -/
theorem find?_perm {l l' : List (α × β)} (h : (l.map (·.1)).Nodup) (hperm : l'.Perm l) (a : α) :
    l'.find? (·.1 == a) = l.find? (·.1 == a) := by
  have h' : (l'.map (·.1)).Nodup := (hperm.map _).nodup_iff.2 h
  refine Option.ext fun e ↦ ?_
  rw [find?_eq_some_iff h', find?_eq_some_iff h, hperm.mem_iff]

end SchemaForge
