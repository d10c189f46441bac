import Mathlib.Data.List.Basic

/-!
# Gathering what elements contribute

The entries of a directory and the rows of a history are gone through in the same way: each of them
contributes something, or nothing, or is in the way of all. What is gathered are the contributions
(`gather_eq_ok_iff`), so it depends on the order of the elements only as a `List.filterMap` does.
-/

namespace SchemaForge

variable {ε α β : Type} {f : α → Except ε (Option β)} {x : α} {xs : List α} {y : β} {ys : List β}

/-- What elements contribute, in their order; the first that is in the way decides. -/
def gather (f : α → Except ε (Option β)) (xs : List α) : Except ε (List β) :=
  (xs.mapM f).map (·.filterMap id)

/-- What an element contributes. -/
def contribution? (f : α → Except ε (Option β)) (x : α) : Option β :=
  (f x).toOption.join

theorem contribution?_of_ok {contributed : Option β} (h : f x = .ok contributed) :
    contribution? f x = contributed := by
  rw [contribution?, h]
  rfl

theorem contribution?_eq_some_iff : contribution? f x = some y ↔ f x = .ok (some y) := by
  rw [contribution?]
  cases f x with
  | error e => exact ⟨nofun, nofun⟩
  | ok contributed =>
    show contributed = some y ↔ Except.ok contributed = Except.ok (some y)
    rw [Except.ok.injEq]

theorem gather_cons_of_ok {contributed : Option β} (hx : f x = .ok contributed) :
    gather f (x :: xs) = (gather f xs).map (contributed.toList ++ ·) := by
  rw [gather, List.mapM_cons, hx, gather]
  cases xs.mapM f with
  | error e => rfl
  | ok rest => cases contributed <;> rfl

theorem gather_cons_of_error {e : ε} (hx : f x = .error e) : gather f (x :: xs) = .error e := by
  rw [gather, List.mapM_cons, hx]
  rfl

/-- **What is gathered**: if no element is in the way, the contributions. -/
theorem gather_eq_ok_iff : gather f xs = .ok ys ↔
    (∀ x ∈ xs, ∃ contributed, f x = .ok contributed) ∧ xs.filterMap (contribution? f) = ys := by
  induction xs generalizing ys with
  | nil =>
    show Except.ok [] = Except.ok ys ↔ _
    rw [Except.ok.injEq, List.filterMap_nil]
    exact (and_iff_right (List.forall_mem_nil _)).symm
  | cons x xs ih =>
    rw [List.forall_mem_cons]
    cases hx : f x with
    | error e =>
      rw [gather_cons_of_error hx]
      exact ⟨nofun, fun ⟨⟨⟨_, h⟩, _⟩, _⟩ ↦ nomatch h⟩
    | ok contributed =>
      have hfilter : (x :: xs).filterMap (contribution? f) =
          contributed.toList ++ xs.filterMap (contribution? f) := by
        rw [List.filterMap_cons, contribution?_of_ok hx]
        cases contributed <;> rfl
      rw [gather_cons_of_ok hx, hfilter, and_assoc, and_iff_right ⟨contributed, rfl⟩]
      constructor
      · intro h
        cases hrest : gather f xs with
        | error e =>
          rw [hrest] at h
          cases h
        | ok rest =>
          rw [hrest] at h
          obtain rfl := Except.ok.inj h
          obtain ⟨hok, rfl⟩ := ih.1 hrest
          exact ⟨hok, rfl⟩
      · rintro ⟨hok, rfl⟩
        rw [ih.2 ⟨hok, rfl⟩]
        rfl

end SchemaForge
