import Mathlib.Data.List.Basic
import SchemaForge.Migration.Version

/-!
# Versions padded with zeros

A version drops the zeros at the end of its numbers, and versions of different lengths are compared
as they are, the shorter one first where it is continued. That this order is the natural one is
`Version.compare_ofSegments`: it is the order of the numbers themselves, once zeros are put behind
the shorter sequence. So `1.0` and `1` are one version, and `1.0.1` comes after both.

## One number at a time

Both orders look at one number after the other, and a sequence that has come to its end goes on with
zeros. On padded sequences that is so by definition (`rightpad_succ`). On sequences without their
zeros it takes an argument, since these may end early: putting a number in front of such a sequence
(`Version.lead`) leaves nothing if the number is a zero with nothing behind it, and the comparison
does not notice (`Version.compareSegments_lead`).

The first number of a version stays even if it is zero, so the two sequences have to have one.
-/

namespace SchemaForge.Version

variable {xs ys : List ℕ}

/-! ### The order of numbers -/

/-- The order of segments is the lexicographic order of lists. -/
theorem compareSegments_eq_compare (as bs : List ℕ) : compareSegments as bs = Ord.compare as bs := by
  induction as generalizing bs with
  | nil => cases bs <;> rfl
  | cons a as ih =>
    cases bs with
    | nil => rfl
    | cons b bs =>
      rw [compareSegments, ih, List.compare_eq_compareLex, List.compareLex_cons_cons]

theorem compare_eq_compare (v w : Version) : v.compare w = Ord.compare v.segments w.segments :=
  compareSegments_eq_compare v.segments w.segments

instance : Std.TransCmp Version.compare where
  eq_swap := by
    intro v w
    rw [compare_eq_compare, compare_eq_compare]
    exact Std.OrientedCmp.eq_swap
  isLE_trans := by
    intro u v w huv hvw
    rw [compare_eq_compare] at huv hvw ⊢
    exact Std.TransCmp.isLE_trans huv hvw

instance : Std.LawfulEqCmp Version.compare where
  compare_self := by
    intro v
    rw [compare_eq_compare]
    exact Std.ReflCmp.compare_self
  eq_of_compare := by
    intro v w h
    rw [compare_eq_compare] at h
    have hsegments : v.segments = w.segments := Std.LawfulEqCmp.eq_of_compare h
    cases v
    cases w
    simpa using hsegments

/-- Of two versions one comes no later than the other. -/
theorem isLE_compare_total (v w : Version) :
    (v.compare w).isLE = true ∨ (w.compare v).isLE = true := by
  have hswap : v.compare w = (w.compare v).swap := Std.OrientedCmp.eq_swap
  rw [hswap]
  cases w.compare v <;> simp

/-! ### Sequences without zeros at the end -/

/-- A number in front of numbers without zeros at the end. -/
def lead (n : ℕ) (ns : List ℕ) : List ℕ := if n = 0 ∧ ns = [] then [] else n :: ns

theorem dropZeros_eq_lead (ns : List ℕ) : dropZeros ns = lead (ns.headD 0) (dropZeros ns.tail) := by
  cases ns with
  | nil => rfl
  | cons n ns =>
    show dropZeros (n :: ns) = lead n (dropZeros ns)
    rw [dropZeros, lead]
    cases dropZeros ns with
    | nil => simp
    | cons m ms => simp

theorem compareSegments_lead (a b : ℕ) (as bs : List ℕ) :
    compareSegments (lead a as) (lead b bs) =
      (Ord.compare a b).then (compareSegments as bs) := by
  rw [lead, lead]
  -- a sequence that is left empty is one that goes on with zeros
  by_cases ha : a = 0 ∧ as = []
  · obtain ⟨rfl, rfl⟩ := ha
    by_cases hb : b = 0 ∧ bs = []
    · obtain ⟨rfl, rfl⟩ := hb
      rfl
    · rw [if_pos ⟨rfl, rfl⟩, if_neg hb]
      cases b with
      | zero =>
        obtain ⟨c, cs, rfl⟩ := List.exists_cons_of_ne_nil fun hnil ↦ hb ⟨rfl, hnil⟩
        rfl
      | succ b => rfl
  · rw [if_neg ha]
    by_cases hb : b = 0 ∧ bs = []
    · obtain ⟨rfl, rfl⟩ := hb
      rw [if_pos ⟨rfl, rfl⟩]
      cases a with
      | zero =>
        obtain ⟨c, cs, rfl⟩ := List.exists_cons_of_ne_nil fun hnil ↦ ha ⟨rfl, hnil⟩
        rfl
      | succ a => rfl
    · rw [if_neg hb, compareSegments]

/-! ### Sequences with zeros behind them -/

theorem rightpad_succ (n : ℕ) (ns : List ℕ) :
    ns.rightpad (n + 1) 0 = ns.headD 0 :: ns.tail.rightpad n 0 := by
  cases ns with
  | nil => exact List.replicate_succ
  | cons m ms =>
    show m :: (ms ++ List.replicate (n + 1 - (ms.length + 1)) 0) = m :: ms.rightpad n 0
    rw [Nat.add_sub_add_right, List.rightpad]

theorem compare_rightpad_succ (n : ℕ) (xs ys : List ℕ) :
    Ord.compare (xs.rightpad (n + 1) 0) (ys.rightpad (n + 1) 0) =
      (Ord.compare (xs.headD 0) (ys.headD 0)).then
        (Ord.compare (xs.tail.rightpad n 0) (ys.tail.rightpad n 0)) := by
  rw [rightpad_succ, rightpad_succ, List.compare_eq_compareLex, List.compareLex_cons_cons]

/-- Without their zeros sequences are in the order that they have with zeros behind them. The
induction is on the length to which they are padded. -/
theorem compareSegments_dropZeros {n : ℕ} (hxs : xs.length ≤ n) (hys : ys.length ≤ n) :
    compareSegments (dropZeros xs) (dropZeros ys) =
      Ord.compare (xs.rightpad n 0) (ys.rightpad n 0) := by
  induction n generalizing xs ys with
  | zero =>
    obtain rfl := List.length_eq_zero_iff.1 (Nat.le_zero.1 hxs)
    obtain rfl := List.length_eq_zero_iff.1 (Nat.le_zero.1 hys)
    rfl
  | succ n ih =>
    have htails : compareSegments (dropZeros xs.tail) (dropZeros ys.tail) =
        Ord.compare (xs.tail.rightpad n 0) (ys.tail.rightpad n 0) := by
      refine ih ?_ ?_
      · rw [List.length_tail]
        omega
      · rw [List.length_tail]
        omega
    rw [dropZeros_eq_lead xs, dropZeros_eq_lead ys, compareSegments_lead, htails,
      compare_rightpad_succ]

theorem compareSegments_trim (hxs : xs ≠ []) (hys : ys ≠ []) {n : ℕ} (hxn : xs.length ≤ n)
    (hyn : ys.length ≤ n) :
    compareSegments (trim xs) (trim ys) = Ord.compare (xs.rightpad n 0) (ys.rightpad n 0) := by
  obtain ⟨x, xs, rfl⟩ := List.exists_cons_of_ne_nil hxs
  obtain ⟨y, ys, rfl⟩ := List.exists_cons_of_ne_nil hys
  obtain ⟨n, rfl⟩ : ∃ m, n = m + 1 := Nat.exists_eq_succ_of_ne_zero (by
    rw [List.length_cons] at hxn
    omega)
  have htails := compareSegments_dropZeros (Nat.le_of_succ_le_succ hxn) (Nat.le_of_succ_le_succ hyn)
  rw [compare_rightpad_succ]
  show (Ord.compare x y).then (compareSegments (dropZeros xs) (dropZeros ys)) = _
  rw [htails]
  rfl

/-! ### Sequences of one version -/

theorem rightpad_of_le {n : ℕ} {ns : List ℕ} (h : n ≤ ns.length) : ns.rightpad n 0 = ns := by
  rw [List.rightpad, Nat.sub_eq_zero_of_le h, List.replicate_zero, List.append_nil]

/-- Padded to one length, sequences are the same if and only if one is the other with zeros behind
it. -/
theorem rightpad_max_eq_iff :
    xs.rightpad (max xs.length ys.length) 0 = ys.rightpad (max xs.length ys.length) 0 ↔
      (∃ k, ys = xs ++ List.replicate k 0) ∨ ∃ k, xs = ys ++ List.replicate k 0 := by
  constructor
  · intro h
    rcases Nat.le_total xs.length ys.length with hle | hle
    · rw [Nat.max_eq_right hle, rightpad_of_le (Nat.le_refl ys.length)] at h
      exact Or.inl ⟨_, h.symm⟩
    · rw [Nat.max_eq_left hle, rightpad_of_le (Nat.le_refl xs.length)] at h
      exact Or.inr ⟨_, h⟩
  · have hlonger (ns : List ℕ) (k : ℕ) : ns.rightpad (ns ++ List.replicate k 0).length 0 =
        (ns ++ List.replicate k 0).rightpad (ns ++ List.replicate k 0).length 0 := by
      have hself := rightpad_of_le (Nat.le_refl (ns ++ List.replicate k 0).length)
      rw [hself, List.length_append, List.length_replicate, List.rightpad, Nat.add_sub_cancel_left]
    have hle (ns : List ℕ) (k : ℕ) : ns.length ≤ (ns ++ List.replicate k 0).length :=
      (List.prefix_append ns (List.replicate k 0)).length_le
    rintro (⟨k, rfl⟩ | ⟨k, rfl⟩)
    · rw [Nat.max_eq_right (hle xs k)]
      exact hlonger xs k
    · rw [Nat.max_eq_left (hle ys k)]
      exact (hlonger ys k).symm

/-- **Versions are ordered as their numbers are with zeros behind them.** Comparing the versions of
two sequences of numbers compares these number by number, the shorter one padded with zeros. So the
versions are the same exactly if one sequence is the other with zeros behind it, and the order of
versions is total, transitive and without ties. -/
theorem compare_ofSegments (hxs : xs ≠ []) (hys : ys ≠ []) :
    (ofSegments xs).compare (ofSegments ys) = Ord.compare
      (xs.rightpad (max xs.length ys.length) 0) (ys.rightpad (max xs.length ys.length) 0) ∧
    (ofSegments xs = ofSegments ys ↔
      (∃ k, ys = xs ++ List.replicate k 0) ∨ ∃ k, xs = ys ++ List.replicate k 0) ∧
    (∀ v w : Version, v.compare w = .eq ↔ v = w) ∧
    (∀ v w : Version, (v.compare w).isLE = true ∨ (w.compare v).isLE = true) ∧
    ∀ u v w : Version, (u.compare v).isLE = true → (v.compare w).isLE = true →
      (u.compare w).isLE = true := by
  have hcompare : (ofSegments xs).compare (ofSegments ys) = Ord.compare
      (xs.rightpad (max xs.length ys.length) 0) (ys.rightpad (max xs.length ys.length) 0) :=
    compareSegments_trim hxs hys (Nat.le_max_left ..) (Nat.le_max_right ..)
  have hties (v w : Version) : v.compare w = .eq ↔ v = w := Std.LawfulEqCmp.compare_eq_iff_eq
  refine ⟨hcompare, ?_, hties, isLE_compare_total, fun u v w ↦ Std.TransCmp.isLE_trans⟩
  rw [← hties, hcompare, Std.LawfulEqOrd.compare_eq_iff_eq, rightpad_max_eq_iff]

/-- Zeros in between count and those at the end do not: `1.0.0.2` comes after `1.0`, and `0.0` is
`0`. -/
theorem compare_ofSegments_zeros :
    (ofSegments [1, 0, 0, 2]).compare (ofSegments [1, 0]) = .gt ∧
      ofSegments [0, 0] = ofSegments [0] := by
  have hne (n : ℕ) (ns : List ℕ) : n :: ns ≠ [] := List.cons_ne_nil n ns
  obtain ⟨hcompare, -⟩ := compare_ofSegments (hne 1 [0, 0, 2]) (hne 1 [0])
  obtain ⟨-, hsame, -⟩ := compare_ofSegments (hne 0 [0]) (hne 0 [])
  exact ⟨hcompare.trans rfl, hsame.2 (Or.inr ⟨1, rfl⟩)⟩

end SchemaForge.Version
