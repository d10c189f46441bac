import Mathlib.Data.List.Forall2
import SchemaForge.Proofs.Schema.Bundled

/-!
# Constraints that do not show a text

Two values differ in the text at a path if one is the other with another text there
(`Json.DiffersAt`). A constraint hides the text at a path if what it asks along the path neither
depends on the text nor shows a value that holds it (`Constraint.Hides`), by a case for each kind of
constraint that can do so. Then the violations of both values are the same
(`Constraint.Hides.violations_eq`).

The bundled schema asks nothing of a password but that it is a text, and hides it
(`Schema.hides_password`).
-/

namespace SchemaForge

/-! ### Sorting -/

namespace Names

variable {α β : Type} {R : String × α → String × β → Prop} {l : List (String × α)}
  {l' : List (String × β)} {m : String × α} {n : String × β}

theorem forall₂_insert (hR : ∀ m n, R m n → m.1 = n.1) (hmn : R m n) (h : List.Forall₂ R l l') :
    List.Forall₂ R (insert m l) (insert n l') := by
  induction h with
  | nil => exact .cons hmn .nil
  | @cons a b l l' hab hrest ih =>
    rw [insert, insert, hR m n hmn, hR a b hab]
    split
    · exact .cons hmn (.cons hab hrest)
    · split
      · exact .cons hmn hrest
      · exact .cons hab ih

/-- Sorting looks at nothing but the names. -/
theorem forall₂_sort (hR : ∀ m n, R m n → m.1 = n.1) (h : List.Forall₂ R l l') :
    List.Forall₂ R (sort l) (sort l') := by
  have hfoldl {acc acc'} (hacc : List.Forall₂ R acc acc') :
      List.Forall₂ R (l.foldl (fun acc m ↦ insert m acc) acc)
        (l'.foldl (fun acc m ↦ insert m acc) acc') := by
    induction h generalizing acc acc' with
    | nil => exact hacc
    | cons hab _ ih => exact ih (forall₂_insert hR hab hacc)
  exact hfoldl .nil

end Names

/-! ### Values that differ in one text -/

namespace Json

/-- One value is the other with another text at the path. -/
def DiffersAt : List String → Json → Json → Prop
  | [], .string _, .string _ => True
  | name :: path, .object ms, .object ns =>
    List.Forall₂ (fun m n ↦ m = n ∨ m.1 = name ∧ n.1 = name ∧ DiffersAt path m.2 n.2) ms ns
  | _, _, _ => False

/-- Members of one name that are the same, or on the way to the text. -/
def MemberDiffersAt (name : String) (path : List String) (m n : String × Json) : Prop :=
  m = n ∨ m.1 = name ∧ n.1 = name ∧ DiffersAt path m.2 n.2

variable {name : String} {path : List String} {v w : Json} {m n : String × Json}
  {ms ns : List (String × Json)}

theorem MemberDiffersAt.name_eq (h : MemberDiffersAt name path m n) : m.1 = n.1 := by
  rcases h with rfl | ⟨hm, hn, -⟩
  · rfl
  · exact hm.trans hn.symm

theorem differsAt_nil_iff : DiffersAt [] v w ↔ ∃ s t, v = .string s ∧ w = .string t := by
  constructor
  · intro h
    cases v <;> cases w <;> first | exact h.elim | exact ⟨_, _, rfl, rfl⟩
  · rintro ⟨s, t, rfl, rfl⟩
    trivial

theorem differsAt_cons_iff : DiffersAt (name :: path) v w ↔
    ∃ ms ns, v = .object ms ∧ w = .object ns ∧
      List.Forall₂ (MemberDiffersAt name path) ms ns := by
  constructor
  · intro h
    cases v <;> cases w <;> first | exact h.elim | exact ⟨_, _, rfl, rfl, h⟩
  · rintro ⟨ms, ns, rfl, rfl, h⟩
    exact h

theorem map_fst_eq_of_forall₂ (h : List.Forall₂ (MemberDiffersAt name path) ms ns) :
    ms.map (·.1) = ns.map (·.1) := by
  induction h with
  | nil => rfl
  | cons hmn _ ih => rw [List.map_cons, List.map_cons, hmn.name_eq, ih]

theorem forall₂_refl (ms : List (String × Json)) :
    List.Forall₂ (MemberDiffersAt name path) ms ms :=
  List.forall₂_same.2 fun _ _ ↦ Or.inl rfl

theorem DiffersAt.sorted (h : DiffersAt path v w) : DiffersAt path v.sorted w.sorted := by
  induction path generalizing v w with
  | nil =>
    obtain ⟨s, t, rfl, rfl⟩ := differsAt_nil_iff.1 h
    trivial
  | cons name path ih =>
    obtain ⟨ms, ns, rfl, rfl, hmembers⟩ := differsAt_cons_iff.1 h
    rw [sorted_object, sorted_object]
    refine differsAt_cons_iff.2 ⟨_, _, rfl, rfl,
      Names.forall₂_sort (fun _ _ ↦ MemberDiffersAt.name_eq) ?_⟩
    rw [List.forall₂_map_left_iff, List.forall₂_map_right_iff]
    refine hmembers.imp fun m n hmn ↦ ?_
    rcases hmn with rfl | ⟨hm, hn, hdiffers⟩
    · exact Or.inl rfl
    · exact Or.inr ⟨hm, hn, ih hdiffers⟩

theorem DiffersAt.depth_eq (h : DiffersAt path v w) : v.depth = w.depth := by
  induction path generalizing v w with
  | nil =>
    obtain ⟨s, t, rfl, rfl⟩ := differsAt_nil_iff.1 h
    rfl
  | cons name path ih =>
    obtain ⟨ms, ns, rfl, rfl, hmembers⟩ := differsAt_cons_iff.1 h
    rw [depth, depth, Nat.add_right_cancel_iff]
    induction hmembers with
    | nil => rfl
    | @cons m n ms ns hmn hrest ihrest =>
      have hdepth : m.2.depth = n.2.depth := by
        rcases hmn with rfl | ⟨-, -, hdiffers⟩
        · rfl
        · exact ih hdiffers
      rw [depthOfMembers, depthOfMembers, hdepth,
        ihrest (differsAt_cons_iff.2 ⟨_, _, rfl, rfl, hrest⟩)]

end Json

/-! ### Constraints that hide a text -/

namespace Constraint

open Json

/-- What the constraint asks of a value with a text at the path does not depend on the text, and no
violation shows it. -/
inductive Hides (definitions : List (String × Constraint)) : List String → Constraint → Prop
  | all {path parts} (h : ∀ c ∈ parts, Hides definitions path c) :
      Hides definitions path (.all parts)
  | text {ks} (h : Kind.string ∈ ks) : Hides definitions [] (kinds ks)
  | object {name path ks} (h : Kind.object ∈ ks) : Hides definitions (name :: path) (kinds ks)
  | required {path names} : Hides definitions path (required names)
  | textMemberless : Hides definitions [] memberless
  | textMembers {named others} : Hides definitions [] (members named others)
  | members {name path named others}
      (hnamed : ∀ d, named.find? (·.1 == name) = some d → Hides definitions path d.2)
      (hothers : named.find? (·.1 == name) = none → others ≠ nothing →
        Hides definitions path others) :
      Hides definitions (name :: path) (members named others)
  | items {path each} : Hides definitions path (items each)
  | fewest {path count} : Hides definitions path (fewest count)
  | shortest {name path count} : Hides definitions (name :: path) (shortest count)
  | longest {name path count} : Hides definitions (name :: path) (longest count)
  | matching {name path text pattern} : Hides definitions (name :: path) (matching text pattern)
  | reference {path name}
      (h : ∀ d, definitions.find? (·.1 == name) = some d → Hides definitions path d.2) :
      Hides definitions path (reference name)

variable {definitions named : List (String × Constraint)} {name : String} {path : List String}
  {c others : Constraint} {v w : Json} {ms ns : List (String × Json)} {fuel : ℕ}

theorem unexpected_eq_of_map_fst_eq (h : ms.map (·.1) = ns.map (·.1)) :
    unexpected named ms = unexpected named ns := by
  have hnames (ms : List (String × Json)) : unexpected named ms =
      (ms.map (·.1)).filter fun n ↦ !named.any (·.1 == n) := by
    rw [unexpected, List.filter_map]
    rfl
  rw [hnames, hnames, h]

theorem violations_kinds_eq_nil {ks : List Kind} {k : Kind} (hk : k ∈ ks) (hv : k.covers v = true) :
    (kinds ks).violations definitions (fuel + 1) v = [] := by
  rw [violations, if_pos (List.any_eq_true.2 ⟨k, hk, hv⟩)]

theorem violations_required {names : List String} :
    (Constraint.required names).violations definitions (fuel + 1) (.object ms) =
      (names.filter fun n ↦ !(ms.map (·.1)).any (· == n)).map .missing := by
  rw [violations]
  simp only [List.any_map]
  rfl

theorem flatMap_eq_of_forall₂ {α : Type} {f : String × Json → List α}
    (h : List.Forall₂ (MemberDiffersAt name path) ms ns)
    (hf : ∀ m n, MemberDiffersAt name path m n → f m = f n) : ms.flatMap f = ns.flatMap f := by
  induction h with
  | nil => rfl
  | cons hmn _ ih => rw [List.flatMap_cons, List.flatMap_cons, hf _ _ hmn, ih]

/-- What is asked of a member of an object. -/
def violationsOfMember (definitions named : List (String × Constraint)) (others : Constraint)
    (fuel : ℕ) (m : String × Json) : List Violation :=
  match named.find? (·.1 == m.1) with
  | some d => d.2.violations definitions fuel m.2
  | none =>
    match others with
    | nothing => []
    | _ => others.violations definitions fuel m.2

theorem violations_members :
    (Constraint.members named others).violations definitions (fuel + 1) (.object ms) =
      match others, unexpected named ms with
      | nothing, n :: ns =>
        ms.flatMap (violationsOfMember definitions named others fuel) ++ [.unexpected (n :: ns)]
      | _, _ => ms.flatMap (violationsOfMember definitions named others fuel) := rfl

theorem violationsOfMember_eq {m n : String × Json} (h : MemberDiffersAt name path m n)
    (hnamed : ∀ d, named.find? (·.1 == name) = some d → ∀ {v w}, DiffersAt path v w →
      d.2.violations definitions fuel v = d.2.violations definitions fuel w)
    (hothers : named.find? (·.1 == name) = none → others ≠ nothing → ∀ {v w}, DiffersAt path v w →
      others.violations definitions fuel v = others.violations definitions fuel w) :
    violationsOfMember definitions named others fuel m =
      violationsOfMember definitions named others fuel n := by
  rcases h with rfl | ⟨hm, hn, hdiffers⟩
  · rfl
  · unfold violationsOfMember
    rw [hm, hn]
    cases hfind : named.find? (·.1 == name) with
    | some d => exact hnamed d hfind hdiffers
    | none =>
      cases others with
      | nothing => rfl
      | _ => exact hothers hfind (by simp) hdiffers

/-- **A constraint that hides a text has the same violations for every text.** -/
theorem Hides.violations_eq (h : Hides definitions path c) (hvw : DiffersAt path v w) :
    c.violations definitions fuel v = c.violations definitions fuel w := by
  -- by the fuel: what a constraint leads to is asked with one unit less
  induction fuel generalizing path c v w with
  | zero => rfl
  | succ fuel ih =>
    cases h with
    | all h =>
      rw [violations, violations]
      exact List.flatMap_congr fun c hc ↦ ih (h c hc) hvw
    | reference h =>
      rw [violations, violations]
      split
      · rename_i d hd
        exact ih (h d hd) hvw
      · rfl
    | @members name path named others hnamed hothers =>
      obtain ⟨ms, ns, rfl, rfl, hmembers⟩ := differsAt_cons_iff.1 hvw
      have hmember (m n : String × Json) (h : MemberDiffersAt name path m n) :=
        violationsOfMember_eq h (fun d hd ↦ ih (hnamed d hd))
          fun hd hclosed ↦ ih (hothers hd hclosed)
      rw [violations_members, violations_members, flatMap_eq_of_forall₂ hmembers hmember,
        unexpected_eq_of_map_fst_eq (map_fst_eq_of_forall₂ hmembers)]
    | text h =>
      obtain ⟨s, t, rfl, rfl⟩ := differsAt_nil_iff.1 hvw
      rw [violations_kinds_eq_nil h rfl, violations_kinds_eq_nil h rfl]
    | object h =>
      obtain ⟨ms, ns, rfl, rfl, -⟩ := differsAt_cons_iff.1 hvw
      rw [violations_kinds_eq_nil h rfl, violations_kinds_eq_nil h rfl]
    | @required path names =>
      cases path with
      | nil =>
        obtain ⟨s, t, rfl, rfl⟩ := differsAt_nil_iff.1 hvw
        rfl
      | cons name path =>
        obtain ⟨ms, ns, rfl, rfl, hmembers⟩ := differsAt_cons_iff.1 hvw
        rw [violations_required, violations_required, map_fst_eq_of_forall₂ hmembers]
    | textMemberless | textMembers =>
      obtain ⟨s, t, rfl, rfl⟩ := differsAt_nil_iff.1 hvw
      rfl
    | shortest | longest | matching =>
      obtain ⟨ms, ns, rfl, rfl, -⟩ := differsAt_cons_iff.1 hvw
      rfl
    | items | fewest =>
      -- there are no arrays on the way to a text
      cases path with
      | nil =>
        obtain ⟨s, t, rfl, rfl⟩ := differsAt_nil_iff.1 hvw
        rfl
      | cons name path =>
        obtain ⟨ms, ns, rfl, rfl, -⟩ := differsAt_cons_iff.1 hvw
        rfl

/-- A closed list of members hides what the member on the way hides. -/
theorem Hides.closedMembers {d : String × Constraint}
    (hfind : named.find? (·.1 == name) = some d) (h : Hides definitions path d.2) :
    Hides definitions (name :: path) (Constraint.members named nothing) := by
  refine .members (fun d' hd' ↦ ?_) fun hnone ↦ ?_
  · obtain rfl := Option.some.inj (hfind.symm.trans hd')
    exact h
  · rw [hfind] at hnone
    cases hnone

theorem Hides.recordOf {d : String × Constraint} (hfind : named.find? (·.1 == name) = some d)
    (h : Hides definitions path d.2) : Hides definitions (name :: path) (recordOf named) := by
  refine .all fun c hc ↦ ?_
  rw [List.mem_cons, List.mem_singleton] at hc
  rcases hc with rfl | rfl
  · exact .object (List.mem_singleton_self _)
  · exact .closedMembers hfind h

theorem Hides.recordWith {names : List String} {d : String × Constraint}
    (hfind : named.find? (·.1 == name) = some d) (h : Hides definitions path d.2) :
    Hides definitions (name :: path) (recordWith names named) := by
  refine .all fun c hc ↦ ?_
  rw [List.mem_cons, List.mem_cons, List.mem_singleton] at hc
  rcases hc with rfl | rfl | rfl
  · exact .object (List.mem_singleton_self _)
  · exact .required
  · exact .closedMembers hfind h

end Constraint

namespace Schema

open Constraint

/-- A schema that hides a text of its documents has the same violations for every text. -/
theorem violations_eq_of_hides {s : Schema} {path : List String} {v w : Json}
    (h : Hides s.definitions path s.root) (hvw : Json.DiffersAt path v w) :
    s.violations v = s.violations w := by
  rw [violations, violations, budget, budget, hvw.depth_eq]
  exact h.violations_eq hvw

/-- **The bundled schema hides the password.** -/
theorem hides_password : Hides documents.definitions ["jdbc", "password"] documents.root := by
  have hjdbc : documents.definitions.find? (·.1 == "#/definitions/jdbc") =
      some (documents.definitions.head (List.cons_ne_nil _ _)) := rfl
  refine .recordWith (d := ("jdbc", Constraint.definition "jdbc")) rfl (.reference fun d hd ↦ ?_)
  obtain rfl := Option.some.inj (hjdbc.symm.trans hd)
  refine .recordOf (d := ("password", Constraint.ofKind .string)) rfl (.all fun c hc ↦ ?_)
  obtain rfl := List.mem_singleton.1 hc
  exact .text (List.mem_singleton_self _)

end Schema

end SchemaForge
