import Mathlib.Data.Option.Basic
import SchemaForge.Proofs.Configuration.Canonical
import SchemaForge.Proofs.Json.Sorted
import SchemaForge.Proofs.Table
import SchemaForge.Schema.Basic

/-!
# What constraints ask

`Constraint.Holds` says that a value has no violations of a constraint, as far as the fuel leads.
For each kind of constraint there is a lemma that says what that comes to. Each of them takes one
unit of fuel, so constraints that lead only so deep ask the same of a value however much there is.

Records are asked through their parts. A part that is absent is asked nothing
(`Constraint.HoldsOn`), and a record whose members are its parts meets a closed list of named
constraints if each part meets the one of its name (`Constraint.holds_record`).
-/

namespace SchemaForge

namespace Constraint

/-! ### Constraints by their form -/

/-- A value of a kind. -/
def ofKind (kind : Kind) : Constraint := all [kinds [kind]]

/-- What one of the definitions asks. -/
def definition (name : String) : Constraint := reference ("#/definitions/" ++ name)

/-- A list of values that meet a constraint each. -/
def listOf (each : Constraint) : Constraint := all [kinds [.array], items each]

/-- A record with these members and no others. -/
def recordOf (named : List (String × Constraint)) : Constraint :=
  all [kinds [.object], members named nothing]

/-- A record that must have some of its members. -/
def recordWith (names : List String) (named : List (String × Constraint)) : Constraint :=
  all [kinds [.object], required names, members named nothing]

variable {definitions named : List (String × Constraint)} {fuel k : ℕ} {c : Constraint}
  {cs : List Constraint} {j : Json} {js : List Json} {ms : List (String × Json)} {ks : List Kind}
  {name s t : String} {names : List String} {p : Pattern}

/-! ### One constraint -/

/-- A value has no violations of a constraint, as far as the fuel leads. -/
def Holds (definitions : List (String × Constraint)) (fuel : ℕ) (c : Constraint) (j : Json) :
    Prop :=
  c.violations definitions fuel j = []

attribute [local simp] violations

theorem holds_all : (all cs).Holds definitions (fuel + 1) j ↔
    ∀ c ∈ cs, c.Holds definitions fuel j := by
  rw [Holds, violations, List.flatMap_eq_nil_iff]
  rfl

theorem holds_anyOf : (anyOf cs).Holds definitions (fuel + 1) j ↔
    ∃ c ∈ cs, c.Holds definitions fuel j := by
  simp [Holds]

theorem holds_reference (h : definitions.find? (·.1 == name) = some (t, c)) :
    (reference name).Holds definitions (fuel + 1) j ↔ c.Holds definitions fuel j := by
  rw [Holds, violations, h, Holds]

theorem holds_kinds : (kinds ks).Holds definitions (fuel + 1) j ↔ ∃ k ∈ ks, k.covers j = true := by
  simp [Holds]

theorem holds_listed : (listed js).Holds definitions (fuel + 1) j ↔
    ∃ i ∈ js, (j == i) = true := by
  simp [Holds]

theorem holds_shortest : (shortest k).Holds definitions (fuel + 1) (.string s) ↔ k ≤ s.length := by
  simp [Holds]

theorem holds_matching : (matching t p).Holds definitions (fuel + 1) (.string s) ↔
    p.occursIn s = true := by
  simp [Holds]

theorem holds_items : (items c).Holds definitions (fuel + 1) (.array js) ↔
    ∀ j ∈ js, c.Holds definitions fuel j := by
  simp [Holds]

theorem holds_required : (required names).Holds definitions (fuel + 1) (.object ms) ↔
    ∀ name ∈ names, name ∈ ms.map (·.1) := by
  simp [Holds]

theorem unexpected_eq_nil_iff : unexpected named ms = [] ↔
    ∀ m ∈ ms, ∃ d, named.find? (·.1 == m.1) = some d := by
  rw [unexpected, List.map_eq_nil_iff, List.filter_eq_nil_iff]
  simp only [Bool.not_eq_true, Bool.not_eq_false', List.any_eq_true, ← Option.isSome_iff_exists,
    List.find?_isSome]

theorem holds_members_nothing :
    (members named nothing).Holds definitions (fuel + 1) (.object ms) ↔
      ∀ m ∈ ms, ∃ d, named.find? (·.1 == m.1) = some d ∧ d.2.Holds definitions fuel m.2 := by
  rw [Holds]
  unfold violations
  dsimp only
  cases hunexpected : unexpected named ms with
  | nil => 
    rw [List.flatMap_eq_nil_iff]
    refine forall₂_congr fun m hm ↦ ?_
    obtain ⟨d, hd⟩ := unexpected_eq_nil_iff.1 hunexpected m hm
    simp [hd, Holds]
  | cons n ns =>
    refine iff_of_false (List.append_ne_nil_of_right_ne_nil _ (List.cons_ne_nil _ _)) fun h ↦ ?_
    rw [unexpected_eq_nil_iff.2 fun m hm ↦ (h m hm).imp fun d hd ↦ hd.1] at hunexpected
    cases hunexpected

theorem holds_members_nil :
    (members [] (all cs)).Holds definitions (fuel + 1) (.object ms) ↔
      ∀ m ∈ ms, (all cs).Holds definitions fuel m.2 := by
  simp [Holds]

end Constraint

/-! ### Records from parts -/

namespace Json

variable {names : List String} {values : List (Option Json)} {m : String × Json}

theorem sublist_partMembers : ((partMembers names values).map (·.1)).Sublist names := by
  induction names generalizing values with
  | nil => exact .slnil
  | cons name names ih =>
    cases values with
    | nil => exact List.nil_sublist _
    | cons value values =>
      rw [partMembers_cons]
      cases value with
      | none => exact ih.cons name
      | some v => exact ih.cons_cons name

/-- The members of a record are its parts. -/
theorem mem_sort_partMembers_iff (h : names.Nodup) :
    m ∈ Names.sort ((partMembers names values).map fun m ↦ (m.1, m.2.sorted)) ↔
      ∃ v, (m.1, some v) ∈ names.zip values ∧ v.sorted = m.2 := by
  have hnames : (((partMembers names values).map fun m ↦ (m.1, m.2.sorted)).map (·.1)).Nodup := by
    rw [List.map_map]
    exact sublist_partMembers.nodup h
  rw [(Names.sort_perm hnames).mem_iff, List.mem_map]
  constructor
  · rintro ⟨n, hn, rfl⟩
    exact ⟨n.2, mem_partMembers_iff.1 hn, rfl⟩
  · rintro ⟨v, hv, hm⟩
    exact ⟨(m.1, v), mem_partMembers_iff.2 hv, Prod.ext rfl hm⟩

end Json

namespace Constraint

variable {definitions named : List (String × Constraint)} {fuel : ℕ} {c : Constraint}
  {cs : List Constraint} {names : List String} {values : List (Option Json)}

/-- What a constraint asks of a part that may be absent. -/
def HoldsOn (definitions : List (String × Constraint)) (fuel : ℕ) (c : Constraint)
    (value : Option Json) : Prop :=
  ∀ v ∈ value, c.Holds definitions fuel v.sorted

@[simp] theorem holdsOn_some {v : Json} :
    c.HoldsOn definitions fuel (some v) ↔ c.Holds definitions fuel v.sorted := by
  simp [HoldsOn]

@[simp] theorem holdsOn_map {α : Type} {f : α → Json} {value : Option α} :
    c.HoldsOn definitions fuel (value.map f) ↔
      ∀ a ∈ value, c.Holds definitions fuel (f a).sorted :=
  Option.forall_mem_map

@[simp] theorem holds_ofKind {kind : Kind} {j : Json} :
    (ofKind kind).Holds definitions (fuel + 2) j ↔ kind.covers j = true := by
  simp [ofKind, holds_all, holds_kinds]

@[simp] theorem covers_string {s : String} : Kind.string.covers (Json.string s).sorted = true := rfl

@[simp] theorem covers_boolean {b : Bool} : Kind.boolean.covers (Json.bool b).sorted = true := rfl

@[simp] theorem holdsOn_listOf {α : Type} {f : α → Json} {xs : List α} :
    (listOf c).HoldsOn definitions (fuel + 2) (Json.array? (xs.map f)) ↔
      ∀ x ∈ xs, c.Holds definitions fuel (f x).sorted := by
  cases xs with
  | nil => simp [HoldsOn, Json.array?]
  | cons x xs =>
    have harray : Json.array? ((x :: xs).map f) = some (.array ((x :: xs).map f)) := rfl
    rw [harray, holdsOn_some, Json.sorted_array, List.map_map]
    simp [listOf, holds_all, holds_kinds, holds_items, Kind.covers]

/-- Texts by name are what a mapping to texts asks for. -/
@[simp] theorem holdsOn_texts {texts : List (String × String)} :
    (all [kinds [.object], members [] (ofKind .string)]).HoldsOn definitions (fuel + 4)
      (Json.object? (texts.map fun m ↦ (m.1, .string m.2))) := by
  cases texts with
  | nil => exact fun v hv ↦ by cases hv
  | cons m texts =>
    rintro v ⟨⟩
    rw [Json.sorted_object, holds_all, List.forall_mem_cons, List.forall_mem_singleton]
    refine ⟨holds_kinds.2 ⟨.object, List.mem_singleton_self _, rfl⟩, ?_⟩
    refine holds_members_nil.2 fun x hx ↦ holds_ofKind.2 ?_
    obtain ⟨y, hy, rfl⟩ := List.mem_map.1 (Names.mem_of_mem_sort hx)
    obtain ⟨z, -, rfl⟩ := List.mem_map.1 hy
    rfl

theorem holds_required_ofParts {wanted : List String} (h : names.Nodup) :
    (required wanted).Holds definitions (fuel + 1) (Json.ofParts names values).sorted ↔
      ∀ name ∈ wanted, ∃ v, (name, some v) ∈ names.zip values := by
  rw [Json.ofParts, Json.sorted_object, holds_required]
  refine forall₂_congr fun name _ ↦ ?_
  simp only [List.mem_map, Json.mem_sort_partMembers_iff h]
  constructor
  · rintro ⟨m, ⟨v, hv, -⟩, rfl⟩
    exact ⟨v, hv⟩
  · rintro ⟨v, hv⟩
    exact ⟨(name, v.sorted), ⟨v, hv, rfl⟩, rfl⟩

/-- A record is asked for what its parts are asked for. -/
theorem holds_members_ofParts (h : (named.map (·.1)).Nodup) :
    (members named nothing).Holds definitions (fuel + 1)
        (Json.ofParts (named.map (·.1)) values).sorted ↔
      ∀ part ∈ named.zip values, part.1.2.HoldsOn definitions fuel part.2 := by
  rw [Json.ofParts, Json.sorted_object, holds_members_nothing]
  simp only [Json.mem_sort_partMembers_iff h, List.zip_map_left, List.mem_map]
  constructor
  · intro hmembers part hpart v hv
    obtain ⟨d, hd, hholds⟩ := hmembers (part.1.1, v.sorted)
      ⟨v, ⟨part, hpart, congrArg (Prod.mk part.1.1) hv⟩, rfl⟩
    rw [find?_eq_some_of_mem h (List.of_mem_zip hpart).1, Option.some.injEq] at hd
    rwa [hd]
  · rintro hparts ⟨name, w⟩ ⟨v, ⟨part, hpart, heq⟩, rfl⟩
    obtain ⟨rfl, hv⟩ := Prod.mk.inj heq
    exact ⟨part.1, find?_eq_some_of_mem h (List.of_mem_zip hpart).1, hparts part hpart v hv⟩

theorem covers_ofParts : Kind.object.covers (Json.ofParts names values).sorted = true := by
  rw [Json.ofParts, Json.sorted_object]
  rfl

theorem holds_record (h : (named.map (·.1)).Nodup) :
    (all (kinds [.object] :: members named nothing :: cs)).Holds definitions (fuel + 2)
        (Json.ofParts (named.map (·.1)) values).sorted ↔
      (∀ part ∈ named.zip values, part.1.2.HoldsOn definitions fuel part.2) ∧
      ∀ c ∈ cs, c.Holds definitions (fuel + 1) (Json.ofParts (named.map (·.1)) values).sorted := by
  simp [holds_all, holds_kinds, covers_ofParts, holds_members_ofParts h]

theorem holds_recordOf (h : (named.map (·.1)).Nodup) :
    (recordOf named).Holds definitions (fuel + 2) (Json.ofParts (named.map (·.1)) values).sorted ↔
      ∀ part ∈ named.zip values, part.1.2.HoldsOn definitions fuel part.2 := by
  rw [recordOf, holds_record h]
  simp

theorem holds_recordWith (h : (named.map (·.1)).Nodup) :
    (recordWith names named).Holds definitions (fuel + 2)
        (Json.ofParts (named.map (·.1)) values).sorted ↔
      (∀ name ∈ names, ∃ v, (name, some v) ∈ (named.map (·.1)).zip values) ∧
      ∀ part ∈ named.zip values, part.1.2.HoldsOn definitions fuel part.2 := by
  simp [recordWith, holds_all, holds_kinds, covers_ofParts, holds_members_ofParts h,
    holds_required_ofParts h]

end Constraint

end SchemaForge
