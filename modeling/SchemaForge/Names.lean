/-!
# Values by name

Lists of values in ascending order of their names, each name once.

## Main definitions

* `Names.insert` : a value put into such a list.
* `Names.find?` : the value of a name.
* `NameMap` : such a list with the proof that it is one.

## Main statements

* `Names.ascending_insert` : a value put into an ascending list leaves it ascending.
-/

namespace SchemaForge

namespace Names

variable {α : Type}

/-- Puts a value into a list, in place of any other of its name. -/
def insert (m : String × α) : List (String × α) → List (String × α)
  | [] => [m]
  | n :: rest =>
    if m.1 < n.1 then m :: n :: rest
    else if m.1 == n.1 then m :: rest
    else n :: insert m rest

/-- Whether a character may stand in a name that is written without quotes. -/
def isBare (c : Char) : Bool := c.isAlphanum || c == '_' || c == '-'

/-- The value of a name. -/
def find? (name : String) (members : List (String × α)) : Option α :=
  (members.find? (·.1 == name)).map (·.2)

/-- Whether the names are in ascending order, each of them once. -/
def Ascending (members : List (String × α)) : Prop :=
  members.Pairwise fun a b => a.1 < b.1

/-- Only names from the list and the new one are in the result. -/
theorem mem_insert {m x : String × α} {members : List (String × α)} :
    x ∈ insert m members → x = m ∨ x ∈ members := by
  induction members with
  | nil => intro h; exact .inl (List.mem_singleton.1 h)
  | cons n rest ih =>
    unfold insert
    intro h
    split at h
    · rcases List.mem_cons.1 h with h | h
      · exact .inl h
      · exact .inr h
    · split at h
      · rcases List.mem_cons.1 h with h | h
        · exact .inl h
        · exact .inr (List.mem_cons_of_mem n h)
      · rcases List.mem_cons.1 h with h | h
        · exact .inr (h ▸ List.mem_cons_self)
        · rcases ih h with h | h
          · exact .inl h
          · exact .inr (List.mem_cons_of_mem n h)

/-- Of two names in neither order, both are the same. -/
theorem lt_of_not_lt {a b : String} (h : ¬a < b) (ne : ¬(a == b) = true) : b < a := by
  have le : b ≤ a := String.not_lt.1 h
  refine Decidable.byContradiction fun ge => ne (beq_iff_eq.2 ?_)
  exact String.le_antisymm (String.not_lt.1 ge) le

/-- A value put into an ascending list leaves it ascending. -/
theorem ascending_insert {m : String × α} {members : List (String × α)}
    (h : Ascending members) : Ascending (insert m members) := by
  induction members with
  | nil => exact List.pairwise_singleton _ m
  | cons n rest ih =>
    have ⟨below, sorted⟩ := List.pairwise_cons.1 h
    unfold insert
    split
    · rename_i lt
      refine List.pairwise_cons.2 ⟨fun x mem => ?_, h⟩
      rcases List.mem_cons.1 mem with rfl | mem
      · exact lt
      · exact String.lt_trans lt (below x mem)
    · split
      · rename_i eq
        exact List.pairwise_cons.2 ⟨fun x mem => beq_iff_eq.1 eq ▸ below x mem, sorted⟩
      · rename_i ge ne
        refine List.pairwise_cons.2 ⟨fun x mem => ?_, ih sorted⟩
        rcases mem_insert mem with rfl | mem
        · exact lt_of_not_lt ge ne
        · exact below x mem

end Names

/-- Values by name, in ascending order of the names. -/
structure NameMap (α : Type) where
  entries : List (String × α) := []
  ascending : Names.Ascending entries := by exact List.Pairwise.nil

namespace NameMap

variable {α : Type}

/-- Puts a value under a name, in place of any other of its name. -/
def insert (map : NameMap α) (name : String) (value : α) : NameMap α :=
  ⟨Names.insert (name, value) map.entries, Names.ascending_insert map.ascending⟩

/-- The values of a list by their names; of several of one name the last one stays. -/
def ofList (members : List (String × α)) : NameMap α :=
  members.foldl (fun map m => map.insert m.1 m.2) {}

/-- The names in ascending order. -/
def names (map : NameMap α) : List String := map.entries.map (·.1)

/-- The value of a name. -/
def find? (map : NameMap α) (name : String) : Option α := Names.find? name map.entries

/-- Whether there are no values. -/
def isEmpty (map : NameMap α) : Bool := map.entries.isEmpty

end NameMap

end SchemaForge
