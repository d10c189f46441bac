import SchemaForge.Datum.Basic
import SchemaForge.Proofs.Json.RoundTrip

/-!
# Members in order

The members of an object are sorted by inserting one after the other. If their names differ, that
leaves nothing out (`Names.sort_perm`), and there is only one order in which they ascend
(`Names.Ascending.eq_of_perm`), so the order in which they were given makes no difference: a value
and its sorted form are the same data (`Datum.ofJson_sorted`).

What holds of the values in arrays and objects and of those that hold no others holds of all values
(`Json.induction`). By this, two values that are told to be the same are equal (`Json.same_iff`).
-/

namespace SchemaForge

namespace Names

variable {α β : Type} {l l' : List (String × α)} {m x : String × α}

/-- Values by name, put into a list one after the other. -/
def sort (l : List (String × α)) : List (String × α) := l.foldl (fun acc m ↦ insert m acc) []

theorem ascending_foldl_insert (h : Ascending l') (l : List (String × α)) :
    Ascending (l.foldl (fun acc m ↦ insert m acc) l') := by
  induction l generalizing l' with
  | nil => exact h
  | cons m l ih => exact ih (ascending_insert h)

theorem ascending_sort (l : List (String × α)) : Ascending (sort l) :=
  ascending_foldl_insert .nil l

theorem mem_of_mem_foldl_insert (h : x ∈ l.foldl (fun acc m ↦ insert m acc) l') :
    x ∈ l' ∨ x ∈ l := by
  induction l generalizing l' with
  | nil => exact Or.inl h
  | cons m l ih =>
    rcases ih h with hx | hx
    · rcases mem_insert hx with rfl | hx
      · exact Or.inr List.mem_cons_self
      · exact Or.inl hx
    · exact Or.inr (List.mem_cons_of_mem m hx)

theorem mem_of_mem_sort (h : x ∈ sort l) : x ∈ l :=
  (mem_of_mem_foldl_insert h).resolve_left List.not_mem_nil

theorem insert_perm (h : m.1 ∉ l.map (·.1)) : (insert m l).Perm (m :: l) := by
  induction l with
  | nil => exact .refl _
  | cons n l ih =>
    rw [List.map_cons, List.mem_cons, not_or] at h
    rw [insert]
    split
    · exact .refl _
    · rw [if_neg (by simpa using h.1)]
      exact ((ih h.2).cons n).trans (.swap ..)

theorem foldl_insert_perm (h : ((l' ++ l).map (·.1)).Nodup) :
    (l.foldl (fun acc m ↦ insert m acc) l').Perm (l' ++ l) := by
  induction l generalizing l' with
  | nil => rw [List.append_nil]; exact .refl _
  | cons m l ih =>
    have hmiddle : (l' ++ m :: l).Perm ((m :: l') ++ l) := List.perm_middle
    have hnodup := (hmiddle.map (·.1)).nodup_iff.1 h
    have hm : m.1 ∉ l'.map (·.1) := by
      rw [List.cons_append, List.map_cons, List.nodup_cons, List.map_append, List.mem_append,
        not_or] at hnodup
      exact hnodup.1.1
    have hinsert : (insert m l' ++ l).Perm (l' ++ m :: l) :=
      ((insert_perm hm).append_right l).trans hmiddle.symm
    exact (ih ((hinsert.map (·.1)).nodup_iff.2 h)).trans hinsert

/-- Nothing is left out if the names differ. -/
theorem sort_perm (h : (l.map (·.1)).Nodup) : (sort l).Perm l :=
  foldl_insert_perm h

/-- There is only one ascending order. -/
theorem Ascending.eq_of_perm (h : Ascending l) (h' : Ascending l') (hperm : l.Perm l') :
    l = l' := by
  refine hperm.eq_of_pairwise (fun a b _ _ hab hba ↦ ?_) h h'
  exact absurd (String.lt_trans hab hba) (String.lt_irrefl a.1)

theorem Ascending.nodup (h : Ascending l) : (l.map (·.1)).Nodup :=
  List.pairwise_map.2 (h.imp fun hlt ↦ String.ne_of_lt hlt)

/-- What is in order stays as it is. -/
theorem sort_eq_self (h : Ascending l) : sort l = l :=
  (ascending_sort l).eq_of_perm h (sort_perm h.nodup)

theorem insert_map (f : α → β) (m : String × α) (l : List (String × α)) :
    insert (m.1, f m.2) (l.map fun m ↦ (m.1, f m.2)) = (insert m l).map fun m ↦ (m.1, f m.2) := by
  induction l with
  | nil => rfl
  | cons n l ih =>
    rw [List.map_cons, insert, insert, ih]
    split
    · rfl
    · split <;> rfl

/-- A change of the values can be made before or after. -/
theorem sort_map (f : α → β) (l : List (String × α)) :
    sort (l.map fun m ↦ (m.1, f m.2)) = (sort l).map fun m ↦ (m.1, f m.2) := by
  have hfoldl (l' : List (String × α)) :
      (l.map fun m ↦ (m.1, f m.2)).foldl (fun acc m ↦ insert m acc)
          (l'.map fun m ↦ (m.1, f m.2)) =
        (l.foldl (fun acc m ↦ insert m acc) l').map fun m ↦ (m.1, f m.2) := by
    induction l generalizing l' with
    | nil => rfl
    | cons m l ih => rw [List.map_cons, List.foldl_cons, insert_map, ih, List.foldl_cons]
  exact hfoldl []

end Names

namespace Json

/-! ### Equality -/

/-- What holds of arrays and objects once it holds of what is in them holds of all values. -/
@[elab_as_elim]
theorem induction {P : Json → Prop} (null : P .null) (bool : ∀ b, P (.bool b))
    (number : ∀ n, P (.number n)) (string : ∀ s, P (.string s))
    (array : ∀ js : List Json, (∀ j ∈ js, P j) → P (.array js))
    (object : ∀ ms : List (String × Json), (∀ m ∈ ms, P m.2) → P (.object ms)) (j : Json) :
    P j := by
  obtain ⟨n, hn⟩ : ∃ n, j.depth ≤ n := ⟨_, Nat.le_refl _⟩
  have hdeeper {n : ℕ} (ih : ∀ j : Json, j.depth < n → P j) (j : Json) (hn : j.depth ≤ n) :
      P j := by
    cases j with
    | null => exact null
    | bool b => exact bool b
    | number n => exact number n
    | string s => exact string s
    | array js =>
      exact array js fun j hj ↦
        ih j (Nat.lt_of_le_of_lt (depthOfItems_le_iff.1 (Nat.le_refl _) j hj) hn)
    | object ms =>
      exact object ms fun m hm ↦
        ih m.2 (Nat.lt_of_le_of_lt (depthOfMembers_le_iff.1 (Nat.le_refl _) m hm) hn)
  induction n generalizing j with
  | zero => exact hdeeper (fun _ h ↦ absurd h (Nat.not_lt_zero _)) j hn
  | succ n ih => exact hdeeper (fun j h ↦ ih j (Nat.le_of_lt_succ h)) j hn

theorem sameItems_iff {js ks : List Json}
    (h : ∀ j ∈ js, ∀ k, same j k = true ↔ j = k) : sameItems js ks = true ↔ js = ks := by
  induction js generalizing ks with
  | nil => cases ks <;> simp [sameItems]
  | cons j js ih =>
    obtain ⟨hj, hjs⟩ := List.forall_mem_cons.1 h
    cases ks with
    | nil => simp [sameItems]
    | cons k ks => rw [sameItems, Bool.and_eq_true, hj, ih hjs, List.cons.injEq]

theorem sameMembers_iff {ms ns : List (String × Json)}
    (h : ∀ m ∈ ms, ∀ k, same m.2 k = true ↔ m.2 = k) : sameMembers ms ns = true ↔ ms = ns := by
  induction ms generalizing ns with
  | nil => cases ns <;> simp [sameMembers]
  | cons m ms ih =>
    obtain ⟨hm, hms⟩ := List.forall_mem_cons.1 h
    cases ns with
    | nil => simp [sameMembers]
    | cons n ns =>
      rw [sameMembers, Bool.and_eq_true, Bool.and_eq_true, beq_iff_eq, hm, ih hms,
        List.cons.injEq, Prod.ext_iff]

theorem same_iff {j k : Json} : same j k = true ↔ j = k := by
  induction j using Json.induction generalizing k with
  | null | bool | number | string => cases k <;> simp [same]
  | array js ih =>
    cases k with
    | array ks => rw [same, sameItems_iff fun j hj k ↦ ih j hj, array.injEq]
    | null | bool | number | string | object => simp [same]
  | object ms ih =>
    cases k with
    | object ns => rw [same, sameMembers_iff fun m hm k ↦ ih m hm, object.injEq]
    | null | bool | number | string | array => simp [same]

instance : LawfulBEq Json where
  eq_of_beq := same_iff.1
  rfl := same_iff.2 rfl

instance : DecidableEq Json := fun _ _ ↦ decidable_of_iff _ same_iff

/-! ### Sorted values -/

theorem sortedItems_eq (js : List Json) : sortedItems js = js.map sorted := by
  induction js with
  | nil => rfl
  | cons j js ih => rw [sortedItems, ih, List.map_cons]

theorem sortedMembers_eq (acc ms : List (String × Json)) : sortedMembers acc ms =
    (ms.map fun m ↦ (m.1, m.2.sorted)).foldl (fun acc m ↦ Names.insert m acc) acc := by
  induction ms generalizing acc with
  | nil => rfl
  | cons m ms ih => rw [sortedMembers, ih, List.map_cons, List.foldl_cons]

theorem sorted_array (js : List Json) : (array js).sorted = .array (js.map sorted) := by
  rw [sorted, sortedItems_eq]

theorem sorted_object (ms : List (String × Json)) :
    (object ms).sorted = .object (Names.sort (ms.map fun m ↦ (m.1, m.2.sorted))) := by
  rw [sorted, sortedMembers_eq]
  rfl

/-- Sorting adds nothing and leads no deeper. -/
theorem Plain.sorted {n : ℕ} {j : Json} (h : j.Plain n) : j.sorted.Plain n := by
  induction h with
  | bool b => exact .bool b
  | string s => exact .string s
  | array h ih =>
    rw [sorted_array]
    exact .array (List.forall_mem_map.2 ih)
  | object h ih =>
    rw [sorted_object]
    refine .object fun m hm ↦ ?_
    obtain ⟨n, hn, rfl⟩ := List.mem_map.1 (Names.mem_of_mem_sort hm)
    exact ih n hn

end Json

namespace Datum

theorem ofJsonItems_eq (js : List Json) : ofJsonItems js = js.map ofJson := by
  induction js with
  | nil => rfl
  | cons j js ih => rw [ofJsonItems, ih, List.map_cons]

theorem ofJsonMembers_eq (acc : List (String × Datum)) (ms : List (String × Json)) :
    ofJsonMembers acc ms =
      (ms.map fun m ↦ (m.1, ofJson m.2)).foldl (fun acc m ↦ Names.insert m acc) acc := by
  induction ms generalizing acc with
  | nil => rfl
  | cons m ms ih => rw [ofJsonMembers, ih, List.map_cons, List.foldl_cons]

theorem ofJson_array (js : List Json) : ofJson (.array js) = .list (js.map ofJson) := by
  rw [ofJson, ofJsonItems_eq]

theorem ofJson_object (ms : List (String × Json)) :
    ofJson (.object ms) = .table (Names.sort (ms.map fun m ↦ (m.1, ofJson m.2))) := by
  rw [ofJson, ofJsonMembers_eq]
  rfl

/-- **A value and its sorted form are the same data.** -/
theorem ofJson_sorted (j : Json) : ofJson j.sorted = ofJson j := by
  induction j using Json.induction with
  | null | bool | number | string => rfl
  | array js ih =>
    rw [Json.sorted_array, ofJson_array, ofJson_array, List.map_map]
    exact congrArg Datum.list (List.map_congr_left ih)
  | object ms ih =>
    have hmembers : ((ms.map fun m ↦ (m.1, m.2.sorted)).map fun m ↦ (m.1, ofJson m.2)) =
        ms.map fun m ↦ (m.1, ofJson m.2) := by
      rw [List.map_map]
      exact List.map_congr_left fun m hm ↦ congrArg (Prod.mk m.1) (ih m hm)
    rw [Json.sorted_object, ofJson_object, ofJson_object, ← Names.sort_map ofJson, hmembers,
      Names.sort_eq_self (Names.ascending_sort _)]

end Datum

end SchemaForge
