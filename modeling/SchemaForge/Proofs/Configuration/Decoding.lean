import SchemaForge.Configuration.Decoder
import SchemaForge.Proofs.Configuration.Canonical
import SchemaForge.Proofs.Json.Sorted

/-!
# Configurations read from their JSON values

A record is read by giving each of its fields what stands under its name, one member after the
other. `Record.Sets` follows the fields through the parts of a JSON value in the order of their
names, those that are absent included: such a field keeps what it had at the start
(`Record.decode_ofParts`). So a field is read back if what stands for its absence is what it has
where nothing is said. That is the case for all fields but one, the strategy of a generator
(`Generator.withDefaultStrategy`), and by this `Configuration.ofJson_toJson` tells what is read of a
whole configuration.
-/

namespace SchemaForge

/-! ### Records from parts -/

/-- A part as a member, if it has a value. -/
def Names.present? {α : Type} (part : String × Option α) : Option (String × α) :=
  part.2.map fun v ↦ (part.1, v)

theorem Names.name_of_present? {α : Type} {part : String × Option α} {m : String × α}
    (h : m ∈ present? part) : m.1 = part.1 := by
  obtain ⟨v, -, rfl⟩ := Option.map_eq_some_iff.1 h
  rfl

/-- Parts without a value can be left out before or after. -/
theorem Names.sort_filterMap {α : Type} {parts : List (String × Option α)}
    (h : (parts.map (·.1)).Nodup) :
    sort (parts.filterMap present?) = (sort parts).filterMap present? := by
  have hascending : Ascending ((sort parts).filterMap present?) := by
    refine (ascending_sort parts).filterMap present? fun p q hlt m hm n hn ↦ ?_
    rw [name_of_present? hm, name_of_present? hn]
    exact hlt
  have hperm := (sort_perm h).filterMap present?
  have hnodup : ((parts.filterMap present?).map (·.1)).Nodup :=
    (hperm.map (·.1)).nodup_iff.1 hascending.nodup
  exact (ascending_sort _).eq_of_perm hascending ((sort_perm hnodup).trans hperm.symm)

theorem Json.partMembers_eq_filterMap (names : List String) (values : List (Option Json)) :
    partMembers names values = (names.zip values).filterMap Names.present? := by
  rw [partMembers, List.filterMap_eq_flatMap_toList]
  congr 1
  funext part
  rw [Names.present?]
  cases part.2 <;> rfl

variable {α β : Type}

/-- A field takes its value from a part, and stays as it is if there is none. -/
def Field.Takes (f : Field α) (value : Option Json) (a b : α) : Prop :=
  match value with
  | some v => f.set (.ofJson v) a = .ok b
  | none => a = b

/-- The fields of a record take their values from parts, one after the other. -/
inductive Record.Sets (r : Record α) : List (String × Option Json) → α → α → Prop
  | nil (a : α) : Sets r [] a a
  | cons {name : String} {value : Option Json} {parts : List (String × Option Json)} {f : Field α}
      {a b c : α} (hfield : r.fields.find? (·.name == name) = some f) (htakes : f.Takes value a b)
      (hrest : Sets r parts b c) : Sets r ((name, value) :: parts) a c

theorem Record.Sets.foldlM_eq {r : Record α} {parts : List (String × Option Json)} {a b : α}
    (h : r.Sets parts a b) :
    ((parts.filterMap Names.present?).map fun m ↦ (m.1, Datum.ofJson m.2)).foldlM r.setMember a =
      .ok b := by
  induction h with
  | nil a => rfl
  | @cons name value parts f a b c hfield htakes hrest ih =>
    cases value with
    | none =>
      obtain rfl := htakes
      exact ih
    | some v =>
      have hset : r.setMember a (name, Datum.ofJson v) = .ok b := by
        rw [setMember, hfield]
        exact htakes
      have hpresent : Names.present? (name, some v) = some (name, v) := rfl
      rw [List.filterMap_cons_some hpresent, List.map_cons, List.foldlM_cons, hset]
      exact ih

/-- **A record is read from its parts in the order of their names.** The order is given by the
places of the names. -/
theorem Record.decode_ofParts {r : Record α} (dialect : Dialect) {names : List String}
    {values : List (Option Json)} (order : List ℕ) (hlength : values.length = names.length)
    (horder : order.Perm (List.range names.length))
    (hascending : (order.map fun i ↦ names.getD i "").Pairwise (· < ·)) {a : α}
    (h : r.Sets (order.map fun i ↦ (names.getD i "", values.getD i none)) r.initial a) :
    r.decode dialect (.ofJson (.ofParts names values)) = .ok a := by
  have hzip : names.zip values =
      (List.range names.length).map fun i ↦ (names.getD i "", values.getD i none) := by
    refine List.ext_getElem (by simp [hlength]) fun i hi _ ↦ ?_
    rw [List.length_zip, Nat.lt_min] at hi
    simp [hi]
  have hperm : (names.zip values).Perm
      (order.map fun i ↦ (names.getD i "", values.getD i none)) := by
    rw [hzip]
    exact horder.symm.map _
  have hparts : Names.Ascending
      (order.map fun i ↦ (names.getD i "", values.getD i none)) := by
    rw [Names.Ascending, List.pairwise_map]
    exact List.pairwise_map.1 hascending
  have hdistinct : ((names.zip values).map (·.1)).Nodup :=
    (hperm.map (·.1)).nodup_iff.2 hparts.nodup
  have hsort := (Names.ascending_sort _).eq_of_perm hparts ((Names.sort_perm hdistinct).trans hperm)
  rw [Json.ofParts, Datum.ofJson_object, Names.sort_map Datum.ofJson, Json.partMembers_eq_filterMap,
    Names.sort_filterMap hdistinct, hsort]
  exact h.foldlM_eq

theorem mapM_eq_ok {ε α β : Type} {read : α → Except ε β} {write : β → α} {xs : List β}
    (h : ∀ x ∈ xs, read (write x) = .ok x) : (xs.map write).mapM read = .ok xs := by
  induction xs with
  | nil => rfl
  | cons x xs ih =>
    obtain ⟨hx, hxs⟩ := List.forall_mem_cons.1 h
    rw [List.map_cons, List.mapM_cons, hx, ih hxs]
    rfl

namespace Field.Takes

variable {name : String} {read : Datum → Decoded β} {a : α}

theorem required {update : β → α → α} {x : β} {v : Json} (hread : read (.ofJson v) = .ok x) :
    (Field.of name read update).Takes (some v) a (update x a) := by
  show (read (.ofJson v)).map (fun b ↦ update b a) = .ok (update x a)
  rw [hread]
  rfl

/-- A field whose part is absent keeps what it has. -/
theorem orDefault {write : β → Json} {update : Option β → α → α} {value default : Option β}
    {e : Mismatch} (hnothing : read .nothing = .error e)
    (hread : ∀ x ∈ value, read (.ofJson (write x)) = .ok x) (hdefault : update default a = a) :
    (Field.of name (Decoded.optional read) update).Takes (value.map write) a
      (update (value.or default) a) := by
  cases value with
  | none => exact hdefault.symm
  | some x =>
    refine required ?_
    have hx := hread x rfl
    rw [Decoded.optional]
    · rw [hx]
      rfl
    · intro h
      rw [h, hnothing] at hx
      cases hx

theorem optional {write : β → Json} {update : Option β → α → α} {value : Option β}
    {e : Mismatch} (hnothing : read .nothing = .error e)
    (hread : ∀ x ∈ value, read (.ofJson (write x)) = .ok x) (hnone : update none a = a) :
    (Field.of name (Decoded.optional read) update).Takes (value.map write) a (update value a) := by
  have hvalue : (Field.of name (Decoded.optional read) update).Takes (value.map write) a
      (update (value.or none) a) := orDefault hnothing hread hnone
  rwa [Option.or_none] at hvalue

theorem list {write : β → Json} {update : List β → α → α} {xs : List β}
    (hread : ∀ x ∈ xs, read (.ofJson (write x)) = .ok x) (hnone : update [] a = a) :
    (Field.of name (Decoded.list read) update).Takes (Json.array? (xs.map write)) a
      (update xs a) := by
  cases xs with
  | nil => exact hnone.symm
  | cons x xs =>
    refine required ?_
    rw [Datum.ofJson_array, List.map_map]
    exact mapM_eq_ok hread

theorem mapping {update : List (String × String) → α → α} {members : List (String × String)}
    (hmembers : Names.Ascending members) (hnone : update [] a = a) :
    (Field.of name (Decoded.mapping (Decoded.text .json)) update).Takes
      (Json.object? (members.map fun m ↦ (m.1, .string m.2))) a (update members a) := by
  cases members with
  | nil => exact hnone.symm
  | cons m members =>
    have hdata : ((m :: members).map fun m ↦ (m.1, Json.string m.2)).map
        (fun m ↦ (m.1, Datum.ofJson m.2)) = (m :: members).map fun m ↦ (m.1, .text m.2) :=
      List.map_map
    have hascending : Names.Ascending ((m :: members).map fun m ↦ (m.1, Datum.text m.2)) :=
      List.pairwise_map.2 hmembers
    refine required ?_
    rw [Datum.ofJson_object, hdata, Names.sort_eq_self hascending]
    exact mapM_eq_ok fun _ _ ↦ rfl

end Field.Takes

/-! ### The parts of a configuration -/

theorem Jdbc.decode_toJson {jdbc : Jdbc} (h : Names.Ascending jdbc.properties) :
    decode .json (.ofJson jdbc.toJson) = .ok jdbc := by
  rw [toJson_eq]
  refine Record.decode_ofParts .json [4, 0, 3, 5, 1, 2] rfl (by decide) (by decide) ?_
  refine .cons rfl (.optional rfl (fun _ _ ↦ rfl) rfl) ?_
  refine .cons rfl (.optional rfl (fun _ _ ↦ rfl) rfl) ?_
  refine .cons rfl (.optional rfl (fun _ _ ↦ rfl) rfl) ?_
  refine .cons rfl (.mapping h rfl) ?_
  refine .cons rfl (.optional rfl (fun _ _ ↦ rfl) rfl) ?_
  exact .cons rfl (.optional rfl (fun _ _ ↦ rfl) rfl) (.nil _)

theorem Transform.decode_name (t : Transform) :
    decode .json (.ofJson (.string t.name)) = .ok t := by
  cases t <;> rfl

theorem MatcherRule.decode_toJson (rule : MatcherRule) :
    decode .json (.ofJson rule.toJson) = .ok rule := by
  have hdraft : (draft .json).decode .json (.ofJson rule.toJson) =
      .ok ⟨some rule.expression, rule.transform⟩ := by
    rw [toJson_eq, Option.map_map]
    refine Record.decode_ofParts .json [0, 1] rfl (by decide) (by decide) ?_
    refine .cons rfl (.required rfl) ?_
    exact .cons rfl (.optional rfl (fun t _ ↦ t.decode_name) rfl) (.nil _)
  rw [decode, hdraft]
  rfl

theorem Matchers.decode_toJson (m : Matchers) : decode .json (.ofJson m.toJson) = .ok m := by
  rw [toJson_eq]
  refine Record.decode_ofParts .json [2, 0, 1] rfl (by decide) (by decide) ?_
  refine .cons rfl (.list (fun rule _ ↦ rule.decode_toJson) rfl) ?_
  refine .cons rfl (.list (fun rule _ ↦ rule.decode_toJson) rfl) ?_
  exact .cons rfl (.list (fun rule _ ↦ rule.decode_toJson) rfl) (.nil _)

theorem Strategy.decode_toJson (s : Strategy) : decode .json (.ofJson s.toJson) = .ok s := by
  rw [toJson_eq]
  refine Record.decode_ofParts .json [1, 0] rfl (by decide) (by decide) ?_
  refine .cons rfl (.optional rfl (fun m _ ↦ m.decode_toJson) rfl) ?_
  exact .cons rfl (.optional rfl (fun _ _ ↦ rfl) rfl) (.nil _)

theorem ForcedType.decode_toJson (f : ForcedType) : decode .json (.ofJson f.toJson) = .ok f := by
  rw [toJson_eq]
  refine Record.decode_ofParts .json [2, 3, 4, 0, 1] rfl (by decide) (by decide) ?_
  refine .cons rfl (.optional rfl (fun _ _ ↦ rfl) rfl) ?_
  refine .cons rfl (.optional rfl (fun _ _ ↦ rfl) rfl) ?_
  refine .cons rfl (.optional rfl (fun _ _ ↦ rfl) rfl) ?_
  refine .cons rfl (.optional rfl (fun _ _ ↦ rfl) rfl) ?_
  exact .cons rfl (.optional rfl (fun _ _ ↦ rfl) rfl) (.nil _)

theorem Database.decode_toJson (db : Database) :
    (record .json).decode .json (.ofJson db.toJson) = .ok db := by
  rw [toJson_eq]
  refine Record.decode_ofParts .json [2, 3, 1, 0] rfl (by decide) (by decide) ?_
  refine .cons rfl (.optional rfl (fun _ _ ↦ rfl) rfl) ?_
  refine .cons rfl (.list (fun f _ ↦ f.decode_toJson) rfl) ?_
  refine .cons rfl (.optional rfl (fun _ _ ↦ rfl) rfl) ?_
  exact .cons rfl (.optional rfl (fun _ _ ↦ rfl) rfl) (.nil _)

theorem Generate.decode_toJson (g : Generate) :
    (record .json).decode .json (.ofJson g.toJson) = .ok g := by
  rw [toJson_eq]
  refine Record.decode_ofParts .json [3, 5, 4, 0, 6, 1, 2, 7] rfl (by decide) (by decide) ?_
  refine .cons rfl (.required rfl) ?_
  refine .cons rfl (.required rfl) ?_
  refine .cons rfl (.required rfl) ?_
  refine .cons rfl (.required rfl) ?_
  refine .cons rfl (.required rfl) ?_
  refine .cons rfl (.required rfl) ?_
  refine .cons rfl (.required rfl) ?_
  exact .cons rfl (.required rfl) (.nil _)

/-- A directory is written by its text. -/
theorem Target.map_string_directory {t : Target} (h : t.isWritable = true) :
    (t.directory.bind Path.text?).map Json.string =
      t.directory.map fun p ↦ .string (p.text?.getD "") := by
  conv_rhs => rw [directory_eq h, Option.map_map]
  refine congrArg (Option.map · _) (funext fun s ↦ ?_)
  rw [Function.comp_apply, Path.text?, RawText.text?_ofText, Option.getD_some]

theorem Target.decode_toJson {t : Target} (h : t.isWritable = true) :
    (record .json).decode .json (.ofJson t.toJson) = .ok t := by
  rw [toJson_eq, map_string_directory h]
  refine Record.decode_ofParts .json [2, 1, 0] rfl (by decide) (by decide) ?_
  refine .cons rfl (.required rfl) ?_
  refine .cons rfl (.optional rfl (fun p hp ↦ ?_) rfl) ?_
  · -- what is read is the path of the text
    obtain ⟨s, -, rfl⟩ := Option.map_eq_some_iff.1 ((directory_eq h).symm.trans hp)
    rw [Path.text?, RawText.text?_ofText]
    rfl
  · exact .cons rfl (.required rfl) (.nil _)

/-- The generator with the default strategy in place of none. -/
def Generator.withDefaultStrategy (g : Generator) : Generator :=
  { g with strategy := g.strategy.or ({} : Generator).strategy }

/-- A strategy that is absent is read as the default one. -/
theorem Generator.decode_toJson {g : Generator} (h : g.target.isWritable = true) :
    (record .json).decode .json (.ofJson g.toJson) = .ok g.withDefaultStrategy := by
  rw [toJson_eq]
  refine Record.decode_ofParts .json [1, 2, 0, 3] rfl (by decide) (by decide) ?_
  refine .cons rfl (.required g.database.decode_toJson) ?_
  refine .cons rfl (.required g.generate.decode_toJson) ?_
  refine .cons rfl (.orDefault rfl (fun s _ ↦ s.decode_toJson) rfl) ?_
  exact .cons rfl (.required (Target.decode_toJson h)) (.nil _)

/-- What is read of a configuration that was written. -/
def Configuration.withDefaultStrategy (c : Configuration) : Configuration :=
  { c with generator := c.generator.withDefaultStrategy }

/-- **A configuration that can be written is read back from its JSON value**, but for a strategy
that is absent. -/
theorem Configuration.ofJson_toJson {c : Configuration} (hwritable : c.isWritable = true)
    (h : ∀ jdbc ∈ c.jdbc, Names.Ascending jdbc.properties) :
    ofJson c.toJson = .ok c.withDefaultStrategy := by
  rw [ofJson, decode, toJson_eq]
  refine Record.decode_ofParts .json [1, 0] rfl (by decide) (by decide) ?_
  refine .cons rfl (.required (Generator.decode_toJson hwritable)) ?_
  exact .cons rfl (.optional rfl (fun jdbc hjdbc ↦ Jdbc.decode_toJson (h jdbc hjdbc)) rfl) (.nil _)

theorem Configuration.withDefaultStrategy_eq_self_iff {c : Configuration} :
    c.withDefaultStrategy = c ↔ c.generator.strategy ≠ none := by
  obtain ⟨jdbc, strategy, database, generate, target⟩ := c
  cases strategy with
  | none => simp [withDefaultStrategy, Generator.withDefaultStrategy]
  | some s => simp [withDefaultStrategy, Generator.withDefaultStrategy]

end SchemaForge
