import Mathlib.Data.List.Basic
import SchemaForge.Configuration.Json
import SchemaForge.Proofs.Json.RoundTrip
import SchemaForge.Proofs.Text.Raw

/-!
# The canonical text of a configuration

The JSON value of a part of a configuration is an object that leaves out what is absent or empty.
`Json.ofParts` is the common form of these objects: fixed names, and for each of them a value that
may be absent. As the names differ, the object tells each of the values, and whether it is there
(`Json.partMembers_inj`). By this every kind of part is known from its JSON value, up to the whole
configuration (`Configuration.toJson_inj`). Only an output directory that is no text leaves no
trace, so that applies to the configurations that can be written.

No part writes a number, so the compact text of a configuration is read back, and equal texts come
from equal configurations (`Configuration.canonical_inj`).
-/

namespace SchemaForge

/-! ### Objects with parts that may be absent -/

namespace Json

/-- Members with the given names. A value that is absent has none. -/
def partMembers (names : List String) (values : List (Option Json)) : List (String × Json) :=
  (names.zip values).flatMap fun part ↦ field? part.1 part.2

/-- The object with these members. -/
def ofParts (names : List String) (values : List (Option Json)) : Json :=
  .object (partMembers names values)

/-- The array of some items, unless there are none. -/
def array? (items : List Json) : Option Json :=
  if items.isEmpty then none else some (.array items)

/-- The object of some members, unless there are none. -/
def object? (members : List (String × Json)) : Option Json :=
  if members.isEmpty then none else some (.object members)

theorem array?_inj {js ks : List Json} : array? js = array? ks ↔ js = ks := by
  cases js <;> cases ks <;> simp [array?]

theorem object?_inj {ms ns : List (String × Json)} : object? ms = object? ns ↔ ms = ns := by
  cases ms <;> cases ns <;> simp [object?]

theorem listField_eq (name : String) (items : List Json) :
    listField name items = field? name (array? items) := by
  cases items <;> rfl

theorem map_string_inj {s t : Option String} : s.map Json.string = t.map Json.string ↔ s = t :=
  (Option.map_injective fun _ _ ↦ Json.string.inj).eq_iff

theorem map_bool_inj {a b : Option Bool} : a.map Json.bool = b.map Json.bool ↔ a = b :=
  (Option.map_injective fun _ _ ↦ Json.bool.inj).eq_iff

theorem mem_field? {name : String} {value : Option Json} {m : String × Json} :
    m ∈ field? name value ↔ m.1 = name ∧ value = some m.2 := by
  cases value with
  | none => simp [field?]
  | some v => simp [field?, Prod.ext_iff, eq_comm]

theorem partMembers_cons (name : String) (names : List String) (value : Option Json)
    (values : List (Option Json)) :
    partMembers (name :: names) (value :: values) = field? name value ++ partMembers names values :=
  rfl

theorem mem_partMembers_iff {names : List String} {values : List (Option Json)}
    {m : String × Json} : m ∈ partMembers names values ↔
    (m.1, some m.2) ∈ names.zip values := by
  simp only [partMembers, List.mem_flatMap, mem_field?]
  constructor
  · rintro ⟨⟨name, value⟩, hpart, rfl, rfl⟩
    exact hpart
  · exact fun h ↦ ⟨_, h, rfl, rfl⟩

theorem mem_partMembers {names : List String} {values : List (Option Json)} {m : String × Json}
    (h : m ∈ partMembers names values) : m.1 ∈ names ∧ some m.2 ∈ values :=
  List.of_mem_zip (mem_partMembers_iff.1 h)

/-- As the names differ, the members tell the value of each of them. -/
theorem partMembers_inj {names : List String} (hnames : names.Nodup) {v w : List (Option Json)}
    (hv : v.length = names.length) (hw : w.length = names.length) :
    partMembers names v = partMembers names w ↔ v = w := by
  refine ⟨fun h ↦ ?_, congrArg (partMembers names)⟩
  induction names generalizing v w with
  | nil => rw [List.eq_nil_of_length_eq_zero hv, List.eq_nil_of_length_eq_zero hw]
  | cons name names ih =>
    obtain ⟨x, v, rfl⟩ := List.exists_cons_of_length_eq_add_one hv
    obtain ⟨y, w, rfl⟩ := List.exists_cons_of_length_eq_add_one hw
    obtain ⟨hname, hnames⟩ := List.nodup_cons.1 hnames
    have hrest := ih hnames (Nat.succ.inj hv) (Nat.succ.inj hw)
    -- a member of this name is at the front, as there is none further on
    have htell (value : Option Json) (values : List (Option Json)) (z : Json) :
        (name, z) ∈ partMembers (name :: names) (value :: values) ↔ value = some z := by
      have hrest : (name, z) ∉ partMembers names values := fun hmem ↦ hname (mem_partMembers hmem).1
      rw [partMembers_cons, List.mem_append, mem_field?, or_iff_left hrest, and_iff_right rfl]
    obtain rfl : x = y := Option.ext fun z ↦ by rw [← htell x v, h, htell]
    rw [hrest (List.append_cancel_left h)]

/-- Equal objects have equal parts. -/
theorem values_eq_of_eq_ofParts {α : Type} {toJson : α → Json} {names : List String}
    {values : α → List (Option Json)} (h : ∀ a, toJson a = ofParts names (values a))
    (hnames : names.Nodup) (hlength : ∀ a, (values a).length = names.length) {a b : α}
    (hab : toJson a = toJson b) : values a = values b := by
  rw [h, h] at hab
  exact (partMembers_inj hnames (hlength a) (hlength b)).1 (Json.object.inj hab)

theorem injective_of_eq_ofParts {α : Type} {toJson : α → Json} {names : List String}
    {values : α → List (Option Json)} (h : ∀ a, toJson a = ofParts names (values a))
    (hnames : names.Nodup) (hlength : ∀ a, (values a).length = names.length)
    (hvalues : Function.Injective values) : Function.Injective toJson :=
  fun _ _ hab ↦ hvalues (values_eq_of_eq_ofParts h hnames hlength hab)

theorem plain_ofParts {n : ℕ} {names : List String} {values : List (Option Json)}
    (h : values.Forall fun value ↦ ∀ v ∈ value, v.Plain n) : (ofParts names values).Plain (n + 1) :=
  .object fun m hm ↦ List.forall_iff_forall_mem.1 h (some m.2) (mem_partMembers hm).2 m.2 rfl

theorem plain_of_mem_some {n : ℕ} {j : Json} (h : j.Plain n) : ∀ v ∈ some j, v.Plain n := by
  rintro v ⟨⟩
  exact h

theorem plain_of_mem_map {n : ℕ} {α : Type} {toJson : α → Json} (h : ∀ a, (toJson a).Plain n)
    (value : Option α) : ∀ v ∈ value.map toJson, v.Plain n := by
  intro v hv
  obtain ⟨a, -, rfl⟩ := Option.map_eq_some_iff.1 hv
  exact h a

theorem plain_of_mem_array? {n : ℕ} {items : List Json} (h : ∀ j ∈ items, j.Plain n) :
    ∀ v ∈ array? items, v.Plain (n + 1) := by
  cases items with
  | nil =>
    intro v hv
    cases hv
  | cons j js => exact plain_of_mem_some (.array h)

theorem plain_of_mem_object? {n : ℕ} {members : List (String × Json)}
    (h : ∀ m ∈ members, m.2.Plain n) : ∀ v ∈ object? members, v.Plain (n + 1) := by
  cases members with
  | nil =>
    intro v hv
    cases hv
  | cons m ms => exact plain_of_mem_some (.object h)

end Json

/-! ### The parts of a configuration -/

theorem Jdbc.toJson_eq (jdbc : Jdbc) : jdbc.toJson =
    .ofParts ["driver", "url", "user", "password", "auto_commit", "properties"]
      [jdbc.driver.map .string, jdbc.url.map .string, jdbc.user.map .string,
        jdbc.password.map .string, jdbc.autoCommit.map .bool,
        Json.object? (jdbc.properties.map fun p ↦ (p.1, .string p.2))] := by
  rw [toJson]
  cases jdbc.properties <;>
    simp [Json.ofParts, Json.partMembers, Json.textField, Json.object?, Json.field?]

theorem Jdbc.toJson_injective : Function.Injective toJson := by
  have hproperty : Function.Injective fun p : String × String ↦ (p.1, Json.string p.2) :=
    fun p q h ↦ Prod.ext (Prod.mk.inj h).1 (Json.string.inj (Prod.mk.inj h).2)
  refine Json.injective_of_eq_ofParts toJson_eq (by decide) (fun _ ↦ rfl) fun a b h ↦ ?_
  cases a
  cases b
  simpa [Json.map_string_inj, Json.map_bool_inj, Json.object?_inj,
    (List.map_injective_iff.2 hproperty).eq_iff] using h

theorem Transform.name_injective : Function.Injective name := by
  intro a b
  cases a <;> cases b <;> decide

theorem MatcherRule.toJson_eq (rule : MatcherRule) : rule.toJson =
    .ofParts ["expression", "transform"]
      [some (.string rule.expression), (rule.transform.map Transform.name).map .string] := by
  simp [toJson, Json.ofParts, Json.partMembers, Json.textField, Json.field?]

theorem MatcherRule.toJson_injective : Function.Injective toJson := by
  refine Json.injective_of_eq_ofParts toJson_eq (by decide) (fun _ ↦ rfl) fun a b h ↦ ?_
  cases a
  cases b
  simpa only [List.cons.injEq, Option.some.injEq, Json.string.injEq, Json.map_string_inj,
    (Option.map_injective Transform.name_injective).eq_iff, and_true, mk.injEq] using h

theorem Matchers.toJson_eq (m : Matchers) : m.toJson =
    .ofParts ["schemas", "tables", "fields"]
      [Json.array? (m.schemas.map MatcherRule.toJson),
        Json.array? (m.tables.map MatcherRule.toJson),
        Json.array? (m.fields.map MatcherRule.toJson)] := by
  simp [toJson, Json.ofParts, Json.partMembers, Json.listField_eq]

theorem Matchers.toJson_injective : Function.Injective toJson := by
  refine Json.injective_of_eq_ofParts toJson_eq (by decide) (fun _ ↦ rfl) fun a b h ↦ ?_
  cases a
  cases b
  simpa only [List.cons.injEq, Json.array?_inj,
    (List.map_injective_iff.2 MatcherRule.toJson_injective).eq_iff, and_true, mk.injEq] using h

theorem Strategy.toJson_eq (s : Strategy) : s.toJson =
    .ofParts ["name", "matchers"] [s.name.map .string, s.matchers.map Matchers.toJson] := by
  simp [toJson, Json.ofParts, Json.partMembers, Json.textField]

theorem Strategy.toJson_injective : Function.Injective toJson := by
  refine Json.injective_of_eq_ofParts toJson_eq (by decide) (fun _ ↦ rfl) fun a b h ↦ ?_
  cases a
  cases b
  simpa only [List.cons.injEq, Json.map_string_inj,
    (Option.map_injective Matchers.toJson_injective).eq_iff, and_true, mk.injEq] using h

theorem ForcedType.toJson_eq (f : ForcedType) : f.toJson =
    .ofParts ["name", "user_type", "converter", "include_expression", "include_types"]
      [f.name.map .string, f.userType.map .string, f.converter.map .string,
        f.includeExpression.map .string, f.includeTypes.map .string] := by
  simp [toJson, Json.ofParts, Json.partMembers, Json.textField]

theorem ForcedType.toJson_injective : Function.Injective toJson := by
  refine Json.injective_of_eq_ofParts toJson_eq (by decide) (fun _ ↦ rfl) fun a b h ↦ ?_
  cases a
  cases b
  simpa only [List.cons.injEq, Json.map_string_inj, and_true, mk.injEq] using h

theorem Database.toJson_eq (db : Database) : db.toJson =
    .ofParts ["input_schema", "includes", "excludes", "forced_types"]
      [db.inputSchema.map .string, db.includes.map .string, db.excludes.map .string,
        Json.array? (db.forcedTypes.map ForcedType.toJson)] := by
  simp [toJson, Json.ofParts, Json.partMembers, Json.textField, Json.listField_eq]

theorem Database.toJson_injective : Function.Injective toJson := by
  refine Json.injective_of_eq_ofParts toJson_eq (by decide) (fun _ ↦ rfl) fun a b h ↦ ?_
  cases a
  cases b
  simpa only [List.cons.injEq, Json.map_string_inj, Json.array?_inj,
    (List.map_injective_iff.2 ForcedType.toJson_injective).eq_iff, and_true, mk.injEq] using h

theorem Generate.toJson_eq (g : Generate) : g.toJson =
    .ofParts ["pojos", "records", "relations", "deprecated", "immutable_pojos", "fluent_setters",
        "pojos_equals_and_hash_code", "spring_annotations"]
      [some (.bool g.pojos), some (.bool g.records), some (.bool g.relations),
        some (.bool g.deprecated), some (.bool g.immutablePojos), some (.bool g.fluentSetters),
        some (.bool g.pojosEqualsAndHashCode), some (.bool g.springAnnotations)] := by
  rfl

theorem Generate.toJson_injective : Function.Injective toJson := by
  refine Json.injective_of_eq_ofParts toJson_eq (by decide) (fun _ ↦ rfl) fun a b h ↦ ?_
  cases a
  cases b
  simpa only [List.cons.injEq, Option.some.injEq, Json.bool.injEq, and_true, mk.injEq] using h

theorem Target.toJson_eq (t : Target) : t.toJson =
    .ofParts ["package_name", "directory", "clean"]
      [some (.string t.packageName), (t.directory.bind Path.text?).map .string,
        some (.bool t.clean)] := by
  simp [toJson, Json.ofParts, Json.partMembers, Json.textField, Json.field?]

theorem Path.text?_eq_some_iff {p : Path} {s : String} : p.text? = some s ↔ p = ⟨s⟩ := by
  cases p with
  | mk raw => exact RawText.text?_eq_some_iff.trans (Path.mk.injEq raw s ▸ Iff.rfl)

/-- A directory that can be written is the one that the written text names. -/
theorem Target.directory_eq {t : Target} (h : t.isWritable = true) :
    t.directory = (t.directory.bind Path.text?).map fun s ↦ ⟨RawText.ofText s⟩ := by
  rw [isWritable] at h
  cases hdirectory : t.directory with
  | none => rfl
  | some p =>
    rw [hdirectory] at h
    obtain ⟨s, hs⟩ := Option.isSome_iff_exists.1 h
    rw [Option.bind_some, hs]
    exact congrArg some (Path.text?_eq_some_iff.1 hs)

theorem Target.bind_text?_inj {a b : Target} (ha : a.isWritable = true) (hb : b.isWritable = true) :
    a.directory.bind Path.text? = b.directory.bind Path.text? ↔ a.directory = b.directory := by
  refine ⟨fun h ↦ ?_, congrArg (Option.bind · Path.text?)⟩
  rw [directory_eq ha, h, ← directory_eq hb]

theorem Target.toJson_inj {a b : Target} (ha : a.isWritable = true) (hb : b.isWritable = true) :
    a.toJson = b.toJson ↔ a = b := by
  refine ⟨fun h ↦ ?_, congrArg toJson⟩
  have hvalues := Json.values_eq_of_eq_ofParts toJson_eq (by decide) (fun _ ↦ rfl) h
  simp only [List.cons.injEq, Option.some.injEq, Json.string.injEq, Json.bool.injEq,
    Json.map_string_inj, bind_text?_inj ha hb, and_true] at hvalues
  obtain ⟨hpackage, hdirectory, hclean⟩ := hvalues
  cases a
  cases b
  simp only [mk.injEq]
  exact ⟨hpackage, hdirectory, hclean⟩

theorem Generator.toJson_eq (g : Generator) : g.toJson =
    .ofParts ["strategy", "database", "generate", "target"]
      [g.strategy.map Strategy.toJson, some g.database.toJson, some g.generate.toJson,
        some g.target.toJson] := by
  simp [toJson, Json.ofParts, Json.partMembers, Json.field?]

theorem Generator.toJson_inj {a b : Generator} (ha : a.target.isWritable = true)
    (hb : b.target.isWritable = true) : a.toJson = b.toJson ↔ a = b := by
  refine ⟨fun h ↦ ?_, congrArg toJson⟩
  have hvalues := Json.values_eq_of_eq_ofParts toJson_eq (by decide) (fun _ ↦ rfl) h
  simp only [List.cons.injEq, Option.some.injEq,
    (Option.map_injective Strategy.toJson_injective).eq_iff, Database.toJson_injective.eq_iff,
    Generate.toJson_injective.eq_iff, Target.toJson_inj ha hb, and_true] at hvalues
  obtain ⟨hstrategy, hdatabase, hgenerate, htarget⟩ := hvalues
  cases a
  cases b
  simp only [mk.injEq]
  exact ⟨hstrategy, hdatabase, hgenerate, htarget⟩

theorem Configuration.toJson_eq (c : Configuration) : c.toJson =
    .ofParts ["jdbc", "generator"] [c.jdbc.map Jdbc.toJson, some c.generator.toJson] := by
  simp [toJson, Json.ofParts, Json.partMembers, Json.field?]

/-- Configurations that can be written are known from what is written. -/
theorem Configuration.toJson_inj {a b : Configuration} (ha : a.isWritable = true)
    (hb : b.isWritable = true) : a.toJson = b.toJson ↔ a = b := by
  refine ⟨fun h ↦ ?_, congrArg toJson⟩
  have hvalues := Json.values_eq_of_eq_ofParts toJson_eq (by decide) (fun _ ↦ rfl) h
  simp only [List.cons.injEq, Option.some.injEq,
    (Option.map_injective Jdbc.toJson_injective).eq_iff, Generator.toJson_inj ha hb,
    and_true] at hvalues
  obtain ⟨hjdbc, hgenerator⟩ := hvalues
  cases a
  cases b
  simp only [mk.injEq]
  exact ⟨hjdbc, hgenerator⟩

/-- There is a value of a configuration exactly if it can be written. -/
theorem Configuration.serialize_eq_ok_iff {c : Configuration} {j : Json} :
    c.serialize = .ok j ↔ c.isWritable = true ∧ j = c.toJson := by
  rw [serialize]
  split
  · rename_i hwritable
    rw [and_iff_right hwritable]
    exact ⟨fun h ↦ (Except.ok.inj h).symm, fun h ↦ congrArg Except.ok h.symm⟩
  · rename_i hwritable
    exact ⟨nofun, fun h ↦ absurd h.1 hwritable⟩

/-- What keeps a configuration from being written is its directory. -/
theorem Configuration.serialize_eq_error_iff {c : Configuration} {e : Error} :
    c.serialize = .error e ↔ c.isWritable = false ∧
      e = .serialization "path contains invalid UTF-8 characters" := by
  rw [serialize]
  split
  · rename_i hwritable
    exact ⟨nofun, fun h ↦ absurd (hwritable.symm.trans h.1) nofun⟩
  · rename_i hwritable
    rw [and_iff_right (Bool.eq_false_iff.2 hwritable)]
    exact ⟨fun h ↦ (Except.error.inj h).symm, fun h ↦ congrArg Except.error h.symm⟩

/-! ### The whole text -/

open Json

variable (n : ℕ)

theorem Jdbc.plain_toJson (jdbc : Jdbc) : jdbc.toJson.Plain (n + 2) := by
  rw [toJson_eq]
  refine plain_ofParts ⟨plain_of_mem_map .string _, plain_of_mem_map .string _,
    plain_of_mem_map .string _, plain_of_mem_map .string _,
    plain_of_mem_map .bool _, plain_of_mem_object? ?_⟩
  exact List.forall_mem_map.2 fun _ _ ↦ .string _

theorem MatcherRule.plain_toJson (rule : MatcherRule) : rule.toJson.Plain (n + 1) := by
  rw [toJson_eq]
  exact plain_ofParts ⟨plain_of_mem_some (.string _), plain_of_mem_map .string _⟩

theorem Matchers.plain_toJson (m : Matchers) : m.toJson.Plain (n + 3) := by
  have hrules (rules : List MatcherRule) :
      ∀ v ∈ array? (rules.map MatcherRule.toJson), v.Plain (n + 2) :=
    plain_of_mem_array? (List.forall_mem_map.2 fun rule _ ↦ rule.plain_toJson n)
  rw [toJson_eq]
  exact plain_ofParts ⟨hrules _, hrules _, hrules _⟩

theorem Strategy.plain_toJson (s : Strategy) : s.toJson.Plain (n + 4) := by
  rw [toJson_eq]
  exact plain_ofParts
    ⟨plain_of_mem_map .string _, plain_of_mem_map (Matchers.plain_toJson n) _⟩

theorem ForcedType.plain_toJson (f : ForcedType) : f.toJson.Plain (n + 1) := by
  rw [toJson_eq]
  exact plain_ofParts ⟨plain_of_mem_map .string _, plain_of_mem_map .string _,
    plain_of_mem_map .string _, plain_of_mem_map .string _, plain_of_mem_map .string _⟩

theorem Database.plain_toJson (db : Database) : db.toJson.Plain (n + 3) := by
  rw [toJson_eq]
  refine plain_ofParts ⟨plain_of_mem_map .string _, plain_of_mem_map .string _,
    plain_of_mem_map .string _, plain_of_mem_array? ?_⟩
  exact List.forall_mem_map.2 fun f _ ↦ f.plain_toJson n

theorem Generate.plain_toJson (g : Generate) : g.toJson.Plain (n + 1) := by
  rw [toJson_eq]
  exact plain_ofParts ⟨plain_of_mem_some (.bool _), plain_of_mem_some (.bool _),
    plain_of_mem_some (.bool _), plain_of_mem_some (.bool _), plain_of_mem_some (.bool _),
    plain_of_mem_some (.bool _), plain_of_mem_some (.bool _), plain_of_mem_some (.bool _)⟩

theorem Target.plain_toJson (t : Target) : t.toJson.Plain (n + 1) := by
  rw [toJson_eq]
  exact plain_ofParts
    ⟨plain_of_mem_some (.string _), plain_of_mem_map .string _, plain_of_mem_some (.bool _)⟩

theorem Generator.plain_toJson (g : Generator) : g.toJson.Plain (n + 5) := by
  rw [toJson_eq]
  exact plain_ofParts ⟨plain_of_mem_map (Strategy.plain_toJson n) _,
    plain_of_mem_some (g.database.plain_toJson (n + 1)),
    plain_of_mem_some (g.generate.plain_toJson (n + 3)),
    plain_of_mem_some (g.target.plain_toJson (n + 3))⟩

/-- A configuration is written with texts and flags alone, six deep at most. -/
theorem Configuration.plain_toJson (c : Configuration) : c.toJson.Plain 6 := by
  rw [toJson_eq]
  exact plain_ofParts ⟨plain_of_mem_map (Jdbc.plain_toJson 3) _,
    plain_of_mem_some (c.generator.plain_toJson 0)⟩

/-- Different configurations that can be written have different canonical texts. -/
theorem Configuration.canonical_inj {a b : Configuration} (ha : a.isWritable = true)
    (hb : b.isWritable = true) : a.canonical = b.canonical ↔ a = b :=
  (compact_inj a.plain_toJson.numberFree b.plain_toJson.numberFree).trans (toJson_inj ha hb)

end SchemaForge
