import SchemaForge.Proofs.Document.ReadBack
import SchemaForge.Proofs.Schema.Bundled

/-!
# Documents under the bundled schema

What the bundled schema asks of the document of a configuration is told part by part: for each kind
of part there is a lemma that says when the definition of its name holds of its JSON value. The
definitions lead nineteen steps deep at most, and there is more fuel than that. Up to the whole
configuration it comes to a few conditions on its texts (`Configuration.MeetsContract`); the names
and kinds of all members are as the schema has them, and nothing is null
(`Document.accepts_iff_meetsContract`).
-/

namespace SchemaForge

/-! ### Parts of values -/

namespace Json

/-- A value is a part of itself, and of what has it as a part of an item or a member. -/
inductive IsPartOf (j : Json) : Json → Prop
  | refl : IsPartOf j j
  | item {items : List Json} {i : Json} (hi : i ∈ items) (h : IsPartOf j i) :
      IsPartOf j (.array items)
  | member {members : List (String × Json)} {m : String × Json} (hm : m ∈ members)
      (h : IsPartOf j m.2) : IsPartOf j (.object members)

theorem Plain.not_isPartOf_null {n : ℕ} {j : Json} (h : j.Plain n) : ¬ null.IsPartOf j := by
  induction h with
  | bool | string =>
    intro h
    cases h
  | array _ ih =>
    intro h
    cases h with
    | item hi h => exact ih _ hi h
  | object _ ih =>
    intro h
    cases h with
    | member hm h => exact ih _ hm h

end Json

/-! ### What the definitions ask -/

/-- A rule says to what it maps, by a name or by a type of the user, and no name, type or converter
that it gives is empty. -/
@[mk_iff]
structure ForcedType.IsTyped (f : ForcedType) : Prop where
  typed : f.name ≠ none ∨ f.userType ≠ none
  name : ∀ name ∈ f.name, name ≠ ""
  userType : ∀ name ∈ f.userType, name ≠ ""
  converter : ∀ name ∈ f.converter, name ≠ ""

open Constraint

namespace Schema

variable {n : ℕ}

@[simp] theorem holds_nonEmptyString {s : String} :
    (Constraint.definition "nonEmptyString").Holds documents.definitions (n + 3)
      (Json.string s).sorted ↔ s ≠ "" := by
  have hfind : documents.definitions.find? (·.1 == "#/definitions/nonEmptyString") =
    some ("#/definitions/nonEmptyString", all [kinds [.string], shortest 1]) := rfl
  refine (holds_reference hfind).trans ?_
  simp [Json.sorted, holds_all, holds_kinds, holds_shortest, Kind.covers, Nat.one_le_iff_ne_zero]

@[simp] theorem holds_jdbc {jdbc : Jdbc} :
    (Constraint.definition "jdbc").Holds documents.definitions (n + 7) jdbc.toJson.sorted ↔
      ∀ url ∈ jdbc.url, url ≠ "" := by
  refine (holds_reference (t := "#/definitions/jdbc") rfl).trans ?_
  rw [Jdbc.toJson_eq]
  refine (holds_recordOf (by decide)).trans ?_
  simp

@[simp] theorem holds_transform {definitions : List (String × Constraint)} {t : Transform} :
    (all [listed [.string "AS_IS", .string "LOWER", .string "UPPER", .string "CAMEL",
      .string "PASCAL"]]).Holds definitions (n + 2) (Json.string t.name).sorted := by
  cases t <;> simp [Json.sorted, holds_all, holds_listed, Transform.name]

@[simp] theorem holds_matcherRule {rule : MatcherRule} :
    (Constraint.definition "matcherRule").Holds documents.definitions (n + 6) rule.toJson.sorted ↔
      rule.expression ≠ "" := by
  refine (holds_reference (t := "#/definitions/matcherRule") rfl).trans ?_
  rw [MatcherRule.toJson_eq]
  refine (holds_recordWith (by decide)).trans ?_
  simp

@[simp] theorem holds_matchers {m : Matchers} :
    (Constraint.definition "matchers").Holds documents.definitions (n + 11) m.toJson.sorted ↔
      ∀ rule ∈ m.schemas ++ m.tables ++ m.fields, rule.expression ≠ "" := by
  refine (holds_reference (t := "#/definitions/matchers") rfl).trans ?_
  rw [Matchers.toJson_eq]
  refine (holds_recordOf (by decide)).trans ?_
  simp [or_imp, forall_and]

@[simp] theorem holds_strategy {s : Strategy} :
    (Constraint.definition "strategy").Holds documents.definitions (n + 14) s.toJson.sorted ↔
      (∀ name ∈ s.name, name ≠ "") ∧ ∀ m ∈ s.matchers,
        ∀ rule ∈ m.schemas ++ m.tables ++ m.fields, rule.expression ≠ "" := by
  refine (holds_reference (t := "#/definitions/strategy") rfl).trans ?_
  rw [Strategy.toJson_eq]
  refine (holds_recordOf (by decide)).trans ?_
  simp

@[simp] theorem holds_forcedType {f : ForcedType} :
    (Constraint.definition "forcedType").Holds documents.definitions (n + 6) f.toJson.sorted ↔
      f.IsTyped := by
  refine (holds_reference (t := "#/definitions/forcedType") rfl).trans ?_
  rw [ForcedType.toJson_eq]
  refine (holds_record (by decide)).trans ?_
  simp [holds_anyOf, holds_all, holds_required_ofParts, ForcedType.isTyped_iff,
    Option.ne_none_iff_exists', and_comm]

@[simp] theorem holds_database {db : Database} :
    (Constraint.definition "database").Holds documents.definitions (n + 11) db.toJson.sorted ↔
      (∀ schema ∈ db.inputSchema, schema ≠ "") ∧ ∀ f ∈ db.forcedTypes, f.IsTyped := by
  refine (holds_reference (t := "#/definitions/database") rfl).trans ?_
  rw [Database.toJson_eq]
  refine (holds_recordOf (by decide)).trans ?_
  simp

@[simp] theorem holds_generate {g : Generate} :
    (Constraint.definition "generate").Holds documents.definitions (n + 5) g.toJson.sorted := by
  refine (holds_reference (t := "#/definitions/generate") rfl).2 ?_
  rw [Generate.toJson_eq]
  refine (holds_recordOf (by decide)).2 ?_
  simp

@[simp] theorem holds_packageName {definitions : List (String × Constraint)} {s : String} :
    (all [kinds [.string], matching packagePattern packageName]).Holds definitions (n + 2)
      (Json.string s).sorted ↔ IsPackageName s := by
  rw [← occursIn_packageName_iff]
  simp [Json.sorted, holds_all, holds_kinds, holds_matching, Kind.covers]

@[simp] theorem holds_target {t : Target} :
    (Constraint.definition "target").Holds documents.definitions (n + 6) t.toJson.sorted ↔
      (∃ s : String, t.directory = some ⟨s⟩ ∧ s ≠ "") ∧ IsPackageName t.packageName := by
  refine (holds_reference (t := "#/definitions/target") rfl).trans ?_
  rw [Target.toJson_eq]
  refine (holds_recordWith (by decide)).trans ?_
  -- what is written is the text of the directory
  have htext (s : String) : t.directory.bind Path.text? = some s ↔ t.directory = some ⟨s⟩ := by
    simp [Option.bind_eq_some_iff, Path.text?_eq_some_iff]
  simp only [← htext]
  cases t.directory.bind Path.text? with
  | none => simp
  | some s => simp [and_comm]

@[simp] theorem holds_generator {g : Generator} :
    (Constraint.definition "generator").Holds documents.definitions (n + 17) g.toJson.sorted ↔
      (∀ s ∈ g.strategy, (∀ name ∈ s.name, name ≠ "") ∧ ∀ m ∈ s.matchers,
        ∀ rule ∈ m.schemas ++ m.tables ++ m.fields, rule.expression ≠ "") ∧
      ((∀ schema ∈ g.database.inputSchema, schema ≠ "") ∧
        ∀ f ∈ g.database.forcedTypes, f.IsTyped) ∧
      (∃ s : String, g.target.directory = some ⟨s⟩ ∧ s ≠ "") ∧
        IsPackageName g.target.packageName := by
  refine (holds_reference (t := "#/definitions/generator") rfl).trans ?_
  rw [Generator.toJson_eq]
  refine (holds_recordWith (by decide)).trans ?_
  simp

end Schema

/-- The validator reports what the schemas of the language that is defined here find: the messages
of all violations, in their order. -/
def Validator.Follows (v : Validator) : Prop :=
  ∀ j s, Schema.ofJson? j = some s → ∃ report, v.compile j = .ok report ∧
    ∀ document, report document = (s.violations document).map Violation.message

theorem Schema.validator_follows : validator.Follows := by
  intro j s hread
  refine ⟨fun document ↦ (s.violations document).map Violation.message, ?_, fun document ↦ rfl⟩
  simp only [validator, hread]

/-! ### The whole document -/

namespace Configuration

/-- What the generator expects of a configuration. -/
structure MeetsContract (c : Configuration) : Prop where
  directory : ∃ s : String, c.generator.target.directory = some ⟨s⟩ ∧ s ≠ ""
  packageName : Schema.IsPackageName c.generator.target.packageName
  url : ∀ jdbc ∈ c.jdbc, ∀ url ∈ jdbc.url, url ≠ ""
  strategyName : ∀ strategy ∈ c.generator.strategy, ∀ name ∈ strategy.name, name ≠ ""
  inputSchema : ∀ schema ∈ c.generator.database.inputSchema, schema ≠ ""
  expressions : ∀ strategy ∈ c.generator.strategy, ∀ matchers ∈ strategy.matchers,
    ∀ rule ∈ matchers.schemas ++ matchers.tables ++ matchers.fields, rule.expression ≠ ""
  forcedTypes : ∀ f ∈ c.generator.database.forcedTypes, f.IsTyped

theorem holds_toJson {n : ℕ} {c : Configuration} :
    Schema.documents.root.Holds Schema.documents.definitions (n + 19) c.toJson.sorted ↔
      c.MeetsContract := by
  have hparts : Schema.documents.root.Holds Schema.documents.definitions (n + 19) c.toJson.sorted ↔
      (∀ jdbc ∈ c.jdbc, ∀ url ∈ jdbc.url, url ≠ "") ∧
      (Constraint.definition "generator").Holds Schema.documents.definitions (n + 17)
        c.generator.toJson.sorted := by
    rw [toJson_eq]
    refine (holds_recordWith (by decide)).trans ?_
    simp
  rw [hparts, Schema.holds_generator]
  constructor
  · rintro ⟨hurl, hstrategy, ⟨hschema, hforced⟩, hdirectory, hpackage⟩
    exact {
      directory := hdirectory
      packageName := hpackage
      url := hurl
      strategyName := fun s hs ↦ (hstrategy s hs).1
      inputSchema := hschema
      expressions := fun s hs ↦ (hstrategy s hs).2
      forcedTypes := hforced }
  · intro h
    exact ⟨h.url, fun s hs ↦ ⟨h.strategyName s hs, h.expressions s hs⟩,
      ⟨h.inputSchema, h.forcedTypes⟩, h.directory, h.packageName⟩

end Configuration

namespace Document

theorem accepts_documents_iff {c : Configuration} :
    Schema.documents.accepts (ofConfiguration c) = true ↔ c.MeetsContract := by
  have hsize : 19 ≤ Schema.documents.root.size +
      Constraint.sizeOfNamed Schema.documents.definitions + 1 := by
    decide +kernel
  have hbudget : 19 ≤ Schema.documents.budget (ofConfiguration c) :=
    Nat.le_trans hsize (Nat.le_mul_of_pos_left _ (Nat.succ_pos _))
  obtain ⟨n, hn⟩ := Nat.exists_eq_add_of_le' hbudget
  rw [Schema.accepts, List.isEmpty_iff, Schema.violations, hn]
  exact Configuration.holds_toJson

theorem schema_eq_ok {fs : FileSystem} {source : SchemaSource} {j : Json} {schema : Schema}
    (hload : source.load fs = .ok j) (hread : Schema.ofJson? j = some schema) :
    source.schema fs = .ok schema := by
  rw [SchemaSource.schema, hload]
  simp only [Except.bind, bind, hread]

theorem schema_bundled (fs : FileSystem) :
    (SchemaSource.bundled Defaults.documentSchema).schema fs = .ok Schema.documents := by
  have hbundled : Schema.bundled? Defaults.documentSchema = some Schema.bundled :=
    if_pos (beq_self_eq_true _)
  refine schema_eq_ok ?_ Schema.ofJson?_bundled
  rw [SchemaSource.load, hbundled]

/-- **The bundled schema accepts the document of a configuration exactly if the configuration meets
the contract**, and no document has a null anywhere. -/
theorem accepts_iff_meetsContract (fs : FileSystem) (c : Configuration) :
    ¬ Json.null.IsPartOf c.toJson ∧ ¬ Json.null.IsPartOf (ofConfiguration c) ∧
      ∃ schema, (SchemaSource.bundled Defaults.documentSchema).schema fs = .ok schema ∧
        (schema.accepts (ofConfiguration c) = true ↔ c.MeetsContract) :=
  ⟨c.plain_toJson.not_isPartOf_null, c.plain_toJson.sorted.not_isPartOf_null, Schema.documents,
    schema_bundled fs, accepts_documents_iff⟩

/-- What meets the contract can be written, as it has a directory that is a text. -/
theorem isWritable_of_meetsContract {c : Configuration} (h : c.MeetsContract) :
    c.isWritable = true := by
  obtain ⟨s, hdirectory, -⟩ := h.directory
  rw [Configuration.isWritable, Target.isWritable, hdirectory]
  exact Option.isSome_iff_exists.2 ⟨s, Path.text?_eq_some_iff.2 rfl⟩

/-- A validator that follows the language reports what a schema of the language finds. -/
theorem report_of_follows {v : Validator} (hv : v.Follows) {fs : FileSystem}
    {source : SchemaSource} {schema : Schema} (h : source.schema fs = .ok schema) :
    ∃ report, source.report v fs = .ok report ∧
      ∀ document, report document = (schema.violations document).map Violation.message := by
  rw [SchemaSource.schema] at h
  cases hload : source.load fs with
  | error e =>
    rw [hload] at h
    cases h
  | ok j =>
    rw [hload] at h
    dsimp only [bind, Except.bind] at h
    split at h
    · rename_i s hread
      obtain rfl := Except.ok.inj h
      obtain ⟨report, hcompile, hreport⟩ := hv j s hread
      exact ⟨report, report_eq_ok_iff.2 ⟨j, hload, hcompile⟩, hreport⟩
    · cases h

/-- What a schema accepts a validator has nothing to report of, and the other way around. -/
theorem accepts_of_follows {v : Validator} (hv : v.Follows) {fs : FileSystem}
    {source : SchemaSource} {schema : Schema} {report : Json → List String}
    (hschema : source.schema fs = .ok schema) (hreport : source.report v fs = .ok report)
    (document : Json) : schema.accepts document = true ↔ report document = [] := by
  obtain ⟨report', hreport', hviolations⟩ := report_of_follows hv hschema
  obtain rfl := Except.ok.inj (hreport.symm.trans hreport')
  rw [hviolations, List.map_eq_nil_iff, Schema.accepts, List.isEmpty_iff]

/-- Under the bundled schema a document has a text exactly if its configuration meets the
contract. -/
theorem exists_check_bundled_iff {v : Validator} (hv : v.Follows) {fs : FileSystem}
    {c : Configuration} :
    (∃ text, check v fs c (.bundled Defaults.documentSchema) = .ok text) ↔ c.MeetsContract := by
  obtain ⟨report, hreport, hviolations⟩ := report_of_follows hv (schema_bundled fs)
  have hnone : report (ofConfiguration c) = [] ↔ c.MeetsContract := by
    rw [hviolations, List.map_eq_nil_iff, ← accepts_documents_iff, Schema.accepts,
      List.isEmpty_iff]
  simp only [check_eq_ok_iff, hreport, Except.ok.injEq, exists_eq_left', hnone,
    exists_and_left, exists_eq, and_true]
  exact and_iff_left_of_imp isWritable_of_meetsContract

end Document

end SchemaForge
