import SchemaForge.Proofs.Json.Sorted
import SchemaForge.Proofs.Schema.Holds
import SchemaForge.Proofs.Schema.PackageName
import SchemaForge.Schema.Reader

/-!
# The bundled schema as a constraint

`Schema.documents` is what the bundled schema asks of documents: a constraint, with those that its
references lead to. It is what is read of the bundled JSON value (`Schema.ofJson?_bundled`).

Definitions are looked up one after the other, so the value is read definition by definition. A
table of what each of them comes to tells what all of them come to (`Schema.define_eq_of_gather`).
-/

namespace SchemaForge

namespace Constraint

open Schema

/-! ### The bundled definitions -/

/-- What the bundled schema asks itself. -/
def bundled : Constraint :=
  recordWith ["generator"] [("jdbc", definition "jdbc"), ("generator", definition "generator")]

/-- What the schemas that the bundled one refers to ask, in the order in which references lead to
them. -/
def bundledDefinitions : List (String × Constraint) := [
  ("jdbc", recordOf [
    ("driver", ofKind .string),
    ("url", definition "nonEmptyString"),
    ("user", ofKind .string),
    ("password", ofKind .string),
    ("auto_commit", ofKind .boolean),
    ("properties", all [kinds [.object], members [] (ofKind .string)])]),
  ("generator", recordWith ["database", "generate", "target"] [
    ("strategy", definition "strategy"),
    ("database", definition "database"),
    ("generate", definition "generate"),
    ("target", definition "target")]),
  ("nonEmptyString", all [kinds [.string], shortest 1]),
  ("strategy", recordOf [
    ("name", definition "nonEmptyString"),
    ("matchers", definition "matchers")]),
  ("database", recordOf [
    ("input_schema", definition "nonEmptyString"),
    ("includes", ofKind .string),
    ("excludes", ofKind .string),
    ("forced_types", listOf (definition "forcedType"))]),
  ("generate", recordOf [
    ("pojos", ofKind .boolean),
    ("records", ofKind .boolean),
    ("relations", ofKind .boolean),
    ("deprecated", ofKind .boolean),
    ("immutable_pojos", ofKind .boolean),
    ("fluent_setters", ofKind .boolean),
    ("pojos_equals_and_hash_code", ofKind .boolean),
    ("spring_annotations", ofKind .boolean)]),
  ("target", recordWith ["package_name", "directory", "clean"] [
    ("package_name", all [kinds [.string], matching packagePattern packageName]),
    ("directory", definition "nonEmptyString"),
    ("clean", ofKind .boolean)]),
  ("matchers", recordOf [
    ("schemas", listOf (definition "matcherRule")),
    ("tables", listOf (definition "matcherRule")),
    ("fields", listOf (definition "matcherRule"))]),
  ("forcedType", all [kinds [.object], members [
    ("name", definition "nonEmptyString"),
    ("user_type", definition "nonEmptyString"),
    ("converter", definition "nonEmptyString"),
    ("include_expression", ofKind .string),
    ("include_types", ofKind .string)] nothing,
    anyOf [all [required ["name"]], all [required ["user_type"]]]]),
  ("matcherRule", recordWith ["expression"] [
    ("expression", definition "nonEmptyString"),
    ("transform", all [listed [.string "AS_IS", .string "LOWER", .string "UPPER",
      .string "CAMEL", .string "PASCAL"]])])]

/-! ### Reading the definitions -/

variable {n : ℕ}

/-- The bundled value without its edition and its name. -/
def bundledBody : Json := body .draft7 Schema.bundled

theorem ofJson?_bundled : ofJson? .draft7 bundledBody = some bundled := rfl

theorem read_matching (s : String) :
    Constraint.read .draft7 (n + 1) (.object [("type", .string "string"), ("pattern", .string s)]) =
      (Pattern.parse? s).map fun p ↦ all [kinds [.string], matching s p] := by
  have hdomestic :
      areDomestic .draft7 [("type", .string "string"), ("pattern", .string s)] = true :=
    rfl
  rw [read]
  cases h : Pattern.parse? s with
  | none => simp [keyword, Json.member?, pattern?, h, hdomestic]
  | some p => simp [keyword, Json.member?, pattern?, h, hdomestic]; rfl

theorem read_recordWith (names : List String) (properties : List (String × Json)) :
    read .draft7 (n + 2) (Schema.recordWith names properties) =
      (names? .draft7 (.ofStrings names)).bind fun names ↦
      (named? (read .draft7 (n + 1)) (.object properties)).map (recordWith names) := by
  have hdomestic : areDomestic .draft7 (("required", .ofStrings names) ::
      recordMembers properties) = true := rfl
  rw [recordMembers] at hdomestic
  rw [Schema.recordWith, recordMembers, read]
  cases h : named? (read .draft7 (n + 1)) (.object properties) with
  | none => simp [keyword, Json.member?, h, hdomestic]
  | some c =>
    cases hn : names? .draft7 (.ofStrings names) with
    | none => simp [keyword, Json.member?, h, hn, hdomestic]
    | some c => simp [keyword, Json.member?, h, hn, hdomestic]; rfl

theorem named?_cons {read : Json → Option Constraint} {name : String} {j : Json}
    {ms : List (String × Json)} : named? read (.object ((name, j) :: ms)) =
      (read j).bind fun c ↦ (named? read (.object ms)).map ((name, c) :: ·) := by
  rw [named?, List.mapM_cons]
  cases read j with
  | none => rfl
  | some c =>
    rw [named?]
    cases ms.mapM fun m ↦ (read m.2).map fun c ↦ (m.1, c) <;> rfl

theorem target?_bundled : ∀ d ∈ bundledDefinitions,
    target? bundledBody ("#/definitions/" ++ d.1) =
      (Schema.bundledDefinitions.find? (·.1 == d.1)).map (·.2) := by
  decide +kernel

/-- The one definition with a pattern. -/
theorem find?_target : (Schema.bundledDefinitions.find? (·.1 == "target")).map (·.2) =
    some (Schema.recordWith ["package_name", "directory", "clean"] [
      ("package_name", .object [("type", .string "string"), ("pattern", .string packagePattern)]),
      ("directory", Schema.definition "nonEmptyString"),
      ("clean", Schema.ofKind "boolean")]) := rfl

theorem ofJson?_definitions : ∀ d ∈ bundledDefinitions,
    (target? bundledBody ("#/definitions/" ++ d.1)).bind (ofJson? .draft7) = some d.2 := by
  intro d hd
  rw [target?_bundled d hd]
  simp only [bundledDefinitions, List.mem_cons, List.not_mem_nil, or_false] at hd
  rcases hd with rfl | rfl | rfl | rfl | rfl | rfl | rfl | rfl | rfl | rfl
  case inr.inr.inr.inr.inr.inr.inl =>
    rw [find?_target, Option.bind_some]
    refine (read_recordWith (n := 2) _ _).trans ?_
    rw [named?_cons, read_matching, parse?_packagePattern]
    rfl
  all_goals rfl

end Constraint

/-! ### Looking up the definitions -/

namespace Schema

variable {e : Edition} {whole : Json} {table known : List (String × Constraint)}

/-- Adds named constraints as `define` does, each of them from a table. -/
def gather (table : List (String × Constraint)) :
    ℕ → List String → List (String × Constraint) → Option (List (String × Constraint))
  | _, [], known => some known
  | 0, _ :: _, _ => none
  | fuel + 1, name :: names, known =>
    if known.any (·.1 == name) then gather table fuel names known
    else (table.find? (·.1 == name)).bind fun d ↦
      gather table fuel (names ++ d.2.references) (known ++ [(name, d.2)])

/-- What a table leads to is what a value leads to that has its constraints. -/
theorem define_eq_of_gather
    (h : ∀ d ∈ table, (target? whole d.1).bind (Constraint.ofJson? e) = some d.2) {n m : ℕ}
    (hle : n ≤ m) {names : List String} {definitions : List (String × Constraint)}
    (hgather : gather table n names known = some definitions) :
    define e whole m names known = some definitions := by
  induction n generalizing m names known with
  | zero =>
    cases names with
    | nil =>
      rw [← hgather]
      cases m <;> rfl
    | cons name names => cases hgather
  | succ n ih =>
    obtain ⟨m, rfl⟩ := Nat.exists_eq_add_of_le' (Nat.le_trans (Nat.le_add_left 1 n) hle)
    have hle : n ≤ m := Nat.le_of_succ_le_succ hle
    cases names with
    | nil => exact hgather
    | cons name names =>
      rw [gather] at hgather
      rw [define]
      by_cases hknown : known.any (·.1 == name) = true
      · rw [if_pos hknown] at hgather ⊢
        exact ih hle hgather
      · rw [if_neg hknown] at hgather ⊢
        obtain ⟨d, hd, hgather⟩ := Option.bind_eq_some_iff.1 hgather
        have hname : d.1 = name := by simpa using List.find?_some hd
        obtain ⟨part, hpart, hread⟩ :=
          Option.bind_eq_some_iff.1 (h d (List.mem_of_find?_eq_some hd))
        rw [hname] at hpart
        rw [hpart]
        simp only [Option.bind_eq_bind, Option.bind_some, hread]
        exact ih hle hgather

/-- What the bundled schema asks of documents. -/
def documents : Schema where
  root := Constraint.bundled
  definitions := Constraint.bundledDefinitions.map fun d ↦ ("#/definitions/" ++ d.1, d.2)

theorem le_lookups (root : Constraint) (m : String × Json) (ms : List (String × Json)) :
    (root.size + 1) * 3 ≤ lookups root (.object (m :: ms)) := by
  have hlength : 2 ≤ (Json.object (m :: ms)).compact.length := by
    rw [Json.compact, String.length_ofList, Json.writeCompact]
    simp [Json.writeString]
  exact Nat.mul_le_mul_left _ (Nat.succ_le_succ hlength)

theorem gather_bundled : gather documents.definitions 19 documents.root.references [] =
    some documents.definitions := rfl

theorem edition_bundled : Edition.of? bundled = some .draft7 := by decide +kernel

theorem isNamed_bundled : isNamed .draft7 bundled = true := by decide +kernel

theorem isWellFormed_bundled :
    isWellFormed .draft7 (Constraint.bundledBody.depth + 1) Constraint.bundledBody = true := by
  decide +kernel

theorem le_lookups_bundled : 19 ≤ lookups documents.root Constraint.bundledBody := by
  obtain ⟨m, ms, hbundled⟩ : ∃ m ms, Constraint.bundledBody = .object (m :: ms) := ⟨_, _, rfl⟩
  rw [hbundled]
  exact Nat.le_trans (by decide +kernel) (le_lookups documents.root m ms)

theorem ofJson?_eq_some {root : Constraint} {definitions : List (String × Constraint)}
    (hedition : Edition.of? whole = some e) (hname : isNamed e whole = true)
    (hform : isWellFormed e ((body e whole).depth + 1) (body e whole) = true)
    (hroot : Constraint.ofJson? e (body e whole) = some root)
    (hdefine : define e (body e whole) (lookups root (body e whole)) root.references [] =
      some definitions) :
    ofJson? whole = some ⟨root, definitions⟩ := by
  simp only [ofJson?, hedition, hname, hform, hroot, hdefine, Option.bind_eq_bind,
    Option.bind_some, Bool.not_true, Bool.or_self, Bool.false_eq_true, if_false]
  rfl

/-- **The bundled schema is a schema**: all that it refers to is there. -/
theorem ofJson?_bundled : ofJson? bundled = some documents := by
  have htable : ∀ d ∈ documents.definitions,
      (target? Constraint.bundledBody d.1).bind (Constraint.ofJson? .draft7) = some d.2 :=
    List.forall_mem_map.2 Constraint.ofJson?_definitions
  exact ofJson?_eq_some edition_bundled isNamed_bundled isWellFormed_bundled
    Constraint.ofJson?_bundled (define_eq_of_gather htable le_lookups_bundled gather_bundled)

end Schema

end SchemaForge
