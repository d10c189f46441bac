import SchemaForge.Proofs.Document.Contract
import SchemaForge.Proofs.Schema.Hiding

/-!
# What an invalid document tells of the password

The error for a document that does not satisfy its schema shows the document with the password of
the connection masked. The violations that it lists are those of the document as it is. So the
masked document says nothing of the password, and the violations may: `Document.validation_eq_iff`
says that, for any validator and any schema, the errors for two passwords are the same exactly if
the same is reported of the two documents.

For a validator that follows the language that is defined here (`Validator.Follows`), that is the
case if the schema is one of this language and hides the password (`Constraint.Hides`), as the
bundled one does. A schema that limits how long the password is does not, and the errors show it
(`Document.validation_ne_limited`).
-/

namespace SchemaForge

/-- The configuration with a connection that has a password. -/
def Configuration.withPassword (c : Configuration) (jdbc : Jdbc) (password : String) :
    Configuration :=
  { c with jdbc := some { jdbc with password := some password } }

namespace Document

open Constraint

variable {v : Validator} {fs : FileSystem} {c : Configuration} {source : SchemaSource}
  {path path' : Path} {jdbc : Jdbc} {p q s s' d d' : String} {vs vs' : List String}

/-! ### Two passwords -/

theorem differsAt_jdbc (jdbc : Jdbc) (p q : String) :
    Json.DiffersAt ["password"] ({ jdbc with password := some p } : Jdbc).toJson
      ({ jdbc with password := some q } : Jdbc).toJson := by
  rw [Json.differsAt_cons_iff]
  refine ⟨_, _, rfl, rfl, ?_⟩
  refine List.rel_append (List.rel_append (List.rel_append (Json.forall₂_refl _) ?_)
    (Json.forall₂_refl _)) (Json.forall₂_refl _)
  exact .cons (Or.inr ⟨rfl, rfl, trivial⟩) .nil

/-- The documents differ in the password and in nothing else. -/
theorem differsAt_withPassword (c : Configuration) (jdbc : Jdbc) (p q : String) :
    Json.DiffersAt ["jdbc", "password"] (ofConfiguration (c.withPassword jdbc p))
      (ofConfiguration (c.withPassword jdbc q)) := by
  refine Json.DiffersAt.sorted (Json.differsAt_cons_iff.2 ⟨_, _, rfl, rfl, ?_⟩)
  exact .cons (Or.inr ⟨rfl, rfl, differsAt_jdbc jdbc p q⟩) (Json.forall₂_refl _)

theorem redacted_withPassword :
    redacted (c.withPassword jdbc p) = redacted (c.withPassword jdbc q) := rfl

/-! ### Where the error comes from -/

/-- Only the check of a document answers that it is not valid. It lists what is reported of the
document itself and shows the document with the password masked. -/
theorem exists_report_of_write (h : (write v fs c source path).1 = .error (.validation s vs d)) :
    ∃ report, source.report v fs = .ok report ∧ s = source.resource ∧
      vs = report (ofConfiguration c) ∧ d = (redacted c).pretty := by
  rw [write] at h
  split at h
  · rename_i e hcheck
    cases h
    cases hreport : source.report v fs with
    | error e =>
      rw [check, hreport] at hcheck
      cases hcheck
      rcases kind_of_report hreport with ⟨_, he⟩ | ⟨_, _, he⟩ <;> cases he
    | ok report =>
      rw [check_of_report hreport] at hcheck
      cases hvalue : c.serialize with
      | error e =>
        rw [hvalue] at hcheck
        cases hcheck
        cases (Configuration.serialize_eq_error_iff.1 hvalue).2
      | ok j =>
        obtain ⟨-, rfl⟩ := Configuration.serialize_eq_ok_iff.1 hvalue
        rw [hvalue] at hcheck
        dsimp only at hcheck
        split at hcheck
        · cases hcheck
        · cases hcheck
          exact ⟨report, rfl, rfl, rfl, rfl⟩
  · obtain ⟨_, _, he⟩ := exists_file_of_place h
    cases he

/-- A document that can be written is refused if anything is reported of it. -/
theorem exists_write_eq_validation {report : Json → List String}
    (h : source.report v fs = .ok report) (hwritable : c.isWritable = true)
    (hrefused : report (ofConfiguration c) ≠ []) (path : Path) :
    ∃ s vs d, (write v fs c source path).1 = .error (.validation s vs d) := by
  have hcheck := check_of_report (c := c) h
  rw [Configuration.serialize_eq_ok_iff.2 ⟨hwritable, rfl⟩] at hcheck
  dsimp only at hcheck
  split at hcheck
  · rename_i hnone
    exact absurd hnone hrefused
  · exact ⟨_, _, _, by rw [write, hcheck]⟩

/-- Of a schema that hides the password, the same is reported whatever the password is. -/
theorem report_eq_of_hides (hv : v.Follows) {schema : Schema} {report : Json → List String}
    (hschema : source.schema fs = .ok schema) (hreport : source.report v fs = .ok report)
    (hhides : Hides schema.definitions ["jdbc", "password"] schema.root) (c : Configuration)
    (jdbc : Jdbc) (p q : String) :
    report (ofConfiguration (c.withPassword jdbc p)) =
      report (ofConfiguration (c.withPassword jdbc q)) := by
  obtain ⟨report', hreport', hviolations⟩ := report_of_follows hv hschema
  obtain rfl := Except.ok.inj (hreport.symm.trans hreport')
  rw [hviolations, hviolations,
    Schema.violations_eq_of_hides hhides (differsAt_withPassword c jdbc p q)]

/-- **What an invalid document tells of the password.** If the documents for two passwords are both
not valid, the errors name the same schema and show the same document. They are the same, in all
parts and in what they say, exactly if the same is reported of the two documents. With a validator
that follows the language, that is so if the schema is one of the language and hides the password,
as the bundled schema does. -/
theorem validation_eq_iff
    (h : (write v fs (c.withPassword jdbc p) source path).1 = .error (.validation s vs d))
    (h' : (write v fs (c.withPassword jdbc q) source path').1 = .error (.validation s' vs' d')) :
    s = s' ∧ d = d' ∧ ∃ report, source.report v fs = .ok report ∧
      (Error.validation s vs d = .validation s' vs' d' ↔
        report (ofConfiguration (c.withPassword jdbc p)) =
          report (ofConfiguration (c.withPassword jdbc q))) ∧
      (v.Follows →
        (∀ schema, source.schema fs = .ok schema →
          Hides schema.definitions ["jdbc", "password"] schema.root →
          vs = vs' ∧ (Error.validation s vs d).message = (Error.validation s' vs' d').message) ∧
        (source = .bundled Defaults.documentSchema →
          vs = vs' ∧ (Error.validation s vs d).message = (Error.validation s' vs' d').message)) := by
  -- both errors are told by the report and by the documents, and the report is the same
  obtain ⟨report, hreport, rfl, rfl, rfl⟩ := exists_report_of_write h
  obtain ⟨report', hreport', rfl, rfl, rfl⟩ := exists_report_of_write h'
  obtain rfl := Except.ok.inj (hreport.symm.trans hreport')
  have hsame (hv : v.Follows) (schema : Schema) (hschema : source.schema fs = .ok schema)
      (hhides : Hides schema.definitions ["jdbc", "password"] schema.root) :
      report (ofConfiguration (c.withPassword jdbc p)) =
        report (ofConfiguration (c.withPassword jdbc q)) :=
    report_eq_of_hides hv hschema hreport hhides c jdbc p q
  refine ⟨rfl, rfl, report, hreport, ?_, fun hv ↦ ⟨fun schema hschema hhides ↦ ?_, ?_⟩⟩
  · rw [redacted_withPassword, Error.validation.injEq]
    exact ⟨fun h ↦ h.2.1, fun h ↦ ⟨rfl, h, rfl⟩⟩
  · rw [hsame hv schema hschema hhides]
    exact ⟨rfl, rfl⟩
  · rintro rfl
    rw [hsame hv _ (schema_bundled fs) Schema.hides_password]
    exact ⟨rfl, rfl⟩

/-- Two passwords in a configuration without an output directory, for the bundled schema. -/
theorem validation_eq_bundled :
    let fs : FileSystem := ⟨[], []⟩
    let answer (password : String) := (write Schema.validator fs
      (Configuration.withPassword {} {} password) (.bundled Defaults.documentSchema)
      ⟨"/document.json"⟩).1
    Schema.validator.Follows ∧ ∃ e : Error, answer "hunter2" = .error e ∧
      answer "letmein" = .error e := by
  intro fs answer
  obtain ⟨report, hreport, hviolations⟩ :=
    report_of_follows Schema.validator_follows (schema_bundled fs)
  have hrefused (password : String) :
      report (ofConfiguration (Configuration.withPassword {} {} password)) ≠ [] := by
    rw [hviolations, Ne, List.map_eq_nil_iff, ← List.isEmpty_iff]
    show ¬Schema.documents.accepts _ = true
    rw [accepts_documents_iff]
    intro h
    obtain ⟨_, hdirectory, -⟩ := h.directory
    cases hdirectory
  obtain ⟨s, vs, d, h⟩ :=
    exists_write_eq_validation hreport (by decide) (hrefused "hunter2") ⟨"/document.json"⟩
  obtain ⟨s', vs', d', h'⟩ :=
    exists_write_eq_validation hreport (by decide) (hrefused "letmein") ⟨"/document.json"⟩
  obtain ⟨rfl, rfl, _, -, -, hsame⟩ := validation_eq_iff h h'
  obtain ⟨rfl, -⟩ := (hsame Schema.validator_follows).2 rfl
  exact ⟨Schema.validator_follows, _, h, h'⟩

/-- A schema file that limits how long the password is. -/
def limited : FileSystem where
  nodes := [([RawText.ofText "schema.json"], .file (Utf8.encode
    ("\x7b\"properties\": \x7b\"jdbc\": \x7b\"properties\": " ++
      "\x7b\"password\": \x7b\"maxLength\": 3\x7d\x7d\x7d\x7d\x7d")) false)]
  workingDirectory := []

/-- The violations that an answer lists. -/
def listed? : Except Error Unit → Option (List String)
  | .error (.validation _ vs _) => some vs
  | _ => none

theorem write_eq_of_listed? (h : listed? (write v fs c source path).1 = some vs) :
    (write v fs c source path).1 =
      .error (.validation source.resource vs (redacted c).pretty) := by
  rw [listed?.eq_def] at h
  split at h
  · rename_i s vs' d hwrite
    obtain rfl := Option.some.inj h
    obtain ⟨_, -, rfl, -, rfl⟩ := exists_report_of_write hwrite
    exact hwrite
  · cases h

/-- **The password is in the error** for a schema that limits how long it is: twice the same
configuration with another password, and each error shows its own. -/
theorem validation_ne_limited :
    let answer (password : String) := (write Schema.validator limited
      (Configuration.withPassword {} {} password) (.file ⟨"/schema.json"⟩) ⟨"/document.json"⟩).1
    let masked := (redacted (Configuration.withPassword {} {} mask)).pretty
    answer "hunter2" =
        .error (.validation "/schema.json" ["\"hunter2\" is longer than 3 characters"] masked) ∧
      answer "letmein" =
        .error (.validation "/schema.json" ["\"letmein\" is longer than 3 characters"] masked) ∧
      answer "hunter2" ≠ answer "letmein" := by
  intro answer masked
  have hhunter : answer "hunter2" =
      .error (.validation "/schema.json" ["\"hunter2\" is longer than 3 characters"] masked) :=
    write_eq_of_listed? (by decide +kernel)
  have hletmein : answer "letmein" =
      .error (.validation "/schema.json" ["\"letmein\" is longer than 3 characters"] masked) :=
    write_eq_of_listed? (by decide +kernel)
  refine ⟨hhunter, hletmein, ?_⟩
  rw [hhunter, hletmein]
  decide

end Document

end SchemaForge
