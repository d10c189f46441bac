import SchemaForge.Document
import SchemaForge.Proofs.Configuration.Decoding
import SchemaForge.Proofs.FileSystem.Written

/-!
# Documents read back

A document that satisfied its schema is written as the text of the configuration's JSON value. The
text is a JSON text of that value, and the value is read as a configuration, field by field. What is
not written is read as what holds where nothing is said, and that is what was there in all fields
but one: a strategy that is absent.

## Main results

* `Document.check_eq_ok_iff` : the text of a document, whatever the schema asks.
* `Document.parse?_pretty_ofConfiguration`, `Document.ofJson_ofConfiguration` : reading the text and
  the value.
* `Document.readBack_eq_iff` : what a written document is read back as.
-/

namespace SchemaForge

namespace Document

variable {v : Validator} {fs fs' : FileSystem} {c : Configuration} {source : SchemaSource}
  {path : Path} {text : String} {e : Error}

theorem parse?_pretty_ofConfiguration (c : Configuration) :
    Json.parse? (ofConfiguration c).pretty = some (ofConfiguration c) := by
  have hplain : (ofConfiguration c).Plain 6 := c.plain_toJson.sorted
  exact Json.parse?_pretty hplain.numberFree (Nat.le_trans hplain.depth_le (by decide))

theorem ofJson_ofConfiguration (hwritable : c.isWritable = true)
    (h : ∀ jdbc ∈ c.jdbc, Names.Ascending jdbc.properties) :
    Configuration.ofJson (ofConfiguration c) = .ok c.withDefaultStrategy := by
  rw [← Configuration.ofJson_toJson hwritable h, Configuration.ofJson, Configuration.ofJson,
    ofConfiguration, Datum.ofJson_sorted]

theorem check_of_report {report : Json → List String} (h : source.report v fs = .ok report) :
    check v fs c source =
      match c.serialize with
      | .error e => .error e
      | .ok j =>
        match report j.sorted with
        | [] => .ok j.sorted.pretty
        | vs => .error (.validation source.resource vs (redacted c).pretty) := by
  rw [check, h]
  cases c.serialize with
  | error e => rfl
  | ok j => cases hreport : report j.sorted <;> simp [bind, Except.bind, hreport, pure, Except.pure]

/-- A document has a text if its configuration can be written and there is nothing to report. -/
theorem check_eq_ok_iff : check v fs c source = .ok text ↔
    (∃ report, source.report v fs = .ok report ∧ report (ofConfiguration c) = []) ∧
      c.isWritable = true ∧ text = (ofConfiguration c).pretty := by
  cases hreport : source.report v fs with
  | error e =>
    rw [check, hreport]
    simp [bind, Except.bind]
  | ok report =>
    rw [check_of_report hreport]
    cases hvalue : c.serialize with
    | error e =>
      have hunwritable := (Configuration.serialize_eq_error_iff.1 hvalue).1
      simp [hunwritable]
    | ok j =>
      obtain ⟨hwritable, rfl⟩ := Configuration.serialize_eq_ok_iff.1 hvalue
      dsimp only
      cases hviolations : report c.toJson.sorted with
      | nil =>
        refine ⟨fun h ↦ ⟨⟨report, rfl, hviolations⟩, hwritable, (Except.ok.inj h).symm⟩, fun h ↦ ?_⟩
        rw [h.2.2]
        rfl
      | cons violation violations => simp [ofConfiguration, hviolations]

/-- What was placed was written once its directory was there. -/
theorem exists_writeBytes_of_place (h : place fs path text = (.ok (), fs')) :
    ∃ fs₁ : FileSystem,
      (fs₁ = fs ∨ ∃ dir, path.parent? = some dir ∧ fs₁ = (fs.makeDirectories dir).2) ∧
      fs₁.writeBytes path (Utf8.encode text) = (.ok (), fs') := by
  cases hparent : path.parent? with
  | none =>
    rcases hwritten : fs.writeBytes path (Utf8.encode text) with ⟨e | _, fs''⟩ <;>
      simp only [place, hparent, hwritten] at h <;> cases h
    exact ⟨fs, Or.inl rfl, hwritten⟩
  | some dir =>
    rcases hmade : fs.makeDirectories dir with ⟨e | _, fs₁⟩
    · simp only [place, hparent, hmade] at h
      cases h
    · rcases hwritten : fs₁.writeBytes path (Utf8.encode text) with ⟨e | _, fs''⟩ <;>
        simp only [place, hparent, hmade, hwritten] at h <;> cases h
      exact ⟨fs₁, Or.inr ⟨dir, rfl, congrArg Prod.snd hmade.symm⟩, hwritten⟩

theorem check_of_write (h : write v fs c source path = (.ok (), fs')) :
    ∃ text, check v fs c source = .ok text ∧ place fs path text = (.ok (), fs') := by
  rw [write] at h
  cases hcheck : check v fs c source with
  | error e =>
    rw [hcheck] at h
    cases h
  | ok text =>
    rw [hcheck] at h
    exact ⟨text, rfl, h⟩

/-! ### What can fail -/

/-- The value of a schema cannot be had because it is missing or because it cannot be used. -/
theorem kind_of_load (h : source.load fs = .error e) :
    (∃ resource, e = .schemaMissing resource) ∨
      ∃ resource fault, e = .schemaUnusable resource fault := by
  unfold SchemaSource.load at h
  split at h
  · split at h
    · cases h
    · cases h
      exact Or.inl ⟨_, rfl⟩
  · split at h
    · split at h
      · cases h
        exact Or.inl ⟨_, rfl⟩
      · cases h
        exact Or.inr ⟨_, _, rfl⟩
    · split at h
      · cases h
      · cases h
        exact Or.inr ⟨_, _, rfl⟩

theorem report_eq_ok_iff {report : Json → List String} : source.report v fs = .ok report ↔
    ∃ schema, source.load fs = .ok schema ∧ v.compile schema = .ok report := by
  rw [SchemaSource.report]
  cases source.load fs with
  | error e => simp [bind, Except.bind]
  | ok schema => cases hcompile : v.compile schema <;> simp [bind, Except.bind, hcompile]

/-- Nor is there a report if the value is missing, or is no schema. -/
theorem kind_of_report (h : source.report v fs = .error e) :
    (∃ resource, e = .schemaMissing resource) ∨
      ∃ resource fault, e = .schemaUnusable resource fault := by
  rw [SchemaSource.report] at h
  cases hload : source.load fs with
  | error e' =>
    rw [hload] at h
    cases h
    exact kind_of_load hload
  | ok schema =>
    rw [hload] at h
    dsimp only [bind, Except.bind] at h
    split at h
    · cases h
    · cases h
      exact Or.inr ⟨_, _, rfl⟩

/-- Placing a text fails by an operation on a file. -/
theorem exists_file_of_place (h : (place fs path text).1 = .error e) :
    ∃ p fault, e = .file p fault := by
  rw [place] at h
  dsimp only at h
  split at h
  · split at h <;> cases h
    exact ⟨_, _, rfl⟩
  · split at h
    · cases h
      exact ⟨_, _, rfl⟩
    · split at h <;> cases h
      exact ⟨_, _, rfl⟩

/-! ### Reading a document -/

/-- What was written is the text of the document, unless it went to a device. -/
theorem readText_of_write (hwrite : write v fs c source path = (.ok (), fs'))
    (hplain : ∀ full, fs'.stat path ≠ .ok (.device full)) :
    fs'.readText path = .ok (ofConfiguration c).pretty := by
  obtain ⟨text, hcheck, hplace⟩ := check_of_write hwrite
  obtain ⟨fs₁, -, hwritten⟩ := exists_writeBytes_of_place hplace
  rw [← (check_eq_ok_iff.1 hcheck).2.2]
  exact FileSystem.readText_of_writeBytes hwritten hplain

theorem parse?_empty : Json.parse? "" = none := by decide +kernel

/-- What has gone to a device cannot be read, as no document is empty. -/
theorem readText_eq_iff (hwrite : write v fs c source path = (.ok (), fs')) :
    fs'.readText path = .ok (ofConfiguration c).pretty ↔
      ∀ full, fs'.stat path ≠ .ok (.device full) := by
  refine ⟨fun hread full hstat ↦ ?_, readText_of_write hwrite⟩
  have hempty : fs'.readText path = .ok "" := by
    simp only [FileSystem.readText, FileSystem.readBytes, hstat]
    rfl
  have hparse := parse?_pretty_ofConfiguration c
  rw [← Except.ok.inj (hempty.symm.trans hread), parse?_empty] at hparse
  cases hparse

/-- **A document that was written is read back as the configuration that it was written for, if that
has a strategy.** A strategy that is absent is not written, and one that is not written is read as
the default one, so a configuration without a strategy is never read back. -/
theorem readBack_eq_iff (hproperties : ∀ jdbc ∈ c.jdbc, Names.Ascending jdbc.properties)
    (hwrite : write v fs c source path = (.ok (), fs')) :
    ∃ text j c', check v fs c source = .ok text ∧
      ((∀ full, fs'.stat path ≠ .ok (.device full)) → fs'.readText path = .ok text) ∧
      Json.parse? text = some j ∧ Configuration.ofJson j = .ok c' ∧
      c' = c.withDefaultStrategy ∧ (c' = c ↔ c.generator.strategy ≠ none) := by
  obtain ⟨text, hcheck, -⟩ := check_of_write hwrite
  obtain ⟨-, hwritable, rfl⟩ := check_eq_ok_iff.1 hcheck
  exact ⟨_, ofConfiguration c, c.withDefaultStrategy, hcheck, readText_of_write hwrite,
    parse?_pretty_ofConfiguration c, ofJson_ofConfiguration hwritable hproperties, rfl,
    Configuration.withDefaultStrategy_eq_self_iff⟩

/-- A tree with a schema that allows everything. -/
def unguarded : FileSystem :=
  ⟨[([RawText.ofText "schema.json"], .file (Utf8.encode "true") false)], []⟩

/-- A connection with a property, and a rule that names tables. -/
def connected : Configuration where
  jdbc := some { url := some "jdbc:mysql://localhost/app", properties := [("useSSL", "false")] }
  generator.strategy := some {
    matchers := some { tables := [{ expression := "t_(.*)", transform := some .pascal }] } }
  generator.target.directory := some ⟨"/out"⟩

theorem readBack_eq_iff_connected :
    ∃ fs' text j c',
      write Schema.validator unguarded connected (.file ⟨"/schema.json"⟩) ⟨"/document.json"⟩ =
        (.ok (), fs') ∧
      fs'.readText ⟨"/document.json"⟩ = .ok text ∧ Json.parse? text = some j ∧
      Configuration.ofJson j = .ok c' ∧ c' = connected := by
  have hproperties : ∀ jdbc ∈ connected.jdbc, Names.Ascending jdbc.properties := by
    intro jdbc hjdbc
    obtain rfl := Option.some.inj hjdbc
    exact .cons (by simp) .nil
  obtain ⟨fs', hwrite, hplain⟩ : ∃ fs',
      write Schema.validator unguarded connected (.file ⟨"/schema.json"⟩) ⟨"/document.json"⟩ =
        (.ok (), fs') ∧
        ∀ full, fs'.stat ⟨"/document.json"⟩ ≠ .ok (.device full) :=
    ⟨(write Schema.validator unguarded connected (.file ⟨"/schema.json"⟩) ⟨"/document.json"⟩).2,
      rfl, by decide +kernel⟩
  obtain ⟨text, j, c', -, hread, hparse, hdecode, -, heq⟩ := readBack_eq_iff hproperties hwrite
  exact ⟨fs', text, j, c', hwrite, hread hplain, hparse, hdecode, heq.2 (by decide)⟩

/-- A configuration without a strategy. -/
def unnamed : Configuration :=
  { generator := { strategy := none, target := { directory := some ⟨"/out"⟩ } } }

/-- **A configuration without a strategy is written and not read back**: the document says nothing
of a strategy, and so it is read as one for the default strategy. -/
theorem readBack_ne_unnamed :
    ∃ fs' text j c',
      write Schema.validator unguarded unnamed (.file ⟨"/schema.json"⟩) ⟨"/document.json"⟩ =
        (.ok (), fs') ∧
      fs'.readText ⟨"/document.json"⟩ = .ok text ∧ Json.parse? text = some j ∧
      Configuration.ofJson j = .ok c' ∧ (c' == unnamed) = false := by
  obtain ⟨fs', hwrite, hplain⟩ : ∃ fs',
      write Schema.validator unguarded unnamed (.file ⟨"/schema.json"⟩) ⟨"/document.json"⟩ =
        (.ok (), fs') ∧
        ∀ full, fs'.stat ⟨"/document.json"⟩ ≠ .ok (.device full) :=
    ⟨(write Schema.validator unguarded unnamed (.file ⟨"/schema.json"⟩) ⟨"/document.json"⟩).2,
      rfl, by decide +kernel⟩
  exact ⟨fs', _, _, _, hwrite, readText_of_write hwrite hplain,
    parse?_pretty_ofConfiguration unnamed,
    ofJson_ofConfiguration (by decide) (fun jdbc hjdbc ↦ by cases hjdbc), by decide +kernel⟩

end Document

end SchemaForge
