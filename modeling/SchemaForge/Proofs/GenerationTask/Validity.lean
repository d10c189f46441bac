import SchemaForge.Proofs.Document.Contract
import SchemaForge.Proofs.GenerationTask.Handover

/-!
# Edits that keep a document valid

A run makes four edits of the declared configuration before it writes the document: it connects it
to the shared database, hides the migration history, trims it and names the output directory. The
last of them comes first here, as the others do not look at the directory
(`GenerationTask.effective_eq_edited`); a configuration without one is never valid.

Each of the other three keeps what the bundled schema asks (`Configuration.MeetsContract`): trimming
only drops what is optional, the excludes may be any text, and a connection needs nothing but a URL
that is not empty, if it has one. So whatever handle a run is given, the document that it writes is
valid if the declared configuration is (`GenerationTask.generate_keepsValid`).
-/

namespace SchemaForge

namespace Configuration

variable {c : Configuration}

/-- The document of the configuration satisfies the bundled schema of the identifier. -/
def SatisfiesBundled (c : Configuration) (id : String) : Prop :=
  ∃ j schema, Schema.bundled? id = some j ∧ Schema.ofJson? j = some schema ∧
    schema.accepts (Document.ofConfiguration c) = true

theorem satisfiesBundled_iff :
    c.SatisfiesBundled Defaults.documentSchema ↔ c.MeetsContract := by
  have hbundled : Schema.bundled? Defaults.documentSchema = some Schema.bundled :=
    if_pos (beq_self_eq_true _)
  rw [← Document.accepts_documents_iff]
  constructor
  · rintro ⟨j, schema, hj, hschema, haccepts⟩
    obtain rfl := Option.some.inj (hbundled.symm.trans hj)
    obtain rfl := Option.some.inj (Schema.ofJson?_bundled.symm.trans hschema)
    exact haccepts
  · exact fun haccepts ↦ ⟨_, _, hbundled, Schema.ofJson?_bundled, haccepts⟩

/-! ### The edits one by one -/

namespace MeetsContract

/-- Trimming drops what need not be there and leaves the rest as it is. -/
theorem trimDefaults (h : c.MeetsContract) : c.trimDefaults.MeetsContract := by
  -- a strategy that is left was there, with the same rules and no other name
  have hstrategy : ∀ s ∈ c.trimDefaults.generator.strategy, ∃ s' ∈ c.generator.strategy,
      s.matchers = s'.matchers ∧ ∀ name ∈ s.name, name ∈ s'.name := by
    intro s hs
    obtain ⟨s', hs', rfl⟩ := Option.map_eq_some_iff.1 hs
    refine ⟨s', hs', ?_⟩
    rw [Strategy.trim]
    split
    · refine ⟨rfl, fun name hname ↦ ?_⟩
      cases hname
    · exact ⟨rfl, fun _ hname ↦ hname⟩
  refine { h with url := ?_, strategyName := ?_, expressions := ?_ }
  · intro jdbc hjdbc
    exact h.url jdbc (Option.filter_eq_some_iff.1 hjdbc).1
  · intro s hs name hname
    obtain ⟨s', hs', -, hnames⟩ := hstrategy s hs
    exact h.strategyName s' hs' name (hnames name hname)
  · intro s hs
    obtain ⟨s', hs', hmatchers, -⟩ := hstrategy s hs
    rw [hmatchers]
    exact h.expressions s' hs'

/-- A connection may have any texts but an empty URL. -/
theorem useDatabase (h : c.MeetsContract) {handle : DatabaseHandle} (hurl : handle.url ≠ "") :
    (c.useDatabase handle).MeetsContract := by
  refine { h with url := ?_ }
  rintro jdbc ⟨⟩ url ⟨⟩
  exact hurl

/-- The excludes may be any text. -/
theorem excludeMigrationHistory (h : c.MeetsContract) : c.excludeMigrationHistory.MeetsContract :=
  { h with }

end MeetsContract

end Configuration

namespace GenerationTask

open Program

/-- A configuration with the edits that do not concern the output directory. -/
def edited (c : Configuration) (handle : Option DatabaseHandle) : Configuration :=
  (match handle with
    | some h => (c.useDatabase h).excludeMigrationHistory
    | none => c).trimDefaults

theorem effective_eq_edited (t : GenerationTask) (handle : Option DatabaseHandle) :
    t.effective handle = edited (t.configuration.withDirectory (some t.outputDir)) handle := by
  cases handle <;> rfl

theorem meetsContract_edited {c : Configuration} (h : c.MeetsContract)
    {handle : Option DatabaseHandle} (hurl : ∀ h ∈ handle, h.url ≠ "") :
    (edited c handle).MeetsContract := by
  cases handle with
  | none => exact h.trimDefaults
  | some handle => exact (h.useDatabase (hurl handle rfl)).excludeMigrationHistory.trimDefaults

variable {δ : Type}

/-- **What a run makes of a valid configuration is valid.** Let the declared configuration be valid
under the bundled schema once it has the output directory of the task. Then so is what the run makes
of it without a database, and with any whose URL is not empty. Whatever a run writes is the document
of this, for the handle that it was given. -/
theorem generate_keepsValid (b : Backend δ) (t : GenerationTask)
    (hvalid : (t.configuration.withDirectory (some t.outputDir)).SatisfiesBundled
      Defaults.documentSchema) :
    (∀ handle : Option DatabaseHandle, (∀ h ∈ handle, h.url ≠ "") →
      (t.effective handle).SatisfiesBundled Defaults.documentSchema) ∧
    ∀ (steps : List (Footstep Build.Event (World δ)))
      (q : Build.Operation δ (Except TaskError Outcome)), (t.generate b).run.Takes steps q →
      ∀ x ∈ steps, x.event.stage = .writing →
        ∃ handle, IsGiven b t steps x handle ∧ t.Writes b (t.effective handle) x ∧
          ((∀ h ∈ handle, h.url ≠ "") →
            (t.effective handle).SatisfiesBundled Defaults.documentSchema) := by
  have heffective (handle : Option DatabaseHandle) (hurl : ∀ h ∈ handle, h.url ≠ "") :
      (t.effective handle).SatisfiesBundled Defaults.documentSchema := by
    rw [Configuration.satisfiesBundled_iff] at hvalid ⊢
    rw [effective_eq_edited]
    exact meetsContract_edited hvalid hurl
  refine ⟨heffective, fun steps q h x hx hwriting ↦ ?_⟩
  obtain ⟨handle, hgiven, hwrites⟩ := exists_writes_of_takes h hx hwriting
  exact ⟨handle, hgiven, hwrites, heffective handle⟩

/-- A run with the shared database, for a configuration in which all edits find something to do: its
connection has settings besides, its strategy a name beside rules, and its excludes a text. -/
theorem generate_keepsValid_rehearsal :
    let t : GenerationTask := { rehearsed "app" with
      configuration := {
        jdbc := some { autoCommit := some true }
        generator := {
          strategy := some {
            name := some "plain", matchers := some { tables := [{ expression := "t_(.*)" }] } }
          database := { inputSchema := some "app", excludes := some " audit_.* " } } } }
    let b := copying rehearsalHandle
    (t.configuration.withDirectory (some t.outputDir)).SatisfiesBundled Defaults.documentSchema ∧
    (t.effective none).SatisfiesBundled Defaults.documentSchema ∧
    ∃ steps q, (t.generate b).run.Takes steps q ∧
      ∃ x ∈ steps, x.event.stage = .writing ∧ ∃ handle, IsGiven b t steps x (some handle) ∧
        handle.url ≠ "" ∧ t.Writes b (t.effective (some handle)) x ∧
        (t.effective (some handle)).SatisfiesBundled Defaults.documentSchema := by
  intro t b
  have hpackage : Schema.IsPackageName "schemagen.generated" :=
    ⟨["schemagen", "generated"], by decide, by decide, rfl⟩
  have hvalid : (t.configuration.withDirectory (some t.outputDir)).SatisfiesBundled
      Defaults.documentSchema := by
    rw [Configuration.satisfiesBundled_iff]
    exact {
      directory := ⟨"/app/out", rfl, by decide⟩
      packageName := hpackage
      url := by decide
      strategyName := by decide
      inputSchema := by decide
      expressions := by decide
      forcedTypes := List.forall_mem_nil _ }
  obtain ⟨heffective, hruns⟩ := generate_keepsValid b t hvalid
  have hrun : ((t.generate b).run.run rehearsalStart).any
      (fun r ↦ r.events.any (·.stage = .writing)) = true := by
    decide +kernel
  -- the database that the run is given is the one that a run alone acquires
  have hacquire : ((Build.acquire b Defaults.databaseService).run rehearsalStart).all
      (fun r ↦ r.answer.toOption.all (·.url != "")) = true := by
    decide +kernel
  obtain ⟨r, hr, hfound⟩ := (Option.any_eq_true _ _).1 hrun
  obtain ⟨e, he, hstage⟩ := List.any_eq_true.1 hfound
  obtain ⟨steps, hsteps, hevents, hleads⟩ := takes_of_run hr
  rw [← hevents] at he
  obtain ⟨x, hx, rfl⟩ := List.mem_map.1 he
  have hwriting := of_decide_eq_true hstage
  refine ⟨hvalid, heffective none nofun, steps, _, hsteps, x, hx, hwriting, ?_⟩
  obtain ⟨handle, hgiven, hwrites, hkept⟩ := hruns steps _ hsteps x hx hwriting
  cases handle with
  | none => cases hgiven
  | some handle =>
    have ⟨acquiring, back, hsplit, _, hacquiring⟩ := hgiven.2
    rw [hsplit] at hleads
    obtain ⟨m, hleads, -⟩ := hleads.exists_of_append
    rw [run_of_takes hacquiring hleads, Option.all_some] at hacquire
    have hurl : handle.url ≠ "" := bne_iff_ne.1 hacquire
    refine ⟨handle, hgiven, hurl, hwrites, hkept ?_⟩
    rintro h ⟨⟩
    exact hurl

end GenerationTask

end SchemaForge
