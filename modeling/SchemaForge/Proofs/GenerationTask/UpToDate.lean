import SchemaForge.GenerationTask.Generation
import SchemaForge.Proofs.Configuration.Fingerprint

/-!
# Tasks that are up to date

A task need not run again if it was run for a configuration with the same fingerprint. The
fingerprint is that of the normal form, and the generator is given another form of the same
configuration: with the shared database, if the task needs it, and with the output directory. What
the normal form passes over has to be passed over or replaced there too.

`Configuration.Alike` is kept by all that happens to a configuration on its way to the generator, up
to the last two steps: trimming and the output directory leave nothing of what configurations that
are alike may differ in (`Configuration.Alike.trimDefaults_withDirectory`). So tasks of the same
normal form are `GenerationTask.Interchangeable`, and `interchangeable_of_isUpToDate` adds that a
task is interchangeable with the one whose fingerprint makes it up to date, unless the digests of
two texts collide.
-/

namespace SchemaForge

/-! ### Configurations that are alike -/

theorem Jdbc.isUnset_iff {jdbc : Jdbc} :
    jdbc.isUnset = true ↔
      Text.isBlank? jdbc.driver = true ∧ Text.isBlank? jdbc.url = true ∧
        Text.isBlank? jdbc.user = true ∧ Text.isBlank? jdbc.password = true ∧
          jdbc.autoCommit = none ∧ jdbc.properties = [] := by
  simp [isUnset, and_assoc]

namespace Configuration

/-- No URL is configured in a connection without any value. -/
theorem connectionUrl?_of_isUnset {c : Configuration} (h : c.jdbc.all Jdbc.isUnset = true) :
    c.connectionUrl? = none := by
  rw [connectionUrl?]
  cases hjdbc : c.jdbc with
  | none => rfl
  | some jdbc =>
    rw [hjdbc, Option.all_some, Jdbc.isUnset_iff] at h
    have hblank := h.2.1
    change jdbc.url.filter _ = none
    cases hurl : jdbc.url with
    | none => rfl
    | some url =>
      rw [hurl, Text.isBlank?] at hblank
      rw [Option.filter_some, hblank]
      rfl

/-- A connection without any value leaves nothing behind once it is pointed at a database. -/
theorem jdbc_useDatabase_of_isUnset {c : Configuration} (h : c.jdbc.all Jdbc.isUnset = true)
    (handle : DatabaseHandle) : (c.useDatabase handle).jdbc = some {
      driver := some handle.driver
      url := some handle.url
      user := some handle.user
      password := some handle.password } := by
  rw [useDatabase]
  cases hjdbc : c.jdbc with
  | none => rfl
  | some jdbc =>
    rw [hjdbc, Option.all_some, Jdbc.isUnset_iff] at h
    obtain ⟨-, -, -, -, hautoCommit, hproperties⟩ := h
    simp only [Option.getD_some, hautoCommit, hproperties]

namespace Alike

variable {a b : Configuration}

theorem connectionUrl?_eq (h : a.Alike b) : a.connectionUrl? = b.connectionUrl? := by
  rcases h.jdbc with hjdbc | ⟨ha, hb⟩
  · rw [connectionUrl?, connectionUrl?, hjdbc]
  · rw [connectionUrl?_of_isUnset ha, connectionUrl?_of_isUnset hb]

theorem useDatabase (h : a.Alike b) (handle : DatabaseHandle) :
    (a.useDatabase handle).Alike (b.useDatabase handle) := by
  refine { h with jdbc := Or.inl ?_ }
  rcases h.jdbc with hjdbc | ⟨ha, hb⟩
  · rw [Configuration.useDatabase, Configuration.useDatabase, hjdbc]
  · rw [jdbc_useDatabase_of_isUnset ha, jdbc_useDatabase_of_isUnset hb]

theorem excludeMigrationHistory (h : a.Alike b) :
    a.excludeMigrationHistory.Alike b.excludeMigrationHistory :=
  { h with database := congrArg Database.excludeMigrationHistory h.database }

/-- What configurations that are alike may differ in is trimmed or replaced in the end. -/
theorem trimDefaults_withDirectory (h : a.Alike b) (directory : Option Path) :
    a.trimDefaults.withDirectory directory = b.trimDefaults.withDirectory directory := by
  have hnormalize (c : Configuration) :
      c.trimDefaults.withDirectory directory = (c.normalize none).withDirectory directory := rfl
  rw [hnormalize, hnormalize, normalize_none_eq_iff.2 h]

theorem checkClean_eq (h : a.Alike b) :
    OutputDirectory.checkClean a = OutputDirectory.checkClean b := by
  rw [OutputDirectory.checkClean, OutputDirectory.checkClean, h.clean]

end Alike

end Configuration

namespace GenerationTask

/-- The same task with another configuration. -/
def reconfigured (t : GenerationTask) (c : Configuration) : GenerationTask :=
  { t with configuration := c }

/-- The tasks make the same decisions about the database, the documents that they give the generator
are the same, and a run of the one would not differ if it had the configuration of the other. -/
structure Interchangeable (t u : GenerationTask) : Prop where
  engagesContainer : t.engagesContainer = u.engagesContainer
  requiredSchema : t.requiredSchema = u.requiredSchema
  document : ∀ handle : Option DatabaseHandle,
    Document.ofConfiguration (t.effective handle) = Document.ofConfiguration (u.effective handle)
  check : ∀ (v : Validator) (fs : FileSystem) (handle : Option DatabaseHandle),
    Document.check v fs (t.effective handle) t.schema =
      Document.check v fs (u.effective handle) u.schema
  generate : ∀ {δ : Type} (b : Backend δ),
    (t.reconfigured u.configuration).generate b = t.generate b

variable {t u : GenerationTask}

theorem engagesContainer_of_alike (h : t.configuration.Alike u.configuration)
    (hcontainer : t.useContainer = u.useContainer) : t.engagesContainer = u.engagesContainer := by
  rw [engagesContainer, engagesContainer, hcontainer, h.connectionUrl?_eq]

theorem requiredSchema_of_alike (h : t.configuration.Alike u.configuration) :
    t.requiredSchema = u.requiredSchema := by
  rw [requiredSchema, requiredSchema, h.database]

theorem effective_of_alike (h : t.configuration.Alike u.configuration)
    (houtput : t.outputDir = u.outputDir) (handle : Option DatabaseHandle) :
    t.effective handle = u.effective handle := by
  simp only [effective, houtput]
  cases handle with
  | none => exact h.trimDefaults_withDirectory _
  | some handle =>
    exact (h.useDatabase handle).excludeMigrationHistory.trimDefaults_withDirectory _

/-- A run depends on the configuration only through what is the same for all that are alike. -/
theorem generate_of_alike {c : Configuration} (h : t.configuration.Alike c)
    (hhook : t.hooks.normalization = none) {δ : Type} (b : Backend δ) :
    (t.reconfigured c).generate b = t.generate b := by
  have hcheck : (t.reconfigured c).check = t.check := by
    rw [check, check, reconfigured, h.checkClean_eq]
  have hengages : t.engagesContainer = (t.reconfigured c).engagesContainer :=
    engagesContainer_of_alike h rfl
  have hschema : t.requiredSchema = (t.reconfigured c).requiredSchema := requiredSchema_of_alike h
  have heffective (handle : Option DatabaseHandle) :
      t.effective handle = (t.reconfigured c).effective handle :=
    effective_of_alike (u := t.reconfigured c) h rfl handle
  have hfingerprint : (t.reconfigured c).fingerprint = t.fingerprint := by
    rw [fingerprint, fingerprint, normalized, normalized, reconfigured, hhook,
      Configuration.normalize_none_eq_iff.2 h]
  have hprovision : (t.reconfigured c).provision b = t.provision b := by
    rw [provision, provision, ← hengages, ← hschema]
    rfl
  have hlaunch : (t.reconfigured c).launch b = t.launch b := by
    rw [launch, launch, hcheck, hprovision, hfingerprint]
    simp only [← heffective]
    rfl
  rw [generate, generate, hlaunch]
  rfl

theorem interchangeable_of_normalized (ht : t.hooks.normalization = none)
    (hu : u.hooks.normalization = none) (houtput : t.outputDir = u.outputDir)
    (hcontainer : t.useContainer = u.useContainer) (hschema : t.schema = u.schema)
    (h : t.normalized = u.normalized) : t.Interchangeable u := by
  rw [normalized, normalized, ht, hu, Configuration.normalize_none_eq_iff] at h
  have heffective := effective_of_alike h houtput
  refine ⟨engagesContainer_of_alike h hcontainer, requiredSchema_of_alike h, fun handle ↦ ?_,
    fun v fs handle ↦ ?_, generate_of_alike h ht⟩
  · rw [heffective]
  · rw [heffective, hschema]

/-- Without a hook there is a fingerprint, as the normal form has no directory. -/
theorem fingerprint_eq_ok (ht : t.hooks.normalization = none) :
    t.fingerprint = .ok (Fingerprint.ofNormal t.normalized) := by
  refine Fingerprint.of_eq_ok_iff.2 ⟨?_, rfl⟩
  rw [normalized, ht]
  exact Configuration.isWritable_normalize_none _

/-- A task that declares all its inputs is up to date after a run for the same normal form. -/
theorem isUpToDate_of_normalized (hinputs : u.allInputsDeclared = true)
    (h : t.normalized = u.normalized) {print : Fingerprint} (hprint : t.fingerprint = .ok print) :
    u.isUpToDate (some print) = .ok true := by
  have hprint' : u.fingerprint = .ok print := by rw [fingerprint, ← h, ← fingerprint, hprint]
  rw [isUpToDate, if_pos hinputs, hprint']
  exact congrArg Except.ok (beq_self_eq_true print)

/-- **A task that is up to date would be given the same document.** Let two tasks without a hook
have the same output directory, the same mode and the same schema. If the normal forms of their
configurations are the same, they are interchangeable: both need the shared database or neither
does, both settle on the same schema or fail alike, and with the same database, or without one, they
give the generator the same document. So is a task with the one whose fingerprint makes it up to
date, unless the digests of the two texts are the same although the texts differ. -/
theorem interchangeable_of_isUpToDate (t u : GenerationTask) (ht : t.hooks.normalization = none)
    (hu : u.hooks.normalization = none) (houtput : t.outputDir = u.outputDir)
    (hcontainer : t.useContainer = u.useContainer) (hschema : t.schema = u.schema) :
    (t.normalized = u.normalized → t.Interchangeable u) ∧
      ∃ print, t.fingerprint = .ok print ∧
        ((Sha256.digest (Fingerprint.preimage t.normalized) =
            Sha256.digest (Fingerprint.preimage u.normalized) →
          Fingerprint.preimage t.normalized = Fingerprint.preimage u.normalized) →
        u.isUpToDate (some print) = .ok true → t.Interchangeable u) := by
  have hinterchangeable := interchangeable_of_normalized ht hu houtput hcontainer hschema
  refine ⟨hinterchangeable, _, fingerprint_eq_ok ht, fun hdigest h ↦ hinterchangeable ?_⟩
  rw [isUpToDate] at h
  split at h
  · rw [fingerprint_eq_ok hu] at h
    have hprint : Fingerprint.ofNormal t.normalized = Fingerprint.ofNormal u.normalized :=
      beq_iff_eq.1 (Except.ok.inj h)
    have hwritable {task : GenerationTask} (h : task.hooks.normalization = none) :
        task.normalized.isWritable = true := (Fingerprint.of_eq_ok_iff.1 (fingerprint_eq_ok h)).1
    exact (Fingerprint.preimage_inj (hwritable ht) (hwritable hu)).1
      (hdigest (Fingerprint.mk.inj hprint))
  · cases h

/-- A connection whose only value is blank, a directory and a strategy's name beside its rules make
no difference. -/
theorem interchangeable_blank_connection :
    ∃ t u : GenerationTask,
      t.configuration.jdbc = some { url := some " " } ∧ u.configuration.jdbc = none ∧
      t.configuration.generator.target.directory = some ⟨"out"⟩ ∧
      u.configuration.generator.target.directory = none ∧
      t.configuration.generator.strategy = some { name := some "plain", matchers := some {} } ∧
      u.configuration.generator.strategy = some { matchers := some {} } ∧
      (∃ print, t.fingerprint = .ok print ∧ u.isUpToDate (some print) = .ok true) ∧
      u.engagesContainer = true ∧ t.Interchangeable u := by
  let task (c : Configuration) : GenerationTask := {
    name := "main"
    configuration := c
    projectDir := ⟨"/work"⟩
    outputDir := ⟨"/work/out"⟩
    workDir := ⟨"/work/target"⟩
    migrationsDir := ⟨"/work/db"⟩
    useContainer := true
    allInputsDeclared := true
    command := { program := "java" }
    schema := default
    hooks := {} }
  let t := task {
    jdbc := some { url := some " " }
    generator := {
      strategy := some { name := some "plain", matchers := some {} }
      target := { directory := some ⟨"out"⟩ } } }
  let u := task { generator := { strategy := some { matchers := some {} } } }
  have hnormalized : t.normalized = u.normalized := by decide
  obtain ⟨-, print, hprint, hinterchangeable⟩ :=
    interchangeable_of_isUpToDate t u rfl rfl rfl rfl rfl
  have hupToDate : u.isUpToDate (some print) = .ok true :=
    isUpToDate_of_normalized rfl hnormalized hprint
  exact ⟨t, u, rfl, rfl, rfl, rfl, rfl, rfl, ⟨print, hprint, hupToDate⟩, by decide,
    hinterchangeable (fun _ ↦ congrArg Fingerprint.preimage hnormalized) hupToDate⟩

end GenerationTask

end SchemaForge
