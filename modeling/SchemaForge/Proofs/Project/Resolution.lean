import Mathlib.Data.List.Forall2
import SchemaForge.Project.Basic
import SchemaForge.Proofs.Path.Join

/-!
# Directories of the tasks of a project

A task is declared in the settings of a project or drafted by a caller. The two are meant to agree:
the task of a project should be the one that its settings make as a draft whose directories are left
relative (`Project.relativeDraft`), with each directory seen once from the project directory
(`Project.AsDeclared`).

The project sees the directories of a task from the project directory and hands them to the draft,
which does so once more. `Project.resolve_asDeclared_iff` says exactly when the second time makes no
difference. As texts the directories are the same if all three are absolute or the project directory
is empty; as paths, if the project directory consists of `.` alone. An absolute project directory
makes all three absolute, and a relative one below the working directory is named twice.
-/

namespace SchemaForge

namespace GenerationTask.Draft

/-- A draft fixes the configuration and the project directory of its task, which sees the other
directories from there. Another draft that differs in these directories makes the same task with the
other directories. -/
theorem of_build {d : Draft} {currentDir : Path} {t : GenerationTask}
    (h : d.build currentDir = .ok t) :
    t.name = d.name ∧ t.configuration = d.configuration ∧
      t.projectDir = d.projectDir.getD currentDir ∧
      ∀ output work migrations : Path,
        ({ d with
            outputDir := some output
            workDir := some work
            migrationsDir := some migrations } : Draft).build currentDir =
          .ok { t with
            outputDir := t.projectDir / output
            workDir := t.projectDir / work
            migrationsDir := t.projectDir / migrations } := by
  rw [build] at h
  split at h
  · cases h
  · rename_i hname
    cases hcommand : d.requiredCommand with
    | error e =>
      rw [hcommand] at h
      cases h
    | ok command =>
      rw [hcommand] at h
      obtain rfl := Except.ok.inj h
      refine ⟨rfl, rfl, rfl, fun output work migrations ↦ ?_⟩
      have hcommand' : ({ d with
          outputDir := some output
          workDir := some work
          migrationsDir := some migrations } : Draft).requiredCommand = .ok command := hcommand
      rw [build, if_neg hname, hcommand']
      rfl

end GenerationTask.Draft

namespace Project

variable (p : Project) (projectDir : Path) (name : String) (settings : TaskSettings)

/-- The output directory of a task as it is declared. -/
def declaredOutput : Path :=
  settings.configuration.generator.target.directory.getD (p.outputRoot / ⟨name⟩)

/-- What the settings of a task say about it, with its directories left relative. -/
def relativeDraft : GenerationTask.Draft :=
  { p.draft projectDir name settings with
    outputDir := some (p.declaredOutput name settings)
    workDir := some (p.workDir / ⟨name⟩)
    migrationsDir := some p.migrationsDir }

/-- The task has its directories and its document where they are declared, seen from the project
directory; its presets follow the forced types that are declared; and it is the task that its
settings make with the directories left relative. Paths are compared by `same`. -/
structure AsDeclared (same : Path → Path → Prop) (t : GenerationTask) : Prop where
  outputDir : same t.outputDir <|
    match settings.configuration.generator.target.directory with
    | some directory => projectDir / directory
    | none => projectDir / p.outputRoot / ⟨name⟩
  migrationsDir : same t.migrationsDir (projectDir / p.migrationsDir)
  documentPath : same t.documentPath (projectDir / p.workDir / ⟨name⟩ / Defaults.documentName)
  forcedTypes : t.configuration.generator.database.forcedTypes =
    settings.configuration.generator.database.forcedTypes ++ settings.presets.map Preset.forcedType
  built : ∃ t', (p.relativeDraft projectDir name settings).build projectDir = .ok t' ∧
    same t.outputDir t'.outputDir ∧ same t.workDir t'.workDir ∧
    same t.migrationsDir t'.migrationsDir ∧
    t = { t' with
      outputDir := t.outputDir, workDir := t.workDir, migrationsDir := t.migrationsDir }

/-- All directories of a task are absolute once they are seen from the project directory. -/
def Rooted : Prop :=
  (projectDir / p.declaredOutput name settings).isAbsolute = true ∧
    (projectDir / (p.workDir / ⟨name⟩)).isAbsolute = true ∧
    (projectDir / p.migrationsDir).isAbsolute = true

variable {p projectDir name settings}

theorem rooted_of_isAbsolute (h : projectDir.isAbsolute = true) :
    p.Rooted projectDir name settings := by
  refine ⟨?_, ?_, ?_⟩ <;> rw [Path.isAbsolute_join, h, Bool.or_true]

theorem directory_eq_join_declaredOutput :
    (match settings.configuration.generator.target.directory with
      | some directory => projectDir / directory
      | none => projectDir / p.outputRoot / ⟨name⟩) =
      projectDir / p.declaredOutput name settings := by
  rw [declaredOutput]
  cases settings.configuration.generator.target.directory with
  | some directory => rfl
  | none => exact Path.join_assoc ..

/-- Each directory of a task is seen from the project directory twice, and the task that its
settings make with relative directories sees each of them once. -/
theorem of_task {t : GenerationTask} (h : p.task projectDir name settings = .ok t) :
    t.name = name ∧ t.configuration = settings.resolved ∧
      t.outputDir = projectDir / (projectDir / p.declaredOutput name settings) ∧
      t.workDir = projectDir / (projectDir / (p.workDir / ⟨name⟩)) ∧
      t.migrationsDir = projectDir / (projectDir / p.migrationsDir) ∧
      (p.relativeDraft projectDir name settings).build projectDir = .ok { t with
        outputDir := projectDir / p.declaredOutput name settings
        workDir := projectDir / (p.workDir / ⟨name⟩)
        migrationsDir := projectDir / p.migrationsDir } := by
  obtain ⟨hname, hconfiguration, hproject, hbuild⟩ := GenerationTask.Draft.of_build h
  obtain rfl : t.projectDir = projectDir := hproject
  -- the draft of the task itself is one of those that differ in the directories
  have ht := Except.ok.inj (h.symm.trans (hbuild _ _ _))
  have houtput := congrArg GenerationTask.outputDir ht
  have hwork := congrArg GenerationTask.workDir ht
  have hmigrations := congrArg GenerationTask.migrationsDir ht
  refine ⟨hname, hconfiguration, houtput.trans ?_, hwork.trans ?_, hmigrations, hbuild _ _ _⟩
  · exact congrArg (t.projectDir / ·) directory_eq_join_declaredOutput
  · exact congrArg (t.projectDir / ·) (Path.join_assoc ..)

/-- Whether the task is the declared one hangs on the second time that its three directories are
seen from the project directory. -/
theorem asDeclared_iff_join_join {same : Path → Path → Prop} {t : GenerationTask}
    (h : p.task projectDir name settings = .ok t)
    (hdocument : same (projectDir / (projectDir / (p.workDir / ⟨name⟩)))
        (projectDir / (p.workDir / ⟨name⟩)) →
      same (projectDir / (projectDir / (p.workDir / ⟨name⟩)) / Defaults.documentName)
        (projectDir / (p.workDir / ⟨name⟩) / Defaults.documentName)) :
    p.AsDeclared projectDir name settings same t ↔
      same (projectDir / (projectDir / p.declaredOutput name settings))
          (projectDir / p.declaredOutput name settings) ∧
        same (projectDir / (projectDir / (p.workDir / ⟨name⟩)))
          (projectDir / (p.workDir / ⟨name⟩)) ∧
        same (projectDir / (projectDir / p.migrationsDir)) (projectDir / p.migrationsDir) := by
  obtain ⟨-, hconfiguration, houtput, hwork, hmigrations, hbuilt⟩ := of_task h
  constructor
  · rintro ⟨-, -, -, -, t', hbuilt', houtput', hwork', hmigrations', -⟩
    obtain rfl := Except.ok.inj (hbuilt.symm.trans hbuilt')
    rw [houtput] at houtput'
    rw [hwork] at hwork'
    rw [hmigrations] at hmigrations'
    exact ⟨houtput', hwork', hmigrations'⟩
  · rintro ⟨houtput', hwork', hmigrations'⟩
    refine ⟨?_, ?_, ?_, ?_, _, hbuilt, ?_, ?_, ?_, rfl⟩
    · rw [directory_eq_join_declaredOutput, houtput]
      exact houtput'
    · rw [hmigrations]
      exact hmigrations'
    · rw [GenerationTask.documentPath, hwork, Path.join_assoc projectDir p.workDir]
      exact hdocument hwork'
    · rw [hconfiguration]
      rfl
    · rw [houtput]
      exact houtput'
    · rw [hwork]
      exact hwork'
    · rw [hmigrations]
      exact hmigrations'

/-- As texts, the directories are those declared if they are absolute or the project directory is
empty. -/
theorem asDeclared_eq_iff {t : GenerationTask} (h : p.task projectDir name settings = .ok t) :
    p.AsDeclared projectDir name settings (· = ·) t ↔
      p.Rooted projectDir name settings ∨ projectDir.text = "" := by
  rw [asDeclared_iff_join_join h (congrArg (· / Defaults.documentName)), Path.join_join_eq_iff,
    Path.join_join_eq_iff, Path.join_join_eq_iff, ← and_or_right, ← and_or_right]
  rfl

/-- As paths, they are so too if the project directory consists of `.` alone. -/
theorem asDeclared_beq_iff {t : GenerationTask} (h : p.task projectDir name settings = .ok t) :
    p.AsDeclared projectDir name settings (· == ·) t ↔
      p.Rooted projectDir name settings ∨ ∀ c ∈ projectDir.steps, c = .current := by
  have hdocument : (projectDir / (projectDir / (p.workDir / ⟨name⟩)) ==
        projectDir / (p.workDir / ⟨name⟩)) = true →
      (projectDir / (projectDir / (p.workDir / ⟨name⟩)) / Defaults.documentName ==
        projectDir / (p.workDir / ⟨name⟩) / Defaults.documentName) = true := by
    rw [Path.join_assoc projectDir (projectDir / _), Path.join_assoc projectDir (p.workDir / _),
      Path.join_join_beq_iff, Path.join_join_beq_iff, ← Path.join_assoc projectDir (p.workDir / _),
      Path.isAbsolute_join _ Defaults.documentName]
    exact Or.imp_left fun h ↦ Bool.or_eq_true_iff.2 (Or.inr h)
  rw [asDeclared_iff_join_join h hdocument, Path.join_join_beq_iff, Path.join_join_beq_iff,
    Path.join_join_beq_iff, ← and_or_right, ← and_or_right]
  rfl

/-- The tasks are those of the entries, in their order, and all entries must have one. -/
theorem resolve_eq_ok_iff {tasks : List GenerationTask} :
    p.resolve projectDir = .ok tasks ↔
      List.Forall₂ (fun entry t ↦ p.task projectDir entry.1 entry.2 = .ok t)
        p.tasks.entries tasks := by
  rw [resolve]
  generalize p.tasks.entries = entries
  induction entries generalizing tasks with
  | nil =>
    rw [List.mapM_nil, List.forall₂_nil_left_iff]
    exact ⟨fun h ↦ (Except.ok.inj h).symm, fun h ↦ h ▸ rfl⟩
  | cons entry entries ih =>
    rw [List.mapM_cons, List.forall₂_cons_left_iff]
    cases htask : p.task projectDir entry.1 entry.2 with
    | error e => exact ⟨fun h ↦ (nomatch h), fun ⟨_, _, h, _⟩ ↦ (nomatch h)⟩
    | ok t =>
      have hbind (f : GenerationTask → Except Error (List GenerationTask)) :
          (Except.ok t >>= f) = f t := rfl
      rw [hbind]
      cases hrest : entries.mapM fun entry ↦ p.task projectDir entry.1 entry.2 with
      | error e =>
        refine ⟨fun h ↦ (nomatch h), fun ⟨_, rest, _, h, _⟩ ↦ ?_⟩
        exact nomatch hrest.symm.trans (ih.2 h)
      | ok rest =>
        refine ⟨fun h ↦ ⟨t, rest, rfl, ih.1 hrest, (Except.ok.inj h).symm⟩, ?_⟩
        rintro ⟨u, us, hu, hus, rfl⟩
        obtain rfl := Except.ok.inj hu
        obtain rfl := Except.ok.inj (hrest.symm.trans (ih.2 hus))
        rfl

/-- **Exactly when the tasks of a project are the declared ones.** Of every task that a project
resolves, the directories are those declared, and the task is the one that its settings make with
relative directories, if and only if its three directories are absolute or the project directory is
empty; as paths that are compared by their components, if and only if they are absolute or the
project directory consists of `.` alone. In any case the presets follow the forced types that are
declared, and each directory is seen from the project directory twice. -/
theorem resolve_asDeclared_iff {tasks : List GenerationTask}
    (h : p.resolve projectDir = .ok tasks) :
    List.Forall₂ (fun entry t ↦
      (p.AsDeclared projectDir entry.1 entry.2 (· = ·) t ↔
        p.Rooted projectDir entry.1 entry.2 ∨ projectDir.text = "") ∧
      (p.AsDeclared projectDir entry.1 entry.2 (· == ·) t ↔
        p.Rooted projectDir entry.1 entry.2 ∨ ∀ c ∈ projectDir.steps, c = .current) ∧
      t.configuration.generator.database.forcedTypes =
        entry.2.configuration.generator.database.forcedTypes ++
          entry.2.presets.map Preset.forcedType ∧
      t.outputDir = projectDir / (projectDir / p.declaredOutput entry.1 entry.2) ∧
      t.workDir = projectDir / (projectDir / (p.workDir / ⟨entry.1⟩)) ∧
      t.migrationsDir = projectDir / (projectDir / p.migrationsDir)) p.tasks.entries tasks := by
  refine (resolve_eq_ok_iff.1 h).imp fun entry t ht ↦ ?_
  obtain ⟨-, hconfiguration, houtput, hwork, hmigrations, -⟩ := of_task ht
  refine ⟨asDeclared_eq_iff ht, asDeclared_beq_iff ht, ?_, houtput, hwork, hmigrations⟩
  rw [hconfiguration]
  rfl

/-- Two tasks in an absolute project directory, one with a preset and one with a directory. -/
theorem asDeclared_absolute_project :
    ∃ (p : Project) (tasks : List GenerationTask),
      p.tasks.entries = [
        ("main", { presets := [.timestampToInstant] }),
        ("reporting", { configuration := {
          generator := { target := { directory := some ⟨"src/reporting"⟩ } } } })] ∧
      p.resolve ⟨"/work/app"⟩ = .ok tasks ∧
      List.Forall₂ (fun entry t ↦ p.AsDeclared ⟨"/work/app"⟩ entry.1 entry.2 (· = ·) t)
        p.tasks.entries tasks := by
  obtain ⟨p, tasks, hentries, h⟩ : ∃ (p : Project) (tasks : List GenerationTask),
      p.tasks.entries = [
        ("main", { presets := [.timestampToInstant] }),
        ("reporting", { configuration := {
          generator := { target := { directory := some ⟨"src/reporting"⟩ } } } })] ∧
      p.resolve ⟨"/work/app"⟩ = .ok tasks := by
    exact ⟨{
      generator := { program := "java" }
      tasks := ⟨_, List.pairwise_pair.2 (by decide)⟩ }, _, rfl,
      resolve_eq_ok_iff.2 (.cons rfl (.cons rfl .nil))⟩
  refine ⟨p, tasks, hentries, h, (resolve_asDeclared_iff h).imp fun entry t ht ↦ ?_⟩
  exact ht.1.2 (Or.inl (rooted_of_isAbsolute (by decide)))

/-- A task in a project directory below the working directory: its migrations are looked for in
`app/app/db/migration`. -/
theorem not_asDeclared_relative_project :
    ∃ (p : Project) (t : GenerationTask), p.tasks.entries = [("main", {})] ∧
      p.resolve ⟨"app"⟩ = .ok [t] ∧ ¬p.AsDeclared ⟨"app"⟩ "main" {} (· == ·) t := by
  refine ⟨{
    generator := { program := "java" }
    tasks := ⟨_, List.pairwise_singleton ..⟩ }, _, rfl, resolve_eq_ok_iff.2 (.cons rfl .nil),
    fun h ↦ ?_⟩
  exact absurd h.migrationsDir (by decide)

end Project

end SchemaForge
