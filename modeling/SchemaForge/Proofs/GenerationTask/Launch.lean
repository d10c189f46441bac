import SchemaForge.GenerationTask.Generation
import SchemaForge.Proofs.Path.Join
import SchemaForge.Shell.Launch

/-!
# What a generator finds from its working directory

A task writes its document and cleans its output directory from the working directory of the build.
The generator runs in the project directory and is handed the same two texts, so it agrees with the
task (`GenerationTask.Agrees`) only as far as the texts mean the same in both directories.

They do so from every working directory exactly if both are absolute or the project directory comes
back to where it starts from. A project directory that is absolute makes both absolute; a relative
one below the working directory does not.
-/

namespace SchemaForge

namespace GenerationTask

/-! ### The texts of a task -/

/-- The directories of a task are seen from its project directory. -/
theorem Draft.exists_of_build {d : Draft} {currentDir : Path} {t : GenerationTask}
    (h : d.build currentDir = .ok t) :
    ∃ output work, t.outputDir = t.projectDir / output ∧ t.workDir = t.projectDir / work := by
  rw [Draft.build] at h
  split at h
  · cases h
  · cases hcommand : d.requiredCommand with
    | error e =>
      rw [hcommand] at h
      cases h
    | ok command =>
      rw [hcommand] at h
      obtain rfl := Except.ok.inj h
      exact ⟨_, _, rfl, rfl⟩

/-- Without a hook, the generator is handed the document's path last, and runs in the project
directory. -/
theorem processSpec_eq {t : GenerationTask} {spec : ProcessSpec} (hhook : t.hooks.process = none)
    (h : t.processSpec = .ok spec) :
    spec.args = t.command.args.map RawText.ofText ++ [t.documentPath.text] ∧
      spec.workingDir = t.projectDir := by
  rw [processSpec, hhook, ProcessSpec.ofCommand] at h
  cases henv : ProcessSpec.environment t.command with
  | error e =>
    rw [henv] at h
    cases h
  | ok env =>
    rw [henv] at h
    obtain rfl := Except.ok.inj h
    exact ⟨rfl, rfl⟩

theorem directory_effective (t : GenerationTask) (handle : Option DatabaseHandle) :
    (t.effective handle).generator.target.directory = some t.outputDir := rfl

/-! ### Two working directories -/

/-- From a working directory of the build, the generator finds the document where the task writes
it, and the directory that the document names where the task cleans. -/
def Agrees (t : GenerationTask) (spec : ProcessSpec) (handle : Option DatabaseHandle)
    (cwd : Location) : Prop :=
  (∃ text, spec.args.getLast? = some text ∧
    Path.place ⟨text⟩ (spec.workingDir.place cwd) = t.documentPath.place cwd) ∧
  ∃ dir, (t.effective handle).generator.target.directory = some dir ∧
    dir.place (spec.workingDir.place cwd) = t.outputDir.place cwd

theorem agrees_iff_place {t : GenerationTask} {spec : ProcessSpec} (hhook : t.hooks.process = none)
    (h : t.processSpec = .ok spec) (handle : Option DatabaseHandle) (cwd : Location) :
    t.Agrees spec handle cwd ↔
      t.documentPath.place (t.projectDir.place cwd) = t.documentPath.place cwd ∧
        t.outputDir.place (t.projectDir.place cwd) = t.outputDir.place cwd := by
  obtain ⟨hargs, hdir⟩ := processSpec_eq hhook h
  rw [Agrees, hargs, hdir, List.getLast?_concat, directory_effective]
  constructor
  · rintro ⟨⟨text, htext, hdocument⟩, dir, hdirectory, houtput⟩
    obtain rfl := Option.some.inj htext
    obtain rfl := Option.some.inj hdirectory
    exact ⟨hdocument, houtput⟩
  · rintro ⟨hdocument, houtput⟩
    exact ⟨⟨_, rfl, hdocument⟩, _, rfl, houtput⟩

/-- Steps that lead nowhere lead to where they start from, on any tree. -/
theorem walk_current {fs : FileSystem} {purpose : Purpose} {slash : Bool} {fuel links : ℕ}
    {loc : Location} {cs : List Component} {place : Place} (hcs : ∀ c ∈ cs, c = .current)
    (h : fs.walk purpose slash fuel links loc cs = .ok place) : place = .taken loc := by
  induction fuel generalizing cs with
  | zero => cases h
  | succ fuel ih =>
    cases cs with
    | nil => exact (Except.ok.inj h).symm
    | cons c cs =>
      obtain ⟨rfl, hrest⟩ := List.forall_mem_cons.1 hcs
      rw [FileSystem.walk] at h
      exact ih hrest h

/-- A launch sees the tree from the place of its working directory, and the same tree if that leads
nowhere. -/
theorem entered_eq {fs fs' : FileSystem} {spec : ProcessSpec}
    (h : Shell.entered fs spec = .ok fs') :
    ∃ loc, fs.resolve .target spec.workingDir = .ok loc ∧
      fs' = { fs with workingDirectory := loc } := by
  rw [Shell.entered] at h
  split at h
  · cases h
  · rename_i loc hresolve
    split at h
    · obtain rfl := Except.ok.inj h
      exact ⟨loc, hresolve, rfl⟩
    · cases h

theorem resolve_current {fs : FileSystem} {p : Path} {loc : Location}
    (hsteps : ∀ c ∈ p.steps, c = .current) (h : fs.resolve .target p = .ok loc) :
    loc = fs.workingDirectory := by
  rw [FileSystem.resolve] at h
  split at h
  · rename_i loc' hlocate
    obtain rfl := Except.ok.inj h
    rw [FileSystem.locate] at hlocate
    split at hlocate
    · cases hlocate
    · split at hlocate
      · cases hlocate
      · split at hlocate
        · cases hlocate
        · exact Place.taken.inj (walk_current hsteps hlocate)
  · cases h
  · cases h

variable {t : GenerationTask} {spec : ProcessSpec}

/-- Both texts come back to their place from every working directory exactly if both are absolute or
the project directory comes back to where it starts from. -/
theorem forall_agrees_iff {d : Draft} {currentDir : Path} (hbuild : d.build currentDir = .ok t)
    (hhook : t.hooks.process = none) (hspec : t.processSpec = .ok spec)
    (handle : Option DatabaseHandle) :
    (∀ cwd, t.Agrees spec handle cwd) ↔
      (t.documentPath.isAbsolute = true ∧ t.outputDir.isAbsolute = true) ∨
        t.projectDir.climb = t.projectDir.names.length := by
  obtain ⟨output, work, houtput, hwork⟩ := Draft.exists_of_build hbuild
  -- the document lies below the work directory, and so below the project directory
  have hdocument : ∀ cwd, t.documentPath.place cwd =
      (t.projectDir / (work / Defaults.documentName)).place cwd := by
    intro cwd
    rw [documentPath, hwork]
    simp only [Path.place_join]
  have habsolute : t.documentPath.isAbsolute =
      (t.projectDir / (work / Defaults.documentName)).isAbsolute := by
    rw [documentPath, hwork]
    simp only [Path.isAbsolute_join, Bool.or_assoc]
  simp only [agrees_iff_place hhook hspec, forall_and, hdocument, habsolute]
  rw [houtput, Path.forall_place_twice_iff, Path.forall_place_twice_iff, ← and_or_right]

/-- On a tree without links, a generator that agrees finds what the task has where the task has
it. -/
theorem resolve_eq_of_agrees (hhook : t.hooks.process = none) (hspec : t.processSpec = .ok spec)
    {handle : Option DatabaseHandle} {fs fs' : FileSystem} (hfs : fs.Linkless)
    (hentered : Shell.entered fs spec = .ok fs')
    (hagrees : t.Agrees spec handle fs.workingDirectory) {purpose : Purpose} {p : Path}
    {loc loc' : Location} (hp : p = t.documentPath ∨ p = t.outputDir)
    (hloc : fs.resolve purpose p = .ok loc) (hloc' : fs'.resolve purpose p = .ok loc') :
    loc' = loc := by
  obtain ⟨dir, hresolve, rfl⟩ := entered_eq hentered
  have hlinkless : FileSystem.Linkless { fs with workingDirectory := dir } := hfs
  have hplace : dir = t.projectDir.place fs.workingDirectory := by
    rw [FileSystem.resolve_eq_place hfs hresolve, (processSpec_eq hhook hspec).2]
  rw [FileSystem.resolve_eq_place hfs hloc, FileSystem.resolve_eq_place hlinkless hloc']
  show p.place dir = p.place fs.workingDirectory
  obtain ⟨hdocument, houtput⟩ := (agrees_iff_place hhook hspec handle _).1 hagrees
  rw [hplace]
  rcases hp with rfl | rfl
  · exact hdocument
  · exact houtput

/-- On any tree, absolute paths and a project directory that leads nowhere make no difference. -/
theorem locate_of_entered (hhook : t.hooks.process = none) (hspec : t.processSpec = .ok spec)
    (hcases : (t.documentPath.isAbsolute = true ∧ t.outputDir.isAbsolute = true) ∨
      ∀ c ∈ t.projectDir.steps, c = .current)
    {fs fs' : FileSystem} (hentered : Shell.entered fs spec = .ok fs') (purpose : Purpose)
    {p : Path} (hp : p = t.documentPath ∨ p = t.outputDir) :
    fs'.locate purpose p = fs.locate purpose p := by
  obtain ⟨dir, hresolve, rfl⟩ := entered_eq hentered
  rcases hcases with ⟨hdocument, houtput⟩ | hsteps
  · have habsolute : p.isAbsolute = true := by
      rcases hp with rfl | rfl
      · exact hdocument
      · exact houtput
    exact FileSystem.locate_of_isAbsolute habsolute fs dir purpose
  · rw [(processSpec_eq hhook hspec).2] at hresolve
    rw [resolve_current hsteps hresolve]

/-- **Exactly when a generator agrees with its task.** From every working directory the generator
finds the document and the output directory where the task has them if and only if both paths are
absolute or the project directory comes back to where it starts from. On a tree without links, what
the two find is then at one place. On any tree the two paths lead to the same if they are absolute
or the project directory leads nowhere. -/
theorem agrees_iff {d : Draft} {currentDir : Path} {t : GenerationTask}
    (hbuild : d.build currentDir = .ok t) (hhook : t.hooks.process = none) {spec : ProcessSpec}
    (hspec : t.processSpec = .ok spec) (handle : Option DatabaseHandle) :
    ((∀ cwd, t.Agrees spec handle cwd) ↔
      (t.documentPath.isAbsolute = true ∧ t.outputDir.isAbsolute = true) ∨
        t.projectDir.climb = t.projectDir.names.length) ∧
    (∀ fs fs' : FileSystem, fs.Linkless → Shell.entered fs spec = .ok fs' →
      t.Agrees spec handle fs.workingDirectory → ∀ purpose p loc loc',
        p = t.documentPath ∨ p = t.outputDir → fs.resolve purpose p = .ok loc →
        fs'.resolve purpose p = .ok loc' → loc' = loc) ∧
    ((t.documentPath.isAbsolute = true ∧ t.outputDir.isAbsolute = true) ∨
        (∀ c ∈ t.projectDir.steps, c = .current) →
      ∀ fs fs' : FileSystem, Shell.entered fs spec = .ok fs' → ∀ purpose p,
        p = t.documentPath ∨ p = t.outputDir → fs'.locate purpose p = fs.locate purpose p) := by
  refine ⟨forall_agrees_iff hbuild hhook hspec handle, ?_, ?_⟩
  · intro fs fs' hfs hentered hagrees purpose p loc loc' hp hloc hloc'
    exact resolve_eq_of_agrees hhook hspec hfs hentered hagrees hp hloc hloc'
  · intro hcases fs fs' hentered purpose p hp
    exact locate_of_entered hhook hspec hcases hentered purpose hp

/-- A task with an absolute project directory. -/
theorem agrees_absolute_project :
    ∃ (d : Draft) (t : GenerationTask) (spec : ProcessSpec), d.projectDir = some ⟨"/work/app"⟩ ∧
      d.build ⟨"/work"⟩ = .ok t ∧ t.hooks.process = none ∧ t.processSpec = .ok spec ∧
      ∀ cwd, t.Agrees spec none cwd := by
  obtain ⟨d, t, spec, hproject, hbuild, hhook, hspec, hdocument, houtput⟩ :
      ∃ (d : Draft) (t : GenerationTask) (spec : ProcessSpec), d.projectDir = some ⟨"/work/app"⟩ ∧
        d.build ⟨"/work"⟩ = .ok t ∧ t.hooks.process = none ∧ t.processSpec = .ok spec ∧
        t.documentPath.isAbsolute = true ∧ t.outputDir.isAbsolute = true := by
    refine ⟨{
      name := "main", configuration := {}
      projectDir := some ⟨"/work/app"⟩, command := some { program := "sh" } }, _, _, rfl, rfl, rfl,
      rfl, ?_, ?_⟩
    · decide
    · decide
  exact ⟨d, t, spec, hproject, hbuild, hhook, hspec,
    (agrees_iff hbuild hhook hspec none).1.2 (Or.inl ⟨hdocument, houtput⟩)⟩

/-- A task whose project directory is below the working directory: the document is written in
`/work/app`, and looked for in `/work/app/app`. -/
theorem not_agrees_relative_project :
    ∃ (d : Draft) (t : GenerationTask) (spec : ProcessSpec), d.projectDir = some ⟨"app"⟩ ∧
      d.build ⟨"/work"⟩ = .ok t ∧ t.hooks.process = none ∧ t.processSpec = .ok spec ∧
      ¬t.Agrees spec none [RawText.ofText "work"] := by
  refine ⟨{
    name := "main", configuration := {}
    projectDir := some ⟨"app"⟩, command := some { program := "sh" } }, _, _, rfl, rfl, rfl, rfl, ?_⟩
  rintro ⟨⟨text, htext, hplace⟩, -⟩
  obtain rfl := Option.some.inj htext
  exact absurd hplace (by decide)

end GenerationTask

end SchemaForge
