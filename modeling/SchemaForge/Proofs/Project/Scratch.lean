import SchemaForge.Proofs.Document.Writing
import SchemaForge.Proofs.Path.Below
import SchemaForge.Proofs.Project.Validation

/-!
# Scratch directories of a project

A task that names no directory gets one below the output directory of its project, and its document
goes below the working directory of the project. Both are named after the task, and the name is
joined as a path: nothing asks what it looks like.

In an absolute project directory, `Project.resolve_scratch_iff` says exactly which names stay below
the two directories, and `Project.resolve_apart_iff` which tasks keep out of each other's way. Names
that are file names do both (`Path.Plain`). Others need not: the task `../src` may empty the sources
of its project, and the tasks `a` and `a/` share their output and their document.
-/

namespace SchemaForge

namespace Project

variable {p : Project} {projectDir : Path}

/-! ### The directories of the tasks -/

/-- Where a task of a project in an absolute directory has its document, and its output if it names
no directory for it: its name, seen from the directory that the project has for them. -/
theorem directories_of_mem {tasks : List GenerationTask} (h : p.resolve projectDir = .ok tasks)
    (hproject : projectDir.isAbsolute = true) {t : GenerationTask} (ht : t ∈ tasks) :
    t.documentPath = projectDir / p.workDir / ⟨t.name⟩ / Defaults.documentName ∧
      (t.configuration.generator.target.directory = none →
        t.outputDir = projectDir / p.outputRoot / ⟨t.name⟩) := by
  obtain ⟨⟨name, settings⟩, -, htask⟩ := exists_entry_of_mem h ht
  -- both rounds of joining the project directory come to one, as it is absolute
  have hdeclared := (asDeclared_eq_iff htask).2 (Or.inl (rooted_of_isAbsolute hproject))
  obtain ⟨hname, hconfiguration, -⟩ := of_task htask
  obtain rfl : t.name = name := hname
  refine ⟨hdeclared.documentPath, fun hnone ↦ ?_⟩
  have hdirectory : settings.configuration.generator.target.directory = none := by
    rw [hconfiguration] at hnone
    exact hnone
  have houtput := hdeclared.outputDir
  simp only [hdirectory] at houtput
  exact houtput

/-! ### Staying below a directory -/

/-- On trees without links the change of a tree takes away nothing but what is strictly below the
directory. -/
def SparesOutside (dir : Path) (change : FileSystem → FileSystem) : Prop :=
  ∀ fs : FileSystem, fs.Linkless → ∀ q node,
    (dir.place fs.workingDirectory <+: q → q = dir.place fs.workingDirectory) →
    fs.node? q = some node → (change fs).node? q = some node

theorem sparesOutside_clean {dir output : Path} (hdir : dir.isAbsolute = true)
    (houtput : output.isAbsolute = true) (hbelow : output.Below dir) :
    SparesOutside dir fun fs ↦ (OutputDirectory.clean fs output).2 := by
  intro fs hfs q node hq hnode
  have hplace := (Path.place_prefix_iff hdir houtput fs.workingDirectory).2 hbelow.1
  refine OutputDirectory.node?_clean hfs (fun hpre ↦ hbelow.2 ?_) hnode
  -- a place at or below the output is at the directory only if the output is
  rw [hq (hplace.trans hpre)] at hpre
  exact (Path.place_eq_iff houtput hdir fs.workingDirectory).1
    (hpre.eq_of_length_le hplace.length_le)

theorem sparesOutside_write {dir document : Path} (hdir : dir.isAbsolute = true)
    (hdocument : document.isAbsolute = true) (hbelow : document.Below dir) (v : Validator)
    (c : Configuration) (source : SchemaSource) :
    SparesOutside dir fun fs ↦ (Document.write v fs c source document).2 := by
  intro fs hfs q node hq hnode
  refine Document.node?_write hfs v c source (fun heq ↦ hbelow.2 ?_) hnode
  -- the place of the document is below the directory, so what is there is not spared
  have hplace := (Path.place_prefix_iff hdir hdocument fs.workingDirectory).2 hbelow.1
  rw [← heq] at hplace
  exact (Path.place_eq_iff hdocument hdir fs.workingDirectory).1 (heq.symm.trans (hq hplace))

/-- **Exactly which tasks stay in the scratch directories of their project.** A valid project has
all its tasks in every absolute directory. The document of a task is below the working directory of
the project if and only if the name of the task, joined there as a path, comes back through all
names that it leaves behind. The output of a task that names no directory is below the output
directory of the project if and only if the name does so there and does not end at that directory.
Where they are below, writing the document and cleaning the output spare everything that is outside.
A name that goes inward, as file names do, always stays below both. -/
theorem resolve_scratch_iff (hvalid : p.validate = .ok ())
    (hproject : projectDir.isAbsolute = true) :
    ∃ tasks, p.resolve projectDir = .ok tasks ∧
      tasks.map GenerationTask.name = p.tasks.names ∧
      ∀ t ∈ tasks,
        (t.documentPath.Below (projectDir / p.workDir) ↔
          Path.Returns ⟨t.name⟩ (projectDir / p.workDir)) ∧
        (t.documentPath.Below (projectDir / p.workDir) → ∀ v c,
          SparesOutside (projectDir / p.workDir) fun fs ↦
            (Document.write v fs c t.schema t.documentPath).2) ∧
        (Path.Inward ⟨t.name⟩ → t.documentPath.Below (projectDir / p.workDir)) ∧
        (t.configuration.generator.target.directory = none →
          (t.outputDir.Below (projectDir / p.outputRoot) ↔
            Path.Returns ⟨t.name⟩ (projectDir / p.outputRoot) ∧
              Path.names ⟨t.name⟩ ≠ Path.left ⟨t.name⟩ (projectDir / p.outputRoot)) ∧
          (t.outputDir.Below (projectDir / p.outputRoot) →
            SparesOutside (projectDir / p.outputRoot) fun fs ↦
              (OutputDirectory.clean fs t.outputDir).2) ∧
          (Path.Inward ⟨t.name⟩ → t.outputDir.Below (projectDir / p.outputRoot))) := by
  obtain ⟨tasks, htasks⟩ := exists_resolve_of_validate hvalid projectDir
  refine ⟨tasks, htasks, map_name_of_resolve htasks, fun t ht ↦ ?_⟩
  obtain ⟨hdocument, houtput⟩ := directories_of_mem htasks hproject ht
  have hwork := Path.isAbsolute_join_of_left hproject p.workDir
  have hroot := Path.isAbsolute_join_of_left hproject p.outputRoot
  have hdocumentIff : t.documentPath.Below (projectDir / p.workDir) ↔
      Path.Returns ⟨t.name⟩ (projectDir / p.workDir) := by
    rw [hdocument]
    exact Path.below_join_join_iff hwork (by decide) rfl
  refine ⟨hdocumentIff, fun hbelow v c ↦ ?_, fun h ↦ hdocumentIff.2 (h.returns _),
    fun hnone ↦ ?_⟩
  · refine sparesOutside_write hwork ?_ hbelow v c t.schema
    rw [hdocument]
    exact Path.isAbsolute_join_of_left (Path.isAbsolute_join_of_left hwork _) _
  · have houtputIff : t.outputDir.Below (projectDir / p.outputRoot) ↔
        Path.Returns ⟨t.name⟩ (projectDir / p.outputRoot) ∧
          Path.names ⟨t.name⟩ ≠ Path.left ⟨t.name⟩ (projectDir / p.outputRoot) := by
      rw [houtput hnone]
      exact Path.below_join_iff hroot
    refine ⟨houtputIff, fun hbelow ↦ sparesOutside_clean hroot ?_ hbelow,
      fun h ↦ houtputIff.2 ⟨h.returns _, h.names_ne_left _⟩⟩
    rw [houtput hnone]
    exact Path.isAbsolute_join_of_left hroot _

/-- Two tasks whose names go inward, one of them by two steps. -/
theorem resolve_scratch_inward :
    ∃ (p : Project) (t u : GenerationTask), p.tasks.names = ["main", "reports/daily"] ∧
      p.resolve ⟨"/work/app"⟩ = .ok [t, u] ∧
      (t.documentPath.Below (⟨"/work/app"⟩ / p.workDir) ∧
        t.outputDir.Below (⟨"/work/app"⟩ / p.outputRoot)) ∧
      u.documentPath.Below (⟨"/work/app"⟩ / p.workDir) ∧
        u.outputDir.Below (⟨"/work/app"⟩ / p.outputRoot) := by
  obtain ⟨p, t, u, hvalid, hnames, hresolve, htnone, hunone, htname, huname⟩ :
      ∃ (p : Project) (t u : GenerationTask), p.validate = .ok () ∧
        p.tasks.names = ["main", "reports/daily"] ∧ p.resolve ⟨"/work/app"⟩ = .ok [t, u] ∧
        t.configuration.generator.target.directory = none ∧
        u.configuration.generator.target.directory = none ∧
        t.name = "main" ∧ u.name = "reports/daily" :=
    ⟨{
      generator := { program := "java" }
      tasks := ⟨[("main", {}), ("reports/daily", {})], List.pairwise_pair.2 (by decide)⟩ }, _, _,
      rfl, rfl, resolve_eq_ok_iff.2 (.cons rfl (.cons rfl .nil)), rfl, rfl, rfl, rfl⟩
  obtain ⟨tasks, htasks, -, hall⟩ :=
    resolve_scratch_iff hvalid (rfl : Path.isAbsolute ⟨"/work/app"⟩ = true)
  obtain rfl := Except.ok.inj (hresolve.symm.trans htasks)
  obtain ⟨-, -, htdocument, htoutput⟩ := hall t (by simp)
  obtain ⟨-, -, hudocument, huoutput⟩ := hall u (by simp)
  have ht : Path.Inward ⟨t.name⟩ := by rw [htname]; decide
  have hu : Path.Inward ⟨u.name⟩ := by rw [huname]; decide
  exact ⟨p, t, u, hnames, hresolve, ⟨htdocument ht, (htoutput htnone).2.2 ht⟩,
    hudocument hu, (huoutput hunone).2.2 hu⟩

/-- The task `../src` has its document and its output in the sources of the project. The output is
accepted, and cleaning it removes them. -/
theorem not_scratch_parent_name :
    ∃ (p : Project) (t : GenerationTask), p.validate = .ok () ∧
      p.tasks.entries = [("../src", {})] ∧ p.outputRoot = ⟨"gen"⟩ ∧ p.workDir = ⟨"work"⟩ ∧
      p.resolve ⟨"/app"⟩ = .ok [t] ∧ t.configuration.generator.target.directory = none ∧
      ¬t.outputDir.Below (⟨"/app"⟩ / p.outputRoot) ∧
      ¬t.documentPath.Below (⟨"/app"⟩ / p.workDir) ∧
      OutputDirectory.checkSafe t.outputDir t.projectDir = .ok () ∧
      let app := [RawText.ofText "app"]
      let src := app ++ [RawText.ofText "src"]
      let sources := src ++ [RawText.ofText "Main.java"]
      let fs : FileSystem :=
        ⟨[(app, .directory none), (src, .directory none), (sources, .file [] false)], []⟩
      (OutputDirectory.clean fs t.outputDir).1 = .ok () ∧
        (OutputDirectory.clean fs t.outputDir).2.node? sources = none := by
  refine ⟨{
    outputRoot := ⟨"gen"⟩
    workDir := ⟨"work"⟩
    generator := { program := "java" }
    tasks := ⟨[("../src", {})], List.pairwise_singleton ..⟩ }, _, rfl, rfl, rfl, rfl,
    resolve_eq_ok_iff.2 (.cons rfl .nil), rfl, ?_, ?_, ?_, ?_⟩
  all_goals decide +kernel

/-! ### Staying apart -/

/-- Cleaning a directory takes away nothing from one that does not overlap it. -/
theorem node?_clean_of_not_overlaps {output other : Path} (houtput : output.isAbsolute = true)
    (hother : other.isAbsolute = true) (hapart : ¬output.Overlaps other) {fs : FileSystem}
    (hfs : fs.Linkless) {q : Location} {node : Node} (hq : other.place fs.workingDirectory <+: q)
    (hnode : fs.node? q = some node) :
    (OutputDirectory.clean fs output).2.node? q = some node := by
  refine OutputDirectory.node?_clean hfs (fun hpre ↦ hapart ?_) hnode
  -- of two places above a third one is above the other
  refine (List.prefix_or_prefix_of_prefix hpre hq).imp ?_ ?_
  · exact (Path.place_prefix_iff houtput hother fs.workingDirectory).1
  · exact (Path.place_prefix_iff hother houtput fs.workingDirectory).1

/-- **Exactly which tasks keep apart.** The tasks of a valid project have different names. In an
absolute project directory, two of them have different documents if and only if their names go down
different names from the working directory of the project, and writing the one document then leaves
the other as it is. If both name no directory, neither output is or holds the other if and only if
neither name goes down the names of the other from the output directory of the project, and cleaning
the one output then takes nothing away from the other. Different names that are file names are
always apart. -/
theorem resolve_apart_iff (hvalid : p.validate = .ok ())
    (hproject : projectDir.isAbsolute = true) :
    ∃ tasks, p.resolve projectDir = .ok tasks ∧ (tasks.map GenerationTask.name).Nodup ∧
      ∀ t ∈ tasks, ∀ u ∈ tasks,
        (t.documentPath.normalize ≠ u.documentPath.normalize ↔
          Path.namesFrom ⟨t.name⟩ (projectDir / p.workDir) ≠
            Path.namesFrom ⟨u.name⟩ (projectDir / p.workDir)) ∧
        (t.documentPath.normalize ≠ u.documentPath.normalize →
          ∀ fs : FileSystem, fs.Linkless → ∀ v c node,
            fs.node? (u.documentPath.place fs.workingDirectory) = some node →
            (Document.write v fs c t.schema t.documentPath).2.node?
              (u.documentPath.place fs.workingDirectory) = some node) ∧
        (t.configuration.generator.target.directory = none →
          u.configuration.generator.target.directory = none →
          (¬t.outputDir.Overlaps u.outputDir ↔
            ¬Path.namesFrom ⟨t.name⟩ (projectDir / p.outputRoot) <+:
                Path.namesFrom ⟨u.name⟩ (projectDir / p.outputRoot) ∧
              ¬Path.namesFrom ⟨u.name⟩ (projectDir / p.outputRoot) <+:
                Path.namesFrom ⟨t.name⟩ (projectDir / p.outputRoot)) ∧
          (¬t.outputDir.Overlaps u.outputDir →
            ∀ fs : FileSystem, fs.Linkless → ∀ q node,
              u.outputDir.place fs.workingDirectory <+: q → fs.node? q = some node →
              (OutputDirectory.clean fs t.outputDir).2.node? q = some node)) ∧
        (Path.Plain ⟨t.name⟩ → Path.Plain ⟨u.name⟩ → t.name ≠ u.name →
          t.documentPath.normalize ≠ u.documentPath.normalize ∧
          (t.configuration.generator.target.directory = none →
            u.configuration.generator.target.directory = none →
            ¬t.outputDir.Overlaps u.outputDir)) := by
  obtain ⟨tasks, htasks⟩ := exists_resolve_of_validate hvalid projectDir
  have hwork := Path.isAbsolute_join_of_left hproject p.workDir
  have hroot := Path.isAbsolute_join_of_left hproject p.outputRoot
  refine ⟨tasks, htasks, ?_, fun t ht u hu ↦ ?_⟩
  · rw [map_name_of_resolve htasks]
    exact List.pairwise_map.2 (p.tasks.ascending.imp String.ne_of_lt)
  obtain ⟨htdocument, htoutput⟩ := directories_of_mem htasks hproject ht
  obtain ⟨hudocument, huoutput⟩ := directories_of_mem htasks hproject hu
  have habsolute (root : Path) (hroot : root.isAbsolute = true) (name : String) :
      (root / ⟨name⟩).isAbsolute = true := Path.isAbsolute_join_of_left hroot _
  have hdocuments : t.documentPath.normalize = u.documentPath.normalize ↔
      Path.namesFrom ⟨t.name⟩ (projectDir / p.workDir) =
        Path.namesFrom ⟨u.name⟩ (projectDir / p.workDir) := by
    rw [htdocument, hudocument]
    exact Path.join_join_normalize_eq_iff hwork (by decide)
  refine ⟨not_congr hdocuments, fun hne fs hfs v c node ↦ ?_, fun htnone hunone ↦ ?_,
    fun htplain huplain hne ↦ ?_⟩
  · refine Document.node?_write hfs v c t.schema fun heq ↦ hne ?_
    have ht' : t.documentPath.isAbsolute = true := by
      rw [htdocument]
      exact Path.isAbsolute_join_of_left (habsolute _ hwork _) _
    have hu' : u.documentPath.isAbsolute = true := by
      rw [hudocument]
      exact Path.isAbsolute_join_of_left (habsolute _ hwork _) _
    exact (Path.place_eq_iff ht' hu' fs.workingDirectory).1 heq.symm
  · rw [htoutput htnone, huoutput hunone]
    refine ⟨?_, fun hapart fs hfs q node ↦ ?_⟩
    · rw [Path.overlaps_join_iff hroot, not_or]
    · exact node?_clean_of_not_overlaps (habsolute _ hroot _) (habsolute _ hroot _) hapart hfs
  · have hnames := RawText.ofText_injective.ne hne
    refine ⟨fun heq ↦ hnames ?_, fun htnone hunone ↦ ?_⟩
    · refine (htplain.namesFrom_prefix_iff huplain (projectDir / p.workDir)).1 ?_
      rw [hdocuments.1 heq]
    · rw [htoutput htnone, huoutput hunone, Path.overlaps_join_iff hroot,
        htplain.namesFrom_prefix_iff huplain, huplain.namesFrom_prefix_iff htplain, not_or]
      exact ⟨hnames, hnames.symm⟩

/-- Two tasks with file names for names. -/
theorem resolve_apart_plain :
    ∃ (p : Project) (t u : GenerationTask), p.tasks.names = ["main", "reporting"] ∧
      p.resolve ⟨"/work/app"⟩ = .ok [t, u] ∧
      t.documentPath.normalize ≠ u.documentPath.normalize ∧ ¬t.outputDir.Overlaps u.outputDir := by
  obtain ⟨p, t, u, hvalid, hnames, hresolve, htnone, hunone, htname, huname⟩ :
      ∃ (p : Project) (t u : GenerationTask), p.validate = .ok () ∧
        p.tasks.names = ["main", "reporting"] ∧ p.resolve ⟨"/work/app"⟩ = .ok [t, u] ∧
        t.configuration.generator.target.directory = none ∧
        u.configuration.generator.target.directory = none ∧
        t.name = "main" ∧ u.name = "reporting" :=
    ⟨{
      generator := { program := "java" }
      tasks := ⟨[("main", {}), ("reporting", {})], List.pairwise_pair.2 (by decide)⟩ }, _, _,
      rfl, rfl, resolve_eq_ok_iff.2 (.cons rfl (.cons rfl .nil)), rfl, rfl, rfl, rfl⟩
  obtain ⟨tasks, htasks, -, hall⟩ :=
    resolve_apart_iff hvalid (rfl : Path.isAbsolute ⟨"/work/app"⟩ = true)
  obtain rfl := Except.ok.inj (hresolve.symm.trans htasks)
  obtain ⟨-, -, -, hplain⟩ := hall t (by simp) u (by simp)
  rw [htname, huname] at hplain
  obtain ⟨hdocuments, houtputs⟩ := hplain (by decide) (by decide) (by decide)
  exact ⟨p, t, u, hnames, hresolve, hdocuments, houtputs htnone hunone⟩

/-- The tasks `a` and `a/` have one document and one output, and cleaning the output of the second
removes what the first has generated. -/
theorem not_apart_trailing_slash :
    ∃ (p : Project) (t u : GenerationTask), p.validate = .ok () ∧
      p.tasks.entries = [("a", {}), ("a/", {})] ∧ p.outputRoot = ⟨"gen"⟩ ∧
      p.resolve ⟨"/app"⟩ = .ok [t, u] ∧
      t.configuration.generator.target.directory = none ∧
      u.configuration.generator.target.directory = none ∧
      t.documentPath.normalize = u.documentPath.normalize ∧ t.outputDir.Overlaps u.outputDir ∧
      let app := [RawText.ofText "app"]
      let gen := app ++ [RawText.ofText "gen"]
      let output := gen ++ [RawText.ofText "a"]
      let generated := output ++ [RawText.ofText "A.java"]
      let fs : FileSystem := ⟨[(app, .directory none), (gen, .directory none),
        (output, .directory none), (generated, .file [] false)], []⟩
      t.outputDir.place [] = output ∧ (OutputDirectory.clean fs u.outputDir).1 = .ok () ∧
        (OutputDirectory.clean fs u.outputDir).2.node? generated = none := by
  refine ⟨{
    outputRoot := ⟨"gen"⟩
    generator := { program := "java" }
    tasks := ⟨[("a", {}), ("a/", {})], List.pairwise_pair.2 (by decide)⟩ }, _, _, rfl, rfl, rfl,
    resolve_eq_ok_iff.2 (.cons rfl (.cons rfl .nil)), rfl, rfl, ?_, ?_, ?_⟩
  all_goals decide +kernel

end Project

end SchemaForge
