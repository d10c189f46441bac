import SchemaForge.Proofs.Project.Resolution

/-!
# Valid projects

A project is checked before its tasks are made, and making a task checks its name and the program of
the generator once more. `Project.validate_eq_ok_iff` says what the check of a project asks, and
`Project.exists_resolve_iff` what its tasks ask. So a valid project has all its tasks in every
directory (`Project.exists_resolve_of_validate`).
-/

namespace SchemaForge

namespace Project

variable {p : Project} {projectDir : Path}

/-- A schema file or the identifier of a schema is given. -/
def NamesSchema (p : Project) : Prop :=
  p.generator.schemaFile ≠ none ∨ Text.isBlank p.generator.schema = false

/-- What the check of a project asks. -/
theorem validate_eq_ok_iff : p.validate = .ok () ↔
    p.tasks.isEmpty = false ∧ (∀ name ∈ p.tasks.names, Text.isBlank name = false) ∧
      Text.isBlank p.generator.program = false ∧ p.NamesSchema := by
  rw [validate]
  split
  · rename_i hempty
    refine iff_of_false nofun fun ⟨hsome, _⟩ ↦ ?_
    rw [hempty] at hsome
    cases hsome
  rename_i hsome
  rw [and_iff_right (Bool.eq_false_iff.2 hsome)]
  split
  · rename_i name hname
    refine iff_of_false nofun fun ⟨hnames, _⟩ ↦ ?_
    have hblank := List.find?_some hname
    rw [hnames name (List.mem_of_find?_eq_some hname)] at hblank
    cases hblank
  rename_i hnames
  rw [and_iff_right fun name hname ↦ Bool.eq_false_iff.2 (List.find?_eq_none.1 hnames name hname)]
  split
  · rename_i hblank
    refine iff_of_false nofun fun ⟨hprogram, _⟩ ↦ ?_
    rw [hblank] at hprogram
    cases hprogram
  rename_i hprogram
  rw [and_iff_right (Bool.eq_false_iff.2 hprogram), NamesSchema]
  cases p.generator.schemaFile <;> cases Text.isBlank p.generator.schema <;> simp

/-- Nothing else than a blank name or a blank program keeps a task from being made. -/
theorem exists_task_iff {name : String} {settings : TaskSettings} :
    (∃ t, p.task projectDir name settings = .ok t) ↔
      Text.isBlank name = false ∧ Text.isBlank p.generator.program = false := by
  have hcommand : (p.draft projectDir name settings).requiredCommand =
      if Text.isBlank p.generator.program then
        .error (.configuration ("task `" ++ name ++ "` has no generator program configured"))
      else .ok (p.command projectDir) := by
    rw [GenerationTask.Draft.requiredCommand, draft]
    dsimp only
    rw [Option.filter_some, command]
    cases Text.isBlank p.generator.program <;> rfl
  rw [task, GenerationTask.Draft.build, hcommand]
  show (∃ t, (if Text.isBlank name = true then _ else _) = Except.ok t) ↔ _
  cases Text.isBlank name with
  | true =>
    refine iff_of_false ?_ ?_
    · rintro ⟨t, ht⟩
      cases ht
    · rintro ⟨hname, -⟩
      cases hname
  | false =>
    cases Text.isBlank p.generator.program with
    | true =>
      refine iff_of_false ?_ ?_
      · rintro ⟨t, ht⟩
        cases ht
      · rintro ⟨-, hprogram⟩
        cases hprogram
    | false => exact iff_of_true ⟨_, rfl⟩ ⟨rfl, rfl⟩

/-- A project has its tasks if each of them can be made. -/
theorem exists_resolve_iff_forall : (∃ tasks, p.resolve projectDir = .ok tasks) ↔
    ∀ entry ∈ p.tasks.entries, ∃ t, p.task projectDir entry.1 entry.2 = .ok t := by
  simp only [resolve_eq_ok_iff]
  generalize p.tasks.entries = entries
  induction entries with
  | nil => exact iff_of_true ⟨[], .nil⟩ (List.forall_mem_nil _)
  | cons entry entries ih =>
    rw [List.forall_mem_cons, ← ih]
    constructor
    · rintro ⟨_, _ | ⟨ht, htasks⟩⟩
      exact ⟨⟨_, ht⟩, _, htasks⟩
    · rintro ⟨⟨t, ht⟩, tasks, htasks⟩
      exact ⟨t :: tasks, .cons ht htasks⟩

/-- What the tasks of a project ask, if there is one. -/
theorem exists_resolve_iff (hsome : p.tasks.isEmpty = false) :
    (∃ tasks, p.resolve projectDir = .ok tasks) ↔
      (∀ name ∈ p.tasks.names, Text.isBlank name = false) ∧
        Text.isBlank p.generator.program = false := by
  simp only [exists_resolve_iff_forall, exists_task_iff, NameMap.names, List.forall_mem_map]
  have hentry : p.tasks.entries ≠ [] := by
    rintro hnil
    rw [NameMap.isEmpty, hnil] at hsome
    cases hsome
  obtain ⟨entry, hentry⟩ := List.exists_mem_of_ne_nil _ hentry
  refine ⟨fun h ↦ ⟨fun e he ↦ (h e he).1, (h entry hentry).2⟩, fun h e he ↦ ⟨h.1 e he, h.2⟩⟩

/-- A valid project has all its tasks, in every directory. -/
theorem exists_resolve_of_validate (h : p.validate = .ok ()) (projectDir : Path) :
    ∃ tasks, p.resolve projectDir = .ok tasks := by
  obtain ⟨hsome, hnames, hprogram, -⟩ := validate_eq_ok_iff.1 h
  exact (exists_resolve_iff hsome).2 ⟨hnames, hprogram⟩

/-- The tasks have the declared names, in their order. -/
theorem map_name_of_resolve {tasks : List GenerationTask} (h : p.resolve projectDir = .ok tasks) :
    tasks.map GenerationTask.name = p.tasks.names := by
  have hall := resolve_eq_ok_iff.1 h
  clear h
  rw [NameMap.names]
  generalize p.tasks.entries = entries at hall
  induction hall with
  | nil => rfl
  | cons ht _ ih => rw [List.map_cons, List.map_cons, ih, (of_task ht).1]

/-- Every task of a project is that of an entry. -/
theorem exists_entry_of_mem {tasks : List GenerationTask} (h : p.resolve projectDir = .ok tasks)
    {t : GenerationTask} (ht : t ∈ tasks) :
    ∃ entry ∈ p.tasks.entries, p.task projectDir entry.1 entry.2 = .ok t := by
  have hall := resolve_eq_ok_iff.1 h
  clear h
  generalize p.tasks.entries = entries at hall
  induction hall with
  | nil => cases ht
  | cons hfirst _ ih =>
    rcases List.mem_cons.1 ht with rfl | ht
    · exact ⟨_, List.mem_cons_self, hfirst⟩
    · obtain ⟨entry, hentry, htask⟩ := ih ht
      exact ⟨entry, List.mem_cons_of_mem _ hentry, htask⟩

end Project

end SchemaForge
