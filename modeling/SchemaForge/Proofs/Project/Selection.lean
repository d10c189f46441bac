import Mathlib.Data.List.Nodup
import SchemaForge.Proofs.Project.Validation

/-!
# Selecting tasks of a project

All tasks of a project are made before some of them are selected by their names, so a selection
could fail by a task that it does not ask for. In a valid project none does: a selection fails
exactly by a name that is not declared, and else it is the part of all tasks that it names, in
ascending order of the names and each task once, however the selection is written
(`Project.select_selects`).

The check of a project and the making of its tasks agree, if there is a task and the schema of the
documents is given; for these the check asks besides.
-/

namespace SchemaForge

theorem NameMap.find?_isNone_iff {α : Type} {map : NameMap α} {name : String} :
    (map.find? name).isNone = true ↔ name ∉ map.names := by
  rw [find?, Names.find?, Option.isNone_map, Option.isNone_iff_eq_none, List.find?_eq_none, names]
  simp only [beq_iff_eq, List.mem_map, not_exists, not_and]

/-- The names are in ascending order, each of them once. -/
theorem NameMap.pairwise_names {α : Type} (map : NameMap α) : map.names.Pairwise (· < ·) :=
  List.pairwise_map.2 map.ascending

namespace Project

variable {p : Project} {projectDir : Path} {only : List String}

/-! ### Selections -/

theorem exists_error_of_notMem {name : String} (hname : name ∈ only)
    (hunknown : name ∉ p.tasks.names) (projectDir : Path) :
    ∃ e, p.select projectDir only = .error e := by
  rw [select]
  split
  · exact ⟨_, rfl⟩
  · rename_i hknown
    exact absurd (NameMap.find?_isNone_iff.2 hunknown) (List.find?_eq_none.1 hknown name hname)

/-- A selection of declared names is a part of all tasks. -/
theorem select_of_forall_mem {all : List GenerationTask} (hall : p.resolve projectDir = .ok all)
    (honly : ∀ name ∈ only, name ∈ p.tasks.names) :
    p.select projectDir only = .ok (all.filter fun t ↦ only = [] ∨ t.name ∈ only) := by
  have hknown : (only.find? fun name ↦ (p.tasks.find? name).isNone) = none := by
    rw [List.find?_eq_none]
    exact fun name hname h ↦ NameMap.find?_isNone_iff.1 h (honly name hname)
  rw [select, hknown]
  dsimp only
  rw [hall]
  refine congrArg Except.ok (List.filter_congr fun t _ ↦ ?_)
  cases only <;> simp

/-- If all tasks can be made, a selection fails exactly by a name that is not declared. -/
theorem exists_error_iff {all : List GenerationTask} (hall : p.resolve projectDir = .ok all) :
    (∃ e, p.select projectDir only = .error e) ↔ ∃ name ∈ only, name ∉ p.tasks.names := by
  constructor
  · rintro ⟨e, herror⟩
    by_contra hdeclared
    push Not at hdeclared
    rw [select_of_forall_mem hall hdeclared] at herror
    cases herror
  · rintro ⟨name, hname, hunknown⟩
    exact exists_error_of_notMem hname hunknown projectDir

/-- A selection that does not fail is the part of all tasks that it asks for. -/
theorem eq_filter_of_select {all tasks : List GenerationTask}
    (hall : p.resolve projectDir = .ok all) (h : p.select projectDir only = .ok tasks) :
    tasks = all.filter fun t ↦ only = [] ∨ t.name ∈ only := by
  by_cases honly : ∀ name ∈ only, name ∈ p.tasks.names
  · exact Except.ok.inj (h.symm.trans (select_of_forall_mem hall honly))
  · push Not at honly
    obtain ⟨name, hname, hunknown⟩ := honly
    obtain ⟨e, herror⟩ := exists_error_of_notMem hname hunknown projectDir
    cases h.symm.trans herror

/-- **Selecting tasks**: in a valid project a selection fails exactly by a name that is not
declared, and else it is the tasks of the declared names that it asks for, each once, in ascending
order of the names, and as they are among all tasks. Where there is a task and a schema, the check
of a project accepts it exactly if its tasks can be made. -/
theorem select_selects (p : Project) :
    (p.validate = .ok () → ∀ (projectDir : Path) (only : List String),
      ∃ all, p.resolve projectDir = .ok all ∧ all.map GenerationTask.name = p.tasks.names ∧
        ((∃ e, p.select projectDir only = .error e) ↔ ∃ name ∈ only, name ∉ p.tasks.names) ∧
        ∀ tasks, p.select projectDir only = .ok tasks →
          tasks.map GenerationTask.name =
            p.tasks.names.filter (fun name ↦ only = [] ∨ name ∈ only) ∧
          (tasks.map GenerationTask.name).Pairwise (· < ·) ∧
          ∀ t ∈ tasks, t ∈ all ∧ ∀ u ∈ all, u.name = t.name → u = t) ∧
    (p.tasks.isEmpty = false → p.NamesSchema → ∀ projectDir,
      (p.validate = .ok () ↔ ∃ tasks, p.resolve projectDir = .ok tasks)) := by
  refine ⟨fun hvalid projectDir only ↦ ?_, fun hsome hschema projectDir ↦ ?_⟩
  · obtain ⟨all, hall⟩ := exists_resolve_of_validate hvalid projectDir
    have hnames := map_name_of_resolve hall
    refine ⟨all, hall, hnames, exists_error_iff hall, fun tasks htasks ↦ ?_⟩
    have hselected : tasks.map GenerationTask.name =
        p.tasks.names.filter fun name ↦ only = [] ∨ name ∈ only := by
      rw [eq_filter_of_select hall htasks, ← hnames, List.filter_map]
      rfl
    refine ⟨hselected, hselected ▸ p.tasks.pairwise_names.filter _, fun t ht ↦ ?_⟩
    have hmem : t ∈ all := List.mem_of_mem_filter (eq_filter_of_select hall htasks ▸ ht)
    have hnodup : (all.map GenerationTask.name).Nodup :=
      hnames ▸ p.tasks.pairwise_names.imp String.ne_of_lt
    exact ⟨hmem, fun u hu hname ↦ List.inj_on_of_nodup_map hnodup hu hmem hname⟩
  · rw [validate_eq_ok_iff, exists_resolve_iff hsome]
    exact ⟨fun ⟨_, hblank, hprogram, _⟩ ↦ ⟨hblank, hprogram⟩,
      fun ⟨hblank, hprogram⟩ ↦ ⟨hsome, hblank, hprogram, hschema⟩⟩

/-- Two of three tasks, selected with a repeated name and against the order of the names, and a
selection with a name that is not declared. -/
theorem select_selects_repeated :
    ∃ p : Project, p.tasks.names = ["audit", "main", "reporting"] ∧
      p.validate = .ok () ∧
      (∃ tasks, p.select ⟨"/work/app"⟩ ["reporting", "audit", "reporting"] = .ok tasks ∧
        tasks.map GenerationTask.name = ["audit", "reporting"]) ∧
      (∃ e, p.select ⟨"/work/app"⟩ ["main", "absent"] = .error e) ∧
      p.tasks.isEmpty = false ∧ p.NamesSchema ∧ ∃ tasks, p.resolve ⟨"/work/app"⟩ = .ok tasks := by
  obtain ⟨p, hnames, hvalid⟩ : ∃ p : Project,
      p.tasks.names = ["audit", "main", "reporting"] ∧ p.validate = .ok () :=
    ⟨{ generator := { program := "java" }
       tasks := ⟨[("audit", {}), ("main", {}), ("reporting", {})],
         List.pairwise_map.1 (by decide)⟩ }, rfl, by decide⟩
  obtain ⟨hselect, hresolve⟩ := select_selects p
  obtain ⟨hsome, -, -, hschema⟩ := validate_eq_ok_iff.1 hvalid
  refine ⟨p, hnames, hvalid, ?_, ?_, hsome, hschema,
    (hresolve hsome hschema ⟨"/work/app"⟩).1 hvalid⟩
  · obtain ⟨_, -, -, hfails, hpart⟩ :=
      hselect hvalid ⟨"/work/app"⟩ ["reporting", "audit", "reporting"]
    cases hselected : p.select ⟨"/work/app"⟩ ["reporting", "audit", "reporting"] with
    | error e =>
      have hunknown := hfails.1 ⟨e, hselected⟩
      rw [hnames] at hunknown
      exact absurd hunknown (by decide)
    | ok tasks =>
      refine ⟨tasks, rfl, (hpart tasks hselected).1.trans ?_⟩
      rw [hnames]
      decide
  · obtain ⟨_, -, -, hfails, -⟩ := hselect hvalid ⟨"/work/app"⟩ ["main", "absent"]
    exact hfails.2 ⟨"absent", by decide, by rw [hnames]; decide⟩

end Project

end SchemaForge
