import SchemaForge.Proofs.GenerationTask.Launch
import SchemaForge.Proofs.GenerationTask.OneDatabase
import SchemaForge.Proofs.GenerationTask.Settling

/-!
# Isolated tasks

Tasks that keep out of each other's way come to the same in every order of their steps
(`GenerationTask.generateAll_isolated`).

That their paths keep apart by their texts (`GenerationTask.KeptApart`) is not enough for that. A
path that turns back leads through directories that others create, and what is said of a name that
is too long depends on whether others have created the directory above it
(`GenerationTask.keptApart_orderMatters`).
-/

namespace SchemaForge

open FileSystem Program

namespace GenerationTask

variable {δ κ : Type} {b : Backend δ} {S : Schemas δ κ} {tasks : List GenerationTask}
  {files : FileSystem} {d : δ}

/-! ### All orders -/

/-- Up to times, the same was written and migrated. -/
structure Agree (S : Schemas δ κ) (tasks : List GenerationTask) (w w' : World δ) : Prop where
  output : ∀ t ∈ tasks, ∀ q, t.outputPlace <+: q → w'.files.node? q = w.files.node? q
  document : ∀ t ∈ tasks, ∀ q, t.documentPlace <+: q → w'.files.node? q = w.files.node? q
  history : ∀ schema, (S.history w'.outside schema).map HistoryEntry.untimed =
    (S.history w.outside schema).map HistoryEntry.untimed
  tables : ∀ schema, S.tables w'.outside schema = S.tables w.outside schema

/-- What tasks have, and what is nobody's, is all there is. -/
theorem agree_of_shares {w w' : World δ} (hw : Sound b S tasks files d w)
    (hw' : Sound b S tasks files d w')
    (h : ∀ i, (shares b S tasks files d).share i w' = (shares b S tasks files d).share i w) :
    Agree S tasks w w' := by
  have hcontent (schema : String) : S.content schema w'.outside = S.content schema w.outside := by
    by_cases howned : ∃ t ∈ tasks, t.migratedSchema? = some schema
    · obtain ⟨t, ht, hschema⟩ := howned
      obtain ⟨i, rfl⟩ := List.mem_iff_get.1 ht
      have heq := congrArg Holdings.schema (h i)
      simpa only [shares, holdings, hschema, Option.map_some, Option.some.injEq] using heq
    · have hunowned : ∀ t ∈ tasks, t.migratedSchema? ≠ some schema :=
        fun t ht hschema ↦ howned ⟨t, ht, hschema⟩
      rw [hw.unowned schema hunowned, hw'.unowned schema hunowned]
  refine ⟨fun t ht q hq ↦ ?_, fun t ht q hq ↦ ?_, fun schema ↦ congrArg Prod.fst (hcontent schema),
    fun schema ↦ congrArg Prod.snd (hcontent schema)⟩
  · obtain ⟨i, rfl⟩ := List.mem_iff_get.1 ht
    exact node?_eq_of_branch (congrArg Holdings.output (h i)) hq
  · obtain ⟨i, rfl⟩ := List.mem_iff_get.1 ht
    exact node?_eq_of_branch (congrArg Holdings.document (h i)) hq

/-- **Isolated tasks come to the same in every order** of their steps: each to the answer that it
has when the tasks run one after the other, and together to the same documents, the same output
directories and, up to times, the same schemas. All orders come to an end, and the run of
`generateAll` is one of them. -/
theorem generateAll_isolated (h : Isolated b S tasks files) (d : δ) :
    ∃ r, (inSequence b tasks).run (World.start files d) = some r ∧
      (∀ c q, Completes b tasks (World.start files d) c q →
        q.answer = r.answer ∧ Agree S tasks r.state c.state) ∧
      (∀ ps c, Reaches (programs b tasks) (World.start files d) ps c →
        ∃ order e, turns order ps c = some e ∧ ∀ i, (e.1 i).answer?.isSome = true) ∧
      ∃ c q, (generateAll b tasks).run (World.start files d) = some q ∧
        Completes b tasks (World.start files d) c q := by
  choose a u _ hsettles using h.settled_generate d
  have hend {ps c} {outcomes : Fin tasks.length → Except TaskError Outcome}
      (hreaches : Reaches (programs b tasks) (World.start files d) ps c)
      (houtcomes : ∀ i, (ps i).answer? = some (outcomes i)) :
      Sound b S tasks files d c.state ∧ outcomes = a ∧
        ∀ i, (shares b S tasks files d).share i c.state = u i := by
    have hstart (i) := hsettles i ()
    refine ⟨(hreaches.settles (h.sound_start d) hstart).1, funext fun i ↦ ?_, fun i ↦ ?_⟩
    · exact (hreaches.settled (h.sound_start d) hstart (houtcomes i)).1
    · exact (hreaches.settled (h.sound_start d) hstart (houtcomes i)).2
  obtain ⟨r, hr, -⟩ := ensures_mapM (fun t (_ : t ∈ tasks) ↦ ensures_generate b t) _
    (Build.quiet_start files d)
  obtain ⟨_, c, outcomes, hreaches, houtcomes, hstate, -, hanswer⟩ := exists_reaches_of_inSequence hr
  obtain ⟨hsound, rfl, hshares⟩ := hend hreaches houtcomes
  refine ⟨r, hr, fun c' q hq ↦ ?_, fun _ _ ↦ exists_completed, ?_⟩
  · obtain ⟨_, outcomes', _, hreaches', houtcomes', -, rfl⟩ := hq
    obtain ⟨hsound', rfl, hshares'⟩ := hend hreaches' houtcomes'
    refine ⟨hanswer.symm, hstate ▸ agree_of_shares hsound hsound' fun i ↦ ?_⟩
    rw [hshares, hshares']
  · obtain ⟨q, hq, -⟩ := ensures_generateAll b tasks _ (Build.quiet_start files d)
    obtain ⟨c', hc'⟩ := generateAll_completes b tasks hq
    exact ⟨c', q, hq, hc'⟩

/-! ### Rehearsals -/

/-- The handle of the database of a rehearsal. -/
def rehearsalHandle : DatabaseHandle := ⟨"url", "jdbc", "root", ""⟩

/-- A script, and a schema that accepts every document. -/
def rehearsalFiles : FileSystem where
  nodes := [(locationOf ["db"], .directory none),
    (locationOf ["db", "V1__users.sql"], .file (Utf8.encode "CREATE TABLE users;") false),
    (locationOf ["schema.json"], .file (Utf8.encode "\x7b\x7d") false)]
  workingDirectory := []

/-- The state at the start of a rehearsal. -/
def rehearsalStart : World Rehearsal :=
  World.start rehearsalFiles { handleOf := fun _ ↦ rehearsalHandle }

/-- A task of a rehearsal. It has a directory for itself and migrates the schema of its name. -/
def rehearsed (name : String) : GenerationTask where
  name
  configuration := { generator := { database := { inputSchema := some name } } }
  projectDir := ⟨"/" ++ name⟩
  outputDir := ⟨"/" ++ name ++ "/out"⟩
  workDir := ⟨"/" ++ name ++ "/work"⟩
  migrationsDir := ⟨"/db"⟩
  useContainer := true
  allInputsDeclared := false
  command := { program := "copy" }
  schema := .file ⟨"/schema.json"⟩
  hooks := {}

instance {P : Path → Prop} [DecidablePred P] (source : SchemaSource) :
    Decidable (∀ p, source = .file p → P p) :=
  match source with
  | .bundled _ => .isTrue nofun
  | .file p => decidable_of_iff (P p) ⟨fun h _ hp ↦ SchemaSource.file.inj hp ▸ h, fun h ↦ h p rfl⟩

/-- Two tasks that migrate a schema each and whose generators copy their documents. All succeed, in
every order. -/
theorem generateAll_isolated_copying :
    let tasks := [rehearsed "app", rehearsed "reporting"]
    Isolated (copying rehearsalHandle) Rehearsal.schemas tasks rehearsalFiles ∧
      ∃ r, (inSequence (copying rehearsalHandle) tasks).run rehearsalStart = some r ∧
        r.answer.all (·.isOk) = true ∧
        (r.state.outside.history "app").length = 1 ∧
        r.state.files.node? (locationOf ["app", "out", "copy.json"]) ≠ none ∧
        ∀ c q, Completes (copying rehearsalHandle) tasks rehearsalStart c q →
          q.answer = r.answer ∧ Agree Rehearsal.schemas tasks r.state c.state := by
  intro tasks
  have htasks {t : GenerationTask} (ht : t ∈ tasks) :
      t = rehearsed "app" ∨ t = rehearsed "reporting" := by
    simpa only [tasks, List.mem_cons, List.not_mem_nil, or_false] using ht
  have hisolated : Isolated (copying rehearsalHandle) Rehearsal.schemas tasks rehearsalFiles := {
    plain := isPlain_of_forall_nodes (by decide +kernel)
    absolute := by decide +kernel
    apart := by decide +kernel
    migrations := by decide +kernel
    schemaFile := by decide +kernel
    schemas := by decide +kernel
    database := copying_separates rehearsalHandle
    generators := fun t ht spec hspec ↦ by
      rcases htasks ht with rfl | rfl <;>
      · obtain rfl := Except.ok.inj hspec
        exact copying_confined rehearsalHandle ht (by decide +kernel) (by decide +kernel)
    straight := {
      output := by decide +kernel
      work := by decide +kernel
      migrations := by decide +kernel
      schemaFile := by decide +kernel } }
  have hrun : ((inSequence (copying rehearsalHandle) tasks).run rehearsalStart).any (fun r ↦
      r.answer.all (·.isOk) && decide ((r.state.outside.history "app").length = 1) &&
      decide (r.state.files.node? (locationOf ["app", "out", "copy.json"]) ≠ none)) = true := by
    decide +kernel
  obtain ⟨r, hr, hall, -⟩ := generateAll_isolated hisolated { handleOf := fun _ ↦ rehearsalHandle }
  rw [rehearsalStart, hr, Option.any_some, Bool.and_eq_true, Bool.and_eq_true, decide_eq_true_iff,
    decide_eq_true_iff] at hrun
  exact ⟨hisolated, r, hr, hrun.1.1, hrun.1.2, hrun.2, hall⟩

/-! ### Paths that tell too little -/

/-- In some order the tasks come to other answers than one after the other. -/
def OrderMatters (b : Backend δ) (tasks : List GenerationTask) (w : World δ) : Prop :=
  ∃ r c q, (inSequence b tasks).run w = some r ∧ Completes b tasks w c q ∧ q.answer ≠ r.answer

/-- A task that ends in one order otherwise than one after the other. -/
theorem orderMatters_of_turns {r : Run Build.Event (World δ) (List (Except TaskError Outcome))}
    (hr : (inSequence b tasks).run (World.start files d) = some r)
    {order : List (Fin tasks.length)}
    {e : (Fin tasks.length → Build.Operation δ (Except TaskError Outcome)) ×
      Course (Fin tasks.length) Build.Event (World δ)}
    (he : turns order (programs b tasks) ⟨[], World.start files d⟩ = some e)
    {outcomes : Fin tasks.length → Except TaskError Outcome}
    (hended : ∀ i, (e.1 i).answer? = some (outcomes i)) (hdiffer : List.ofFn outcomes ≠ r.answer) :
    OrderMatters b tasks (World.start files d) := by
  obtain ⟨q, hq, hanswer, -⟩ := exists_completes (Reaches.start.turns he) hended
  exact ⟨r, e.2, q, hr, hq, hanswer ▸ hdiffer⟩

/-- The rehearsal with generators that create a directory in the output directory. -/
def nesting (handle : DatabaseHandle) : Backend Rehearsal where
  __ := copying handle
  finish spec fs r :=
    (⟨some 0, [], []⟩,
      fs.put (spec.workingDir.place [] ++ locationOf ["out", "classes"]) (.directory none), r)

theorem nesting_confined (handle : DatabaseHandle) {t : GenerationTask} (ht : t ∈ tasks)
    {spec : ProcessSpec}
    (houtput : t.outputPlace = spec.workingDir.place [] ++ locationOf ["out"]) :
    Confined (nesting handle) Rehearsal.schemas (places tasks) files t spec := by
  have hclasses : t.outputPlace ++ locationOf ["classes"] =
      spec.workingDir.place [] ++ locationOf ["out", "classes"] := by
    rw [houtput, List.append_assoc]
    rfl
  refine ⟨fun _ _ _ _ _ _ _ ↦ rfl, fun fs d fs' d' _ _ h ↦ ⟨rfl, ?_⟩, fun fs d hfs ↦ ?_,
    fun _ _ _ ↦ rfl⟩
  · have hbranch : fs'.branch t.outputPlace = fs.branch t.outputPlace := congrArg Holdings.output h
    simp only [nesting, ← hclasses]
    rw [branch_put (List.prefix_append ..), branch_put (List.prefix_append ..), hbranch]
  · refine worksAt_of_below (hfs.regular _ (mem_places ht (outputPlace_mem t))) ?_
    simp only [nesting, ← hclasses]
    refine only_put_of_not ?_ _
    rw [Bool.not_eq_false', isBelow_iff]
    exact ⟨List.prefix_append .., by simp [locationOf]⟩

/-- Tasks whose generators create directories, kept apart by their texts. -/
theorem keptApart_nesting (hhooks : ∀ t ∈ tasks, t.hooks.process.isNone = true)
    (houtput : ∀ t ∈ tasks, t.outputPlace = t.projectDir.place [] ++ locationOf ["out"])
    (habsolute : ∀ t ∈ tasks, t.outputDir.isAbsolute = true ∧ t.workDir.isAbsolute = true)
    (hapart : (places tasks).Pairwise FileSystem.Apart)
    (hmigrations : ∀ t ∈ tasks, ∀ place ∈ places tasks,
      FileSystem.Apart (t.migrationsDir.place []) place)
    (hschemaFile : ∀ t ∈ tasks, ∀ p, t.schema = .file p → ∀ place ∈ places tasks,
      FileSystem.Apart (p.place []) place)
    (hschemas : (tasks.filterMap migratedSchema?).Nodup) :
    KeptApart (nesting rehearsalHandle) Rehearsal.schemas tasks rehearsalFiles where
  plain := isPlain_of_forall_nodes (by decide +kernel)
  absolute := habsolute
  apart := hapart
  migrations := hmigrations
  schemaFile := hschemaFile
  schemas := hschemas
  database :=
    have h := copying_separates rehearsalHandle
    ⟨h.start, h.content_start, h.connect, h.target⟩
  generators t ht spec hspec := by
    obtain ⟨-, hdir⟩ := processSpec_eq (Option.isNone_iff_eq_none.1 (hhooks t ht)) hspec
    exact nesting_confined rehearsalHandle ht (hdir ▸ houtput t ht)

/-- The scripts of the second task are found through the directory that the generator of the first
creates. -/
def turningBack : List GenerationTask :=
  [{ rehearsed "app" with useContainer := false },
    { rehearsed "reporting" with migrationsDir := ⟨"/app/out/classes/../../../db"⟩ }]

/-- The schema file of the second task has a name of 256 bytes, in the directory of the first. -/
def longNamed : List GenerationTask :=
  [{ rehearsed "app" with useContainer := false },
    { rehearsed "reporting" with
      useContainer := false
      schema := .file ⟨"/app/" ++ String.ofList (List.replicate 64 '😀')⟩ }]

/-- Scripts that are found once a generator has ended are not yet found when all tasks go as far as
the start of their generators first. -/
theorem orderMatters_turningBack :
    OrderMatters (nesting rehearsalHandle) turningBack rehearsalStart := by
  let migrated (answers : List (Except TaskError Outcome)) :=
    answers.map fun a ↦ a.toOption.map fun o ↦ o.migrations.length
  have hrun : ((inSequence (nesting rehearsalHandle) turningBack).run rehearsalStart).map
      (fun r ↦ migrated r.answer) = some [some 0, some 1] := by
    decide +kernel
  have hrunAll : ((generateAll (nesting rehearsalHandle) turningBack).run rehearsalStart).map
      (fun q ↦ migrated q.answer) = some [some 0, some 0] := by
    decide +kernel
  obtain ⟨r, hr, hmigrated⟩ := Option.map_eq_some_iff.1 hrun
  obtain ⟨q, hq, hmigratedAll⟩ := Option.map_eq_some_iff.1 hrunAll
  obtain ⟨c, hc⟩ := generateAll_completes (nesting rehearsalHandle) turningBack hq
  refine ⟨r, c, q, hr, hc, fun h ↦ ?_⟩
  rw [h, hmigrated] at hmigratedAll
  cases hmigratedAll

/-- A name that is too long is refused once the directory above it is there, and missing before. -/
theorem orderMatters_longNamed :
    OrderMatters (nesting rehearsalHandle) longNamed rehearsalStart := by
  let name := "/app/" ++ String.ofList (List.replicate 64 '😀')
  let missing (a : Except TaskError Outcome) : Bool :=
    decide ((a.mapError (·.cause)).map (fun _ ↦ ()) = .error (.schemaMissing name))
  let first : Fin longNamed.length := ⟨0, by decide⟩
  let second : Fin longNamed.length := ⟨1, by decide⟩
  have hrun : ((inSequence (nesting rehearsalHandle) longNamed).run rehearsalStart).map
      (fun r ↦ r.answer[1]?.map missing) = some (some false) := by
    decide +kernel
  -- the second task comes to its end before the first begins
  have hturns : (turns ([second, second] ++ List.replicate 4 first)
      (programs (nesting rehearsalHandle) longNamed) ⟨[], rehearsalStart⟩).map
        (fun e ↦ ((e.1 first).answer?.isSome, (e.1 second).answer?.map missing)) =
          some (true, some true) := by
    decide +kernel
  obtain ⟨r, hr, hrefused⟩ := Option.map_eq_some_iff.1 hrun
  obtain ⟨e, he, hended⟩ := Option.map_eq_some_iff.1 hturns
  obtain ⟨hfirst, hsecond⟩ := Prod.mk.inj hended
  obtain ⟨a, ha⟩ := Option.isSome_iff_exists.1 hfirst
  obtain ⟨a', ha', hmissing⟩ := Option.map_eq_some_iff.1 hsecond
  have hanswers : ∀ i, (e.1 i).answer? = some (if i = first then a else a') := by
    intro i
    rcases (by decide : ∀ i : Fin longNamed.length, i = first ∨ i = second) i with rfl | rfl
    · exact ha
    · exact ha'
  refine orderMatters_of_turns hr he hanswers fun h ↦ ?_
  have hanswer : r.answer[1]? = some a' := by
    rw [← h]
    rfl
  rw [hanswer, Option.map_some, hmissing] at hrefused
  cases hrefused

/-- **It is not enough that the texts of paths keep apart**: that paths never turn back, and that
the names of a schema file are short, can neither be left out. -/
theorem keptApart_orderMatters :
    (KeptApart (nesting rehearsalHandle) Rehearsal.schemas turningBack rehearsalFiles ∧
      OrderMatters (nesting rehearsalHandle) turningBack rehearsalStart) ∧
    KeptApart (nesting rehearsalHandle) Rehearsal.schemas longNamed rehearsalFiles ∧
      OrderMatters (nesting rehearsalHandle) longNamed rehearsalStart := by
  refine ⟨⟨?_, orderMatters_turningBack⟩, ?_, orderMatters_longNamed⟩
  · exact keptApart_nesting (by decide +kernel) (by decide +kernel) (by decide +kernel)
      (by decide +kernel) (by decide +kernel) (by decide +kernel) (by decide +kernel)
  · exact keptApart_nesting (by decide +kernel) (by decide +kernel) (by decide +kernel)
      (by decide +kernel) (by decide +kernel) (by decide +kernel) (by decide +kernel)

end GenerationTask

end SchemaForge
