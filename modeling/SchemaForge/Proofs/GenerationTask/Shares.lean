import SchemaForge.Proofs.GenerationTask.Files
import SchemaForge.Proofs.GenerationTask.Together
import SchemaForge.Proofs.Migration.Schemas
import SchemaForge.Proofs.Program.Isolation

/-!
# What a task has for itself

A task has its output directory, its document, and the schema that it migrates
(`GenerationTask.Holdings`). Tasks are isolated (`GenerationTask.Isolated`) if these are apart from
each other and from whatever else they read, and if neither generators nor scripts reach beyond what
is theirs. Then a step of one task leaves what the others have, and all that they rely on
(`GenerationTask.Sound`), as it was.
-/

namespace SchemaForge

namespace GenerationTask

open FileSystem Program

variable {δ κ : Type}

/-! ### The holdings of a task -/

/-- Where the output directory is. -/
def outputPlace (t : GenerationTask) : Location := t.outputDir.place []

/-- Where the document is. -/
def documentPlace (t : GenerationTask) : Location := t.documentPath.place []

/-- Where the task writes. -/
def ownPlaces (t : GenerationTask) : List Location := [t.outputPlace, t.documentPlace]

/-- Where tasks write. -/
def places (tasks : List GenerationTask) : List Location := tasks.flatMap ownPlaces

/-- The schema that the task migrates, if it does. -/
def migratedSchema? (t : GenerationTask) : Option String :=
  if t.engagesContainer then t.requiredSchema.toOption else none

/-- What nobody but a task changes: what is in its output directory, its document, and what counts
of its schema. -/
structure Holdings (κ : Type) where
  output : FileSystem
  document : FileSystem
  schema : Option (List HistoryEntry × κ)

/-- What the task has of files and databases. -/
def holdings (S : Schemas δ κ) (t : GenerationTask) (files : FileSystem) (d : δ) : Holdings κ where
  output := files.branch t.outputPlace
  document := files.branch t.documentPlace
  schema := t.migratedSchema?.map (S.content · d)

/-- The generator of a task works in the output directory, and what it does there depends on what
the task has. The other files that it may read, nobody writes. -/
structure Confined (b : Backend δ) (S : Schemas δ κ) (places : List Location) (files : FileSystem)
    (t : GenerationTask) (spec : ProcessSpec) : Prop where
  launch : ∀ fs d fs' d', Around places files fs → Around places files fs' →
    t.holdings S fs' d' = t.holdings S fs d → b.launch spec fs' d' = b.launch spec fs d
  finish : ∀ fs d fs' d', Around places files fs → Around places files fs' →
    t.holdings S fs' d' = t.holdings S fs d →
      (b.finish spec fs' d').1 = (b.finish spec fs d).1 ∧
        (b.finish spec fs' d').2.1.branch t.outputPlace =
          (b.finish spec fs d).2.1.branch t.outputPlace
  worksAt : ∀ fs d, Around places files fs →
    WorksAt t.outputPlace fs (b.finish spec fs d).2.1
  content : ∀ fs d schema, S.content schema (b.finish spec fs d).2.2 = S.content schema d

/-- The tasks keep out of each other's way, from a file tree on, as far as their paths tell by their
texts. -/
structure KeptApart (b : Backend δ) (S : Schemas δ κ) (tasks : List GenerationTask)
    (files : FileSystem) : Prop where
  plain : files.IsPlain
  absolute : ∀ t ∈ tasks, t.outputDir.isAbsolute = true ∧ t.workDir.isAbsolute = true
  /-- Output directories and documents are apart from each other, -/
  apart : (places tasks).Pairwise FileSystem.Apart
  /-- and so are they from what is read. -/
  migrations : ∀ t ∈ tasks, ∀ place ∈ places tasks,
    FileSystem.Apart (t.migrationsDir.place files.workingDirectory) place
  schemaFile : ∀ t ∈ tasks, ∀ p, t.schema = .file p → ∀ place ∈ places tasks,
    FileSystem.Apart (p.place files.workingDirectory) place
  /-- No two tasks migrate one schema. -/
  schemas : (tasks.filterMap migratedSchema?).Nodup
  database : b.Separates S
  generators : ∀ t ∈ tasks, ∀ spec, t.processSpec = .ok spec →
    Confined b S (places tasks) files t spec

/-- The paths of the tasks never turn back, so they do not lead through directories that others may
have created, and the names of a schema file are such that it can be told to be missing. -/
structure Straight (tasks : List GenerationTask) : Prop where
  output : ∀ t ∈ tasks, t.outputDir.Forward
  work : ∀ t ∈ tasks, t.workDir.Forward
  migrations : ∀ t ∈ tasks, t.migrationsDir.Forward
  schemaFile : ∀ t ∈ tasks, ∀ p, t.schema = .file p → p.Forward ∧ Short p.way

/-- The tasks keep out of each other's way. -/
structure Isolated (b : Backend δ) (S : Schemas δ κ) (tasks : List GenerationTask)
    (files : FileSystem) : Prop extends KeptApart b S tasks files where
  straight : Straight tasks

/-- What tasks rely on while others run. -/
structure Sound (b : Backend δ) (S : Schemas δ κ) (tasks : List GenerationTask)
    (files : FileSystem) (d : δ) (w : World δ) : Prop where
  files : Around (places tasks) files w.files
  services : Build.OnlyMysql w
  released : (Build.mysql w).released = false
  cell : ∀ outcome, (Build.mysql w).cell = .settled outcome →
    outcome = DatabaseService.rendered (b.start d).1
  unowned : ∀ schema, (∀ t ∈ tasks, t.migratedSchema? ≠ some schema) →
    S.content schema w.outside = S.content schema d

/-- The shares of the tasks of a build. -/
def shares (b : Backend δ) (S : Schemas δ κ) (tasks : List GenerationTask) (files : FileSystem)
    (d : δ) : Shares (Fin tasks.length) (World δ) (Holdings κ) where
  sound := Sound b S tasks files d
  share i w := (tasks.get i).holdings S w.files w.outside

variable {b : Backend δ} {S : Schemas δ κ} {tasks : List GenerationTask} {files : FileSystem} {d : δ}
  {i j : Fin tasks.length} {w : World δ} {place : Location}

theorem Isolated.sound_start (h : Isolated b S tasks files) (d : δ) :
    Sound b S tasks files d (World.start files d) where
  files := .refl h.plain.regular
  services := Or.inl rfl
  released := rfl
  cell _ hcell := nomatch hcell
  unowned _ _ := rfl

/-! ### Apart from each other -/

theorem mem_places {t : GenerationTask} (ht : t ∈ tasks) (hplace : place ∈ t.ownPlaces) :
    place ∈ places tasks :=
  List.mem_flatMap.2 ⟨t, ht, hplace⟩

theorem outputPlace_mem (t : GenerationTask) : t.outputPlace ∈ t.ownPlaces := List.mem_cons_self

theorem documentPlace_mem (t : GenerationTask) : t.documentPlace ∈ t.ownPlaces :=
  List.mem_cons_of_mem _ List.mem_cons_self

/-- What one task writes is apart from what another does. -/
theorem Isolated.apart_of_ne (h : Isolated b S tasks files) (hij : j ≠ i) {a c : Location}
    (ha : a ∈ (tasks.get j).ownPlaces) (hc : c ∈ (tasks.get i).ownPlaces) :
    FileSystem.Apart a c := by
  have hpairwise := List.pairwise_iff_get.1 (List.pairwise_flatMap.1 h.apart).2
  rcases lt_or_gt_of_ne hij with hlt | hgt
  · exact hpairwise j i hlt a ha c hc
  · exact (hpairwise i j hgt c hc a ha).symm

theorem Isolated.apart_own (h : Isolated b S tasks files) {t : GenerationTask} (ht : t ∈ tasks) :
    FileSystem.Apart t.outputPlace t.documentPlace :=
  List.rel_of_pairwise_cons ((List.pairwise_flatMap.1 h.apart).1 t ht) List.mem_cons_self

theorem Isolated.apart_places (h : Isolated b S tasks files) (hplace : place ∈ places tasks)
    {other : Location} (hother : other ∈ places tasks) (hne : other ≠ place) :
    FileSystem.Apart other place :=
  h.apart.forall hother hplace hne

/-- No task works at the root. -/
theorem Isolated.ne_nil (h : Isolated b S tasks files) {t : GenerationTask} (ht : t ∈ tasks) :
    t.outputPlace ≠ [] ∧ t.documentPlace ≠ [] := by
  obtain ⟨houtput, hdocument⟩ := h.apart_own ht
  exact ⟨fun heq ↦ houtput (heq ▸ List.nil_prefix), fun heq ↦ hdocument (heq ▸ List.nil_prefix)⟩

theorem Isolated.direct_output (h : Isolated b S tasks files) {t : GenerationTask} (ht : t ∈ tasks) :
    t.outputDir.Direct :=
  ⟨(h.absolute t ht).1, h.straight.output t ht⟩

theorem Isolated.direct_document (h : Isolated b S tasks files) {t : GenerationTask}
    (ht : t ∈ tasks) : t.documentPath.Direct :=
  Path.Direct.join ⟨(h.absolute t ht).2, h.straight.work t ht⟩ (by decide)

/-- No two tasks migrate one schema. -/
theorem Isolated.schema_ne (h : Isolated b S tasks files) (hij : j ≠ i) {schema : String}
    (hi : (tasks.get i).migratedSchema? = some schema) :
    (tasks.get j).migratedSchema? ≠ some schema := by
  have hpairwise := List.pairwise_iff_get.1 (List.pairwise_filterMap.1 h.schemas)
  intro hj
  rcases lt_or_gt_of_ne hij with hlt | hgt
  · exact hpairwise j i hlt schema hj schema hi rfl
  · exact hpairwise i j hgt schema hi schema hj rfl

/-! ### What a step leaves to others -/

/-- **Work at a place of a task** leaves what others have as it is. -/
theorem Isolated.keeps_of_worksAt (h : Isolated b S tasks files) (hw : Sound b S tasks files d w)
    (hplace : place ∈ (tasks.get i).ownPlaces) {files' : FileSystem}
    (hwork : WorksAt place w.files files') {d' : δ}
    (hcontent : ∀ schema, S.content schema d' = S.content schema w.outside) :
    (shares b S tasks files d).Keeps i w { w with files := files', outside := d' } := by
  have hmem := mem_places (List.get_mem tasks i) hplace
  refine ⟨⟨hw.files.step hmem (fun _ ↦ h.apart_places hmem) hwork, hw.services, hw.released, hw.cell,
    fun schema hschema ↦ (hcontent schema).trans (hw.unowned schema hschema)⟩, fun j hji ↦ ?_⟩
  have hbranch {other : Location} (hother : other ∈ (tasks.get j).ownPlaces) :
      files'.branch other = w.files.branch other :=
    hwork.branch_of_apart (h.apart_of_ne hji hother hplace)
  show Holdings.mk _ _ _ = Holdings.mk _ _ _
  simp only [hbranch (outputPlace_mem _), hbranch (documentPlace_mem _), hcontent]

/-- **An operation on the schema of a task** leaves what others have as it is. -/
theorem Isolated.keeps_of_local {ι α χ : Type} (h : Isolated b S tasks files)
    (hw : Sound b S tasks files d w) {schema : String}
    (hschema : (tasks.get i).migratedSchema? = some schema) {kind : α → χ} {op : ι → δ → α × δ}
    (hlocal : S.Local schema kind op) (k : ι) :
    (shares b S tasks files d).Keeps i w { w with outside := (op k w.outside).2 } := by
  refine ⟨⟨hw.files, hw.services, hw.released, hw.cell, fun other hother ↦ ?_⟩, fun j hji ↦ ?_⟩
  · rw [← hw.unowned other hother]
    refine hlocal.others k w.outside other fun heq ↦ hother _ (List.get_mem tasks i) ?_
    rw [heq, hschema]
  · have hne := h.schema_ne hji hschema
    show Holdings.mk _ _ _ = Holdings.mk _ _ _
    cases hother : (tasks.get j).migratedSchema? with
    | none => rfl
    | some other =>
      rw [hother] at hne
      have hcontent := hlocal.others k w.outside other fun heq ↦ hne (congrArg some heq)
      simp only [Option.map_some, hcontent]

/-- Locks are nobody's. -/
theorem Sound.of_locks (hw : Sound b S tasks files d w) (locks : List (String × String)) :
    Sound b S tasks files d { w with locks } :=
  ⟨hw.files, hw.services, hw.released, hw.cell, hw.unowned⟩

/-- A step on the database that changes no schema leaves what everybody has as it is. -/
theorem Sound.of_service (hw : Sound b S tasks files d w) {s : DatabaseService} {d' : δ}
    (hname : s.name = Defaults.databaseService) (hreleased : s.released = false)
    (hcell : ∀ outcome, s.cell = .settled outcome →
      outcome = DatabaseService.rendered (b.start d).1)
    (hcontent : ∀ schema, S.content schema d' = S.content schema w.outside) :
    Sound b S tasks files d { w.putService s with outside := d' } ∧
      ∀ j, (shares b S tasks files d).share j { w.putService s with outside := d' } =
        (shares b S tasks files d).share j w := by
  have hservices := Build.services_putService hw.services hname
  have hmysql : Build.mysql { w.putService s with outside := d' } = s :=
    Build.mysql_of_services hservices
  refine ⟨⟨hw.files, Or.inr ⟨s, hservices, hname⟩, by rw [hmysql]; exact hreleased,
    by rw [hmysql]; exact hcell,
    fun schema hschema ↦ (hcontent schema).trans (hw.unowned schema hschema)⟩, fun j ↦ ?_⟩
  show Holdings.mk _ _ _ = Holdings.mk _ _ _
  simp only [hcontent]
  rfl

/-! ### A rehearsal -/

/-- A file in a directory. -/
def locationOf (names : List String) : Location := names.map RawText.ofText

/-- What a generator makes of a document: a copy of it in the output directory, both in the
directory where it is started. -/
def copyDocument (dir : Location) (fs : FileSystem) : FileSystem :=
  match fs.node? (dir ++ locationOf ["work", "codegen-config.json"]) with
  | some document => fs.put (dir ++ locationOf ["out", "copy.json"]) document
  | none => fs

/-- A rehearsal with one database, whose generators copy the documents. -/
def copying (handle : DatabaseHandle) : Backend Rehearsal where
  start r := (.ok ⟨1, handle⟩, r.note .start)
  stop := Rehearsal.stop
  connect := Rehearsal.connect
  launch _ _ _ := .ok ()
  finish spec fs r := (⟨some 0, [], []⟩, copyDocument (spec.workingDir.place []) fs, r)
  validator := Schema.validator

theorem copying_separates (handle : DatabaseHandle) :
    (copying handle).Separates Rehearsal.schemas where
  start _ _ := rfl
  content_start _ _ := rfl
  connect handle schema := Rehearsal.local_of_rules
    (fun r r' h ↦ by simp only [copying, Rehearsal.connect, h]) (fun _ ↦ rfl) fun _ ↦ rfl
  target handle d target h := by
    simp only [copying, Rehearsal.connect] at h
    cases hrule : Rehearsal.outcome d.rules.connect with
    | error e =>
      rw [hrule] at h
      cases h
    | ok u =>
      rw [hrule] at h
      cases h
      exact Rehearsal.target_separates

/-- A generator that copies the document keeps to its task. -/
theorem copying_confined (handle : DatabaseHandle) {t : GenerationTask} (ht : t ∈ tasks)
    {spec : ProcessSpec}
    (houtput : t.outputPlace = spec.workingDir.place [] ++ locationOf ["out"])
    (hdocument : t.documentPlace =
      spec.workingDir.place [] ++ locationOf ["work", "codegen-config.json"]) :
    Confined (copying handle) Rehearsal.schemas (places tasks) files t spec where
  launch _ _ _ _ _ _ _ := rfl
  finish fs d fs' d' _ _ h := by
    have hnode := node?_eq_of_branch (congrArg Holdings.document h) List.prefix_rfl
    have hbranch : fs'.branch t.outputPlace = fs.branch t.outputPlace :=
      congrArg Holdings.output h
    have hcopy : t.outputPlace <+: spec.workingDir.place [] ++ locationOf ["out", "copy.json"] := by
      rw [houtput]
      exact (List.prefix_append_right_inj _).2 ⟨[RawText.ofText "copy.json"], rfl⟩
    refine ⟨rfl, ?_⟩
    simp only [copying, copyDocument, ← hdocument, hnode]
    cases fs.node? t.documentPlace with
    | none => exact hbranch
    | some document =>
      dsimp only
      rw [branch_put hcopy, branch_put hcopy, hbranch]
  worksAt fs d hfs := by
    have hregular := hfs.regular _ (mem_places ht (outputPlace_mem t))
    refine worksAt_of_below hregular ?_
    simp only [copying, copyDocument]
    cases fs.node? _ with
    | none => rfl
    | some document =>
      refine only_put_of_not ?_ _
      rw [Bool.not_eq_false', isBelow_iff, houtput]
      exact ⟨(List.prefix_append_right_inj _).2 ⟨[RawText.ofText "copy.json"], rfl⟩,
        by simp [locationOf]⟩
  content _ _ _ := rfl

end GenerationTask

end SchemaForge
