import SchemaForge.Proofs.GenerationTask.Shares

/-!
# What an isolated task comes to

The run of an isolated task, followed along its text: each of its steps leaves what others have as
it is, and what it does and answers depends on what the task has itself. So the run has one answer
and leaves one thing behind, whatever others do between its steps
(`GenerationTask.Isolated.settled_generate`). Who starts the database, and how long a script takes,
makes a difference on the way but none in the end.
-/

namespace SchemaForge

open FileSystem Program

instance : Inhabited Error := ⟨.configuration ""⟩

instance : Inhabited TaskError := ⟨⟨"", .checks, default⟩⟩

namespace GenerationTask

variable {δ κ ι α β χ : Type} {b : Backend δ} {S : Schemas δ κ} {tasks : List GenerationTask}
  {files : FileSystem} {d : δ} {i : Fin tasks.length} {u v w : Holdings κ} {schema : String}

/-- The files are the same. -/
def Holdings.FilesAs (v u : Holdings κ) : Prop := v.output = u.output ∧ v.document = u.document

/-! ### The database -/

/-- The rule for an operation on the schema of a task. -/
theorem Isolated.settled_outside (h : Isolated b S tasks files)
    (hschema : (tasks.get i).migratedSchema? = some schema) {kind : α → χ} {op : ι → δ → α × δ}
    (hlocal : S.Local schema kind op) {event : ι → α → Build.Event}
    {next : ι → α → Build.Operation δ β} (hv : v.FilesAs u) {Q : β → Holdings κ → Prop}
    (hQ : ∃ a w, Q a w)
    (hnext : ∀ k x w, w.FilesAs u → Settled (shares b S tasks files d) i
      (fun j : ι × {c // kind c = kind (op k x).1} ↦ next j.1 j.2) w Q) :
    Settled (shares b S tasks files d) i
      (fun k ↦ perform
        (fun w : World δ ↦ ((op k w.outside).1, { w with outside := (op k w.outside).2 })) (event k) >>=
          next k) v Q := by
  refine settled_perform kind hQ (fun k s hs _ ↦ h.keeps_of_local hs hschema hlocal k) ?_ ?_
  · intro k s k' s' hs hshare hs' hshare'
    have hcontent : S.content schema s'.outside = S.content schema s.outside := by
      have heq := congrArg Holdings.schema (hshare'.trans hshare.symm)
      simpa only [shares, holdings, hschema, Option.map_some, Option.some.injEq] using heq
    have hafter := hlocal.content k s.outside k' s'.outside hcontent
    refine ⟨hlocal.answer k s.outside k' s'.outside hcontent, ?_⟩
    have heq := hshare'.trans hshare.symm
    simp only [shares, holdings, hschema, Option.map_some, Holdings.mk.injEq] at heq ⊢
    exact ⟨heq.1, heq.2.1, congrArg some hafter⟩
  · intro k s hs hshare
    refine hnext k s.outside _ ?_
    rw [← hshare] at hv
    exact hv

/-- The rule for an operation whose answer counts. -/
theorem Isolated.settled_outside_id (h : Isolated b S tasks files)
    (hschema : (tasks.get i).migratedSchema? = some schema) {op : ι → δ → α × δ}
    (hlocal : S.Local schema id op) {event : ι → α → Build.Event}
    {next : ι → α → Build.Operation δ β} (hv : v.FilesAs u) {Q : β → Holdings κ → Prop}
    (hQ : ∃ a w, Q a w)
    (hnext : ∀ k x w, w.FilesAs u →
      Settled (shares b S tasks files d) i (fun j ↦ next j (op k x).1) w Q) :
    Settled (shares b S tasks files d) i
      (fun k ↦ perform
        (fun w : World δ ↦ ((op k w.outside).1, { w with outside := (op k w.outside).2 })) (event k) >>=
          next k) v Q := by
  exact h.settled_outside hschema hlocal hv hQ fun k x w hw ↦ (hnext k x w hw).exact

theorem untimed_entryOf {e : Migration.Execution} {outcome : Except Error Unit}
    (h : e.outcome = outcome) (rank : Nat) (s : Script) :
    (Migration.entryOf rank s e).untimed = Migration.entryOf rank s ⟨outcome, 0⟩ := by
  rw [← h]
  rfl

variable {target : Migration.Target δ}

/-- Running scripts comes to the same, whatever the times. -/
theorem Isolated.settled_runPending (h : Isolated b S tasks files)
    (hschema : (tasks.get i).migratedSchema? = some schema) (htarget : target.Separates S)
    (rank : Nat) (scripts : List Script) (hv : v.FilesAs u) :
    Settled (shares b S tasks files d) i
      (fun _ : ι ↦ Build.outside (Migration.runPending target schema rank scripts)) v
        fun _ w ↦ w.FilesAs u := by
  suffices hunit : ∀ v : Holdings κ, v.FilesAs u → Settled (shares b S tasks files d) i
      (fun _ : Unit ↦ Build.outside (Migration.runPending target schema rank scripts)) v
        fun _ w ↦ w.FilesAs u from (hunit v hv).comp fun _ ↦ ()
  clear hv
  induction scripts generalizing rank with
  | nil => exact fun v hv ↦ settled_pure hv
  | cons s ss ih =>
    intro v hv
    have hQ : ∃ (a : Except Error (List Migration.Applied)) (w : Holdings κ), w.FilesAs u :=
      ⟨default, v, hv⟩
    refine h.settled_outside hschema (htarget.execute schema s) hv hQ fun _ x w hw ↦ ?_
    generalize (target.execute schema s x).1.outcome = outcome
    -- the rows to be recorded differ in their times only
    have hrecord := (htarget.record schema (Migration.entryOf rank s ⟨outcome, 0⟩)).comp
      fun k : Unit × {e : Migration.Execution // e.outcome = outcome} ↦
        ⟨Migration.entryOf rank s k.2, untimed_entryOf k.2.2 rank s⟩
    refine h.settled_outside_id hschema hrecord hw hQ fun k x w hw ↦ ?_
    generalize (target.record schema (Migration.entryOf rank s k.2) x).1 = recorded
    have hsame (j : Unit × {e : Migration.Execution // e.outcome = outcome}) :
        j.2.1.outcome = outcome := j.2.2
    simp only [hsame]
    cases outcome with
    | error e => exact settled_pure hw
    | ok _ =>
      cases recorded with
      | error e => exact settled_pure hw
      | ok _ =>
        show Settled _ _ (fun _ ↦
          Build.outside (Migration.runPending target schema (rank + 1) ss >>= _)) w _
        rw [Build.outside_bind]
        refine ((ih (rank + 1) w hw).comp fun _ ↦ ()).bind fun a w hw ↦ ?_
        cases a with
        | error e => exact settled_pure hw
        | ok rest => exact settled_pure hw

/-- A migration over a connection comes to the same. -/
theorem Isolated.settled_migrateOutside (h : Isolated b S tasks files)
    (hschema : (tasks.get i).migratedSchema? = some schema) (htarget : target.Separates S)
    (scripts : List Script) (hv : v.FilesAs u) :
    Settled (shares b S tasks files d) i
      (fun _ : Unit ↦ Build.outside (Migration.migrate target schema scripts)) v
        fun _ w ↦ w.FilesAs u := by
  have hQ : ∃ (a : Except Error (List Migration.Applied)) (w : Holdings κ), w.FilesAs u :=
    ⟨default, v, hv⟩
  refine h.settled_outside_id hschema (htarget.prepare schema) hv hQ fun _ x w hw ↦ ?_
  cases (target.prepare schema x).1 with
  | error e => exact settled_pure hw
  | ok _ =>
    refine h.settled_outside hschema (htarget.applied_untimed schema) hw hQ fun _ x w hw ↦ ?_
    have hgoOn (listed : Except Error (List HistoryEntry)) :
        Settled (shares b S tasks files d) i
          (fun _ : Unit ↦ Build.outside (Migration.goOn target schema scripts listed)) w
          fun _ w ↦ w.FilesAs u := by
      cases listed with
      | error e => exact settled_pure hw
      | ok history =>
        rw [Migration.goOn]
        cases History.pending scripts history with
        | error e => exact settled_pure hw
        | ok pending => exact h.settled_runPending hschema htarget _ pending hw
    refine (hgoOn (target.applied schema x).1).congr fun listed ↦ ?_
    obtain ⟨_, answer, hanswer⟩ := listed
    exact congrArg Build.outside (Migration.goOn_eq hanswer target schema scripts)

/-- The scripts of a task are those that were there at first. -/
theorem Isolated.discover_eq (h : Isolated b S tasks files) {w : World δ}
    (hw : Sound b S tasks files d w) {t : GenerationTask} (ht : t ∈ tasks) :
    Script.discover w.files t.migrationsDir = Script.discover files t.migrationsDir :=
  discover_beside (hw.files.beside_of_clear (h.migrations t ht)) (h.straight.migrations t ht) h.plain

theorem Isolated.settled_migrateConnected (h : Isolated b S tasks files)
    (hschema : (tasks.get i).migratedSchema? = some schema) (handle : DatabaseHandle)
    (hv : v.FilesAs u) :
    Settled (shares b S tasks files d) i
      (fun _ : Unit ↦ (tasks.get i).migrateConnected b handle schema) v
        fun _ w ↦ w.FilesAs u := by
  have hQ : ∃ (a : Except Error (List Migration.Applied)) (w : Holdings κ), w.FilesAs u :=
    ⟨default, v, hv⟩
  refine h.settled_outside_id hschema (h.database.connect handle schema) hv hQ fun _ x w hw ↦ ?_
  cases hconnected : (b.connect handle x).1 with
  | error e => exact settled_pure hw
  | ok target =>
    have htarget := h.database.target handle x target hconnected
    have hmigrate : Settled (shares b S tasks files d) i
        (fun _ : Unit ↦ Build.migrate target (tasks.get i).migrationsDir schema) w
          fun _ w ↦ w.FilesAs u := by
      have hmem := List.get_mem tasks i
      refine settled_look hQ (fun s s' hs _ hs' _ ↦
        (h.discover_eq hs' hmem).trans (h.discover_eq hs hmem).symm) fun s _ _ ↦ ?_
      cases Script.discover s.files (tasks.get i).migrationsDir with
      | error e => exact settled_pure hw
      | ok scripts => exact h.settled_migrateOutside hschema htarget scripts hw
    refine hmigrate.bind fun applied w hw ↦ ?_
    refine h.settled_outside_id hschema (htarget.close schema) hw hQ fun _ x w hw ↦ ?_
    cases applied with
    | error e => exact settled_pure hw
    | ok applied =>
      cases (target.close x).1 with
      | error e => exact settled_pure hw
      | ok _ => exact settled_pure hw

/-- A task that waits for its schema and migrates it comes to the same. -/
theorem Isolated.settled_migrate (h : Isolated b S tasks files)
    (hschema : (tasks.get i).migratedSchema? = some schema) (handle : DatabaseHandle)
    (hv : v.FilesAs u) :
    Settled (shares b S tasks files d) i
      (fun _ : Unit ↦ (tasks.get i).migrate b handle schema) v fun _ w ↦ w.FilesAs u := by
  have hlock : (Build.lock Defaults.databaseService schema).Settles (shares b S tasks files d) i
      v () v := by
    refine settles_still fun s c t hs hshare hact ↦ ?_
    split at hact
    · cases hact
    · obtain ⟨-, rfl⟩ := Prod.mk.inj (Option.some.inj hact)
      exact ⟨hs.of_locks _, fun _ ↦ rfl, rfl, rfl⟩
  have hunlock (w : Holdings κ) : (Build.unlock Defaults.databaseService schema).Settles
      (shares b S tasks files d) i w () w := by
    refine settles_still fun s c t hs hshare hact ↦ ?_
    obtain ⟨-, rfl⟩ := Prod.mk.inj (Option.some.inj hact)
    exact ⟨hs.of_locks _, fun _ ↦ rfl, rfl, rfl⟩
  have hbefore : Settled (shares b S tasks files d) i
      (fun _ : Unit ↦ Build.lock Defaults.databaseService schema) v fun _ w ↦ w.FilesAs u :=
    hlock.settled hv
  refine hbefore.bind fun _ w hw ↦ (h.settled_migrateConnected hschema handle hw).bind
    fun answer w hw ↦ ?_
  have hafter : Settled (shares b S tasks files d) i
      (fun _ : Unit ↦ Build.unlock Defaults.databaseService schema) w fun _ w ↦ w.FilesAs u :=
    (hunlock w).settled hw
  exact hafter.bind fun _ w hw ↦ settled_pure hw

/-- A step on the database that changes no schema, and all its answers. -/
def ServiceStep (b : Backend δ) (S : Schemas δ κ) (d : δ) (s s' : DatabaseService × δ) : Prop :=
  s'.1.released = false ∧
    (∀ outcome, s'.1.cell = .settled outcome → outcome = DatabaseService.rendered (b.start d).1) ∧
    ∀ schema, S.content schema s'.2 = S.content schema s.2

/-- The rule for a step on the database that changes no schema. -/
theorem settles_service {act : DatabaseService × δ → Option (β × (DatabaseService × δ))}
    {event : β → DatabaseService.Event} {next : β → DatabaseService.Operation δ α} {a : α}
    (hstep : ∀ s c s', s.1.released = false →
      (∀ outcome, s.1.cell = .settled outcome → outcome = DatabaseService.rendered (b.start d).1) →
      act s = some (c, s') → ServiceStep b S d s s' ∧
        (Build.onService Defaults.databaseService (next c)).Settles (shares b S tasks files d) i
          v a v) :
    (Build.onService Defaults.databaseService (step act event next)).Settles
      (shares b S tasks files d) i v a v := by
  refine settles_still fun w c t hw hv hact ↦ ?_
  obtain ⟨⟨c', s'⟩, hinner, heq⟩ := Option.map_eq_some_iff.1 hact
  cases heq
  obtain ⟨⟨hreleased, hcell, hcontent⟩, hnext⟩ := hstep _ _ s' hw.released hw.cell hinner
  obtain ⟨hsound, hshares⟩ := hw.of_service (s := { s'.1 with name := Defaults.databaseService }) rfl
    hreleased hcell hcontent
  exact ⟨hsound, hshares, hnext⟩

/-- The rule for such a step that never waits and always has the same answer. -/
theorem settles_service_perform {act : DatabaseService × δ → β × (DatabaseService × δ)}
    {event : β → DatabaseService.Event} {next : β → DatabaseService.Operation δ α} {a : α} (x : β)
    (hstep : ∀ s, s.1.released = false →
      (∀ outcome, s.1.cell = .settled outcome → outcome = DatabaseService.rendered (b.start d).1) →
      (act s).1 = x ∧ ServiceStep b S d s (act s).2)
    (hnext : (Build.onService Defaults.databaseService (next x)).Settles (shares b S tasks files d) i
      v a v) :
    (Build.onService Defaults.databaseService (perform act event >>= next)).Settles
      (shares b S tasks files d) i v a v := by
  refine settles_service fun s c s' hreleased hcell hact ↦ ?_
  obtain ⟨hanswer, hservice⟩ := hstep s hreleased hcell
  obtain ⟨rfl, rfl⟩ := Prod.mk.inj (Option.some.inj hact).symm
  rw [← hanswer] at hnext
  exact ⟨hservice, hnext⟩

/-- Whoever starts the database, the start comes to the same. -/
theorem Isolated.settles_start (h : Isolated b S tasks files) :
    (Build.onService Defaults.databaseService (do
      return DatabaseService.answer (← DatabaseService.start b.toProvisioner))).Settles
      (shares b S tasks files d) i v
      (DatabaseService.answer (DatabaseService.rendered (b.start d).1)) v := by
  rw [DatabaseService.start]
  simp only [bind_assoc]
  refine settles_service_perform (b.start d).1 (fun s hreleased hcell ↦
    ⟨h.database.start d s.2, hreleased, hcell, (h.database.content_start · s.2)⟩) ?_
  have hpublish : (Build.onService Defaults.databaseService (do
      Program.change (fun w : DatabaseService × δ ↦
        ({ w.1 with cell := .settled (DatabaseService.rendered (b.start d).1) }, w.2))
        (DatabaseService.Event.published (DatabaseService.rendered (b.start d).1))
      return DatabaseService.answer (DatabaseService.rendered (b.start d).1))).Settles
      (shares b S tasks files d) i v
      (DatabaseService.answer (DatabaseService.rendered (b.start d).1)) v :=
    settles_service_perform () (fun s hreleased _ ↦ ⟨rfl, hreleased,
      fun _ hcell ↦ (Cell.settled.inj hcell).symm, fun _ ↦ rfl⟩) ⟨rfl, rfl⟩
  cases hstarted : (b.start d).1 with
  | error e =>
    rw [hstarted] at hpublish
    exact hpublish
  | ok running =>
    rw [hstarted] at hpublish
    exact settles_service_perform () (fun s hreleased hcell ↦ ⟨rfl, hreleased, hcell, fun _ ↦ rfl⟩)
      hpublish

/-- Whoever starts the database, all tasks get the same handle, or fail alike. -/
theorem Isolated.settles_acquire (h : Isolated b S tasks files) :
    (Build.acquire b Defaults.databaseService).Settles (shares b S tasks files d) i v
      (DatabaseService.answer (DatabaseService.rendered (b.start d).1)) v := by
  have hregister : (Build.register Defaults.databaseService).Settles (shares b S tasks files d) i
      v () v := by
    refine settles_still fun w c t hw hv hact ↦ ?_
    obtain ⟨-, rfl⟩ := Prod.mk.inj (Option.some.inj hact)
    obtain ⟨hsound, hshares⟩ := hw.of_service (Build.name_mysql hw.services) hw.released hw.cell
      fun _ ↦ rfl
    exact ⟨hsound, hshares, rfl, rfl⟩
  refine hregister.bind (settles_service_perform false
    (fun s hreleased hcell ↦ ⟨hreleased, hreleased, hcell, fun _ ↦ rfl⟩) ?_)
  refine settles_service fun s found s' hreleased hcell hact ↦ ?_
  obtain ⟨⟨found', service⟩, henter, heq⟩ := Option.map_eq_some_iff.1 hact
  cases heq
  rcases DatabaseService.eq_of_enter henter with ⟨rfl, -, rfl⟩ | ⟨outcome, rfl, hsettled, rfl⟩
  · exact ⟨⟨hreleased, fun _ hcell ↦ (nomatch hcell), fun _ ↦ rfl⟩, h.settles_start⟩
  · obtain rfl := hcell outcome hsettled
    exact ⟨⟨hreleased, hcell, fun _ ↦ rfl⟩, rfl, rfl⟩

/-! ### The files -/

/-- The cleaning comes to what it would alone. -/
theorem Isolated.settles_clean (h : Isolated b S tasks files)
    (houtput : v.output = files.branch (tasks.get i).outputPlace) :
    (tasks.get i).clean.Settles (shares b S tasks files d) i v
      (OutputDirectory.clean files (tasks.get i).outputDir).1
      { v with output := (OutputDirectory.clean files (tasks.get i).outputDir).2.branch
                          (tasks.get i).outputPlace } := by
  intro w answer w' hw hv hact
  obtain ⟨rfl, rfl⟩ := Prod.mk.inj (Option.some.inj hact)
  obtain rfl := hv
  have hmem := List.get_mem tasks i
  have hdirect := h.direct_output hmem
  have hne := (h.ne_nil hmem).1
  have hplace := mem_places hmem (outputPlace_mem _)
  have hregular := hw.files.regular _ hplace
  obtain ⟨hanswer, hbranch⟩ := OutputDirectory.clean_beside hdirect hne hregular
    (h.plain.regular _) (hw.files.beside hplace houtput)
  have hwork := OutputDirectory.worksAt_clean hdirect hne hregular
  refine ⟨h.keeps_of_worksAt hw (outputPlace_mem _) hwork fun _ ↦ rfl, hanswer, ?_⟩
  exact congrArg₂ (Holdings.mk · · _) hbranch (hwork.branch_of_apart (h.apart_own hmem).symm)

/-- The document comes to what it would alone. -/
theorem Isolated.settles_write (h : Isolated b S tasks files)
    (hdocument : v.document = files.branch (tasks.get i).documentPlace) (c : Configuration) :
    ((tasks.get i).write b c).Settles (shares b S tasks files d) i v
      (Document.write b.validator files c (tasks.get i).schema (tasks.get i).documentPath).1
      { v with document := (Document.write b.validator files c (tasks.get i).schema
                              (tasks.get i).documentPath).2.branch (tasks.get i).documentPlace } := by
  intro w answer w' hw hv hact
  obtain ⟨rfl, rfl⟩ := Prod.mk.inj (Option.some.inj hact)
  obtain rfl := hv
  have hmem := List.get_mem tasks i
  have hdirect := h.direct_document hmem
  have hne := (h.ne_nil hmem).2
  have hplace := mem_places hmem (documentPlace_mem _)
  have hregular := hw.files.regular _ hplace
  have hreads : Document.Reads files w.files (tasks.get i).schema := fun p hp ↦ by
    obtain ⟨hforward, hshort⟩ := h.straight.schemaFile _ hmem p hp
    exact ⟨hforward, hshort, hw.files.beside_of_clear (h.schemaFile _ hmem p hp)⟩
  obtain ⟨hanswer, hbranch⟩ := Document.write_beside h.plain hreads hdirect hne hregular
    (hw.files.beside hplace hdocument) b.validator c
  have hwork := Document.worksAt_write hdirect hne hregular b.validator c (tasks.get i).schema
  refine ⟨h.keeps_of_worksAt hw (documentPlace_mem _) hwork fun _ ↦ rfl, hanswer, ?_⟩
  exact congrArg₂ (Holdings.mk · · _) (hwork.branch_of_apart (h.apart_own hmem)) hbranch

/-! ### The generator -/

/-- The generator comes to the same. -/
theorem Isolated.settled_invoke (h : Isolated b S tasks files) :
    Settled (shares b S tasks files d) i (fun _ : Unit ↦ (tasks.get i).invoke b) v
      fun _ _ ↦ True := by
  rw [invoke]
  cases hspec : (tasks.get i).processSpec with
  | error e => exact settled_pure trivial
  | ok spec =>
    have hmem := List.get_mem tasks i
    have hconfined := h.generators _ hmem spec hspec
    have hspawn : Settled (shares b S tasks files d) i (fun _ : Unit ↦ spawn b spec) v
        fun _ _ ↦ True := by
      refine settled_look ⟨default, v, trivial⟩ (fun w w' hw hv hw' hv' ↦
        hconfined.launch _ _ _ _ hw.files hw'.files (hv'.trans hv.symm)) fun w _ _ ↦ ?_
      cases b.launch spec w.files w.outside with
      | error fault => exact settled_pure trivial
      | ok _ => exact settled_pure trivial
    refine hspawn.bind fun launched w _ ↦ ?_
    cases launched with
    | error e => exact settled_pure trivial
    | ok _ =>
      refine settled_perform id ⟨default, v, trivial⟩ (fun _ w hw _ ↦ ?_)
        (fun _ w _ w' hw hv hw' hv' ↦ ?_) fun _ w hw hv ↦ ?_
      · exact h.keeps_of_worksAt hw (outputPlace_mem _) (hconfined.worksAt _ _ hw.files)
          fun schema ↦ hconfined.content _ _ schema
      · have hshare := hv'.trans hv.symm
        obtain ⟨hanswer, hbranch⟩ := hconfined.finish _ _ _ _ hw.files hw'.files hshare
        have hdocument {w : World δ} (hw : Sound b S tasks files d w) :
            (b.finish spec w.files w.outside).2.1.branch (tasks.get i).documentPlace =
              w.files.branch (tasks.get i).documentPlace :=
          (hconfined.worksAt _ _ hw.files).branch_of_apart (h.apart_own hmem).symm
        refine ⟨hanswer, ?_⟩
        show Holdings.mk _ _ _ = Holdings.mk _ _ _
        simp only [hconfined.content, hdocument hw, hdocument hw', hbranch]
        exact congrArg₂ (Holdings.mk _) (congrArg Holdings.document hshare)
          (congrArg Holdings.schema hshare)
      · let result := GenerationResult.ofOutput spec (b.finish spec w.files w.outside).1
        let answer := ((tasks.get i).judge result).map fun verdict ↦ (result, verdict)
        generalize (shares b S tasks files d).share i _ = w'
        refine ⟨answer, w', trivial, fun given ↦ ?_⟩
        obtain ⟨_, output, houtput⟩ := given
        obtain rfl : output = (b.finish spec w.files w.outside).1 := houtput
        exact ⟨rfl, rfl⟩

/-! ### The whole task -/

/-- The rule for a part of a stage, and then the rest unless it fails. -/
theorem settled_during {T : Shares ι (World δ) (Holdings κ)} {i : ι} {t : GenerationTask}
    {stage : Stage} {p : Build.Operation δ (Except Error α)} {k : α → Staged δ β}
    {P : Except Error α → Holdings κ → Prop} (hp : Settled T i (fun _ : Unit ↦ p) v P)
    (hk : ∀ a w, P (.ok a) w → Settled T i (fun _ : Unit ↦ (k a).run) w fun _ _ ↦ True) :
    Settled T i (fun _ : Unit ↦ (t.during stage p >>= k).run) v fun _ _ ↦ True := by
  rw [run_during_bind]
  refine hp.bind fun a w hw ↦ ?_
  cases a with
  | error cause => exact settled_pure trivial
  | ok a => exact hk a w hw

/-- A task comes to the same from its files as they were at first. -/
theorem Isolated.settled_produce (h : Isolated b S tasks files) (print : Fingerprint)
    (handle : Option DatabaseHandle) (migrations : List Migration.Applied)
    (houtput : v.output = files.branch (tasks.get i).outputPlace)
    (hdocument : v.document = files.branch (tasks.get i).documentPlace) :
    Settled (shares b S tasks files d) i
      (fun _ : Unit ↦ ((tasks.get i).produce b print handle migrations).run) v fun _ _ ↦ True := by
  rw [produce]
  refine settled_during ((h.settles_clean houtput).settled (Q := fun _ w ↦
    w.document = files.branch (tasks.get i).documentPlace) hdocument) fun _ w hw ↦ ?_
  refine settled_during ((h.settles_write hw _).settled (Q := fun _ _ ↦ True) trivial)
    fun _ w _ ↦ ?_
  exact settled_during h.settled_invoke fun _ w _ ↦ settled_pure trivial

/-- **An isolated task comes to the same**, whatever others do. -/
theorem Isolated.settled_generate (h : Isolated b S tasks files) (d : δ) (i : Fin tasks.length) :
    Settled (shares b S tasks files d) i (fun _ : Unit ↦ ((tasks.get i).generate b).run)
      ((shares b S tasks files d).share i (World.start files d)) fun _ _ ↦ True := by
  rcases generate_cases b (tasks.get i) with
    ⟨cause, -, hrun⟩ | ⟨-, print, -, ⟨-, hrun⟩ | ⟨hengages, schema, hrequired, hrun⟩⟩
  · rw [hrun]
    exact settled_pure trivial
  · rw [hrun]
    exact h.settled_produce print none [] rfl rfl
  · rw [hrun]
    have hschema : (tasks.get i).migratedSchema? = some schema := by
      rw [migratedSchema?, hengages, hrequired]
      rfl
    have hacquire : Settled (shares b S tasks files d) i
        (fun _ : Unit ↦ Build.acquire b Defaults.databaseService) _ fun _ w ↦
          w.FilesAs ((shares b S tasks files d).share i (World.start files d)) :=
      h.settles_acquire.settled ⟨rfl, rfl⟩
    refine settled_during hacquire fun handle w hw ↦ ?_
    rw [proceed]
    refine settled_during (h.settled_migrate hschema handle hw) fun migrations w hw ↦ ?_
    exact h.settled_produce print (some handle) migrations hw.1 hw.2

end GenerationTask

end SchemaForge
