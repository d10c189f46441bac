import SchemaForge.Proofs.Build.Waiting
import SchemaForge.Proofs.GenerationTask.Stages

/-!
# Tasks side by side

The tasks of a build run beside each other, a step at a time and in any order. Two things are shown
here of all such runs. Every step is one of `Build.Moves`, whatever the others have done
(`GenerationTask.abides_generate`), so the invariant of what tasks share holds at every point
(`GenerationTask.inv_of_reaches`). And the tasks never get stuck: if one waits, the party that it
waits for can go on (`GenerationTask.advance_ne_none`), so every run can be brought to its end
(`GenerationTask.exists_completed`).
-/

namespace SchemaForge

namespace GenerationTask

open Program

variable {ι δ α β : Type} {b : Backend δ} {t : GenerationTask}

/-! ### Every step is one that there is -/

theorem Apart.moves {stage : Stage} {x : Footstep Build.Event (World δ)} (h : Apart stage x) (i : ι)
    (events : List (ι × Build.Event)) : Build.Moves events i x.before x.event x.after := by
  obtain ⟨-, hevent, files, d, hafter⟩ := h
  rw [hafter]
  exact .work hevent

theorem always_run_during {φ : Footstep Build.Event (World δ) → Prop} {stage : Stage}
    {p : Build.Operation δ (Except Error α)} {k : α → Staged δ β} (hp : p.Always φ)
    (hk : ∀ a, (k a).run.Always φ) : (t.during stage p >>= k).run.Always φ := by
  rw [run_during_bind]
  refine hp.bind fun a ↦ ?_
  cases a with
  | error cause => exact always_pure
  | ok a => exact hk a

theorem always_produce (b : Backend δ) (t : GenerationTask) (print : Fingerprint)
    (handle : Option DatabaseHandle) (migrations : List Migration.Applied) :
    (t.produce b print handle migrations).run.Always fun x ↦ ∃ stage, Apart stage x :=
  always_run_during ((always_clean t).imp fun _ hx ↦ ⟨_, hx⟩) fun _ ↦
    always_run_during ((always_write b t _).imp fun _ hx ↦ ⟨_, hx⟩) fun _ ↦
      always_run_during ((always_invoke b t).imp fun _ hx ↦ ⟨_, hx⟩) fun _ ↦ always_pure

/-- The step is one that there is, whatever was done before. -/
def Allowed (i : ι) (x : Footstep Build.Event (World δ)) : Prop :=
  ∀ events : List (ι × Build.Event), Build.Inv events x.before →
    Build.Moves events i x.before x.event x.after

theorem allowed_migrate (b : Backend δ) (t : GenerationTask) (i : ι) (handle : DatabaseHandle)
    (schema : String) : (t.migrate b handle schema).Always (Allowed i) := by
  have hlock : (Build.lock (δ := δ) Defaults.databaseService schema).Always (Allowed i) := by
    refine always_step (fun w u w' hact events _ ↦ ?_) fun _ ↦ always_pure
    split at hact
    · cases hact
    · rename_i hfree
      obtain ⟨-, rfl⟩ := Prod.mk.inj (Option.some.inj hact)
      exact .lock fun hmem ↦ hfree (List.contains_iff_mem.2 hmem)
  refine hlock.bind fun _ ↦ Always.bind ?_ fun _ ↦ Always.bind ?_ fun _ ↦ always_pure
  · exact (always_migrateConnected b t handle schema).imp fun x hx events _ ↦ hx.1.moves i events
  · exact always_perform fun w events _ ↦ .unlock

theorem allowed_proceed (b : Backend δ) (t : GenerationTask) (print : Fingerprint) (i : ι)
    (schema : String) (handle : DatabaseHandle) :
    (t.proceed b print schema handle).run.Always (Allowed i) :=
  always_run_during (allowed_migrate b t i handle schema) fun migrations ↦
    (always_produce b t print (some handle) migrations).imp
      fun _ hx events _ ↦ hx.choose_spec.moves i events

/-- A task that runs keeps the terms. -/
theorem abides_generate (b : Backend δ) (t : GenerationTask) (i : ι) :
    Abides (Build.terms i) i (t.generate b).run Build.Between fun _ ↦ Build.Between := by
  have hproduce (print : Fingerprint) (handle : Option DatabaseHandle)
      (migrations : List Migration.Applied) :
      Abides (Build.terms i) i (t.produce b print handle migrations).run Build.Between
        fun _ ↦ Build.Between :=
    Build.abides_of_moves ((always_produce b t print handle migrations).imp
      fun _ hx events _ ↦ hx.choose_spec.moves i events)
  rcases generate_cases b t with
    ⟨cause, -, hrun⟩ | ⟨-, print, -, ⟨-, hrun⟩ | ⟨-, schema, -, hrun⟩⟩
  · rw [hrun]
    exact abides_pure fun _ hc ↦ hc
  · rw [hrun]
    exact hproduce print none []
  · rw [hrun, run_during_bind]
    refine Abides.bind (Build.abides_acquire b i) fun a ↦ ?_
    cases a with
    | error cause => exact abides_pure fun _ hc ↦ hc
    | ok handle => exact Build.abides_of_moves (allowed_proceed b t print i schema handle)

section Pool

/-- The programs of the tasks of a build. -/
abbrev programs (b : Backend δ) (tasks : List GenerationTask) :
    Fin tasks.length → Build.Operation δ (Except TaskError Outcome) :=
  fun i ↦ ((tasks.get i).generate b).run

variable {tasks : List GenerationTask} {files : FileSystem} {d : δ}
  {ps : Fin tasks.length → Build.Operation δ (Except TaskError Outcome)}
  {c : Course (Fin tasks.length) Build.Event (World δ)}

/-- The tasks of a build fit together, from new shared services on. -/
theorem accord_generate (b : Backend δ) (tasks : List GenerationTask) (files : FileSystem) (d : δ) :
    Accord Build.terms (programs b tasks) (World.start files d) (fun _ ↦ Build.Between)
      (fun _ _ ↦ Build.Between) where
  abides i := abides_generate b (tasks.get i) i
  stable i := Build.stable_between i
  compatible i _ hij _ _ h := ⟨i, hij, h⟩
  initially _ := Build.inv_start files d

theorem inv_of_reaches
    (h : Reaches (programs b tasks) (World.start files d) ps c) : Build.Inv c.events c.state := by
  refine (accord_generate b tasks files d).invariant (I := Build.Between)
    (Build.inv_start files d) ?_ h
  rintro i c c' ⟨e, hstep, hevents⟩ hc
  rw [Build.Between, hevents]
  exact hc.step hstep

end Pool

/-! ### Where a task waits -/

/-- A connection never waits. -/
theorem waitsAt_migrateConnected (b : Backend δ) (t : GenerationTask) (handle : DatabaseHandle)
    (schema : String) : (t.migrateConnected b handle schema).WaitsAt fun _ ↦ False := by
  refine waitsAt_perform.bind fun connected ↦ ?_
  cases connected with
  | error e => exact waitsAt_pure
  | ok target =>
    refine WaitsAt.bind (waitsAt_perform.bind fun found ↦ ?_) fun applied ↦
      waitsAt_perform.bind fun closed ↦ ?_
    · cases found with
      | error e => exact waitsAt_pure
      | ok scripts => exact (Migration.waitsAt_migrate target schema scripts).zoom fun _ h ↦ h
    · cases applied <;> cases closed <;> exact waitsAt_pure

/-- Once the schema is locked, its migration never waits. -/
theorem waitsAt_migrateLocked (b : Backend δ) (t : GenerationTask) (handle : DatabaseHandle)
    (schema : String) : (do
      let answer ← t.migrateConnected b handle schema
      Build.unlock Defaults.databaseService schema
      return answer : Build.Operation δ _).WaitsAt fun _ ↦ False :=
  (waitsAt_migrateConnected b t handle schema).bind fun _ ↦
    waitsAt_perform.bind fun _ ↦ waitsAt_pure

theorem waitsAt_migrate (b : Backend δ) (t : GenerationTask) (handle : DatabaseHandle)
    (schema : String) : (t.migrate b handle schema).WaitsAt Build.Busy :=
  (Build.waitsAt_lock schema).bind fun _ ↦
    (waitsAt_migrateLocked b t handle schema).imp fun _ h ↦ h.elim

theorem waitsAt_run_during {W : World δ → Prop} {stage : Stage}
    {p : Build.Operation δ (Except Error α)} {k : α → Staged δ β} (hp : p.WaitsAt W)
    (hk : ∀ a, (k a).run.WaitsAt W) : (t.during stage p >>= k).run.WaitsAt W := by
  rw [run_during_bind]
  refine hp.bind fun a ↦ ?_
  cases a with
  | error cause => exact waitsAt_pure
  | ok a => exact hk a

theorem waitsAt_spawn (b : Backend δ) (spec : ProcessSpec) :
    (spawn b spec).WaitsAt fun _ ↦ False := by
  refine waitsAt_perform.bind fun launched ↦ ?_
  cases launched <;> exact waitsAt_pure

theorem waitsAt_invoke (b : Backend δ) (t : GenerationTask) :
    (t.invoke b).WaitsAt fun _ ↦ False := by
  rw [invoke]
  cases t.processSpec with
  | error e => exact waitsAt_pure
  | ok spec =>
    refine (waitsAt_spawn b spec).bind fun launched ↦ ?_
    cases launched with
    | error e => exact waitsAt_pure
    | ok u => exact waitsAt_perform.bind fun _ ↦ waitsAt_pure

theorem waitsAt_produce (b : Backend δ) (t : GenerationTask) (print : Fingerprint)
    (handle : Option DatabaseHandle) (migrations : List Migration.Applied) :
    (t.produce b print handle migrations).run.WaitsAt fun _ ↦ False :=
  waitsAt_run_during waitsAt_perform fun _ ↦ waitsAt_run_during waitsAt_perform fun _ ↦
    waitsAt_run_during (waitsAt_invoke b t) fun _ ↦ waitsAt_pure

theorem waitsAt_proceed (b : Backend δ) (t : GenerationTask) (print : Fingerprint)
    (schema : String) (handle : DatabaseHandle) :
    (t.proceed b print schema handle).run.WaitsAt Build.Busy :=
  waitsAt_run_during (waitsAt_migrate b t handle schema) fun migrations ↦
    (waitsAt_produce b t print (some handle) migrations).imp fun _ h ↦ h.elim

/-- A task waits only while the database is being started or a schema is being migrated. -/
theorem waitsAt_generate (b : Backend δ) (t : GenerationTask) :
    (t.generate b).run.WaitsAt Build.Busy := by
  intro steps q h hrunning
  rcases takes_generate h with ⟨cause, -, -, rfl⟩ | ⟨-, print, -, ⟨-, h⟩ | ⟨-, schema, -, h⟩⟩
  · cases hrunning
  · exact ((waitsAt_produce b t print none []).imp fun _ h ↦ h.elim) steps q h hrunning
  · exact waitsAt_run_during (Build.waitsAt_acquire b) (waitsAt_proceed b t print schema) steps q h
      hrunning

/-! ### Whoever others wait for can go on -/

variable {steps : List (Footstep Build.Event (World δ))} {schema : String}

/-- The trace of one party. -/
def traceOf (i : ι) (steps : List (Footstep Build.Event (World δ))) : List (ι × Build.Event) :=
  steps.map fun x ↦ (i, x.event)

@[simp] theorem traceOf_cons (i : ι) (x : Footstep Build.Event (World δ))
    (xs : List (Footstep Build.Event (World δ))) :
    traceOf i (x :: xs) = (i, x.event) :: traceOf i xs := rfl

@[simp] theorem traceOf_append (i : ι) (front back : List (Footstep Build.Event (World δ))) :
    traceOf i (front ++ back) = traceOf i front ++ traceOf i back :=
  List.map_append

/-- Only locking and unlocking changes who has a lock. -/
theorem holder_append_of_ofTask {i : ι} {events : List (ι × Build.Event)}
    (h : ∀ x ∈ steps, x.event.OfTask ∨ x.event.stage = .provisioning) :
    Build.holder schema (events ++ traceOf i steps) = Build.holder schema events := by
  rw [Build.holder, List.foldl_append, ← Build.holder]
  generalize Build.holder schema events = start
  induction steps with
  | nil => rfl
  | cons x xs ih =>
    obtain ⟨hx, hxs⟩ := List.forall_mem_cons.1 h
    rw [traceOf, List.map_cons, List.foldl_cons]
    refine Eq.trans ?_ (ih hxs)
    congr 1
    generalize x.event = e at hx
    cases e <;> first | rfl | exact hx.elim False.elim fun h ↦ by cases h

theorem holder_eq_none {i : ι} (h : ∀ x ∈ steps, x.event.OfTask ∨ x.event.stage = .provisioning) :
    Build.holder schema (traceOf i steps) = none := by
  rw [← List.nil_append (traceOf i steps), holder_append_of_ofTask h]
  rfl

/-- When a migration is over, its task has no lock. -/
theorem holder_of_migrate {i : ι} {handle : DatabaseHandle} {schema' : String}
    {a : Except Error (List Migration.Applied)}
    (h : (t.migrate b handle schema').Takes steps (done a)) {events : List (ι × Build.Event)}
    (hbefore : Build.holder schema events = none) :
    Build.holder schema (events ++ traceOf i steps) = none := by
  obtain ⟨_, _, _, rest, -, rfl, hrest⟩ := takes_step_bind_done.1 h
  obtain ⟨answer, front, back, rfl, hfront, hback⟩ := takes_bind_done.1 hrest
  obtain ⟨_, _, _, rest, -, rfl, hend⟩ := takes_perform_bind_done.1 hback
  obtain ⟨rfl, -⟩ := takes_pure.1 hend
  rw [traceOf_cons, traceOf_append, traceOf_cons, List.append_cons, ← List.append_assoc]
  show Build.holder schema (_ ++ [(i, _)]) = none
  rw [Build.holder_append, holder_append_of_ofTask fun x hx ↦
    Or.inl (always_migrateConnected b t handle schema' _ _ hfront x hx).1.2.1, Build.holder_append]
  by_cases hschema : schema' = schema
  · exact if_pos ⟨rfl, hschema⟩
  · refine (if_neg fun h ↦ hschema h.2).trans ?_
    exact (if_neg fun h ↦ hschema h.2).trans hbefore

/-- A task that goes on with the database and has a lock can take its next step. -/
theorem advance_proceed_ne_none {i : ι} {print : Fingerprint} {schema' : String}
    {handle : DatabaseHandle} {q : Build.Operation δ (Except TaskError Outcome)}
    (h : (t.proceed b print schema' handle).run.Takes steps q) {events : List (ι × Build.Event)}
    (hbefore : Build.holder schema events = none)
    (hlocked : Build.holder schema (events ++ traceOf i steps) = some i) (w : World δ) :
    q.advance w ≠ none := by
  rw [proceed, run_during_bind] at h
  rcases takes_bind.1 h with ⟨q', hmigrate, hrunning, rfl⟩ | ⟨a, front, back, rfl, hfront, hback⟩
  · rcases takes_step_bind.1 hmigrate with ⟨rfl, -⟩ | ⟨_, _, _, rest, -, rfl, hrest⟩
    · rw [traceOf, List.map_nil, List.append_nil, hbefore] at hlocked
      cases hlocked
    · exact fun hnone ↦ waitsAt_migrateLocked b t handle schema' rest q' hrest hrunning w
        (advance_eq_none_of_bind hrunning hnone)
  · -- the migration is over, so the task has no lock
    have hwork : ∀ x ∈ back, x.event.OfTask ∨ x.event.stage = .provisioning := by
      cases a with
      | error cause =>
        obtain ⟨rfl, -⟩ := takes_pure.1 hback
        exact List.forall_mem_nil _
      | ok migrations =>
        exact fun x hx ↦
          Or.inl (always_produce b t print (some handle) migrations _ _ hback x hx).choose_spec.2.1
    rw [traceOf_append, ← List.append_assoc, holder_append_of_ofTask hwork,
      holder_of_migrate hfront hbefore] at hlocked
    cases hlocked

theorem stage_ne_provisioning {e : Build.Event} (h : e.OfTask) : e.stage ≠ .provisioning := by
  cases e <;> first | exact False.elim h | exact nofun

/-- A task that goes on with the database does not acquire it again. -/
theorem always_proceed (b : Backend δ) (t : GenerationTask) (print : Fingerprint)
    (schema : String) (handle : DatabaseHandle) :
    (t.proceed b print schema handle).run.Always fun x ↦ x.event.stage ≠ .provisioning := by
  refine always_run_during ((always_migrate b t handle schema).imp fun x hx ↦ ?_) fun migrations ↦
    (always_produce b t print (some handle) migrations).imp
      fun x ⟨_, hx⟩ ↦ stage_ne_provisioning hx.2.1
  rw [hx.1]
  decide

/-- Others wait for a party that has done so much: it has to start the database and has not
published what the start came to, or it has the lock of a schema. -/
def Awaited (schema : String) (i : ι) (steps : List (Footstep Build.Event (World δ))) : Prop :=
  (∃ x ∈ steps, ∃ name, x.event = .database name (.entered true)) ∧
    (∀ x ∈ steps, ∀ name outcome, x.event ≠ .database name (.published outcome)) ∨
  Build.holder schema (traceOf i steps) = some i

/-- **Whoever others wait for can go on**, whatever they do. -/
theorem advance_ne_none {i : ι} {q : Build.Operation δ (Except TaskError Outcome)}
    (h : (t.generate b).run.Takes steps q) (hawaited : Awaited schema i steps) (w : World δ) :
    q.advance w ≠ none := by
  rcases takes_generate h with ⟨cause, -, rfl, -⟩ | ⟨-, print, -, ⟨-, h⟩ | ⟨-, schema', -, h⟩⟩
  · rcases hawaited with ⟨⟨x, hx, -⟩, -⟩ | hlocked
    · cases hx
    · cases hlocked
  · have hwork (x) (hx : x ∈ steps) := (always_produce b t print none [] _ _ h x hx).choose_spec.2.1
    rcases hawaited with ⟨⟨x, hx, name, hentered⟩, -⟩ | hlocked
    · exact absurd (congrArg Build.Event.stage hentered) (stage_ne_provisioning (hwork x hx))
    · have hunlocked : Build.holder schema (traceOf i steps) = none :=
        holder_eq_none fun x hx ↦ Or.inl (hwork x hx)
      rw [hunlocked] at hlocked
      cases hlocked
  have hunlocked {front : List (Footstep Build.Event (World δ))} {q' : Build.Operation δ _}
      (hfront : (Build.acquire b Defaults.databaseService).Takes front q') :
      Build.holder schema (traceOf i front) = none :=
    holder_eq_none fun x hx ↦ Or.inr (always_acquire b _ _ _ hfront x hx).1
  rw [run_during_bind] at h
  rcases takes_bind.1 h with ⟨q', hacquire, hrunning, rfl⟩ | ⟨a, front, back, rfl, hfront, hback⟩
  · rw [Awaited, hunlocked hacquire] at hawaited
    obtain ⟨⟨x, hx, name, hentered⟩, -⟩ := hawaited.resolve_right nofun
    exact fun hnone ↦ Build.advance_ne_none_of_entered hacquire hrunning hx hentered w
      (advance_eq_none_of_bind hrunning hnone)
  have hlocked : Build.holder schema (traceOf i (front ++ back)) = some i := by
    refine hawaited.resolve_left fun ⟨⟨x, hx, name, hentered⟩, hpublished⟩ ↦ ?_
    have hfront' : x ∈ front → False := by
      intro hx
      obtain ⟨y, hy, outcome, houtcome⟩ := Build.published_of_acquire hfront hx hentered
      exact hpublished y (List.mem_append_left _ hy) _ outcome houtcome
    refine (List.mem_append.1 hx).elim hfront' fun hx ↦ ?_
    cases a with
    | error cause =>
      obtain ⟨rfl, -⟩ := takes_pure.1 hback
      cases hx
    | ok handle =>
      exact always_proceed b t print schema' handle _ _ hback x hx
        (congrArg Build.Event.stage hentered)
  cases a with
  | error cause =>
    obtain ⟨rfl, -⟩ := takes_pure.1 hback
    rw [List.append_nil, hunlocked hfront] at hlocked
    cases hlocked
  | ok handle =>
    rw [traceOf_append] at hlocked
    exact advance_proceed_ne_none hback (hunlocked hfront) hlocked w

/-- What a party has announced itself tells whether it has a lock. -/
theorem holder_own [DecidableEq ι] {i : ι} {events : List (ι × Build.Event)}
    (h : Build.holder schema events = some i) :
    Build.holder schema ((own i events).map (i, ·)) = some i := by
  induction events using List.reverseRecOn with
  | nil => cases h
  | append_singleton events x ih =>
    obtain ⟨j, e⟩ := x
    rw [own_append]
    by_cases hji : j = i
    · subst hji
      rw [own_cons_self, List.map_append, List.map_cons]
      show Build.holder schema (_ ++ [(j, e)]) = some j
      rw [Build.holder_append] at h ⊢
      rcases e.holderAfter_cases schema j with hgives | htakes | hkeeps
      · exact hgives _
      · rw [htakes] at h
        cases h
      · rw [hkeeps] at h ⊢
        exact ih h
    · rw [own_cons_of_ne hji, List.map_append]
      show Build.holder schema (_ ++ []) = some i
      rw [List.append_nil]
      exact ih (Build.holder_of_append hji h)

section Pool

variable {tasks : List GenerationTask} {files : FileSystem} {d : δ}
  {ps : Fin tasks.length → Build.Operation δ (Except TaskError Outcome)}
  {c : Course (Fin tasks.length) Build.Event (World δ)}

/-- **Tasks side by side never get stuck.** As long as not all have ended, one of them can take its
next step. -/
theorem exists_advance
    (h : Reaches (programs b tasks) (World.start files d) ps c)
    (hrunning : ∃ i, (ps i).answer? = none) : ∃ i, ((ps i).advance c.state).isSome = true := by
  obtain ⟨i, hi⟩ := hrunning
  by_contra hstuck
  have hnone (j) : (ps j).advance c.state = none := by
    by_contra hne
    exact hstuck ⟨j, Option.isSome_iff_ne_none.2 hne⟩
  have hinv := inv_of_reaches h
  -- whom the party waits for
  obtain ⟨j, schema, steps, hsteps, hawaited⟩ : ∃ j schema steps,
      ((tasks.get j).generate b).run.Takes steps (ps j) ∧ Awaited schema j steps := by
    obtain ⟨steps, hsteps, -, -⟩ := h.takes i
    rcases waitsAt_generate b _ steps _ hsteps hi _ (hnone i) with hstarting | ⟨schema, hlocked⟩
    · obtain ⟨j, hj⟩ := hinv.underway.starter hstarting
      obtain ⟨name, hj⟩ := Build.mem_databaseEvents.1 hj
      obtain ⟨steps', hsteps', hevents, -⟩ := h.takes j
      refine ⟨j, "", steps', hsteps', Or.inl ⟨?_, fun x hx name' outcome hpublished ↦ ?_⟩⟩
      · rw [← mem_own, ← hevents] at hj
        obtain ⟨x, hx, hentered⟩ := List.mem_map.1 hj
        exact ⟨x, hx, name, hentered⟩
      · have hmem : (j, x.event) ∈ c.events := by
          rw [← mem_own, ← hevents]
          exact List.mem_map_of_mem hx
        rw [hpublished] at hmem
        obtain ⟨o, ho⟩ := hinv.underway.published j outcome
          (Build.mem_databaseEvents.2 ⟨name', hmem⟩)
        rw [hstarting] at ho
        cases ho
    · obtain ⟨j, hj⟩ := hinv.held schema hlocked
      obtain ⟨steps', hsteps', hevents, -⟩ := h.takes j
      refine ⟨j, schema, steps', hsteps', Or.inr ?_⟩
      rw [traceOf, ← holder_own hj, ← hevents, List.map_map]
      rfl
  exact advance_ne_none hsteps hawaited _ (hnone j)

/-- **Tasks side by side come to an end**, from every point of every run. -/
theorem exists_completed
    (h : Reaches (programs b tasks) (World.start files d) ps c) :
    ∃ is r, turns is ps c = some r ∧ ∀ i, (r.1 i).answer?.isSome = true :=
  h.exists_completed fun _ _ h ↦ exists_advance h

end Pool

end GenerationTask

end SchemaForge
