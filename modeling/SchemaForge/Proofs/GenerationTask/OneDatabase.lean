import SchemaForge.Proofs.GenerationTask.Together

/-!
# One database for all tasks

The tasks of a build that need a database share one. `GenerationTask.generateAll_sharesOne` says
what holds at every point of every run of a build, in whatever order its tasks take their steps: the
database is started once at most, and only for a task that needs it; all tasks that are given it
have the same handle, and if its start fails they all fail alike; nothing is stopped while a task is
under way, and what was started is stopped in the end.

The steps on the database are known from `DatabaseService.Moves`, and the steps of a task from its
stages. What ties them together is what the answer to a call of `DatabaseService.acquire` rests on
(`DatabaseService.Answered`): a state that the call has seen, at which the invariant held.
-/

namespace SchemaForge

open Program

variable {δ : Type}

namespace DatabaseService

/-! ### What an answer rests on -/

/-- What a call that has returned has seen: the flag raised, the cell settled, or the start that it
had to do. -/
inductive Answered (name : String) (steps : List (Footstep Event (DatabaseService × δ))) :
    Except Error DatabaseHandle → Prop
  | refused {x} (hx : x ∈ steps) (h : x.before.1.released = true) :
      Answered name steps (.error (releasedError name))
  | passed {x outcome} (hx : x ∈ steps) (h : x.before.1.cell = .settled outcome) :
      Answered name steps (answer outcome)
  | started {x o} (hx : x ∈ steps) (h : x.event = .started o) :
      Answered name steps (answer (rendered o))

theorem started_of_start {p : Provisioner δ} {steps : List (Footstep Event (DatabaseService × δ))}
    {outcome : Except String DatabaseHandle} (h : (start p).Takes steps (done outcome)) :
    ∃ x ∈ steps, ∃ o, x.event = .started o ∧ outcome = rendered o := by
  obtain ⟨_, started, _, _, -, rfl, hrest⟩ := takes_perform_bind_done.1 h
  refine ⟨_, List.mem_cons_self, started, rfl, ?_⟩
  cases started with
  | ok r =>
    obtain ⟨_, _, _, _, -, -, hpublish⟩ := takes_perform_bind_done.1 hrest
    obtain ⟨_, _, _, _, -, -, hend⟩ := takes_perform_bind_done.1 hpublish
    obtain ⟨-, hdone⟩ := takes_pure.1 hend
    cases hdone
    rfl
  | error e =>
    obtain ⟨_, _, _, _, -, -, hend⟩ := takes_perform_bind_done.1 hrest
    obtain ⟨-, hdone⟩ := takes_pure.1 hend
    cases hdone
    rfl

theorem answered_of_acquire {p : Provisioner δ} {name : String}
    {steps : List (Footstep Event (DatabaseService × δ))} {a : Except Error DatabaseHandle}
    (h : (acquire p name).Takes steps (done a)) : Answered name steps a := by
  obtain ⟨w, released, w', _, hact, rfl, hlooked⟩ := takes_perform_bind_done.1 h
  obtain ⟨hreleased, rfl⟩ := Prod.mk.inj hact
  cases released with
  | true =>
    obtain ⟨-, hdone⟩ := takes_pure.1 hlooked
    cases hdone
    exact .refused List.mem_cons_self hreleased
  | false =>
    obtain ⟨w, found, w', _, hact, rfl, hentered⟩ := takes_step_bind_done.1 hlooked
    obtain ⟨⟨found', s⟩, henter, heq⟩ := Option.map_eq_some_iff.1 hact
    cases heq
    cases found' with
    | some outcome =>
      obtain ⟨-, hdone⟩ := takes_pure.1 hentered
      cases hdone
      rcases eq_of_enter henter with ⟨hnone, -⟩ | ⟨outcome', hsome, hcell, -⟩
      · cases hnone
      · cases hsome
        exact .passed (List.mem_cons_of_mem _ List.mem_cons_self) hcell
    | none =>
      obtain ⟨outcome, front, back, rfl, hfront, hback⟩ := takes_bind_done.1 hentered
      obtain ⟨-, hdone⟩ := takes_pure.1 hback
      cases hdone
      obtain ⟨x, hx, o, hstarted, rfl⟩ := started_of_start hfront
      exact .started (List.mem_cons_of_mem _ (List.mem_cons_of_mem _
        (List.mem_append_left _ hx))) hstarted

theorem Acquiring.stored_of_started {events : List Event} (h : Acquiring events) {r : Instance}
    (hstarted : .started (.ok r) ∈ events) : .stored r ∈ events := by
  cases h <;> simp_all

/-- One start is all starts. -/
theorem Inv.starts_eq {ι : Type} {events : List (ι × Event)} {s : DatabaseService}
    (h : Inv events s) {o : Except Error Instance} (ho : o ∈ starts events) :
    starts events = [o] := by
  obtain ⟨x, hx⟩ := List.length_eq_one_iff.1
    (Nat.le_antisymm h.length_starts (List.length_pos_of_mem ho))
  rw [hx, List.mem_singleton] at ho
  rw [hx, ho]

end DatabaseService

namespace GenerationTask

/-! ### Tasks release nothing -/

/-- The step releases no database. -/
def Unreleasing (x : Footstep Build.Event (World δ)) : Prop :=
  ∀ name e, x.event = .database name e → ¬e.OfRelease

theorem unreleasing_of_stage {x : Footstep Build.Event (World δ)}
    (h : x.event.stage ≠ .provisioning) : Unreleasing x :=
  fun _ _ hevent ↦ absurd (congrArg Build.Event.stage hevent) h

theorem always_acquire_unreleasing (b : Backend δ) :
    (Build.acquire b Defaults.databaseService).Always Unreleasing := by
  refine (always_perform fun _ _ _ h ↦ nomatch h).bind fun _ ↦ ?_
  refine (DatabaseService.always_acquire b.toProvisioner _).zoom fun w e s hx name e' hevent ↦ ?_
  rw [← (Build.Event.database.inj hevent).2]
  exact hx.1

theorem always_generate_unreleasing (b : Backend δ) (t : GenerationTask) :
    (t.generate b).run.Always Unreleasing := by
  intro steps q h
  rcases takes_generate h with ⟨cause, -, rfl, -⟩ | ⟨-, print, -, ⟨-, h⟩ | ⟨-, schema, -, h⟩⟩
  · exact List.forall_mem_nil _
  · exact fun x hx ↦ unreleasing_of_stage
      (stage_ne_provisioning (always_produce b t print none [] _ _ h x hx).choose_spec.2.1)
  · exact always_run_during (always_acquire_unreleasing b) (fun handle ↦
      (always_proceed b t print schema handle).imp fun _ ↦ unreleasing_of_stage) _ _ h

section Pool

variable {b : Backend δ} {tasks : List GenerationTask} {files : FileSystem} {d : δ}
  {ps : Fin tasks.length → Build.Operation δ (Except TaskError Outcome)}
  {c : Course (Fin tasks.length) Build.Event (World δ)}

theorem not_ofRelease (h : Reaches (programs b tasks) (World.start files d) ps c)
    {i : Fin tasks.length} {e : DatabaseService.Event}
    (he : (i, e) ∈ Build.databaseEvents c.events) : ¬e.OfRelease := by
  obtain ⟨name, hmem⟩ := Build.mem_databaseEvents.1 he
  obtain ⟨steps, hsteps, hevents, -⟩ := h.takes i
  rw [← mem_own, ← hevents] at hmem
  obtain ⟨x, hx, hevent⟩ := List.mem_map.1 hmem
  exact always_generate_unreleasing b _ _ _ hsteps x hx name e hevent

theorem not_raised (h : Reaches (programs b tasks) (World.start files d) ps c) :
    ¬DatabaseService.Raised (Build.databaseEvents c.events) :=
  fun ⟨_, _, hmem⟩ ↦ not_ofRelease h hmem trivial

/-- **Nothing is stopped while a task is under way.** -/
theorem stops_eq_nil (h : Reaches (programs b tasks) (World.start files d) ps c) :
    DatabaseService.stops (Build.databaseEvents c.events) = [] := by
  refine List.eq_nil_iff_forall_not_mem.2 fun r hr ↦ ?_
  obtain ⟨_, _, hmem⟩ := DatabaseService.mem_stops.1 hr
  exact not_ofRelease h hmem trivial

/-- What the starts have come to. -/
abbrev startsOf {ι : Type} (c : Course ι Build.Event (World δ)) : List (Except Error Instance) :=
  DatabaseService.starts (Build.databaseEvents c.events)

/-- **Whoever has asked for the database has the answer of the one start.** -/
theorem exists_starts_of_acquire (h : Reaches (programs b tasks) (World.start files d) ps c)
    {i : Fin tasks.length} {steps : List (Footstep Build.Event (World δ))}
    (hhistory : ∀ x ∈ steps, ∃ ps' c' after, Reaches (programs b tasks) (World.start files d) ps' c' ∧
      c'.state = x.before ∧ c.events = c'.events ++ (i, x.event) :: after)
    {a : Except Error DatabaseHandle}
    (hsteps : (Build.acquire b Defaults.databaseService).Takes steps (done a)) :
    ∃ o, startsOf c = [o] ∧ a = DatabaseService.answer (DatabaseService.rendered o) := by
  have hinv := (inv_of_reaches h).database
  obtain ⟨_, _, _, rest, -, rfl, hrest⟩ := takes_perform_bind_done.1 hsteps
  obtain ⟨inner, hinner, rfl, hbefore⟩ := hrest.of_zoom_done
  rw [List.forall_mem_cons] at hhistory
  -- what the call has seen was so at an earlier point of the run
  have hseen (x) (hx : x ∈ inner) : ∃ ps' c' after,
      Reaches (programs b tasks) (World.start files d) ps' c' ∧
        Build.mysql c'.state = x.2.before.1 ∧
        c.events = c'.events ++ (i, .database Defaults.databaseService x.2.event) :: after := by
    obtain ⟨ps', c', after, hreaches, hstate, hsplit⟩ :=
      hhistory.2 _ (List.mem_map_of_mem hx)
    refine ⟨ps', c', after, hreaches, ?_, hsplit⟩
    rw [hbefore x hx, hstate]
    rfl
  have hstarts {c' : Course (Fin tasks.length) Build.Event (World δ)} {after}
      (hsplit : c.events = c'.events ++ after) {o} (ho : o ∈ startsOf c') : startsOf c = [o] := by
    obtain ⟨j, hj⟩ := DatabaseService.mem_starts.1 ho
    obtain ⟨name, hj⟩ := Build.mem_databaseEvents.1 hj
    refine hinv.starts_eq (DatabaseService.mem_starts.2 ⟨j, Build.mem_databaseEvents.2 ⟨name, ?_⟩⟩)
    rw [hsplit]
    exact List.mem_append_left _ hj
  cases DatabaseService.answered_of_acquire hinner with
  | @refused x hx hreleased =>
    obtain ⟨y, hy, rfl⟩ := List.mem_map.1 hx
    obtain ⟨ps', c', after, hreaches, hstate, -⟩ := hseen y hy
    rw [← hstate, (inv_of_reaches hreaches).database.released] at hreleased
    exact absurd hreleased (not_raised hreaches)
  | @passed x outcome hx hcell =>
    obtain ⟨y, hy, rfl⟩ := List.mem_map.1 hx
    obtain ⟨ps', c', after, hreaches, hstate, hsplit⟩ := hseen y hy
    have htells := (inv_of_reaches hreaches).database.cell
    rw [hstate, hcell] at htells
    obtain ⟨o, ho, rfl⟩ := htells
    exact ⟨o, hstarts hsplit (by rw [startsOf, ho]; exact List.mem_cons_self), rfl⟩
  | @started x o hx hevent =>
    obtain ⟨y, hy, rfl⟩ := List.mem_map.1 hx
    obtain ⟨ps', c', after, hreaches, hstate, hsplit⟩ := hseen y hy
    refine ⟨o, hinv.starts_eq (DatabaseService.mem_starts.2
      ⟨i, Build.mem_databaseEvents.2 ⟨Defaults.databaseService, ?_⟩⟩), rfl⟩
    rw [hsplit, hevent]
    exact List.mem_append_right _ List.mem_cons_self

/-! ### Where a task stands -/

/-- Where a task stands that has taken some steps, by what the starts of the database have come
to. -/
inductive Standing (b : Backend δ) (t : GenerationTask) (starts : List (Except Error Instance)) :
    List (Footstep Build.Event (World δ)) → Build.Operation δ (Except TaskError Outcome) → Prop
  /-- It was refused by its checks and has done nothing. -/
  | refused {cause} (hcheck : t.checkAll = .error cause) :
      Standing b t starts [] (done (.error ⟨t.name, .checks, cause⟩))
  /-- It needs no database of the build. -/
  | independent {steps q print} (hcheck : t.checkAll = .ok ())
      (hengages : t.engagesContainer = false) (hprint : t.fingerprint = .ok print)
      (h : (t.produce b print none []).run.Takes steps q) : Standing b t starts steps q
  /-- It is asking for the database. -/
  | asking {steps p q} (hcheck : t.checkAll = .ok ()) (hengages : t.engagesContainer = true)
      (h : (Build.acquire b Defaults.databaseService).Takes steps p) (hq : q.answer? = none) :
      Standing b t starts steps q
  /-- It has failed as the start has. -/
  | failed {steps cause} (hcheck : t.checkAll = .ok ()) (hengages : t.engagesContainer = true)
      (hstarts : starts = [.error cause])
      (h : (Build.acquire b Defaults.databaseService).Takes steps
        (done (.error (.provisioning cause.message)))) :
      Standing b t starts steps
        (done (.error ⟨t.name, .provisioning, .provisioning cause.message⟩))
  /-- It was given the handle of the database that was started, and goes on with it. -/
  | served {front back q print schema r} (hcheck : t.checkAll = .ok ())
      (hengages : t.engagesContainer = true) (hprint : t.fingerprint = .ok print)
      (hschema : t.requiredSchema = .ok schema) (hstarts : starts = [.ok r])
      (hfront : (Build.acquire b Defaults.databaseService).Takes front (done (.ok r.handle)))
      (hback : (t.proceed b print schema r.handle).run.Takes back q) :
      Standing b t starts (front ++ back) q

/-- **Each task stands where its program says**, with the answer of the one start. -/
theorem exists_standing (h : Reaches (programs b tasks) (World.start files d) ps c)
    (i : Fin tasks.length) :
    ∃ steps, steps.map Footstep.event = own i c.events ∧
      Standing b (tasks.get i) (startsOf c) steps (ps i) := by
  obtain ⟨steps, hsteps, hevents, hhistory⟩ := h.takes i
  refine ⟨steps, hevents, ?_⟩
  rcases takes_generate hsteps with ⟨cause, hcheck, rfl, hq⟩ |
    ⟨hcheck, print, hprint, ⟨hengages, htakes⟩ | ⟨hengages, schema, hschema, htakes⟩⟩
  · rw [hq]
    exact .refused hcheck
  · exact .independent hcheck hengages hprint htakes
  rw [run_during_bind] at htakes
  rcases takes_bind.1 htakes with ⟨p', hfront, hrunning, hq⟩ | ⟨a, front, back, rfl, hfront, hback⟩
  · rw [hq]
    exact .asking hcheck hengages hfront (answer?_bind_of_eq_none hrunning)
  obtain ⟨o, hstarts, rfl⟩ := exists_starts_of_acquire h
    (fun x hx ↦ hhistory x (List.mem_append_left _ hx)) hfront
  cases o with
  | error cause =>
    obtain ⟨rfl, hq⟩ := takes_pure.1 hback
    rw [hq, List.append_nil]
    exact .failed hcheck hengages hstarts hfront
  | ok r => exact .served hcheck hengages hprint hschema hstarts hfront hback

variable {t : GenerationTask} {starts : List (Except Error Instance)}
  {steps : List (Footstep Build.Event (World δ))}
  {q : Build.Operation δ (Except TaskError Outcome)} {r : Instance}

/-- Only tasks that need the database and have passed their checks ask for it. -/
theorem Standing.of_mem (h : Standing b t starts steps q) {x : Footstep Build.Event (World δ)}
    (hx : x ∈ steps) (hstage : x.event.stage = .provisioning) :
    t.engagesContainer = true ∧ t.checkAll = .ok () := by
  cases h with
  | refused => cases hx
  | @independent _ _ print _ _ _ htakes =>
    exact absurd hstage
      (stage_ne_provisioning (always_produce b t print none [] _ _ htakes x hx).choose_spec.2.1)
  | asking hcheck hengages | failed hcheck hengages | served hcheck hengages =>
    exact ⟨hengages, hcheck⟩

/-- A task that has ended failed as the start did, if the start failed and the task needs it. -/
theorem Standing.answer_of_error (h : Standing b t starts steps q)
    (hengages : t.engagesContainer = true) (hcheck : t.checkAll = .ok ()) {cause : Error}
    (hstarts : starts = [.error cause]) {a : Except TaskError Outcome} (ha : q.answer? = some a) :
    a = .error ⟨t.name, .provisioning, .provisioning cause.message⟩ := by
  cases h with
  | refused hcheck' =>
    rw [hcheck] at hcheck'
    cases hcheck'
  | independent _ hengages' =>
    rw [hengages] at hengages'
    cases hengages'
  | asking _ _ _ hq =>
    rw [hq] at ha
    cases ha
  | failed _ _ hstarts' =>
    cases hstarts'.symm.trans hstarts
    exact (Option.some.inj ha).symm
  | served _ _ _ _ hstarts' => cases hstarts'.symm.trans hstarts

/-- A task that goes on with the handle of a database, past provisioning. -/
def GoesOnWith (b : Backend δ) (t : GenerationTask) (handle : DatabaseHandle)
    (steps : List (Footstep Build.Event (World δ)))
    (q : Build.Operation δ (Except TaskError Outcome)) : Prop :=
  ∃ print schema front back, t.fingerprint = .ok print ∧ t.requiredSchema = .ok schema ∧
    steps = front ++ back ∧
      (Build.acquire b Defaults.databaseService).Takes front (done (.ok handle)) ∧
      (t.proceed b print schema handle).run.Takes back q

/-- Whoever needs the database and is past provisioning was given that of the one start. -/
theorem Standing.goesOnWith (h : Standing b t starts steps q) (hengages : t.engagesContainer = true)
    {x : Footstep Build.Event (World δ)} (hx : x ∈ steps) (hstage : x.event.stage ≠ .provisioning) :
    ∃ r, starts = [.ok r] ∧ GoesOnWith b t r.handle steps q := by
  cases h with
  | refused => cases hx
  | independent _ hengages' =>
    rw [hengages] at hengages'
    cases hengages'
  | asking _ _ hsteps => exact absurd (always_acquire b _ _ _ hsteps x hx).1 hstage
  | failed _ _ _ hsteps => exact absurd (always_acquire b _ _ _ hsteps x hx).1 hstage
  | served _ _ hprint hschema hstarts hfront hback =>
    exact ⟨_, hstarts, _, _, _, _, hprint, hschema, rfl, hfront, hback⟩

/-! ### The end of a build -/

/-- A task that has started the database and has ended has stored the instance. -/
theorem Standing.stored (h : Standing b t [.ok r] steps q) (hended : q.answer?.isSome = true)
    {x : Footstep Build.Event (World δ)} (hx : x ∈ steps) {name : String}
    (hstarted : x.event = .database name (.started (.ok r))) :
    ∃ y ∈ steps, y.event = .database Defaults.databaseService (.stored r) := by
  have hstage : x.event.stage = .provisioning := congrArg Build.Event.stage hstarted
  generalize hstarts : [Except.ok (ε := Error) r] = starts at h
  cases h with
  | refused => cases hx
  | @independent _ _ print _ _ _ htakes =>
    exact absurd hstage
      (stage_ne_provisioning (always_produce b t print none [] _ _ htakes x hx).choose_spec.2.1)
  | asking _ _ _ hq =>
    rw [hq] at hended
    cases hended
  | failed _ _ hstarts' => cases hstarts.trans hstarts'
  | @served front back q print schema r' _ _ _ _ _ hfront hback =>
    have hx : x ∈ front :=
      (List.mem_append.1 hx).resolve_right fun hx ↦ always_proceed b t _ _ _ _ _ hback x hx hstage
    obtain ⟨_, _, _, rest, -, rfl, hrest⟩ := takes_perform_bind_done.1 hfront
    obtain ⟨inner, hinner, rfl, -⟩ := hrest.of_zoom_done
    rcases List.mem_cons.1 hx with rfl | hx
    · cases hstarted
    obtain ⟨y, hy, rfl⟩ := List.mem_map.1 hx
    have hstored := (DatabaseService.trace_of_acquire hinner).stored_of_started
      (List.mem_map.2 ⟨y.2, List.mem_map_of_mem hy, (Build.Event.database.inj hstarted).2⟩)
    rw [List.map_map] at hstored
    obtain ⟨z, hz, hstored⟩ := List.mem_map.1 hstored
    exact ⟨_, List.mem_append_left _ (List.mem_cons_of_mem _ (List.mem_map_of_mem hz)),
      congrArg (Build.Event.database _) hstored⟩

/-- When all tasks have ended, what was started is running. -/
theorem running_eq (h : Reaches (programs b tasks) (World.start files d) ps c)
    (hended : ∀ i, (ps i).answer?.isSome = true) :
    (Build.mysql c.state).running.toList = (startsOf c).filterMap Except.toOption := by
  have hinv := inv_of_reaches h
  cases hrunning : (Build.mysql c.state).running with
  | some r => rw [startsOf, hinv.database.starts_eq (hinv.database.running r hrunning)]; rfl
  | none =>
    refine (List.filterMap_eq_nil_iff.2 fun o ho ↦ ?_).symm
    cases o with
    | error cause => rfl
    | ok r =>
      obtain ⟨i, hi⟩ := DatabaseService.mem_starts.1 ho
      obtain ⟨name, hi⟩ := Build.mem_databaseEvents.1 hi
      obtain ⟨steps, hevents, hstanding⟩ := exists_standing h i
      rw [startsOf, hinv.database.starts_eq ho] at hstanding
      rw [← mem_own, ← hevents] at hi
      obtain ⟨x, hx, hstarted⟩ := List.mem_map.1 hi
      obtain ⟨y, hy, hstored⟩ := hstanding.stored (hended i) hx hstarted
      have hmem : (i, .stored r) ∈ Build.databaseEvents c.events := by
        refine Build.mem_databaseEvents.2 ⟨Defaults.databaseService, ?_⟩
        rw [← mem_own, ← hevents, ← hstored]
        exact List.mem_map_of_mem hy
      obtain ⟨r', hr'⟩ := DatabaseService.exists_held ⟨i, hmem⟩
        fun ⟨_, _, htook⟩ ↦ not_ofRelease h htook trivial
      rw [← hinv.ledger.running, hrunning] at hr'
      cases hr'

/-- The task that an answer is about. -/
def taskOf : Except TaskError Outcome → String
  | .ok o => o.task
  | .error e => e.task

theorem taskOf_eq {a : Except TaskError Outcome} (h : (t.generate b).run.Takes steps (done a)) :
    taskOf a = t.name := by
  rcases journey_of_takes h with ⟨cause, -, -, hdone⟩ | ⟨-, hjourney⟩
  · cases hdone
    rfl
  · cases a with
    | ok o =>
      obtain ⟨-, _, _, _, -, -, ho⟩ := hjourney.of_ok
      rw [ho]
      rfl
    | error e => exact hjourney.of_error.1

/-- **A build that has ended has stopped what it started.** When all tasks have ended, the build can
only end in one way: the database is stopped if it was started, and each task has its answer. -/
theorem exists_completes (h : Reaches (programs b tasks) (World.start files d) ps c)
    {outcomes : Fin tasks.length → Except TaskError Outcome}
    (hended : ∀ i, (ps i).answer? = some (outcomes i)) :
    ∃ r, Completes b tasks (World.start files d) c r ∧ r.answer = List.ofFn outcomes ∧
      DatabaseService.stops (Build.databaseEvents (Build.anyones r.events)) =
        (startsOf c).filterMap Except.toOption := by
  have hinv := inv_of_reaches h
  have hreleased : (Build.mysql c.state).released = false := by
    rw [← Bool.not_eq_true, hinv.database.released]
    exact not_raised h
  obtain ⟨q, hq, hstops⟩ := Build.run_shutdown b hinv.services hreleased
  refine ⟨_, ⟨ps, outcomes, q, h, hended, hq, rfl⟩, rfl, ?_⟩
  rw [Build.stops_anyones_append, Build.stops_anyones, stops_eq_nil h, List.nil_append, hstops]
  exact running_eq h fun i ↦ by rw [hended i]; rfl

/-- What holds at every point of every run of a build whose tasks take their steps in any order. -/
structure SharesOne (b : Backend δ) (tasks : List GenerationTask) (w : World δ)
    (ps : Fin tasks.length → Build.Operation δ (Except TaskError Outcome))
    (c : Course (Fin tasks.length) Build.Event (World δ)) : Prop where
  /-- The database is started once at most, -/
  once : (startsOf c).length ≤ 1
  /-- and only for a task that needs it and has passed its checks. -/
  needed : startsOf c ≠ [] → ∃ t ∈ tasks, t.engagesContainer = true ∧ t.checkAll = .ok ()
  /-- A task that needs it and has come further than asking for it has the handle of the one that
  was started. -/
  served : ∀ i, (tasks.get i).engagesContainer = true →
    (∃ e ∈ own i c.events, e.stage ≠ .provisioning) →
      ∃ r steps, startsOf c = [.ok r] ∧ steps.map Footstep.event = own i c.events ∧
        GoesOnWith b (tasks.get i) r.handle steps (ps i)
  /-- If its start has failed, all who need it and have passed their checks fail with it. -/
  failed : ∀ cause, startsOf c = [.error cause] → ∀ i a, (tasks.get i).engagesContainer = true →
    (tasks.get i).checkAll = .ok () → (ps i).answer? = some a →
      a = .error ⟨(tasks.get i).name, .provisioning, .provisioning cause.message⟩
  /-- Tasks that do not need it do not ask for it, and run as they would whatever starts it. -/
  unaffected : ∀ i, (tasks.get i).engagesContainer = false →
    (∀ e ∈ own i c.events, e.stage ≠ .provisioning) ∧
      ∀ p : Provisioner δ, (tasks.get i).generate { b with toProvisioner := p } =
        (tasks.get i).generate b
  /-- Nothing is stopped as long as there are tasks. -/
  unstopped : DatabaseService.stops (Build.databaseEvents c.events) = []
  /-- The tasks never get stuck, and can be brought to their ends. -/
  advances : (∃ i, (ps i).answer? = none) → ∃ i, ((ps i).advance c.state).isSome = true
  ends : ∃ is r, turns is ps c = some r ∧ ∀ i, (r.1 i).answer?.isSome = true
  /-- When all have ended, whether they succeeded or failed, what was started is stopped, once, and
  there is one answer for each task, in the order of the tasks. -/
  completes : ∀ outcomes, (∀ i, (ps i).answer? = some (outcomes i)) →
    ∃ r, Completes b tasks w c r ∧ r.answer = List.ofFn outcomes ∧
      DatabaseService.stops (Build.databaseEvents (Build.anyones r.events)) =
        (startsOf c).filterMap Except.toOption ∧
      ∀ i, taskOf (outcomes i) = (tasks.get i).name

theorem generate_eq_of_not_engagesContainer (hengages : t.engagesContainer = false)
    (p : Provisioner δ) : t.generate { b with toProvisioner := p } = t.generate b := by
  rw [generate_eq, generate_eq, provision, provision, hengages]
  rfl

theorem sharesOne_of_reaches (h : Reaches (programs b tasks) (World.start files d) ps c) :
    SharesOne b tasks (World.start files d) ps c := by
  have hinv := inv_of_reaches h
  refine ⟨hinv.database.length_starts, fun hstarts ↦ ?_, fun i hengages hpast ↦ ?_,
    fun cause hstarts i a hengages hcheck ha ↦ ?_, fun i hengages ↦ ⟨fun e he hstage ↦ ?_,
      generate_eq_of_not_engagesContainer hengages⟩, stops_eq_nil h, exists_advance h,
    exists_completed h, fun outcomes hended ↦ ?_⟩
  · obtain ⟨o, ho⟩ := List.exists_mem_of_ne_nil _ hstarts
    obtain ⟨i, hi⟩ := DatabaseService.mem_starts.1 ho
    obtain ⟨name, hi⟩ := Build.mem_databaseEvents.1 hi
    obtain ⟨steps, hevents, hstanding⟩ := exists_standing h i
    rw [← mem_own, ← hevents] at hi
    obtain ⟨x, hx, hstarted⟩ := List.mem_map.1 hi
    exact ⟨_, List.get_mem tasks i,
      hstanding.of_mem hx (congrArg Build.Event.stage hstarted)⟩
  · obtain ⟨steps, hevents, hstanding⟩ := exists_standing h i
    obtain ⟨e, he, hstage⟩ := hpast
    rw [← hevents] at he
    obtain ⟨x, hx, rfl⟩ := List.mem_map.1 he
    obtain ⟨r, hr, hgoes⟩ := hstanding.goesOnWith hengages hx hstage
    exact ⟨r, steps, hr, hevents, hgoes⟩
  · obtain ⟨steps, -, hstanding⟩ := exists_standing h i
    exact hstanding.answer_of_error hengages hcheck hstarts ha
  · obtain ⟨steps, hevents, hstanding⟩ := exists_standing h i
    rw [← hevents] at he
    obtain ⟨x, hx, rfl⟩ := List.mem_map.1 he
    rw [(hstanding.of_mem hx hstage).1] at hengages
    cases hengages
  · obtain ⟨r, hcompletes, hanswer, hstops⟩ := exists_completes h hended
    refine ⟨r, hcompletes, hanswer, hstops, fun i ↦ ?_⟩
    obtain ⟨steps, hsteps, -, -⟩ := h.takes i
    have hdone : ps i = done (outcomes i) := by
      have hi := hended i
      cases hp : ps i with
      | done a =>
        rw [hp] at hi
        exact congrArg done (Option.some.inj hi)
      | step act event next =>
        rw [hp] at hi
        cases hi
    rw [hdone] at hsteps
    exact taskOf_eq hsteps

/-- **All tasks of a build share one database.** In whatever order they take their steps, it is
started once at most, all who need it get the same handle or fail alike, and it is stopped in the
end, once, if it was started. The run of `generateAll` is one of these runs. -/
theorem generateAll_sharesOne (b : Backend δ) (tasks : List GenerationTask) (files : FileSystem)
    (d : δ) :
    (∀ ps c, Reaches (programs b tasks) (World.start files d) ps c →
      SharesOne b tasks (World.start files d) ps c) ∧
    ∃ c r, (generateAll b tasks).run (World.start files d) = some r ∧
      Completes b tasks (World.start files d) c r := by
  refine ⟨fun _ _ h ↦ sharesOne_of_reaches h, ?_⟩
  obtain ⟨r, hr, -⟩ := ensures_generateAll b tasks _ (Build.quiet_start files d)
  obtain ⟨c, hc⟩ := generateAll_completes b tasks hr
  exact ⟨c, r, hr, hc⟩

/-- Two tasks that need the database and one that does not, in turn. The database is started for the
first, and when all have failed, each in its own time, it is stopped. -/
theorem generateAll_sharesOne_rehearsal :
    let script (name sql : String) : Location × Node :=
      ([RawText.ofText "db", RawText.ofText name], .file (Utf8.encode sql) false)
    let files : FileSystem := ⟨[([RawText.ofText "db"], .directory none),
      script "V1__users.sql" "CREATE TABLE users;"], []⟩
    let handle : DatabaseHandle := ⟨"", "", "root", ""⟩
    let rehearsal : Rehearsal := { handleOf := fun _ ↦ handle }
    let w : World Rehearsal := World.start files rehearsal
    let task (name schema : String) (useContainer : Bool) : GenerationTask := {
      name
      configuration := { generator := { database := { inputSchema := some schema } } }
      projectDir := ⟨"/work"⟩, outputDir := ⟨"/db/V1__users.sql/out"⟩, workDir := ⟨"/work/target"⟩
      migrationsDir := ⟨"/db"⟩, useContainer, allInputsDeclared := false
      command := { program := "sh" }, schema := default, hooks := {} }
    let tasks := [task "first" "app" true, task "second" "reporting" true, task "third" "" false]
    let order : List (Fin 3) :=
      [0, 2, 1, 0, 0, 1, 0, 0, 0, 0, 0, 1, 0, 0, 1, 0, 0, 1, 0, 0, 1, 0, 0, 1, 1, 1, 1, 1, 1, 1]
    ∃ r, turns order (programs Rehearsal.backend tasks) ⟨[], w⟩ = some r ∧
      (∀ i, (r.1 i).answer?.isSome = true) ∧ startsOf r.2 = [.ok ⟨1, handle⟩] ∧
      SharesOne Rehearsal.backend tasks w r.1 r.2 ∧ ∃ c q,
        (generateAll Rehearsal.backend tasks).run w = some q ∧
          Completes Rehearsal.backend tasks w c q := by
  intro script files handle rehearsal w task tasks order
  have hturns : (turns order (programs Rehearsal.backend tasks) ⟨[], w⟩).any (fun r ↦
      (r.1 0).answer?.isSome && (r.1 1).answer?.isSome && (r.1 2).answer?.isSome &&
        decide (startsOf r.2 = [.ok ⟨1, handle⟩])) = true := by
    decide +kernel
  obtain ⟨r, hr, hend⟩ := (Option.any_eq_true _ _).1 hturns
  simp only [Bool.and_eq_true, decide_eq_true_eq] at hend
  obtain ⟨⟨⟨hfirst, hsecond⟩, hthird⟩, hstarts⟩ := hend
  obtain ⟨hall, hrun⟩ := generateAll_sharesOne Rehearsal.backend tasks files rehearsal
  exact ⟨r, hr, fun | 0 => hfirst | 1 => hsecond | 2 => hthird, hstarts,
    hall _ _ (Reaches.start.turns hr), hrun⟩

end Pool

end GenerationTask

end SchemaForge
