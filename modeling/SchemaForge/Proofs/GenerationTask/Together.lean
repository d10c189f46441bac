import SchemaForge.Proofs.Build.Shutdown
import SchemaForge.Proofs.GenerationTask.SideBySide

/-!
# The runs of a build

`GenerationTask.generateAll` runs its tasks in one of many orders. `GenerationTask.Completes` has
all of them: the tasks take their steps in any order, and when all have ended the databases are
released. The run of `generateAll` is one of these (`GenerationTask.generateAll_completes`), and the
tasks may as well take all their steps one after the other
(`GenerationTask.exists_reaches_of_inSequence`).
-/

namespace SchemaForge

open Program

variable {δ : Type}

namespace DatabaseService

/-- The database is neither being started nor released. -/
def AtRest (w : DatabaseService × δ) : Prop := w.1.cell ≠ .starting ∧ w.1.released = false

theorem ensures_start (p : Provisioner δ) :
    (start p).Ensures (fun w ↦ w.1.released = false) fun _ ↦ AtRest := by
  refine ensures_perform fun started ↦ ?_
  have hpublish : (Program.change
      (fun w : DatabaseService × δ ↦ ({ w.1 with cell := .settled (rendered started) }, w.2))
      (Event.published (rendered started)) >>= fun _ ↦
        (pure (rendered started) : Operation δ _)).Ensures (fun w ↦ w.1.released = false)
          fun _ ↦ AtRest := by
    refine ensures_perform fun _ ↦ ensures_pure ?_
    rintro _ ⟨w, hw, hact⟩
    obtain ⟨-, rfl⟩ := Prod.mk.inj hact
    exact ⟨nofun, hw⟩
  have hstarted {w' : DatabaseService × δ} (h : ∃ w : DatabaseService × δ, w.1.released = false ∧
      (let r := p.start w.2; (r.1, (w.1, r.2))) = (started, w')) : w'.1.released = false := by
    obtain ⟨w, hw, hact⟩ := h
    obtain ⟨-, rfl⟩ := Prod.mk.inj hact
    exact hw
  cases started with
  | error e => exact hpublish.strengthen fun w' h ↦ hstarted h
  | ok running =>
    refine Ensures.strengthen (ensures_perform fun _ ↦ hpublish.strengthen ?_) fun w' h ↦ hstarted h
    rintro _ ⟨w, hw, hact⟩
    obtain ⟨-, rfl⟩ := Prod.mk.inj hact
    exact hw

theorem ensures_acquire (p : Provisioner δ) (name : String) :
    (acquire p name).Ensures AtRest fun _ ↦ AtRest := by
  refine ensures_perform fun released ↦ ?_
  refine Ensures.strengthen (P := AtRest) ?_ ?_
  rotate_left
  · rintro _ ⟨w, hw, hact⟩
    obtain ⟨-, rfl⟩ := Prod.mk.inj hact
    exact hw
  cases released with
  | true => exact ensures_pure fun _ hw ↦ hw
  | false =>
    refine ensures_await (R := fun found w ↦ w.1.released = false ∧ (found ≠ none → AtRest w))
      ?_ fun found ↦ ?_
    · rintro ⟨⟨name, cell, running, released⟩, d⟩ ⟨hcell, hreleased⟩
      cases cell with
      | empty => exact ⟨_, _, rfl, hreleased, absurd rfl⟩
      | starting => exact absurd rfl hcell
      | settled outcome => exact ⟨_, _, rfl, hreleased, fun _ ↦ ⟨nofun, hreleased⟩⟩
    · cases found with
      | some outcome => exact ensures_pure fun _ hw ↦ hw.2 nofun
      | none =>
        exact ((ensures_start p).strengthen fun _ hw ↦ hw.1).bind fun _ ↦
          ensures_pure fun _ hw ↦ hw

end DatabaseService

namespace Build

/-- Of what tasks share, only these locks are in use. -/
structure Uses (locks : List (String × String)) (w : World δ) : Prop where
  services : OnlyMysql w
  cell : (mysql w).cell ≠ .starting
  released : (mysql w).released = false
  locks : w.locks = locks

/-- Nothing that tasks share is in use. -/
abbrev Quiet : World δ → Prop := Uses []

theorem quiet_start (files : FileSystem) (d : δ) : Quiet (World.start files d) :=
  ⟨Or.inl rfl, nofun, rfl, rfl⟩

theorem ensures_acquire (b : Backend δ) :
    (acquire b Defaults.databaseService).Ensures Quiet fun _ ↦ Quiet := by
  refine ensures_perform fun _ ↦ ?_
  rintro _ ⟨w, hw, hact⟩
  obtain ⟨-, rfl⟩ := Prod.mk.inj hact
  have hservices := services_putService hw.services (name_mysql hw.services)
  have hmysql : mysql (w.putService (mysql w)) = mysql w := mysql_of_services hservices
  obtain ⟨r, hr, hrest⟩ := DatabaseService.ensures_acquire b.toProvisioner
    Defaults.databaseService (mysql w, w.outside) ⟨hw.cell, hw.released⟩
  obtain ⟨w', hrun, ⟨hservices', hlocks⟩, hend⟩ := run_onService
    (w := w.putService (mysql w)) ((DatabaseService.always_acquire _ _).imp fun _ hx ↦ hx.2)
    (Or.inr ⟨_, hservices, name_mysql hw.services⟩) (by rw [hmysql]; exact hr)
  rw [← hend] at hrest
  exact ⟨_, hrun, hservices', hrest.1, hrest.2, hlocks.trans hw.locks⟩

end Build

namespace GenerationTask

variable {α β : Type} {b : Backend δ} {t : GenerationTask}

theorem Apart.uses {stage : Stage} {x : Footstep Build.Event (World δ)} (h : Apart stage x)
    {locks : List (String × String)} (hbefore : Build.Uses locks x.before) :
    Build.Uses locks x.after := by
  obtain ⟨-, -, files, d, hafter⟩ := h
  rw [hafter]
  exact ⟨hbefore.services, hbefore.cell, hbefore.released, hbefore.locks⟩

theorem ensures_run_during {stage : Stage} {p : Build.Operation δ (Except Error α)}
    {k : α → Staged δ β} (hp : p.Ensures Build.Quiet fun _ ↦ Build.Quiet)
    (hk : ∀ a, (k a).run.Ensures Build.Quiet fun _ ↦ Build.Quiet) :
    (t.during stage p >>= k).run.Ensures Build.Quiet fun _ ↦ Build.Quiet := by
  rw [run_during_bind]
  refine hp.bind fun a ↦ ?_
  cases a with
  | error cause => exact ensures_pure fun _ h ↦ h
  | ok a => exact hk a

/-- What a task does apart from others it does to the end. -/
theorem ensures_of_apart {stage : Stage} {p : Build.Operation δ α} (hwaits : p.WaitsAt fun _ ↦ False)
    (hp : p.Always (Apart stage)) (locks : List (String × String)) :
    p.Ensures (Build.Uses locks) fun _ ↦ Build.Uses locks :=
  hwaits.ensures (hp.imp fun _ hx ↦ hx.uses)

theorem ensures_migrate (b : Backend δ) (t : GenerationTask) (handle : DatabaseHandle)
    (schema : String) :
    (t.migrate b handle schema).Ensures Build.Quiet fun _ ↦ Build.Quiet := by
  -- the lock of the schema is the one thing in use meanwhile
  refine ensures_await (R := fun _ ↦ Build.Uses [(Defaults.databaseService, schema)])
    (fun w hw ↦ ?_) fun _ ↦ ?_
  · rw [hw.locks]
    exact ⟨(), _, rfl, hw.services, hw.cell, hw.released, rfl⟩
  refine (ensures_of_apart (waitsAt_migrateConnected b t handle schema)
    ((always_migrateConnected b t handle schema).imp fun _ hx ↦ hx.1) _).bind fun answer ↦
      ensures_perform fun _ ↦ ensures_pure ?_
  rintro _ ⟨w, hw, hact⟩
  obtain ⟨-, rfl⟩ := Prod.mk.inj hact
  refine ⟨hw.services, hw.cell, hw.released, ?_⟩
  show w.locks.erase _ = []
  rw [hw.locks, List.erase_cons_head]

/-- A task alone comes to the start of its generator, and leaves nothing in use. -/
theorem ensures_launch (b : Backend δ) (t : GenerationTask) :
    (t.launch b).run.Ensures Build.Quiet fun _ ↦ Build.Quiet := by
  have hpure {α : Type} (a : α) : (pure a : Build.Operation δ α).Ensures Build.Quiet
      fun _ ↦ Build.Quiet := ensures_pure fun _ h ↦ h
  have hwork (print : Fingerprint) (handle : Option DatabaseHandle)
      (migrations : List Migration.Applied) : (do
        t.during .cleaning t.clean
        t.during .writing (t.write b (t.effective handle))
        let spec ← t.during .invocation (return t.processSpec)
        t.during .invocation (spawn b spec)
        return { fingerprint := print, migrations, spec } : Staged δ Launched).run.Ensures
          Build.Quiet fun _ ↦ Build.Quiet :=
    ensures_run_during (ensures_of_apart waitsAt_perform (always_clean t) []) fun _ ↦
      ensures_run_during (ensures_of_apart waitsAt_perform (always_write b t _) []) fun _ ↦
        ensures_run_during (hpure _) fun spec ↦
          ensures_run_during (ensures_of_apart (waitsAt_spawn b spec) (always_spawn b spec) [])
            fun _ ↦ hpure _
  rw [launch, provision]
  refine ensures_run_during (hpure _) fun _ ↦ ensures_run_during (hpure _) fun print ↦ ?_
  cases t.engagesContainer with
  | false => exact hwork print none []
  | true =>
    rw [if_pos rfl]
    simp only [bind_assoc, pure_bind]
    refine ensures_run_during (hpure _) fun schema ↦
      ensures_run_during (Build.ensures_acquire b) fun handle ↦
        ensures_run_during (ensures_migrate b t handle schema) fun migrations ↦ ?_
    exact hwork print (some handle) migrations

/-- A generator comes to its end. -/
theorem ensures_conclude (b : Backend δ) (t : GenerationTask) (l : Launched) :
    (t.conclude b l).run.Ensures Build.Quiet fun _ ↦ Build.Quiet := by
  rw [conclude, ExceptT.run_bind, ExceptT.run_lift, bind_map_left]
  refine ensures_perform fun output ↦ Ensures.strengthen (P := Build.Quiet) ?_ ?_
  · exact ensures_run_during (ensures_pure fun _ h ↦ h) fun _ ↦ ensures_pure fun _ h ↦ h
  · rintro _ ⟨w, hw, hact⟩
    obtain ⟨-, rfl⟩ := Prod.mk.inj hact
    exact ⟨hw.services, hw.cell, hw.released, hw.locks⟩

/-- What comes after the start of a generator. -/
def finish (b : Backend δ) (t : GenerationTask) :
    Except TaskError Launched → Build.Operation δ (Except TaskError Outcome)
  | .ok l => (t.conclude b l).run
  | .error e => return .error e

theorem run_generate (b : Backend δ) (t : GenerationTask) :
    (t.generate b).run = (t.launch b).run >>= t.finish b := by
  rw [generate, ExceptT.run_bind]
  congr 1
  funext l
  cases l <;> rfl

theorem ensures_finish (b : Backend δ) (t : GenerationTask) (l : Except TaskError Launched) :
    (t.finish b l).Ensures Build.Quiet fun _ ↦ Build.Quiet := by
  cases l with
  | ok l => exact ensures_conclude b t l
  | error e => exact ensures_pure fun _ h ↦ h

/-- A task alone comes to its end, and leaves nothing in use. -/
theorem ensures_generate (b : Backend δ) (t : GenerationTask) :
    (t.generate b).run.Ensures Build.Quiet fun _ ↦ Build.Quiet := by
  rw [run_generate]
  exact (ensures_launch b t).bind fun l ↦ ensures_finish b t l

/-! ### All orders -/

section Pool

variable {tasks : List GenerationTask} {w : World δ}

/-- A run of a build whose tasks take their steps in any order: all have come to their ends, and
then the databases were released. There is one answer for each task, in the order of the tasks. -/
def Completes (b : Backend δ) (tasks : List GenerationTask) (w : World δ)
    (c : Course (Fin tasks.length) Build.Event (World δ))
    (r : Run Build.Event (World δ) (List (Except TaskError Outcome))) : Prop :=
  ∃ ps outcomes q, Reaches (programs b tasks) w ps c ∧
    (∀ i, (ps i).answer? = some (outcomes i)) ∧ (Build.shutdown b).run c.state = some q ∧
    r = ⟨List.ofFn outcomes, c.events.map Prod.snd ++ q.events, q.state⟩

/-- Answers of one party each, by the parties. -/
theorem exists_eq_map_finRange {n : Nat} {answers : List α} (h : answers.length = n) :
    ∃ l : Fin n → α, answers = (List.finRange n).map l := by
  subst h
  exact ⟨answers.get, (List.map_get_finRange answers).symm⟩

theorem mapM_eq_finRange {γ : Type} (f : GenerationTask → Build.Operation δ γ) :
    tasks.mapM f = (List.finRange tasks.length).mapM fun i ↦ f (tasks.get i) := by
  conv_lhs => rw [← List.map_get_finRange tasks, List.mapM_map]
  rfl

/-- The run of a build is one in which all tasks first go as far as the start of their generators,
one after the other. -/
theorem generateAll_completes (b : Backend δ) (tasks : List GenerationTask)
    {r : Run Build.Event (World δ) (List (Except TaskError Outcome))}
    (hr : (generateAll b tasks).run w = some r) : ∃ c, Completes b tasks w c r := by
  obtain ⟨launched, u, hlaunched, hu, rfl⟩ := of_run_bind hr
  obtain ⟨concluded, v, hconcluded, hv, rfl⟩ := of_run_bind hu
  obtain ⟨q, x, hq, hx, rfl⟩ := of_run_bind hv
  obtain rfl := Option.some.inj hx
  rw [mapM_eq_finRange] at hlaunched
  have hnodup := List.nodup_finRange tasks.length
  obtain ⟨order, ps, c, hturns, hstate, hevents, hanswers, -⟩ :=
    exists_turns_mapM (c := ⟨[], w⟩) hnodup (fun i _ ↦ run_generate b (tasks.get i)) hlaunched
  obtain ⟨l, hl⟩ := exists_eq_map_finRange (hanswers.length_eq.symm.trans List.length_finRange)
  rw [hl, List.forall₂_map_right_iff, List.forall₂_same] at hanswers
  have hzip : tasks.zip launched.answer =
      (List.finRange tasks.length).map fun i ↦ (tasks.get i, l i) := by
    rw [hl, ← List.zip_map', List.map_get_finRange]
  rw [hzip, List.mapM_map] at hconcluded
  obtain ⟨order', ps', c', hturns', hstate', hevents', hanswers', -⟩ :=
    exists_turns_mapM hnodup
      (fun i hi ↦ (hanswers i hi).trans (bind_pure _).symm) (hstate ▸ hconcluded)
  obtain ⟨outcomes, houtcomes⟩ :=
    exists_eq_map_finRange (hanswers'.length_eq.symm.trans List.length_finRange)
  rw [houtcomes, List.forall₂_map_right_iff, List.forall₂_same] at hanswers'
  refine ⟨c', ps', outcomes, q, (Reaches.start.turns hturns).turns hturns', fun i ↦ ?_,
    hstate' ▸ hq, ?_⟩
  · rw [hanswers' i (List.mem_finRange i)]
    rfl
  · simp only [houtcomes, List.ofFn_eq_map, hevents', hevents, List.map_nil, List.nil_append,
      List.append_nil, List.append_assoc]

/-- The tasks one after the other, as long as the databases are there. -/
def inSequence (b : Backend δ) (tasks : List GenerationTask) :
    Build.Operation δ (List (Except TaskError Outcome)) :=
  tasks.mapM fun t ↦ (t.generate b).run

/-- The tasks may take all their steps one after the other. -/
theorem exists_reaches_of_inSequence
    {r : Run Build.Event (World δ) (List (Except TaskError Outcome))}
    (hr : (inSequence b tasks).run w = some r) :
    ∃ ps c outcomes, Reaches (programs b tasks) w ps c ∧
      (∀ i, (ps i).answer? = some (outcomes i)) ∧ c.state = r.state ∧
      c.events.map Prod.snd = r.events ∧ r.answer = List.ofFn outcomes := by
  rw [inSequence, mapM_eq_finRange] at hr
  obtain ⟨order, ps, c, hturns, hstate, hevents, hanswers, -⟩ :=
    exists_turns_mapM (c := ⟨[], w⟩) (List.nodup_finRange tasks.length)
      (fun i _ ↦ (bind_pure _).symm) hr
  obtain ⟨outcomes, houtcomes⟩ :=
    exists_eq_map_finRange (hanswers.length_eq.symm.trans List.length_finRange)
  rw [houtcomes, List.forall₂_map_right_iff, List.forall₂_same] at hanswers
  refine ⟨ps, c, outcomes, Reaches.start.turns hturns, fun i ↦ ?_, hstate, hevents, ?_⟩
  · rw [hanswers i (List.mem_finRange i)]
    rfl
  · rw [houtcomes, List.ofFn_eq_map]

theorem ensures_shutdown (b : Backend δ) :
    (Build.shutdown b).Ensures Build.Quiet fun _ _ ↦ True := by
  intro w hw
  obtain ⟨r, hr, -⟩ := Build.run_shutdown b hw.services hw.released
  exact ⟨r, hr, trivial⟩

/-- The run of a build comes to its end. -/
theorem ensures_generateAll (b : Backend δ) (tasks : List GenerationTask) :
    (generateAll b tasks).Ensures Build.Quiet fun _ _ ↦ True := by
  refine (ensures_mapM fun t _ ↦ ensures_launch b t).bind fun launched ↦ ?_
  refine (ensures_mapM fun x _ ↦ ?_).bind fun outcomes ↦
    (ensures_shutdown b).bind fun _ ↦ ensures_pure fun _ h ↦ h
  obtain ⟨t, l⟩ := x
  exact ensures_finish b t l

end Pool

end GenerationTask

end SchemaForge
