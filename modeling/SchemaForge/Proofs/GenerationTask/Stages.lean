import Mathlib.Data.List.Destutter
import SchemaForge.GenerationTask.Generation
import SchemaForge.Proofs.Build.Trace
import SchemaForge.Proofs.Program.Trace
import SchemaForge.Rehearsal.Databases

/-!
# The stages of a task

`GenerationTask.generate` is one program with many early returns. This module takes it apart into
its stages: the checks, and then the stages of the task's plan (`GenerationTask.plan`), each of
which has its own work (`GenerationTask.Performs`) and hands something on to the next.

A run is a journey through the plan (`GenerationTask.Journey`), which is in some stage, has failed
in one, or has arrived; so much follows from the text of the program
(`GenerationTask.journey_of_takes`), and the rest is by induction on the journey.
`GenerationTask.generate_inStages` has what is wanted of it: the steps are a prefix of the plan, a
failure is that of the first stage that failed, and no later stage has done anything.

All this is about the steps of one run among whatever others do to the state between them
(`Program.Takes`). A run alone is the special case of `GenerationTask.state_of_run_generate`.
-/

namespace SchemaForge

/-- Stages in the order in which a task goes through them. -/
instance : LE Stage := ⟨fun s s' ↦ s.ctorIdx ≤ s'.ctorIdx⟩

instance (s s' : Stage) : Decidable (s ≤ s') := inferInstanceAs (Decidable (s.ctorIdx ≤ s'.ctorIdx))

/-- The stage whose work a step belongs to. The databases are counted up when a build ends, by no
task. -/
def Build.Event.stage : Build.Event → Stage
  | .registered _ | .database .. | .counted _ => .provisioning
  | .locked .. | .unlocked .. | .searched .. | .connected _ | .migration _ | .closed _ => .migration
  | .cleaned .. => .cleaning
  | .wrote .. => .writing
  | .launched .. | .finished .. => .invocation

namespace GenerationTask

open Program

variable {δ α β : Type}

/-! ### The text of a run -/

/-- A part of a stage, and then the rest unless it fails. -/
theorem run_during_bind (t : GenerationTask) (stage : Stage)
    (p : Build.Operation δ (Except Error α)) (k : α → Staged δ β) :
    (t.during stage p >>= k).run = p >>= fun a ↦
      match a with
      | .ok a => (k a).run
      | .error cause => pure (.error ⟨t.name, stage, cause⟩) := by
  rw [ExceptT.run_bind, during, ExceptT.run_mk, bind_assoc]
  congr 1
  funext a
  cases a <;> rfl

/-- The run of the generator, from its launch to the judgement. -/
def invoke (b : Backend δ) (t : GenerationTask) :
    Build.Operation δ (Except Error (GenerationResult × Option Verdict)) := do
  match t.processSpec with
  | .error e => return .error e
  | .ok spec =>
    match ← spawn b spec with
    | .error e => return .error e
    | .ok () =>
      let output ← Program.perform
        (fun w : World δ => let r := b.finish spec w.files w.outside
          (r.1, { w with files := r.2.1, outside := r.2.2 }))
        (Build.Event.finished spec)
      let result := GenerationResult.ofOutput spec output
      return (t.judge result).map fun verdict ↦ (result, verdict)

/-- A run from the cleaning on. -/
def produce (b : Backend δ) (t : GenerationTask) (fingerprint : Fingerprint)
    (handle : Option DatabaseHandle) (migrations : List Migration.Applied) : Staged δ Outcome := do
  t.during .cleaning t.clean
  t.during .writing (t.write b (t.effective handle))
  let (result, verdict) ← t.during .invocation (t.invoke b)
  return { task := t.name, fingerprint, migrations, result, verdict }

/-- The generator's run as part of a task. -/
theorem run_invocation (b : Backend δ) (t : GenerationTask) (fingerprint : Fingerprint)
    (migrations : List Migration.Applied) :
    (do
        let spec ← t.during .invocation (return t.processSpec)
        t.during .invocation (spawn b spec)
        t.conclude b { fingerprint, migrations, spec } : Staged δ Outcome) =
      (do
        let (result, verdict) ← t.during .invocation (t.invoke b)
        return { task := t.name, fingerprint, migrations, result, verdict }) := by
  refine ExceptT.ext ?_
  rw [run_during_bind, run_during_bind, pure_bind, invoke]
  cases t.processSpec with
  | error e => rfl
  | ok spec =>
    dsimp only
    rw [run_during_bind, bind_assoc]
    congr 1
    funext launched
    cases launched with
    | error e => rfl
    | ok u =>
      rw [conclude, ExceptT.run_bind, ExceptT.run_lift, bind_map_left, bind_assoc]
      refine congrArg (_ >>= ·) (funext fun output ↦ ?_)
      dsimp only
      rw [run_during_bind, pure_bind, pure_bind]
      cases t.judge (GenerationResult.ofOutput spec output) <;> rfl

/-- A run by its parts: the checks, the database, and what comes from there on. -/
theorem generate_eq (b : Backend δ) (t : GenerationTask) :
    t.generate b = (do
      t.during .checks (return t.check)
      let fingerprint ← t.during .checks (return t.fingerprint)
      let (handle, migrations) ← t.provision b
      t.produce b fingerprint handle migrations) := by
  rw [generate, launch]
  simp only [bind_assoc]
  congr 1
  funext _
  congr 1
  funext fingerprint
  congr 1
  funext x
  rw [produce]
  refine congrArg (_ >>= ·) (funext fun _ ↦ congrArg (_ >>= ·) (funext fun _ ↦ ?_))
  exact run_invocation b t fingerprint x.2

/-! ### The steps of a stage -/

/-- A step of a stage that changes nothing that tasks share but files and what is outside. -/
def Apart (stage : Stage) (x : Footstep Build.Event (World δ)) : Prop :=
  x.event.stage = stage ∧ x.event.OfTask ∧ ∃ files d, x.after = { x.before with files, outside := d }

/-- A step of a stage that changes no file. -/
def Keeps (stage : Stage) (x : Footstep Build.Event (World δ)) : Prop :=
  x.event.stage = stage ∧ x.after.files = x.before.files

theorem always_acquire (b : Backend δ) (name : String) :
    (Build.acquire b name).Always (Keeps .provisioning) := by
  refine (always_perform fun w ↦ ⟨rfl, rfl⟩).bind fun _ ↦ ?_
  exact Always.zoom (φ := fun _ ↦ True) (fun _ _ _ _ _ ↦ trivial) fun w e s _ ↦ ⟨rfl, rfl⟩

theorem always_lock (database schema : String) :
    (Build.lock (δ := δ) database schema).Always (Keeps .migration) := by
  refine always_step (fun w u w' hact ↦ ⟨rfl, ?_⟩) fun _ ↦ always_pure
  split at hact
  · cases hact
  · obtain ⟨-, rfl⟩ := Prod.mk.inj (Option.some.inj hact)
    rfl

/-- A migration over a connection changes nothing but what is outside. -/
theorem always_migrateConnected (b : Backend δ) (t : GenerationTask) (handle : DatabaseHandle)
    (schema : String) : (t.migrateConnected b handle schema).Always fun x ↦
      Apart .migration x ∧ x.after.files = x.before.files := by
  refine (always_perform fun w ↦ ⟨⟨rfl, trivial, _, _, rfl⟩, rfl⟩).bind fun connected ↦ ?_
  cases connected with
  | error e => exact always_pure
  | ok target =>
    refine Always.bind ?_ fun applied ↦
      (always_perform fun w ↦ ⟨⟨rfl, trivial, _, _, rfl⟩, rfl⟩).bind fun closed ↦ ?_
    · refine (always_perform fun w ↦ ⟨⟨rfl, trivial, w.files, w.outside, rfl⟩, rfl⟩).bind
        fun found ↦ ?_
      cases found with
      | error e => exact always_pure
      | ok scripts =>
        exact Always.zoom (φ := fun _ ↦ True) (fun _ _ _ _ _ ↦ trivial)
          fun w e s _ ↦ ⟨⟨rfl, trivial, _, _, rfl⟩, rfl⟩
    · cases applied <;> cases closed <;> exact always_pure

theorem always_migrate (b : Backend δ) (t : GenerationTask) (handle : DatabaseHandle)
    (schema : String) : (t.migrate b handle schema).Always (Keeps .migration) :=
  (always_lock _ _).bind fun _ ↦
    ((always_migrateConnected b t handle schema).imp fun _ hx ↦ ⟨hx.1.1, hx.2⟩).bind fun _ ↦
      (always_perform fun _ ↦ ⟨rfl, rfl⟩).bind fun _ ↦ always_pure

theorem always_clean (t : GenerationTask) : (t.clean (δ := δ)).Always (Apart .cleaning) :=
  always_perform fun w ↦ ⟨rfl, trivial, _, w.outside, rfl⟩

theorem always_write (b : Backend δ) (t : GenerationTask) (c : Configuration) :
    (t.write b c).Always (Apart .writing) :=
  always_perform fun w ↦ ⟨rfl, trivial, _, w.outside, rfl⟩

theorem always_spawn (b : Backend δ) (spec : ProcessSpec) :
    (spawn b spec).Always (Apart .invocation) := by
  refine (always_perform fun w ↦ ⟨rfl, trivial, w.files, w.outside, rfl⟩).bind fun launched ↦ ?_
  cases launched <;> exact always_pure

theorem always_invoke (b : Backend δ) (t : GenerationTask) :
    (t.invoke b).Always (Apart .invocation) := by
  rw [invoke]
  cases t.processSpec with
  | error e => exact always_pure
  | ok spec =>
    refine (always_spawn b spec).bind fun launched ↦ ?_
    cases launched with
    | error e => exact always_pure
    | ok u => exact (always_perform fun w ↦ ⟨rfl, trivial, _, _, rfl⟩).bind fun _ ↦ always_pure

/-! ### A run by its stages -/

/-- What is checked before anything happens, that there is a fingerprint, and what the database
stages need. -/
def checkAll (t : GenerationTask) : Except Error Unit := do
  t.check
  let _ ← t.fingerprint
  if t.engagesContainer then
    let _ ← t.requiredSchema

/-- The stages of a task after its checks. -/
def plan (t : GenerationTask) : List Stage :=
  if t.engagesContainer then [.provisioning, .migration, .cleaning, .writing, .invocation]
  else [.cleaning, .writing, .invocation]

/-- What the stages of a run hand on. -/
structure Progress where
  handle : Option DatabaseHandle := none
  migrations : List Migration.Applied := []
  run : Option (GenerationResult × Option Verdict) := none

/-- The work of a stage, from what the stages before have handed on: its steps, and what it hands
on itself unless it fails. -/
inductive Performs (b : Backend δ) (t : GenerationTask) : Stage → Progress →
    List (Footstep Build.Event (World δ)) → Except Error Progress → Prop
  | provisioned {p : Progress} {steps a}
      (h : (Build.acquire b Defaults.databaseService).Takes steps (done a)) :
      Performs b t .provisioning p steps (a.map fun handle ↦ { p with handle := some handle })
  | migrated {p : Progress} {handle schema steps a} (hhandle : p.handle = some handle)
      (hschema : t.requiredSchema = .ok schema)
      (h : (t.migrate b handle schema).Takes steps (done a)) :
      Performs b t .migration p steps (a.map fun migrations ↦ { p with migrations })
  | cleaned {p : Progress} {steps a} (h : t.clean.Takes steps (done a)) :
      Performs b t .cleaning p steps (a.map fun _ ↦ p)
  | wrote {p : Progress} {steps a} (h : (t.write b (t.effective p.handle)).Takes steps (done a)) :
      Performs b t .writing p steps (a.map fun _ ↦ p)
  | invoked {p : Progress} {steps a} (h : (t.invoke b).Takes steps (done a)) :
      Performs b t .invocation p steps (a.map fun run ↦ { p with run := some run })

/-- A run through the stages ahead: it has arrived, is under way in a stage, has failed in one, or
has passed one and goes on. -/
inductive Journey (b : Backend δ) (t : GenerationTask) : List Stage → Progress →
    List (Footstep Build.Event (World δ)) → Build.Operation δ (Except TaskError Outcome) → Prop
  | arrived {p : Progress} {fingerprint result verdict} (hprint : t.fingerprint = .ok fingerprint)
      (h : p.run = some (result, verdict)) :
      Journey b t [] p [] (done (.ok { task := t.name, fingerprint, migrations := p.migrations,
                                       result, verdict }))
  | underway {stage later p steps q} (h : ∀ x ∈ steps, x.event.stage = stage)
      (hq : q.answer? = none) : Journey b t (stage :: later) p steps q
  | failed {stage later p steps cause} (h : Performs b t stage p steps (.error cause)) :
      Journey b t (stage :: later) p steps (done (.error ⟨t.name, stage, cause⟩))
  | passed {stage later p p' front back q} (h : Performs b t stage p front (.ok p'))
      (rest : Journey b t later p' back q) : Journey b t (stage :: later) p (front ++ back) q

/-- Stages that were passed one after the other. -/
inductive Passes (b : Backend δ) (t : GenerationTask) : List Stage → Progress →
    List (Footstep Build.Event (World δ)) → Progress → Prop
  | nil {p} : Passes b t [] p [] p
  | cons {stage later p p' p'' front back} (h : Performs b t stage p front (.ok p'))
      (rest : Passes b t later p' back p'') : Passes b t (stage :: later) p (front ++ back) p''

/-- Some stages of the plan were passed, and the next one failed. -/
def FailsIn (b : Backend δ) (t : GenerationTask) (plan : List Stage) (p : Progress) (stage : Stage)
    (cause : Error) (steps : List (Footstep Build.Event (World δ))) : Prop :=
  ∃ passed later p' front back, plan = passed ++ stage :: later ∧ steps = front ++ back ∧
    Passes b t passed p front p' ∧ Performs b t stage p' back (.error cause)

variable {b : Backend δ} {t : GenerationTask}

/-- The journey through a stage, from its work and what comes after it. -/
theorem journey_during {stage : Stage} {later : List Stage} {p : Progress}
    {work : Build.Operation δ (Except Error α)} {k : α → Staged δ Outcome} {g : α → Progress}
    (hstage : work.Always fun x ↦ x.event.stage = stage)
    (hwork : ∀ steps a, work.Takes steps (done a) → Performs b t stage p steps (a.map g))
    (hk : ∀ a steps q, (k a).run.Takes steps q → Journey b t later (g a) steps q)
    {steps : List (Footstep Build.Event (World δ))}
    {q : Build.Operation δ (Except TaskError Outcome)}
    (h : (t.during stage work >>= k).run.Takes steps q) :
    Journey b t (stage :: later) p steps q := by
  rw [run_during_bind, takes_bind] at h
  rcases h with ⟨work', hsteps, hrunning, rfl⟩ | ⟨a, front, back, rfl, hfront, hback⟩
  · exact .underway (hstage steps work' hsteps) (answer?_bind_of_eq_none hrunning)
  · cases a with
    | ok a => exact .passed (hwork front _ hfront) (hk a back q hback)
    | error cause =>
      obtain ⟨rfl, rfl⟩ := takes_pure.1 hback
      rw [List.append_nil]
      exact .failed (hwork front _ hfront)

/-- From the cleaning on. -/
theorem journey_produce {p : Progress} {fingerprint : Fingerprint}
    (hprint : t.fingerprint = .ok fingerprint) {steps : List (Footstep Build.Event (World δ))}
    {q : Build.Operation δ (Except TaskError Outcome)}
    (h : (t.produce b fingerprint p.handle p.migrations).run.Takes steps q) :
    Journey b t [.cleaning, .writing, .invocation] p steps q := by
  refine journey_during (g := fun _ ↦ p) ((always_clean t).imp fun _ hx ↦ hx.1)
    (fun _ _ ↦ .cleaned) ?_ h
  intro _ steps q h
  refine journey_during (g := fun _ ↦ p) ((always_write b t _).imp fun _ hx ↦ hx.1)
    (fun _ _ ↦ .wrote) ?_ h
  intro _ steps q h
  refine journey_during (g := fun run ↦ { p with run := some run }) ((always_invoke b t).imp
    fun _ hx ↦ hx.1) (fun _ _ ↦ .invoked) ?_ h
  intro run steps q h
  obtain ⟨rfl, rfl⟩ := takes_pure.1 h
  exact .arrived hprint rfl

/-- A run that goes on with the shared database. -/
def proceed (b : Backend δ) (t : GenerationTask) (fingerprint : Fingerprint) (schema : String)
    (handle : DatabaseHandle) : Staged δ Outcome := do
  let migrations ← t.during .migration (t.migrate b handle schema)
  t.produce b fingerprint (some handle) migrations

/-- A run is refused by the checks, needs no shared database, or begins by acquiring it. -/
theorem generate_cases (b : Backend δ) (t : GenerationTask) :
    (∃ cause, t.checkAll = .error cause ∧
      (t.generate b).run = pure (.error ⟨t.name, .checks, cause⟩)) ∨
    t.checkAll = .ok () ∧ ∃ fingerprint, t.fingerprint = .ok fingerprint ∧
      (t.engagesContainer = false ∧
        (t.generate b).run = (t.produce b fingerprint none []).run ∨
      t.engagesContainer = true ∧ ∃ schema, t.requiredSchema = .ok schema ∧
        (t.generate b).run = (t.during .provisioning (Build.acquire b Defaults.databaseService) >>=
          t.proceed b fingerprint schema).run) := by
  rw [generate_eq, run_during_bind, pure_bind, checkAll]
  cases t.check with
  | error cause => exact Or.inl ⟨cause, rfl, rfl⟩
  | ok u =>
    dsimp only
    rw [run_during_bind, pure_bind]
    cases t.fingerprint with
    | error cause => exact Or.inl ⟨cause, rfl, rfl⟩
    | ok fingerprint =>
      dsimp only
      cases hengages : t.engagesContainer with
      | false =>
        rw [provision, hengages]
        exact Or.inr ⟨rfl, fingerprint, rfl, Or.inl ⟨rfl, rfl⟩⟩
      | true =>
        rw [provision, hengages, if_pos rfl, if_pos rfl, bind_assoc, run_during_bind, pure_bind]
        cases t.requiredSchema with
        | error cause => exact Or.inl ⟨cause, rfl, rfl⟩
        | ok schema =>
          refine Or.inr ⟨rfl, fingerprint, rfl, Or.inr ⟨rfl, schema, rfl, ?_⟩⟩
          simp only [bind_assoc, pure_bind]
          rfl

/-- The steps of a run, by these cases. -/
theorem takes_generate {steps : List (Footstep Build.Event (World δ))}
    {q : Build.Operation δ (Except TaskError Outcome)} (h : (t.generate b).run.Takes steps q) :
    (∃ cause, t.checkAll = .error cause ∧ steps = [] ∧
      q = done (.error ⟨t.name, .checks, cause⟩)) ∨
    t.checkAll = .ok () ∧ ∃ fingerprint, t.fingerprint = .ok fingerprint ∧
      (t.engagesContainer = false ∧ (t.produce b fingerprint none []).run.Takes steps q ∨
      t.engagesContainer = true ∧ ∃ schema, t.requiredSchema = .ok schema ∧
        (t.during .provisioning (Build.acquire b Defaults.databaseService) >>=
          t.proceed b fingerprint schema).run.Takes steps q) := by
  rcases generate_cases b t with ⟨cause, hcheck, hrun⟩ |
    ⟨hcheck, fingerprint, hprint, ⟨hengages, hrun⟩ | ⟨hengages, schema, hschema, hrun⟩⟩
  · rw [hrun] at h
    obtain ⟨rfl, rfl⟩ := takes_pure.1 h
    exact Or.inl ⟨cause, hcheck, rfl, rfl⟩
  · exact Or.inr ⟨hcheck, fingerprint, hprint, Or.inl ⟨hengages, hrun ▸ h⟩⟩
  · exact Or.inr ⟨hcheck, fingerprint, hprint, Or.inr ⟨hengages, schema, hschema, hrun ▸ h⟩⟩

/-- **A run is refused by the checks, or a journey through the plan.** -/
theorem journey_of_takes {steps : List (Footstep Build.Event (World δ))}
    {q : Build.Operation δ (Except TaskError Outcome)} (h : (t.generate b).run.Takes steps q) :
    (∃ cause, t.checkAll = .error cause ∧ steps = [] ∧
      q = done (.error ⟨t.name, .checks, cause⟩)) ∨
      t.checkAll = .ok () ∧ Journey b t t.plan {} steps q := by
  rw [plan]
  rcases takes_generate h with hrefused | ⟨hcheck, fingerprint, hprint,
    ⟨hengages, h⟩ | ⟨hengages, schema, hschema, h⟩⟩
  · exact Or.inl hrefused
  · rw [hengages]
    exact Or.inr ⟨hcheck, journey_produce hprint h⟩
  · rw [hengages]
    refine Or.inr ⟨hcheck, ?_⟩
    refine journey_during (g := fun handle ↦ { handle := some handle })
      ((always_acquire b _).imp fun _ hx ↦ hx.1) (fun _ _ ↦ .provisioned) ?_ h
    intro handle steps q h
    refine journey_during (g := fun migrations ↦ { handle := some handle, migrations })
      ((always_migrate b t handle schema).imp fun _ hx ↦ hx.1)
      (fun _ _ ↦ .migrated rfl hschema) ?_ h
    intro migrations steps q h
    exact journey_produce hprint h

/-! ### Stages in order -/

/-- Equal entries in a row, and then others, count once. -/
theorem destutter_append_of_forall_eq {ι : Type} [DecidableEq ι] {x : ι} {front back : List ι}
    (hne : front ≠ []) (hfront : ∀ y ∈ front, y = x) (hback : x ∉ back) :
    (front ++ back).destutter (· ≠ ·) = x :: back.destutter (· ≠ ·) := by
  obtain ⟨y, front, rfl⟩ := List.exists_cons_of_ne_nil hne
  obtain ⟨rfl, hrest⟩ := List.forall_mem_cons.1 hfront
  clear hne hfront
  rw [List.cons_append, List.destutter_cons']
  induction front with
  | nil =>
    cases back with
    | nil => rfl
    | cons z back => exact List.destutter'_cons_pos back fun h ↦ hback (h ▸ List.mem_cons_self)
  | cons z front ih =>
    obtain ⟨rfl, hrest⟩ := List.forall_mem_cons.1 hrest
    rw [List.cons_append, List.destutter'_cons_neg _ fun h ↦ h rfl]
    exact ih hrest

/-- The stages that steps belong to, each once. -/
def stages (steps : List (Footstep Build.Event (World δ))) : List Stage :=
  (steps.map fun x ↦ x.event.stage).destutter (· ≠ ·)

variable {stage : Stage} {later : List Stage} {p p' : Progress}
  {steps front back : List (Footstep Build.Event (World δ))}
  {q : Build.Operation δ (Except TaskError Outcome)}

theorem stages_append (hne : front ≠ []) (hfront : ∀ x ∈ front, x.event.stage = stage)
    (hback : ∀ x ∈ back, x.event.stage ≠ stage) :
    stages (front ++ back) = stage :: stages back := by
  rw [stages, List.map_append]
  refine destutter_append_of_forall_eq (by simpa using hne) ?_ ?_
  · simpa using hfront
  · simpa using hback

theorem stages_eq_singleton (hne : front ≠ []) (hfront : ∀ x ∈ front, x.event.stage = stage) :
    stages front = [stage] := by
  have hnone := List.forall_mem_nil fun x : Footstep Build.Event (World δ) ↦ x.event.stage ≠ stage
  rw [← List.append_nil front, stages_append hne hfront hnone]
  rfl

theorem Performs.stage_eq {r : Except Error Progress} (h : Performs b t stage p steps r) :
    ∀ x ∈ steps, x.event.stage = stage := by
  cases h with
  | provisioned h => exact fun x hx ↦ (always_acquire b _ _ _ h x hx).1
  | migrated _ _ h => exact fun x hx ↦ (always_migrate b t _ _ _ _ h x hx).1
  | cleaned h => exact fun x hx ↦ (always_clean t _ _ h x hx).1
  | wrote h => exact fun x hx ↦ (always_write b t _ _ _ h x hx).1
  | invoked h => exact fun x hx ↦ (always_invoke b t _ _ h x hx).1

/-- A stage that is passed has done something. -/
theorem Performs.ne_nil (h : Performs b t stage p steps (.ok p')) : steps ≠ [] := by
  generalize hr : Except.ok p' = r at h
  cases h with
  | provisioned h =>
    obtain ⟨_, _, _, _, -, rfl, -⟩ := takes_perform_bind_done.1 h
    exact List.cons_ne_nil _ _
  | migrated _ _ h =>
    obtain ⟨_, _, _, _, -, rfl, -⟩ := takes_step_bind_done.1 h
    exact List.cons_ne_nil _ _
  | cleaned h =>
    obtain ⟨_, _, -, rfl⟩ := takes_perform_done.1 h
    exact List.cons_ne_nil _ _
  | wrote h =>
    obtain ⟨_, _, -, rfl⟩ := takes_perform_done.1 h
    exact List.cons_ne_nil _ _
  | @invoked _ _ a h =>
    rw [invoke] at h
    cases hspec : t.processSpec with
    | error e =>
      rw [hspec] at h
      obtain ⟨-, hdone⟩ := takes_pure.1 h
      cases hdone
      cases hr
    | ok spec =>
      rw [hspec] at h
      obtain ⟨_, front, _, rfl, hfront, -⟩ := takes_bind_done.1 h
      obtain ⟨_, _, _, _, -, rfl, -⟩ := takes_perform_bind_done.1 hfront
      exact List.cons_ne_nil _ _

theorem Journey.mem_stages {plan : List Stage} (h : Journey b t plan p steps q) :
    ∀ x ∈ steps, x.event.stage ∈ plan := by
  induction h with
  | arrived => exact List.forall_mem_nil _
  | underway h => exact fun x hx ↦ by rw [h x hx]; exact List.mem_cons_self
  | failed h => exact fun x hx ↦ by rw [h.stage_eq x hx]; exact List.mem_cons_self
  | passed h _ ih =>
    refine List.forall_mem_append.2 ⟨fun x hx ↦ ?_, fun x hx ↦ List.mem_cons_of_mem _ (ih x hx)⟩
    rw [h.stage_eq x hx]
    exact List.mem_cons_self

theorem Journey.stages_passed (h : Performs b t stage p front (.ok p'))
    (rest : Journey b t later p' back q) (hstage : stage ∉ later) :
    stages (front ++ back) = stage :: stages back :=
  stages_append h.ne_nil h.stage_eq fun x hx heq ↦ hstage (heq ▸ rest.mem_stages x hx)

/-- What a run does goes through the stages of its plan in order. -/
theorem Journey.stages_prefix {plan : List Stage} (h : Journey b t plan p steps q)
    (hplan : plan.Nodup) : stages steps <+: plan := by
  have hfirst {stage : Stage} {later : List Stage} {steps : List (Footstep Build.Event (World δ))}
      (h : ∀ x ∈ steps, x.event.stage = stage) : stages steps <+: stage :: later := by
    cases steps with
    | nil => exact List.nil_prefix
    | cons x steps =>
      rw [stages_eq_singleton (List.cons_ne_nil _ _) h]
      exact List.prefix_append [stage] later
  induction h with
  | arrived => exact List.nil_prefix
  | underway h => exact hfirst h
  | failed h => exact hfirst h.stage_eq
  | passed h rest ih =>
    obtain ⟨hstage, hlater⟩ := List.nodup_cons.1 hplan
    rw [Journey.stages_passed h rest hstage]
    exact List.cons_prefix_cons.2 ⟨rfl, ih hlater⟩

/-! ### Where a run ends -/

theorem Journey.of_ok {plan : List Stage} {o : Outcome}
    (h : Journey b t plan p steps (done (.ok o))) :
    t.fingerprint = .ok o.fingerprint ∧
    ∃ p' result verdict, Passes b t plan p steps p' ∧ p'.run = some (result, verdict) ∧
      o = { task := t.name, fingerprint := o.fingerprint, migrations := p'.migrations,
            result, verdict } := by
  generalize hq : (done (.ok o) : Build.Operation δ (Except TaskError Outcome)) = q at h
  induction h with
  | arrived hprint h =>
    cases hq
    exact ⟨hprint, _, _, _, .nil, h, rfl⟩
  | underway _ hrunning =>
    rw [← hq] at hrunning
    cases hrunning
  | failed => cases hq
  | passed h _ ih =>
    obtain ⟨hprint, p', result, verdict, hpasses, hrun⟩ := ih hq
    exact ⟨hprint, p', result, verdict, .cons h hpasses, hrun⟩

theorem Journey.of_error {plan : List Stage} {e : TaskError}
    (h : Journey b t plan p steps (done (.error e))) :
    e.task = t.name ∧ FailsIn b t plan p e.stage e.cause steps := by
  generalize hq : (done (.error e) : Build.Operation δ (Except TaskError Outcome)) = q at h
  induction h with
  | arrived => cases hq
  | underway _ hrunning =>
    rw [← hq] at hrunning
    cases hrunning
  | @failed stage later p steps cause h =>
    cases hq
    exact ⟨rfl, [], later, p, [], steps, rfl, rfl, .nil, h⟩
  | @passed stage later p p' front back q h _ ih =>
    obtain ⟨htask, passed, later', p'', front', back', rfl, rfl, hpasses, hperforms⟩ := ih hq
    exact ⟨htask, stage :: passed, later', p'', front ++ front', back', rfl,
      (List.append_assoc ..).symm, .cons h hpasses, hperforms⟩

/-- All stages that were passed have left their steps. -/
theorem Passes.stages_eq {plan : List Stage} (h : Passes b t plan p steps p') (hplan : plan.Nodup) :
    stages steps = plan ∧ ∀ x ∈ steps, x.event.stage ∈ plan := by
  induction h with
  | nil => exact ⟨rfl, List.forall_mem_nil _⟩
  | @cons stage later p p' p'' front back h rest ih =>
    obtain ⟨hstage, hlater⟩ := List.nodup_cons.1 hplan
    obtain ⟨hstages, hmem⟩ := ih hlater
    refine ⟨?_, List.forall_mem_append.2
      ⟨fun x hx ↦ ?_, fun x hx ↦ List.mem_cons_of_mem _ (hmem x hx)⟩⟩
    · rw [stages_append h.ne_nil h.stage_eq fun x hx heq ↦ hstage (heq ▸ hmem x hx), hstages]
    · rw [h.stage_eq x hx]
      exact List.mem_cons_self

/-- The database stages leave the file tree alone. -/
theorem Performs.files_eq {r : Except Error Progress} (h : Performs b t stage p steps r)
    (hstage : stage = .provisioning ∨ stage = .migration) :
    ∀ x ∈ steps, x.after.files = x.before.files := by
  cases h with
  | provisioned h => exact fun x hx ↦ (always_acquire b _ _ _ h x hx).2
  | migrated _ _ h => exact fun x hx ↦ (always_migrate b t _ _ _ _ h x hx).2
  | cleaned | wrote | invoked => cases hstage <;> contradiction

theorem Passes.files_eq {plan : List Stage} (h : Passes b t plan p steps p')
    (hplan : ∀ stage ∈ plan, stage = .provisioning ∨ stage = .migration) :
    ∀ x ∈ steps, x.after.files = x.before.files := by
  induction h with
  | nil => exact List.forall_mem_nil _
  | cons h _ ih =>
    obtain ⟨hstage, hlater⟩ := List.forall_mem_cons.1 hplan
    exact List.forall_mem_append.2 ⟨h.files_eq hstage, ih hlater⟩

theorem nodup_plan (t : GenerationTask) : t.plan.Nodup := by
  unfold plan
  split <;> decide

theorem pairwise_plan (t : GenerationTask) : t.plan.Pairwise (· ≤ ·) := by
  unfold plan
  split <;> decide

theorem checks_notMem_plan (t : GenerationTask) : Stage.checks ∉ t.plan := by
  unfold plan
  split <;> decide

/-- Whatever was done before a failure belongs to the stage that failed or to one before. -/
theorem FailsIn.stage_le {cause : Error} (h : FailsIn b t t.plan p stage cause steps) :
    ∀ x ∈ steps, x.event.stage ≤ stage := by
  obtain ⟨passed, later, p', front, back, hplan, rfl, hpasses, hperforms⟩ := h
  have hpairwise := t.pairwise_plan
  rw [hplan, List.pairwise_append] at hpairwise
  have hnodup := t.nodup_plan
  rw [hplan, List.nodup_append] at hnodup
  refine List.forall_mem_append.2 ⟨fun x hx ↦ ?_, fun x hx ↦ ?_⟩
  · exact hpairwise.2.2 _ ((hpasses.stages_eq hnodup.1).2 x hx) _ List.mem_cons_self
  · rw [hperforms.stage_eq x hx]
    exact Nat.le_refl _

/-- A failure in the database stages leaves the file tree alone. -/
theorem FailsIn.files_eq {cause : Error} (h : FailsIn b t t.plan p stage cause steps)
    (hstage : stage = .provisioning ∨ stage = .migration) :
    ∀ x ∈ steps, x.after.files = x.before.files := by
  obtain ⟨passed, later, p', front, back, hplan, rfl, hpasses, hperforms⟩ := h
  refine List.forall_mem_append.2 ⟨hpasses.files_eq fun s hs ↦ ?_, hperforms.files_eq hstage⟩
  have hpairwise := t.pairwise_plan
  rw [hplan, List.pairwise_append] at hpairwise
  have hle := hpairwise.2.2 s hs stage List.mem_cons_self
  have hchecks : s ≠ .checks := by
    rintro rfl
    exact t.checks_notMem_plan (hplan ▸ List.mem_append_left _ hs)
  rcases hstage with rfl | rfl <;> revert hle hchecks <;> cases s <;> decide

/-- What can be said of the steps that a run has taken and of what it has come to. -/
structure InStages (b : Backend δ) (t : GenerationTask)
    (steps : List (Footstep Build.Event (World δ)))
    (q : Build.Operation δ (Except TaskError Outcome)) : Prop where
  /-- The steps go through the stages of the plan, in order and without leaving one out. -/
  inOrder : stages steps <+: t.plan
  /-- A run that succeeds has passed all checks and all stages, and answers what these came to. -/
  success : ∀ o, q = done (.ok o) → t.checkAll = .ok () ∧ stages steps = t.plan ∧
    t.fingerprint = .ok o.fingerprint ∧
    ∃ p result verdict, Passes b t t.plan {} steps p ∧ p.run = some (result, verdict) ∧
      o = { task := t.name, fingerprint := o.fingerprint, migrations := p.migrations,
            result, verdict }
  /-- A run that fails answers the failure of the checks, or that of the first stage that failed. -/
  failure : ∀ e, q = done (.error e) → e.task = t.name ∧
    (e.stage = .checks ∧ t.checkAll = .error e.cause ∧ steps = [] ∨
      t.checkAll = .ok () ∧ FailsIn b t t.plan {} e.stage e.cause steps)
  /-- Nothing was done for a stage after the one that failed. -/
  stops : ∀ e, q = done (.error e) → ∀ x ∈ steps, x.event.stage ≤ e.stage
  /-- Nothing at all was done if the checks failed. -/
  checks : ∀ e, q = done (.error e) → e.stage = .checks → steps = []
  /-- The file tree was left alone if the database stages failed, -/
  database : ∀ e, q = done (.error e) → e.stage = .provisioning ∨ e.stage = .migration →
    ∀ x ∈ steps, x.after.files = x.before.files
  /-- no document was written if the cleaning failed, -/
  cleaning : ∀ e, q = done (.error e) → e.stage = .cleaning →
    ∀ x ∈ steps, ∀ path a, x.event ≠ .wrote path a
  /-- and no process was started if the writing failed. -/
  writing : ∀ e, q = done (.error e) → e.stage = .writing →
    ∀ x ∈ steps, ∀ spec,
      (∀ a, x.event ≠ .launched spec a) ∧ ∀ output, x.event ≠ .finished spec output

/-- **A task goes through its stages in order and stops at the first that fails.** Whatever its run
has done so far, among whatever others do, is a prefix of its plan, which has the database stages
exactly if the task needs the shared database. A failure names the first stage that failed, and
nothing was done for a later one. -/
theorem generate_inStages (b : Backend δ) (t : GenerationTask)
    {steps : List (Footstep Build.Event (World δ))}
    {q : Build.Operation δ (Except TaskError Outcome)}
    (h : (t.generate b).run.Takes steps q) : InStages b t steps q := by
  have hjourney := journey_of_takes h
  have hfailure (e : TaskError) (he : q = done (.error e)) : e.task = t.name ∧
      (e.stage = .checks ∧ t.checkAll = .error e.cause ∧ steps = [] ∨
        t.checkAll = .ok () ∧ FailsIn b t t.plan {} e.stage e.cause steps) := by
    rcases hjourney with ⟨cause, hcheck, rfl, rfl⟩ | ⟨hcheck, hjourney⟩
    · cases he
      exact ⟨rfl, Or.inl ⟨rfl, hcheck, rfl⟩⟩
    · subst he
      obtain ⟨htask, hfails⟩ := hjourney.of_error
      exact ⟨htask, Or.inr ⟨hcheck, hfails⟩⟩
  have hstops (e : TaskError) (he : q = done (.error e)) :
      ∀ x ∈ steps, x.event.stage ≤ e.stage := by
    obtain ⟨-, ⟨-, -, rfl⟩ | ⟨-, hfails⟩⟩ := hfailure e he
    · exact List.forall_mem_nil _
    · exact hfails.stage_le
  refine ⟨?_, fun o ho ↦ ?_, hfailure, hstops, fun e he hstage ↦ ?_, fun e he hstage ↦ ?_,
    fun e he hstage x hx path a hevent ↦ ?_, fun e he hstage x hx spec ↦ ?_⟩
  · rcases hjourney with ⟨cause, -, rfl, -⟩ | ⟨-, hjourney⟩
    · exact List.nil_prefix
    · exact hjourney.stages_prefix t.nodup_plan
  · subst ho
    rcases hjourney with ⟨cause, -, -, hdone⟩ | ⟨hcheck, hjourney⟩
    · cases hdone
    · obtain ⟨hprint, p, result, verdict, hpasses, hrun⟩ := hjourney.of_ok
      exact ⟨hcheck, (hpasses.stages_eq t.nodup_plan).1, hprint, p, result, verdict, hpasses, hrun⟩
  · obtain ⟨-, ⟨-, -, hsteps⟩ | ⟨-, passed, later, _, _, _, hplan, -⟩⟩ := hfailure e he
    · exact hsteps
    · rw [hstage] at hplan
      exact absurd (hplan ▸ List.mem_append_right _ List.mem_cons_self) t.checks_notMem_plan
  · obtain ⟨-, ⟨-, -, rfl⟩ | ⟨-, hfails⟩⟩ := hfailure e he
    · exact List.forall_mem_nil _
    · exact hfails.files_eq hstage
  · have hle := hstops e he x hx
    rw [hevent, hstage] at hle
    exact absurd hle (by decide : ¬Stage.writing ≤ .cleaning)
  · have hle := hstops e he x hx
    rw [hstage] at hle
    refine ⟨fun a hevent ↦ ?_, fun output hevent ↦ ?_⟩ <;>
    · rw [hevent] at hle
      exact absurd hle (by decide : ¬Stage.invocation ≤ .writing)

/-- A hook may leave a directory that is no text. Then there is no fingerprint, and the task is
refused before it is asked for the schema to migrate. -/
example :
    let task : GenerationTask := {
      name := "main", configuration := {}
      projectDir := ⟨"/work"⟩, outputDir := ⟨"/work/out"⟩, workDir := ⟨"/work/target"⟩
      migrationsDir := ⟨"/db"⟩, useContainer := true, allInputsDeclared := false
      command := { program := "sh" }, schema := default
      hooks := { normalization := some (·.withDirectory (some ⟨⟨[0x2F, 0xFF]⟩⟩)) } }
    ((task.generate Rehearsal.backend).run.run (World.start .empty
        { handleOf := fun _ ↦ ⟨"", "", "root", ""⟩ })).map (fun r ↦ (r.answer, r.events.length)) =
      some (.error ⟨"main", .checks,
        .serialization "path contains invalid UTF-8 characters"⟩, 0) := by
  rfl

/-- A run alone that is refused by the checks changes nothing, and one that fails in the database
stages changes no file. -/
theorem state_of_run_generate {w : World δ}
    {r : Run Build.Event (World δ) (Except TaskError Outcome)} {e : TaskError}
    (hrun : (t.generate b).run.run w = some r) (he : r.answer = .error e) :
    (e.stage = .checks → r.state = w) ∧
      (e.stage = .provisioning ∨ e.stage = .migration → r.state.files = w.files) := by
  obtain ⟨steps, hsteps, -, hleads⟩ := takes_of_run hrun
  rw [he] at hsteps
  have hstages := generate_inStages b t hsteps
  refine ⟨fun hstage ↦ ?_, fun hstage ↦ ?_⟩
  · rw [hstages.checks e rfl hstage] at hleads
    exact hleads
  · exact hleads.eq_of_forall (hstages.database e rfl hstage)

/-- A run whose output directory lies below a file: the database is provided and migrated, and
nothing is written. -/
theorem generate_inStages_rehearsal :
    let script (name sql : String) : Location × Node :=
      ([RawText.ofText "db", RawText.ofText name], .file (Utf8.encode sql) false)
    let files : FileSystem := ⟨[([RawText.ofText "db"], .directory none),
      script "V1__users.sql" "CREATE TABLE users;"], []⟩
    let w : World Rehearsal := World.start files { handleOf := fun _ ↦ ⟨"", "", "root", ""⟩ }
    let task : GenerationTask := {
      name := "main"
      configuration := { generator := { database := { inputSchema := some "app" } } }
      projectDir := ⟨"/work"⟩, outputDir := ⟨"/db/V1__users.sql/out"⟩, workDir := ⟨"/work/target"⟩
      migrationsDir := ⟨"/db"⟩, useContainer := true, allInputsDeclared := false
      command := { program := "sh" }, schema := default, hooks := {} }
    ∃ r steps e, (task.generate Rehearsal.backend).run.run w = some r ∧ r.answer = .error e ∧
      (task.generate Rehearsal.backend).run.Takes steps (done (.error e)) ∧ e.stage = .cleaning ∧
      stages steps = [.provisioning, .migration, .cleaning] ∧
      InStages Rehearsal.backend task steps (done (.error e)) := by
  intro script files w task
  have hrun : ((task.generate Rehearsal.backend).run.run w).any (fun r ↦
      decide ((r.answer.map fun _ ↦ ()).mapError (·.stage) = .error .cleaning) &&
      (r.events.map Build.Event.stage).destutter (· ≠ ·) ==
        [.provisioning, .migration, .cleaning]) = true := by
    decide +kernel
  obtain ⟨r, hr, hfound⟩ := (Option.any_eq_true _ _).1 hrun
  rw [Bool.and_eq_true, decide_eq_true_eq, beq_iff_eq] at hfound
  obtain ⟨steps, hsteps, hevents, -⟩ := takes_of_run hr
  have hstages : stages steps = [.provisioning, .migration, .cleaning] := by
    rw [← hfound.2, ← hevents, List.map_map]
    rfl
  cases hanswer : r.answer with
  | ok o =>
    rw [hanswer] at hfound
    cases hfound.1
  | error e =>
    rw [hanswer] at hfound hsteps
    exact ⟨r, steps, e, hr, hanswer, hsteps, Except.error.inj hfound.1, hstages,
      generate_inStages _ _ hsteps⟩

end GenerationTask

end SchemaForge
