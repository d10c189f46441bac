import Mathlib.Data.List.TakeWhile
import SchemaForge.Proofs.GenerationTask.Isolation
import SchemaForge.Proofs.GenerationTask.UpToDate

/-!
# What the generator is told

The document of a task is not that of its declared configuration but of one that the run makes of it
(`GenerationTask.effective`), by four changes: the connection of the shared database, the pattern
that hides the migration history, what trimming drops, and the output directory.
`GenerationTask.HandedOver` says field by field what comes of them together.

`GenerationTask.generate_handedOver` is about all documents that a task writes, in any number of
runs one after the other and among whatever others do to the state between the steps: each is that
of the declared configuration with these changes and no others, and every run that succeeds answers
the fingerprint of the declared configuration. So no run leaves anything behind in the task.
-/

namespace SchemaForge

/-- Only of a blank text nothing is left by trimming. -/
theorem Text.trim_eq_empty_iff {s : String} : trim s = "" ↔ isBlank s = true := by
  have hblank : isBlank s = true ↔ s.toList.dropWhile isBlankChar = [] := by
    rw [isBlank, List.dropWhile_eq_nil_iff, List.all_eq_true]
  rw [hblank, trim, String.ofList_eq_empty_iff, dropBlankEnd, List.reverse_eq_nil_iff,
    List.dropWhile_eq_nil_iff]
  refine ⟨fun h ↦ ?_, fun h ↦ by simp [h]⟩
  -- what stands behind the blank start does not begin with a blank
  cases hrest : s.toList.dropWhile isBlankChar with
  | nil => rfl
  | cons a as =>
    have hhead := List.head?_dropWhile_not isBlankChar s.toList
    rw [hrest] at hhead h
    have ha := h a (by simp)
    exact absurd ha (by simpa using hhead)

/-- What hiding the migration history makes of the excludes. -/
theorem Database.excludes_excludeMigrationHistory (db : Database) :
    db.excludeMigrationHistory.excludes = some (match db.excludes with
      | none => "flyway_.*"
      | some e => if Text.isBlank e then "flyway_.*" else "flyway_.* | " ++ Text.trim e) := by
  rw [excludeMigrationHistory]
  cases db.excludes with
  | none => rfl
  | some e =>
    dsimp only
    rw [Option.map_some, Option.filter_some]
    cases hblank : Text.isBlank e with
    | true =>
      rw [Text.trim_eq_empty_iff.2 hblank]
      rfl
    | false =>
      have htrim : Text.trim e ≠ "" := fun h ↦ by
        rw [Text.trim_eq_empty_iff.1 h] at hblank
        cases hblank
      rw [if_pos (by simpa using htrim), if_neg Bool.false_ne_true]
      rfl

/-! ### Programs one after the other -/

namespace Program

variable {ι ε σ α : Type} {f : ι → Program ε σ α} {steps : List (Footstep ε σ)}

/-- Every step of programs one after the other is a step of one of them. -/
theorem Takes.exists_of_mem_mapM {xs : List ι} {q : Program ε σ (List α)}
    (h : (xs.mapM f).Takes steps q) {x : Footstep ε σ} (hx : x ∈ steps) :
    ∃ i ∈ xs, ∃ own q', own <:+: steps ∧ x ∈ own ∧ (f i).Takes own q' := by
  induction xs generalizing steps q with
  | nil =>
    rw [List.mapM_nil] at h
    rw [(takes_pure.1 h).1] at hx
    cases hx
  | cons i xs ih =>
    rw [List.mapM_cons] at h
    rcases takes_bind.1 h with ⟨p', hp', -, -⟩ | ⟨a, front, back, rfl, hfront, hback⟩
    · exact ⟨i, List.mem_cons_self, steps, p', List.infix_rfl, hx, hp'⟩
    · rcases List.mem_append.1 hx with hx | hx
      · exact ⟨i, List.mem_cons_self, front, _, List.infix_append [] front back, hx, hfront⟩
      · -- the answer that is put together at the end takes no steps
        obtain ⟨p', hrest⟩ : ∃ p', (xs.mapM f).Takes back p' := by
          rcases takes_bind.1 hback with ⟨p', hp', -, -⟩ | ⟨as, front', back', rfl, hp', hend⟩
          · exact ⟨p', hp'⟩
          · rw [(takes_pure.1 hend).1, List.append_nil]
            exact ⟨_, hp'⟩
        obtain ⟨j, hj, own, q', hown, hx, htakes⟩ := ih hrest hx
        exact ⟨j, List.mem_cons_of_mem _ hj, own, q',
          hown.trans (List.suffix_append front back).isInfix, hx, htakes⟩

/-- Programs one after the other have one answer each. -/
theorem Takes.exists_of_answer_mapM {xs : List ι} {as : List α}
    (h : (xs.mapM f).Takes steps (done as)) :
    as.length = xs.length ∧ ∀ a ∈ as, ∃ i ∈ xs, ∃ own, (f i).Takes own (done a) := by
  induction xs generalizing steps as with
  | nil =>
    rw [List.mapM_nil] at h
    cases (takes_pure.1 h).2
    exact ⟨rfl, List.forall_mem_nil _⟩
  | cons i xs ih =>
    rw [List.mapM_cons] at h
    obtain ⟨a, front, back, rfl, hfront, hback⟩ := takes_bind_done.1 h
    obtain ⟨as', front', back', rfl, hrest, hend⟩ := takes_bind_done.1 hback
    cases (takes_pure.1 hend).2
    obtain ⟨hlength, hmem⟩ := ih hrest
    refine ⟨congrArg (· + 1) hlength, List.forall_mem_cons.2
      ⟨⟨i, List.mem_cons_self, front, hfront⟩, fun a ha ↦ ?_⟩⟩
    obtain ⟨j, hj, hown⟩ := hmem a ha
    exact ⟨j, List.mem_cons_of_mem _ hj, hown⟩

end Program

namespace GenerationTask

open Program

/-! ### The configuration by its fields -/

/-- The configuration that the generator is told is the declared one but for what is said here: the
output directory; the name of a strategy that has matchers; with a database of the build the
connection, whose other settings are kept, and the excludes; and without one a connection that
carries nothing. -/
structure HandedOver (t : GenerationTask) (handle : Option DatabaseHandle) (c : Configuration) :
    Prop where
  target : c.generator.target =
    { t.configuration.generator.target with directory := some t.outputDir }
  generate : c.generator.generate = t.configuration.generator.generate
  strategy : c.generator.strategy = t.configuration.generator.strategy.map fun s ↦
    { s with name := if s.matchers.isSome then none else s.name }
  database : c.generator.database = { t.configuration.generator.database with
    excludes := c.generator.database.excludes }
  connected : ∀ h, handle = some h → Text.isBlank h.url = false → c.jdbc = some {
    driver := some h.driver
    url := some h.url
    user := some h.user
    password := some h.password
    autoCommit := t.configuration.jdbc.bind (·.autoCommit)
    properties := (t.configuration.jdbc.map (·.properties)).getD [] }
  hidden : ∀ h, handle = some h → c.generator.database.excludes =
    some (match t.configuration.generator.database.excludes with
      | none => "flyway_.*"
      | some e => if Text.isBlank e then "flyway_.*" else "flyway_.* | " ++ Text.trim e)
  own : handle = none →
    c.jdbc = (match t.configuration.jdbc with
      | none => none
      | some jdbc => if jdbc.isUnset then none else some jdbc) ∧
    c.generator.database.excludes = t.configuration.generator.database.excludes

theorem strategy_trim (s : Strategy) :
    s.trim = { s with name := if s.matchers.isSome then none else s.name } := by
  rw [Strategy.trim]
  split <;> rfl

/-- A connection that has been pointed at a database with a URL is not dropped. -/
theorem jdbc_trimDefaults_useDatabase {c : Configuration} {h : DatabaseHandle}
    (hurl : Text.isBlank h.url = false) :
    (c.useDatabase h).excludeMigrationHistory.trimDefaults.jdbc = (c.useDatabase h).jdbc := by
  have hset : ((c.useDatabase h).jdbc.getD {}).isUnset = false := by
    rw [Bool.eq_false_iff]
    intro hunset
    have hblank : Text.isBlank h.url = true := (Jdbc.isUnset_iff.1 hunset).2.1
    rw [hurl] at hblank
    cases hblank
  have hjdbc : (c.useDatabase h).jdbc = some ((c.useDatabase h).jdbc.getD {}) := rfl
  show (c.useDatabase h).jdbc.filter (fun jdbc ↦ !jdbc.isUnset) = _
  rw [hjdbc, Option.filter_some, hset]
  rfl

theorem handedOver_effective (t : GenerationTask) (handle : Option DatabaseHandle) :
    t.HandedOver handle (t.effective handle) := by
  have hstrategy : t.configuration.generator.strategy.map Strategy.trim =
      t.configuration.generator.strategy.map fun s ↦
        { s with name := if s.matchers.isSome then none else s.name } :=
    congrArg (t.configuration.generator.strategy.map ·) (funext strategy_trim)
  cases handle with
  | none =>
    refine ⟨rfl, rfl, hstrategy, rfl, fun h hh ↦ (nomatch hh), fun h hh ↦ (nomatch hh),
      fun _ ↦ ⟨?_, rfl⟩⟩
    show t.configuration.jdbc.filter (fun jdbc ↦ !jdbc.isUnset) = _
    cases t.configuration.jdbc with
    | none => rfl
    | some jdbc =>
      rw [Option.filter_some]
      dsimp only
      cases jdbc.isUnset <;> rfl
  | some handle =>
    refine ⟨rfl, rfl, hstrategy, rfl, ?_, ?_, fun hh ↦ (nomatch hh)⟩
    · rintro h ⟨⟩ hurl
      refine (jdbc_trimDefaults_useDatabase hurl).trans ?_
      cases hjdbc : t.configuration.jdbc <;> simp [Configuration.useDatabase, hjdbc]
    · rintro h ⟨⟩
      exact Database.excludes_excludeMigrationHistory _

/-! ### The steps that write -/

variable {δ : Type} {b : Backend δ} {t : GenerationTask}
  {steps : List (Footstep Build.Event (World δ))}

/-- The step writes the document of the configuration. -/
def Writes (b : Backend δ) (t : GenerationTask) (c : Configuration)
    (x : Footstep Build.Event (World δ)) : Prop :=
  ∃ outcome files,
    Document.write b.validator x.before.files c t.schema t.documentPath = (outcome, files) ∧
      x.event = .wrote t.documentPath outcome ∧ x.after = { x.before with files }

/-- The handle that a step of a run has been given: that of the shared database, which the run has
acquired before, if the task needs it, and none otherwise. -/
def IsGiven (b : Backend δ) (t : GenerationTask) (steps : List (Footstep Build.Event (World δ)))
    (x : Footstep Build.Event (World δ)) : Option DatabaseHandle → Prop
  | none => t.engagesContainer = false
  | some handle => t.engagesContainer = true ∧ ∃ acquiring back,
      steps = acquiring ++ back ∧ x ∈ back ∧
        (Build.acquire b Defaults.databaseService).Takes acquiring (done (.ok handle))

/-- From the cleaning on, a run writes the document of the configuration with the handle it has. -/
theorem always_produce_writes (b : Backend δ) (t : GenerationTask) (print : Fingerprint)
    (handle : Option DatabaseHandle) (migrations : List Migration.Applied) :
    (t.produce b print handle migrations).run.Always fun x ↦
      x.event.stage = .writing → t.Writes b (t.effective handle) x := by
  have hother {stage : Stage} (hstage : stage ≠ .writing) {x : Footstep Build.Event (World δ)}
      (hx : Apart stage x) (hwriting : x.event.stage = .writing) :
      t.Writes b (t.effective handle) x := absurd (hx.1.symm.trans hwriting) hstage
  refine always_run_during ((always_clean t).imp fun _ ↦ hother (by decide)) fun _ ↦ ?_
  refine always_run_during (always_perform fun w _ ↦ ⟨_, _, rfl, rfl, rfl⟩) fun _ ↦ ?_
  exact always_run_during ((always_invoke b t).imp fun _ ↦ hother (by decide))
    fun _ ↦ always_pure

/-- What a run does from the cleaning on it does with the handle that it was given. Up to there it
changes no file. -/
theorem exists_produce_of_takes {q : Build.Operation δ (Except TaskError Outcome)}
    (h : (t.generate b).run.Takes steps q) {x : Footstep Build.Event (World δ)} (hx : x ∈ steps)
    (hlate : .cleaning ≤ x.event.stage) :
    ∃ print handle migrations front back, steps = front ++ back ∧
      (∀ y ∈ front, y.after.files = y.before.files) ∧ x ∈ back ∧ IsGiven b t steps x handle ∧
      (t.produce b print handle migrations).run.Takes back q := by
  rcases takes_generate h with
    ⟨_, -, rfl, -⟩ | ⟨-, print, -, ⟨hengages, h⟩ | ⟨hengages, schema, -, h⟩⟩
  · cases hx
  · exact ⟨print, none, [], [], steps, rfl, List.forall_mem_nil _, hx, hengages, h⟩
  · -- the steps of the database stages come before
    have hearly {stage : Stage} {front : List (Footstep Build.Event (World δ))}
        (hkeeps : ∀ y ∈ front, Keeps stage y) (hstage : ¬.cleaning ≤ stage) : x ∉ front :=
      fun hmem ↦ hstage ((hkeeps x hmem).1 ▸ hlate)
    rw [run_during_bind, takes_bind] at h
    rcases h with ⟨p', hp', -, -⟩ | ⟨a, acquiring, rest, rfl, hacquiring, hrest⟩
    · exact absurd hx (hearly (always_acquire b _ _ _ hp') (by decide))
    have hacquire := always_acquire b _ _ _ hacquiring
    have hx := (List.mem_append.1 hx).resolve_left (hearly hacquire (by decide))
    cases a with
    | error cause =>
      rw [(takes_pure.1 hrest).1] at hx
      cases hx
    | ok handle =>
      dsimp only at hrest
      rw [proceed, run_during_bind, takes_bind] at hrest
      rcases hrest with ⟨p', hp', -, -⟩ | ⟨a, migrating, back, rfl, hmigrating, hback⟩
      · exact absurd hx (hearly (always_migrate b t _ _ _ _ hp') (by decide))
      have hmigrate := always_migrate b t _ _ _ _ hmigrating
      have hx' := (List.mem_append.1 hx).resolve_left (hearly hmigrate (by decide))
      cases a with
      | error cause =>
        rw [(takes_pure.1 hback).1] at hx'
        cases hx'
      | ok migrations =>
        refine ⟨print, some handle, migrations, acquiring ++ migrating, back,
          (List.append_assoc ..).symm, ?_, hx', ⟨hengages, acquiring, _, rfl, hx, hacquiring⟩,
          hback⟩
        exact List.forall_mem_append.2
          ⟨fun y hy ↦ (hacquire y hy).2, fun y hy ↦ (hmigrate y hy).2⟩

/-- Whatever a run writes is the document of the configuration with the handle that it was given. -/
theorem exists_writes_of_takes {q : Build.Operation δ (Except TaskError Outcome)}
    (h : (t.generate b).run.Takes steps q) {x : Footstep Build.Event (World δ)} (hx : x ∈ steps)
    (hwriting : x.event.stage = .writing) :
    ∃ handle, IsGiven b t steps x handle ∧ t.Writes b (t.effective handle) x := by
  obtain ⟨print, handle, migrations, _, back, -, -, hx', hgiven, hproduce⟩ :=
    exists_produce_of_takes h hx (by rw [hwriting]; decide)
  exact ⟨handle, hgiven,
    always_produce_writes b t print handle migrations _ _ hproduce x hx' hwriting⟩

/-- **What the generator is told.** However often a task runs, one run after the other and whatever
others do to the state in between: every document that it writes is that of a configuration that
differs from the declared one exactly as `HandedOver` says, for the handle that the run was given.
Every run that succeeds answers the fingerprint of the declared configuration. -/
theorem generate_handedOver (b : Backend δ) (t : GenerationTask) (n : ℕ)
    {q : Build.Operation δ (List (Except TaskError Outcome))}
    (h : ((List.replicate n t).mapM fun t : GenerationTask ↦ (t.generate b).run).Takes steps q) :
    (∀ x ∈ steps, x.event.stage = .writing →
      ∃ own q' handle c, own <:+: steps ∧ x ∈ own ∧ (t.generate b).run.Takes own q' ∧
        IsGiven b t own x handle ∧ t.Writes b c x ∧ t.HandedOver handle c) ∧
    ∀ outcomes, q = done outcomes → outcomes.length = n ∧ ∀ o, .ok o ∈ outcomes →
      o.fingerprint = Fingerprint.ofNormal (t.configuration.normalize t.hooks.normalization) := by
  refine ⟨fun x hx hwriting ↦ ?_, ?_⟩
  · obtain ⟨t', ht', own, q', hown, hx', htakes⟩ := h.exists_of_mem_mapM hx
    obtain rfl := List.eq_of_mem_replicate ht'
    obtain ⟨handle, hgiven, hwrites⟩ := exists_writes_of_takes htakes hx' hwriting
    exact ⟨own, q', handle, _, hown, hx', htakes, hgiven, hwrites, t'.handedOver_effective handle⟩
  · rintro outcomes rfl
    obtain ⟨hlength, hanswers⟩ := h.exists_of_answer_mapM
    refine ⟨hlength.trans List.length_replicate, fun o ho ↦ ?_⟩
    obtain ⟨t', ht', own, htakes⟩ := hanswers _ ho
    obtain rfl := List.eq_of_mem_replicate ht'
    obtain ⟨-, -, hprint, -⟩ := (generate_inStages b t' htakes).success o rfl
    exact (Fingerprint.of_eq_ok_iff.1 hprint).2

/-- Two runs of a task that has settings of its own for the connection to the shared database. -/
theorem generate_handedOver_twice :
    let task : GenerationTask := { rehearsed "app" with
      configuration := {
        jdbc := some { autoCommit := some true }
        generator := {
          database := { inputSchema := some "app", excludes := some " audit_.* " } } } }
    let b := copying rehearsalHandle
    let runs := (List.replicate 2 task).mapM fun t : GenerationTask ↦ (t.generate b).run
    ∃ (steps : List (Footstep Build.Event (World Rehearsal)))
      (outcomes : List (Except TaskError Outcome)),
      runs.Takes steps (done outcomes) ∧
      outcomes.length = 2 ∧ (∀ a ∈ outcomes, a.isOk = true) ∧
      (∀ o, .ok o ∈ outcomes → task.fingerprint = .ok o.fingerprint) ∧
      (∃ x ∈ steps, x.event.stage = .writing) ∧
      ∀ x ∈ steps, x.event.stage = .writing →
        ∃ handle c, task.Writes b c x ∧ task.HandedOver (some handle) c := by
  intro task b runs
  -- both runs are rehearsed once; what they write follows from the theorem, not from the run
  have hrun : (runs.run rehearsalStart).any
      (fun r ↦ r.answer.all (·.isOk) && r.events.any (·.stage = .writing)) = true := by
    decide +kernel
  obtain ⟨r, hr, hfound⟩ := (Option.any_eq_true _ _).1 hrun
  rw [Bool.and_eq_true, List.all_eq_true, List.any_eq_true] at hfound
  obtain ⟨hok, e, he, hstage⟩ := hfound
  obtain ⟨steps, hsteps, hevents, -⟩ := takes_of_run hr
  obtain ⟨hwrites, houtcomes⟩ := generate_handedOver b task 2 hsteps
  obtain ⟨hlength, hfingerprint⟩ := houtcomes _ rfl
  refine ⟨steps, r.answer, hsteps, hlength, hok, fun o ho ↦ ?_, ?_, fun x hx hwriting ↦ ?_⟩
  · rw [hfingerprint o ho]
    exact fingerprint_eq_ok rfl
  · rw [← hevents] at he
    obtain ⟨x, hx, rfl⟩ := List.mem_map.1 he
    exact ⟨x, hx, of_decide_eq_true hstage⟩
  · obtain ⟨_, _, handle, c, -, -, -, hgiven, hwrites, hc⟩ := hwrites x hx hwriting
    cases handle with
    | none => cases hgiven
    | some handle => exact ⟨handle, c, hwrites, hc⟩

end GenerationTask

end SchemaForge
