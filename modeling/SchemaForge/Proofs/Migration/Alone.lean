import SchemaForge.Proofs.Migration.Admission
import SchemaForge.Proofs.Migration.Schemas
import SchemaForge.Proofs.Migration.Sequence
import SchemaForge.Proofs.Migration.Steps

/-!
# A migration that runs alone

While nobody else uses the database a migration comes to its end, whatever the database answers.
What it asks for on the way and what it answers is one of few things, and they are listed here once.

* `Migration.Trail` : what comes of executing and recording scripts. Its constructors are the four
  ways in which one script can go, so that facts about all scripts are inductions on it.
* `Migration.Conduct` : what comes of a whole migration, by how far it gets.

Both are total (`exists_trail`, `exists_conduct`): that a migration comes to its end is a part of
the statement.

What becomes of the histories is read off the trace as well. Under a target that keeps histories
each of them is what it was, followed by the rows whose recording has succeeded (`history_of_run`).
-/

namespace SchemaForge

/-- The message of an error; that of a migration without the script that it is about. -/
def Error.reason : Error → String
  | .migration _ reason => reason
  | .duplicateVersion version _ other => duplicateReason version other
  | e => e.message

namespace Migration

theorem onScript_eq (path : Path) (e : Error) :
    onScript path e = .migration (some path) e.reason := by
  cases e <;> rfl

/-! ### What a trace says -/

/-- Whether the call has succeeded. -/
def Event.outcome : Event → Except Error Unit
  | .prepared _ outcome => outcome
  | .listed _ outcome => outcome.map fun _ ↦ ()
  | .executed _ _ outcome => outcome
  | .recorded _ _ outcome => outcome

/-- The attempt at a script that an event tells of, with its schema. -/
def Event.attempt? : Event → Option (String × Attempt)
  | .executed schema s outcome => some (schema, s, outcome)
  | _ => none

/-- The recording that an event tells of: the schema, the row, and whether it was kept. -/
def Event.recording? : Event → Option (String × HistoryEntry × Except Error Unit)
  | .recorded schema entry outcome => some (schema, entry, outcome)
  | _ => none

/-- The scripts that were executed. -/
def attempts (calls : List Event) : List (String × Attempt) :=
  calls.filterMap Event.attempt?

/-- The rows that were to be recorded. -/
def recordings (calls : List Event) : List (String × HistoryEntry × Except Error Unit) :=
  calls.filterMap Event.recording?

section

variable {schema : String} {rank : ℕ} {s : Script} {ps : List Script} {calls : List Event}
  {answer : Except Error (List Applied)}

@[simp] theorem attempts_nil : attempts [] = [] := rfl

@[simp] theorem recordings_nil : recordings [] = [] := rfl

@[simp] theorem attempts_prepared (outcome : Except Error Unit) :
    attempts (.prepared schema outcome :: calls) = attempts calls := rfl

@[simp] theorem attempts_listed (outcome : Except Error (List HistoryEntry)) :
    attempts (.listed schema outcome :: calls) = attempts calls := rfl

@[simp] theorem recordings_prepared (outcome : Except Error Unit) :
    recordings (.prepared schema outcome :: calls) = recordings calls := rfl

@[simp] theorem recordings_listed (outcome : Except Error (List HistoryEntry)) :
    recordings (.listed schema outcome :: calls) = recordings calls := rfl

@[simp] theorem attempts_executed (outcome : Except Error Unit) :
    attempts (.executed schema s outcome :: calls) = (schema, s, outcome) :: attempts calls := rfl

@[simp] theorem attempts_recorded (entry : HistoryEntry) (outcome : Except Error Unit) :
    attempts (.recorded schema entry outcome :: calls) = attempts calls := rfl

@[simp] theorem recordings_executed (outcome : Except Error Unit) :
    recordings (.executed schema s outcome :: calls) = recordings calls := rfl

@[simp] theorem recordings_recorded (entry : HistoryEntry) (outcome : Except Error Unit) :
    recordings (.recorded schema entry outcome :: calls) =
      (schema, entry, outcome) :: recordings calls := rfl

/-! ### The rows of scripts -/

/-- The row of a script, without a time. -/
def rowOf (rank : ℕ) (success : Bool) (s : Script) : HistoryEntry where
  rank
  version := s.version
  description := s.description
  fileName := s.fileName
  checksum := s.checksum
  milliseconds := 0
  success

/-- The rows of scripts that have all succeeded, from a rank on. -/
def rowsOf (rank : ℕ) (ps : List Script) : List HistoryEntry :=
  ps.mapIdx fun i s ↦ rowOf (rank + i) true s

theorem rowsOf_cons : rowsOf rank (s :: ps) = rowOf rank true s :: rowsOf (rank + 1) ps := by
  rw [rowsOf, List.mapIdx_cons]
  simp only [Nat.add_zero, rowsOf, Nat.add_assoc, Nat.add_comm 1]

theorem rowsOf_append (ps qs : List Script) :
    rowsOf rank (ps ++ qs) = rowsOf rank ps ++ rowsOf (rank + ps.length) qs := by
  rw [rowsOf, List.mapIdx_append]
  simp only [rowsOf, Nat.add_assoc, Nat.add_comm ps.length]

theorem rank_rowsOf (rank : ℕ) (ps : List Script) :
    (rowsOf rank ps).map (·.rank) = List.range' rank ps.length := by
  induction ps generalizing rank with
  | nil => rfl
  | cons s ps ih =>
    rw [rowsOf_cons, List.map_cons, ih, List.length_cons, List.range'_succ]
    rfl

theorem rank_of_untimed {rows : List HistoryEntry}
    (h : rows.map HistoryEntry.untimed = rowsOf rank ps) :
    rows.map (·.rank) = List.range' rank ps.length := by
  rw [← rank_rowsOf, ← h, List.map_map]
  rfl

theorem rank_lt_of_untimed {rows : List HistoryEntry}
    (h : rows.map HistoryEntry.untimed = rowsOf rank ps) :
    ∀ x ∈ rows, x.rank < rank + ps.length := by
  intro x hx
  have hrank : x.rank ∈ rows.map (·.rank) := List.mem_map_of_mem hx
  rw [rank_of_untimed h, List.mem_range'_1] at hrank
  exact hrank.2

theorem untimed_entryOf_isOk (rank : ℕ) (s : Script) (x : Execution) :
    (entryOf rank s x).untimed = rowOf rank x.outcome.isOk s := rfl

theorem seals_of_untimed {h : HistoryEntry} (heq : h.untimed = rowOf rank true s) :
    History.Seals s h :=
  ⟨congrArg HistoryEntry.version heq, congrArg HistoryEntry.checksum heq,
    congrArg HistoryEntry.success heq⟩

/-- The rows of scripts record them, each row its script. -/
theorem forall₂_seals {rows : List HistoryEntry}
    (h : rows.map HistoryEntry.untimed = rowsOf rank ps) : List.Forall₂ History.Seals ps rows := by
  induction ps generalizing rank rows with
  | nil =>
    obtain rfl := List.map_eq_nil_iff.1 h
    exact .nil
  | cons s ps ih =>
    rw [rowsOf_cons] at h
    obtain ⟨x, xs, rfl, hx, hxs⟩ := List.map_eq_cons_iff.1 h
    exact .cons (seals_of_untimed hx) (ih hxs)

/-! ### The scripts that are left -/

/-- The attempts at scripts that all succeed. -/
def successes (schema : String) (ps : List Script) : List (String × Attempt) :=
  ps.map fun s ↦ (schema, succeeded s)

theorem successes_append (schema : String) (ps qs : List Script) :
    successes schema (ps ++ qs) = successes schema ps ++ successes schema qs :=
  List.map_append

/-- What executing and recording scripts asks for, and the answer. -/
inductive Trail (schema : String) :
    ℕ → List Script → List Event → Except Error (List Applied) → Prop
  | all {rank : ℕ} : Trail schema rank [] [] (.ok [])
  | failed {rank : ℕ} {s : Script} {ps : List Script} {x : Execution} {e : Error}
      {kept : Except Error Unit} (outcome : x.outcome = .error e) :
      Trail schema rank (s :: ps)
        [.executed schema s (.error e), .recorded schema (entryOf rank s x) kept]
        (.error (onScript s.path e))
  | unrecorded {rank : ℕ} {s : Script} {ps : List Script} {x : Execution} {e : Error}
      (outcome : x.outcome = .ok ()) :
      Trail schema rank (s :: ps)
        [.executed schema s (.ok ()), .recorded schema (entryOf rank s x) (.error e)] (.error e)
  | next {rank : ℕ} {s : Script} {ps : List Script} {x : Execution} {calls : List Event}
      {answer : Except Error (List Applied)} (outcome : x.outcome = .ok ())
      (rest : Trail schema (rank + 1) ps calls answer) :
      Trail schema rank (s :: ps)
        (.executed schema s (.ok ()) :: .recorded schema (entryOf rank s x) (.ok ()) :: calls)
        (answer.map (⟨s.path, s.version⟩ :: ·))

variable {δ : Type}

theorem exists_trail (target : Target δ) (schema : String) (rank : ℕ) (ps : List Script) (d : δ) :
    ∃ r, (runPending target schema rank ps).run d = some r ∧
      Trail schema rank ps r.events r.answer := by
  induction ps generalizing rank d with
  | nil => exact ⟨⟨.ok [], [], d⟩, rfl, .all⟩
  | cons s ps ih =>
    rw [runPending, Program.run_perform_bind]
    -- what the script and the record answer is arbitrary
    obtain ⟨x, d₁⟩ := target.execute schema s d
    rw [Program.run_perform_bind]
    obtain ⟨kept, d₂⟩ := target.record schema (entryOf rank s x) d₁
    cases houtcome : x.outcome with
    | error e => exact ⟨_, rfl, .failed houtcome⟩
    | ok u =>
      cases kept with
      | error e => exact ⟨_, rfl, .unrecorded houtcome⟩
      | ok u =>
        obtain ⟨⟨answer, events, d₃⟩, hr, htrail⟩ := ih (rank + 1) d₂
        simp only [Program.run_bind, hr, Option.bind_some]
        have hnext := Trail.next (s := s) houtcome htrail
        rw [← List.append_nil events] at hnext
        cases answer with
        | error e => exact ⟨_, rfl, hnext⟩
        | ok applied => exact ⟨_, rfl, hnext⟩

/-- If all goes well, each script is executed and recorded once, in their order. -/
theorem Trail.of_ok (h : Trail schema rank ps calls answer) {applied : List Applied}
    (hok : answer = .ok applied) :
    attempts calls = successes schema ps ∧
    applied = ps.map (fun s ↦ ⟨s.path, s.version⟩) ∧
    ∃ rows : List HistoryEntry, recordings calls = rows.map (fun x ↦ (schema, x, .ok ())) ∧
      rows.map HistoryEntry.untimed = rowsOf rank ps := by
  induction h generalizing applied with
  | all => exact ⟨rfl, (Except.ok.inj hok).symm, [], rfl, rfl⟩
  | failed => cases hok
  | unrecorded => cases hok
  | @next rank s ps x calls answer outcome rest ih =>
    cases answer with
    | error e => cases hok
    | ok others =>
      obtain ⟨hattempts, hothers, rows, hrecordings, hrows⟩ := ih rfl
      refine ⟨?_, ?_, entryOf rank s x :: rows, ?_, ?_⟩
      · rw [attempts_executed, attempts_recorded, hattempts]
        rfl
      · rw [← Except.ok.inj hok, hothers]
        rfl
      · rw [recordings_executed, recordings_recorded, hrecordings]
        rfl
      · rw [List.map_cons, hrows, rowsOf_cons, untimed_entryOf_isOk, outcome]
        rfl

/-- The scripts have been run up to one that has failed, from a rank on. The others are recorded by
`rows` and it by `last`, whether or not that row was kept. -/
structure StopsAt (schema : String) (rank : ℕ) (done : List Script) (s : Script) (e : Error)
    (rows : List HistoryEntry) (last : HistoryEntry) (kept : Except Error Unit)
    (calls : List Event) (answer : Except Error (List Applied)) : Prop where
  attempts : attempts calls = successes schema done ++ [(schema, s, .error e)]
  recordings : recordings calls =
    rows.map (fun x ↦ (schema, x, .ok ())) ++ [(schema, last, kept)]
  rows : rows.map HistoryEntry.untimed = rowsOf rank done
  last : last.untimed = rowOf (rank + done.length) false s
  answer : answer = .error (.migration (some s.path) e.reason)

/-- A script that fails is the last that is executed and recorded. -/
theorem Trail.of_error (h : Trail schema rank ps calls answer) {other : String} {e : Error}
    (hfailed : (other, s, .error e) ∈ attempts calls) :
    ∃ done rest rows last kept, ps = done ++ s :: rest ∧
      StopsAt schema rank done s e rows last kept calls answer := by
  induction h with
  | all => cases hfailed
  | @failed rank t ps x e' kept outcome =>
    obtain ⟨rfl, rfl, rfl⟩ : other = schema ∧ s = t ∧ e = e' := by simpa using hfailed
    refine ⟨[], ps, [], entryOf rank s x, kept, rfl, rfl, rfl, rfl, ?_, ?_⟩
    · rw [untimed_entryOf_isOk, outcome]
      rfl
    · rw [onScript_eq]
  | unrecorded => simp at hfailed
  | @next rank t ps x calls answer outcome rest ih =>
    have htail : (other, s, .error e) ∈ attempts calls := by simpa using hfailed
    obtain ⟨done, left, rows, last, kept, rfl, hstops⟩ := ih htail
    refine ⟨t :: done, left, entryOf rank t x :: rows, last, kept, rfl, ?_, ?_, ?_, ?_, ?_⟩
    · rw [attempts_executed, attempts_recorded, hstops.attempts]
      rfl
    · rw [recordings_executed, recordings_recorded, hstops.recordings]
      rfl
    · rw [List.map_cons, hstops.rows, rowsOf_cons, untimed_entryOf_isOk, outcome]
      rfl
    · rw [hstops.last, List.length_cons, Nat.add_comm done.length, Nat.add_assoc]
    · rw [hstops.answer]
      rfl

/-- Only a call that fails can keep the scripts from all being run. -/
theorem Trail.exists_ok (h : Trail schema rank ps calls answer)
    (hcalls : ∀ c ∈ calls, c.outcome = .ok ()) : ∃ applied, answer = .ok applied := by
  induction h with
  | all => exact ⟨[], rfl⟩
  | failed => cases hcalls _ List.mem_cons_self
  | unrecorded => cases hcalls _ (List.mem_cons_of_mem _ List.mem_cons_self)
  | next outcome rest ih =>
    obtain ⟨applied, rfl⟩ := ih fun c hc ↦
      hcalls c (List.mem_cons_of_mem _ (List.mem_cons_of_mem _ hc))
    exact ⟨_, rfl⟩

/-! ### The whole migration -/

/-- What a migration with scripts on a state of the database asks for, and the answer. -/
inductive Conduct (target : Target δ) (schema : String) (scripts : List Script) (d : δ) :
    List Event → Except Error (List Applied) → Prop
  | unprepared {e : Error} (prepared : (target.prepare schema d).1 = .error e) :
      Conduct target schema scripts d [.prepared schema (.error e)] (.error e)
  | unlisted {e : Error} (prepared : (target.prepare schema d).1 = .ok ())
      (listed : (target.applied schema (target.prepare schema d).2).1 = .error e) :
      Conduct target schema scripts d
        [.prepared schema (.ok ()), .listed schema (.error e)] (.error e)
  | refused {rows : List HistoryEntry} {e : Error}
      (prepared : (target.prepare schema d).1 = .ok ())
      (listed : (target.applied schema (target.prepare schema d).2).1 = .ok rows)
      (refused : History.pending scripts rows = .error e) :
      Conduct target schema scripts d
        [.prepared schema (.ok ()), .listed schema (.ok rows)] (.error e)
  | ran {rows : List HistoryEntry} {ps : List Script} {calls : List Event}
      {answer : Except Error (List Applied)} (prepared : (target.prepare schema d).1 = .ok ())
      (listed : (target.applied schema (target.prepare schema d).2).1 = .ok rows)
      (pending : History.pending scripts rows = .ok ps)
      (trail : Trail schema (History.nextRank rows) ps calls answer) :
      Conduct target schema scripts d
        (.prepared schema (.ok ()) :: .listed schema (.ok rows) :: calls) answer

theorem exists_conduct (target : Target δ) (schema : String) (scripts : List Script) (d : δ) :
    ∃ r, (migrate target schema scripts).run d = some r ∧
      Conduct target schema scripts d r.events r.answer := by
  rw [migrate, Program.run_perform_bind]
  cases hprepared : (target.prepare schema d).1 with
  | error e => exact ⟨_, rfl, .unprepared hprepared⟩
  | ok u =>
    simp only [Program.run_perform_bind]
    cases hlisted : (target.applied schema (target.prepare schema d).2).1 with
    | error e => exact ⟨_, rfl, .unlisted hprepared hlisted⟩
    | ok rows =>
      simp only
      cases hpending : History.pending scripts rows with
      | error e => exact ⟨_, rfl, .refused hprepared hlisted hpending⟩
      | ok ps =>
        obtain ⟨r, hr, htrail⟩ := exists_trail target schema (History.nextRank rows) ps
          (target.applied schema (target.prepare schema d).2).2
        refine ⟨⟨r.answer, _ :: _ :: r.events, r.state⟩, ?_,
          .ran hprepared hlisted hpending htrail⟩
        simp only [hr, Option.map_some]

/-! ### The histories -/

/-- What a recording makes of the histories. -/
def write (g : String → List HistoryEntry) :
    String × HistoryEntry × Except Error Unit → String → List HistoryEntry
  | (schema, entry, .ok ()) => Function.update g schema (g schema ++ [entry])
  | (_, _, .error _) => g

theorem foldl_write_map (g : String → List HistoryEntry) (rows : List HistoryEntry) :
    (rows.map fun x ↦ (schema, x, .ok ())).foldl write g =
      Function.update g schema (g schema ++ rows) := by
  induction rows generalizing g with
  | nil => simp
  | cons x rows ih =>
    rw [List.map_cons, List.foldl_cons, ih, write, Function.update_idem, Function.update_self,
      List.append_assoc, List.singleton_append]

variable {target : Target δ} {history : δ → String → List HistoryEntry}

/-- What is listed after the preparation are the rows that there were before it. -/
theorem Target.Keeps.eq_of_listed (hkeeps : target.Keeps history) {d : δ}
    {rows : List HistoryEntry}
    (h : (target.applied schema (target.prepare schema d).2).1 = .ok rows) :
    rows = history d schema := by
  rw [hkeeps.listed h, hkeeps.prepare]

/-- **The histories are what the recordings make of them.** -/
theorem history_of_run (hkeeps : target.Keeps history) {scripts : List Script} {d : δ}
    {r : Program.Run Event δ (Except Error (List Applied))}
    (hr : (migrate target schema scripts).run d = some r) :
    history r.state = (recordings r.events).foldl write (history d) := by
  -- only a record that succeeds changes the histories, and it adds its row
  have hsteps : (migrate target schema scripts).Always fun x ↦
      history x.after = x.event.recording?.elim (history x.before) (write (history x.before)) := by
    refine always_migrate (fun d ↦ hkeeps.prepare schema d) (fun d ↦ hkeeps.applied schema d)
      (fun s _ d ↦ hkeeps.execute schema s d) fun s _ rank x d ↦ ?_
    show history (target.record schema (entryOf rank s x) d).2 =
      write (history d) (schema, entryOf rank s x, (target.record schema (entryOf rank s x) d).1)
    cases hrecord : (target.record schema (entryOf rank s x) d).1 with
    | error e => exact hkeeps.unrecorded hrecord
    | ok u => exact hkeeps.recorded hrecord
  obtain ⟨steps, htakes, hevents, hleads⟩ := Program.takes_of_run hr
  rw [hleads.eq_foldl (f := fun g e ↦ e.recording?.elim g (write g)) (hsteps steps _ htakes),
    hevents, recordings, List.foldl_filterMap]
  congr 1
  funext g e
  cases e.recording? <;> rfl

/-- A migration that succeeds has run the scripts that the history lets through. -/
theorem Conduct.of_ok (hkeeps : target.Keeps history) {scripts : List Script} {d : δ}
    {applied : List Applied} (h : Conduct target schema scripts d calls (.ok applied)) :
    ∃ (ps : List Script) (rows : List HistoryEntry),
      History.pending scripts (history d schema) = .ok ps ∧
      attempts calls = successes schema ps ∧
      applied = ps.map (fun s ↦ ⟨s.path, s.version⟩) ∧
      recordings calls = rows.map (fun x ↦ (schema, x, .ok ())) ∧
      rows.map HistoryEntry.untimed = rowsOf (History.nextRank (history d schema)) ps := by
  cases h with
  | @ran listed ps calls _ prepared hlisted pending trail =>
    obtain rfl := hkeeps.eq_of_listed hlisted
    obtain ⟨hattempts, happlied, rows, hrecordings, hrows⟩ := trail.of_ok rfl
    exact ⟨ps, rows, pending, hattempts, happlied, hrecordings, hrows⟩

end

end Migration

/-! ### A migration of a build -/

namespace Build

variable {δ : Type} {target : Migration.Target δ} {location : Path} {schema : String}
  {scripts : List Script} {w : World δ}

/-- What the database was asked for. -/
def calls (events : List Event) : List Migration.Event :=
  events.filterMap fun
    | .migration e => some e
    | _ => none

theorem calls_map_migration (events : List Migration.Event) :
    calls (events.map .migration) = events := by
  rw [calls, List.filterMap_map]
  exact List.filterMap_some

theorem run_outside {α : Type} {p : Program Migration.Event δ α} {w : World δ}
    {r : Program.Run Migration.Event δ α} (hr : p.run w.outside = some r) :
    (outside p).run w =
      some ⟨r.answer, r.events.map .migration, { w with outside := r.state }⟩ := by
  -- everything but the database is as in `w` all along
  obtain ⟨w', hrun, hrest, hstate⟩ := @Program.run_zoom _ _ (World δ) _ _ p World.outside
    (fun d w ↦ { w with outside := d }) Event.migration (fun t ↦ t = { w with outside := t.outside })
    (fun _ ↦ True) (fun d t ht _ ↦ ⟨by rw [ht], rfl⟩) (fun _ _ _ _ _ _ ↦ trivial) w rfl trivial r hr
  rw [outside, hrun, hrest, hstate]

/-- If the scripts cannot be read the database is not asked for anything. -/
theorem run_migrate_of_error {e : Error} (h : Script.discover w.files location = .error e) :
    (migrate target location schema).run w =
      some ⟨.error e, [.searched location (.error e)], w⟩ := by
  rw [migrate, Program.look, Program.run_perform_bind]
  simp only [h]
  rfl

/-- If the scripts can be read they are migrated, and nothing but the database is changed. -/
theorem run_migrate_of_ok (h : Script.discover w.files location = .ok scripts)
    {r : Program.Run Migration.Event δ (Except Error (List Migration.Applied))}
    (hr : (Migration.migrate target schema scripts).run w.outside = some r) :
    (migrate target location schema).run w = some
      ⟨r.answer, .searched location (.ok scripts) :: r.events.map .migration,
        { w with outside := r.state }⟩ := by
  rw [migrate, Program.look, Program.run_perform_bind]
  simp only [h, run_outside hr, Option.map_some]

theorem calls_searched (location : Path) (outcome : Except Error (List Script))
    (events : List Migration.Event) :
    calls (.searched location outcome :: events.map .migration) = events :=
  calls_map_migration events

theorem exists_run_migrate (target : Migration.Target δ) (schema : String)
    (h : Script.discover w.files location = .ok scripts) :
    ∃ r, (migrate target location schema).run w = some r ∧
      Migration.Conduct target schema scripts w.outside (calls r.events) r.answer ∧
      r.state.files = w.files ∧
      ∀ history, target.Keeps history → history r.state.outside =
        (Migration.recordings (calls r.events)).foldl Migration.write (history w.outside) := by
  obtain ⟨r, hr, hconduct⟩ := Migration.exists_conduct target schema scripts w.outside
  refine ⟨_, run_migrate_of_ok h hr, ?_, rfl, fun history hkeeps ↦ ?_⟩
  · rwa [calls_searched]
  · rw [calls_searched]
    exact Migration.history_of_run hkeeps hr

/-- A migration that succeeds has run the scripts of the directory that the history lets through,
and has added their rows to it. -/
theorem of_run_migrate_ok {history : δ → String → List HistoryEntry} (hkeeps : target.Keeps history)
    {r : Program.Run Event (World δ) (Except Error (List Migration.Applied))}
    (hr : (migrate target location schema).run w = some r) {applied : List Migration.Applied}
    (hok : r.answer = .ok applied) :
    ∃ (scripts ps : List Script) (rows : List HistoryEntry),
      Script.discover w.files location = .ok scripts ∧
      History.pending scripts (history w.outside schema) = .ok ps ∧
      Migration.attempts (calls r.events) = Migration.successes schema ps ∧
      applied = ps.map (fun s ↦ ⟨s.path, s.version⟩) ∧ r.state.files = w.files ∧
      history r.state.outside =
        Function.update (history w.outside) schema (history w.outside schema ++ rows) ∧
      rows.map HistoryEntry.untimed =
        Migration.rowsOf (History.nextRank (history w.outside schema)) ps := by
  cases hfound : Script.discover w.files location with
  | error e =>
    rw [run_migrate_of_error hfound] at hr
    obtain rfl := Option.some.inj hr
    cases hok
  | ok scripts =>
    obtain ⟨r₀, hr₀, hconduct, hfiles, hhistory⟩ := exists_run_migrate target schema hfound
    obtain rfl := Option.some.inj (hr₀.symm.trans hr)
    rw [hok] at hconduct
    obtain ⟨ps, rows, hpending, hattempts, happlied, hrecordings, hrows⟩ := hconduct.of_ok hkeeps
    have hafter := hhistory history hkeeps
    rw [hrecordings, Migration.foldl_write_map] at hafter
    exact ⟨scripts, ps, rows, rfl, hpending, hattempts, happlied, hfiles, hafter, hrows⟩

theorem exists_run (target : Migration.Target δ) (location : Path) (schema : String) (w : World δ) :
    ∃ r, (migrate target location schema).run w = some r := by
  cases hfound : Script.discover w.files location with
  | error e => exact ⟨_, run_migrate_of_error hfound⟩
  | ok scripts =>
    obtain ⟨r, hr, -⟩ := exists_run_migrate target schema hfound
    exact ⟨r, hr⟩

end Build

/-! ### Migrations one after the other -/

namespace Migration

variable {δ : Type}

/-- How a migration of a build went. -/
abbrev Outcome (δ : Type) := Program.Run Build.Event (World δ) (Except Error (List Applied))

/-- Runs migrations one after the other, each on the files of its time, and lists how they went. -/
def runAll (target : Target δ) : List Request → World δ → Option (List (Outcome δ) × World δ)
  | [], w => some ([], w)
  | q :: qs, w =>
    ((Build.migrate target q.location q.schema).run { w with files := q.files }).bind fun r ↦
      (runAll target qs r.state).map fun rs ↦ (r :: rs.1, rs.2)

theorem runAll_cons {target : Target δ} {q : Request} {qs : List Request} {w : World δ}
    {r : Outcome δ} {rs : List (Outcome δ)} {w' : World δ}
    (hr : (Build.migrate target q.location q.schema).run { w with files := q.files } = some r)
    (hrs : runAll target qs r.state = some (rs, w')) :
    runAll target (q :: qs) w = some (r :: rs, w') := by
  rw [runAll, hr, Option.bind_some, hrs]
  rfl

/-- The first migration, and those that come after it. -/
theorem of_runAll_cons {target : Target δ} {q : Request} {qs : List Request} {w : World δ}
    {rs : List (Outcome δ)} {w' : World δ} (h : runAll target (q :: qs) w = some (rs, w')) :
    ∃ r rest, rs = r :: rest ∧
      (Build.migrate target q.location q.schema).run { w with files := q.files } = some r ∧
      runAll target qs r.state = some (rest, w') := by
  obtain ⟨r, hr, hrest⟩ := Option.bind_eq_some_iff.1 h
  obtain ⟨⟨rest, w''⟩, hrs, heq⟩ := Option.map_eq_some_iff.1 hrest
  obtain ⟨rfl, rfl⟩ := Prod.mk.inj heq
  exact ⟨r, rest, rfl, hr, hrs⟩

/-- Migrations come to their end one after the other. -/
theorem exists_runAll (target : Target δ) (qs : List Request) (w : World δ) :
    ∃ rs w', runAll target qs w = some (rs, w') := by
  induction qs generalizing w with
  | nil => exact ⟨[], w, rfl⟩
  | cons q qs ih =>
    obtain ⟨r, hr⟩ := Build.exists_run target q.location q.schema { w with files := q.files }
    obtain ⟨rs, w', hrs⟩ := ih r.state
    exact ⟨r :: rs, w', runAll_cons hr hrs⟩

end Migration

end SchemaForge
