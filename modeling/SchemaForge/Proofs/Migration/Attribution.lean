import SchemaForge.Mysql.Server
import SchemaForge.Proofs.Migration.Failure

/-!
# Which script a failure is of

Two calls can fail for a script: its execution, and the recording of the row that says that it was
executed. The answer of the migration should say which script it was, and why; if it does, so does
its message (`Error.message_of_failedMigration?`).

A failed execution is attributed in every case. A failed recording is handed on as it is, so that it
is attributed exactly when the target has named the script itself (`attributes_iff`). A server does
not know of scripts and names none (`not_attributes_of_unrecorded`): the operator is told that a
statement was refused, and not which script has been executed without a row.

There is no third way to fail once scripts are being run (`Trail.exists_fails`).
-/

namespace SchemaForge

namespace Error

/-- The script that a failed migration names, and the reason that it gives. Two scripts of one
version are such a failure as well, of the second of them. -/
def failedMigration? : Error → Option (Option Path × String)
  | .migration script reason => some (script, reason)
  | .duplicateVersion version script other =>
    some (some script, duplicateReason version other)
  | _ => none

/-- The script that a failed migration names. -/
def script? (e : Error) : Option Path :=
  e.failedMigration?.bind Prod.fst

/-- A failed migration that names a script says so in its message, next to the reason. -/
theorem message_of_failedMigration? {e : Error} {script : Path} {reason : String}
    (h : e.failedMigration? = some (some script, reason)) :
    e.message = "Migration failed (" ++ script.shown ++ "): " ++ reason := by
  cases e with
  | migration | duplicateVersion =>
    simp only [failedMigration?, Option.some.injEq, Prod.mk.injEq] at h
    obtain ⟨rfl, rfl⟩ := h
    rfl
  | _ => cases h

theorem reason_of_failedMigration? {e : Error} {script : Option Path} {reason : String}
    (h : e.failedMigration? = some (script, reason)) : e.reason = reason := by
  cases e with
  | migration | duplicateVersion => exact (Prod.mk.inj (Option.some.inj h)).2
  | _ => cases h

end Error

namespace Migration

variable {δ : Type} {schema : String} {rank : ℕ} {ps scripts : List Script} {calls : List Event}
  {answer : Except Error (List Applied)} {s : Script} {f e : Error}

/-- The answer says that the migration has failed on a script, and has the reason of a failure. -/
def Attributes (answer : Except Error (List Applied)) (s : Script) (f : Error) : Prop :=
  ∃ e reason, answer = .error e ∧ e.failedMigration? = some (some s.path, reason) ∧
    f.reason.toList <:+: reason.toList

/-- A script was executed, and its row could not be recorded. -/
def Unrecorded (schema : String) (s : Script) (f : Error) (calls : List Event) : Prop :=
  ∃ entry, [.executed schema s (.ok ()), .recorded schema entry (.error f)] <:+: calls

/-- What fails while a script is handled: its execution, or the recording after it. -/
inductive Fails (schema : String) (s : Script) (f : Error) (calls : List Event) : Prop
  | executing (h : (schema, s, .error f) ∈ attempts calls)
  | recording (h : Unrecorded schema s f calls)

theorem attributes_onScript (s : Script) (f : Error) :
    Attributes (.error (onScript s.path f)) s f := by
  refine ⟨.migration (some s.path) f.reason, f.reason, ?_, rfl, List.infix_rfl⟩
  rw [onScript_eq]

/-- A failure that is handed on as it is says itself which script it is of. -/
theorem attributes_error_iff : Attributes (.error f) s f ↔ f.script? = some s.path := by
  constructor
  · rintro ⟨e, reason, he, hscript, -⟩
    obtain rfl := Except.error.inj he
    rw [Error.script?, hscript]
    rfl
  · intro h
    obtain ⟨⟨script, reason⟩, hf, hscript⟩ := Option.bind_eq_some_iff.1 h
    obtain rfl : script = some s.path := hscript
    exact ⟨f, reason, rfl, hf, Error.reason_of_failedMigration? hf ▸ List.infix_rfl⟩

/-! ### While scripts are run -/

theorem not_unrecorded_nil : ¬Unrecorded schema s f [] := by
  rintro ⟨entry, hinfix⟩
  cases List.infix_nil.1 hinfix

theorem Unrecorded.cons (h : Unrecorded schema s f calls) (c : Event) :
    Unrecorded schema s f (c :: calls) := by
  obtain ⟨entry, hinfix⟩ := h
  exact ⟨entry, List.infix_cons hinfix⟩

/-- A call that executes no script is not the first of the two. -/
theorem Unrecorded.of_cons {c : Event} (h : Unrecorded schema s f (c :: calls))
    (hc : c.attempt? = none) : Unrecorded schema s f calls := by
  obtain ⟨entry, hinfix⟩ := h
  rcases List.infix_cons_iff.1 hinfix with hprefix | hinfix
  · obtain rfl := (List.cons_prefix_cons.1 hprefix).1
    cases hc
  · exact ⟨entry, hinfix⟩

/-- The calls for one script, in front of those for the others: it is the one that was executed and
not recorded, or that one comes later. -/
theorem unrecorded_executed_iff {other : String} {t : Script} {entry : HistoryEntry}
    {outcome kept : Except Error Unit} :
    Unrecorded schema s f (.executed other t outcome :: .recorded other entry kept :: calls) ↔
      (other = schema ∧ t = s ∧ outcome = .ok () ∧ kept = .error f) ∨
        Unrecorded schema s f calls := by
  constructor
  · rintro ⟨entry', hinfix⟩
    rcases List.infix_cons_iff.1 hinfix with hprefix | hinfix
    · obtain ⟨hexecuted, hprefix⟩ := List.cons_prefix_cons.1 hprefix
      obtain ⟨hrecorded, -⟩ := List.cons_prefix_cons.1 hprefix
      cases hexecuted
      cases hrecorded
      exact .inl ⟨rfl, rfl, rfl, rfl⟩
    · exact .inr (Unrecorded.of_cons ⟨entry', hinfix⟩ rfl)
  · rintro (⟨rfl, rfl, rfl, rfl⟩ | h)
    · exact ⟨entry, (List.prefix_append [_, _] calls).isInfix⟩
    · exact (h.cons _).cons _

/-- A recording that fails ends the migration with its failure. The induction is on the scripts: the
row of each that is followed by another has been kept. -/
theorem Trail.of_unrecorded (h : Trail schema rank ps calls answer) {other : String}
    (hunrecorded : Unrecorded other s f calls) : answer = .error f := by
  induction h with
  | all => exact absurd hunrecorded not_unrecorded_nil
  | failed =>
    rcases unrecorded_executed_iff.1 hunrecorded with ⟨-, -, houtcome, -⟩ | hrest
    · cases houtcome
    · exact absurd hrest not_unrecorded_nil
  | unrecorded =>
    rcases unrecorded_executed_iff.1 hunrecorded with ⟨-, -, -, hkept⟩ | hrest
    · cases hkept
      rfl
    · exact absurd hrest not_unrecorded_nil
  | next outcome rest ih =>
    rcases unrecorded_executed_iff.1 hunrecorded with ⟨-, -, -, hkept⟩ | hrest
    · cases hkept
    · rw [ih hrest]
      rfl

/-- If the scripts do not all run, something has failed for one of them. -/
theorem Trail.exists_fails (h : Trail schema rank ps calls answer) (herror : answer = .error e) :
    ∃ s ∈ ps, ∃ f, Fails schema s f calls := by
  induction h with
  | all => cases herror
  | failed => exact ⟨_, List.mem_cons_self, _, .executing List.mem_cons_self⟩
  | unrecorded =>
    exact ⟨_, List.mem_cons_self, _,
      .recording (unrecorded_executed_iff.2 (.inl ⟨rfl, rfl, rfl, rfl⟩))⟩
  | @next rank t ps x calls answer outcome rest ih =>
    cases answer with
    | ok applied => cases herror
    | error e' =>
      obtain ⟨s, hs, f, hfails⟩ := ih herror
      refine ⟨s, List.mem_cons_of_mem _ hs, f, ?_⟩
      cases hfails with
      | executing h => exact .executing (List.mem_cons_of_mem _ h)
      | recording h => exact .recording (unrecorded_executed_iff.2 (.inr h))

/-! ### The whole migration -/

variable {target : Target δ} {d : δ}

theorem Conduct.of_unrecorded (h : Conduct target schema scripts d calls answer)
    (hunrecorded : Unrecorded schema s f calls) : answer = .error f := by
  -- what comes before the scripts executes none
  cases h with
  | unprepared => exact absurd (hunrecorded.of_cons rfl) not_unrecorded_nil
  | unlisted => exact absurd ((hunrecorded.of_cons rfl).of_cons rfl) not_unrecorded_nil
  | refused => exact absurd ((hunrecorded.of_cons rfl).of_cons rfl) not_unrecorded_nil
  | ran prepared listed pending trail =>
    exact trail.of_unrecorded ((hunrecorded.of_cons rfl).of_cons rfl)

theorem Conduct.of_executing (h : Conduct target schema scripts d calls answer)
    (hfailed : (schema, s, .error f) ∈ attempts calls) :
    answer = .error (onScript s.path f) := by
  obtain ⟨rows, done, rest, new, last, kept, -, -, hstops⟩ := h.of_error hfailed
  rw [hstops.answer, onScript_eq]

/-- Once the history has let the scripts run, something has failed for one of them if they do not
all run. -/
theorem Conduct.exists_fails (h : Conduct target schema scripts d calls (.error e))
    {rows : List HistoryEntry} (hprepared : (target.prepare schema d).1 = .ok ())
    (hlisted : (target.applied schema (target.prepare schema d).2).1 = .ok rows)
    (hpending : History.pending scripts rows = .ok ps) : ∃ s ∈ ps, ∃ f, Fails schema s f calls := by
  cases h with
  | unprepared unprepared => cases unprepared.symm.trans hprepared
  | unlisted prepared unlisted => cases unlisted.symm.trans hlisted
  | refused prepared listed refused =>
    obtain rfl := Except.ok.inj (listed.symm.trans hlisted)
    cases refused.symm.trans hpending
  | ran prepared listed pending trail =>
    obtain rfl := Except.ok.inj (listed.symm.trans hlisted)
    obtain rfl := Except.ok.inj (pending.symm.trans hpending)
    obtain ⟨s, hs, f, hfails⟩ := trail.exists_fails rfl
    refine ⟨s, hs, f, ?_⟩
    cases hfails with
    | executing h => exact .executing h
    | recording h => exact .recording ((h.cons _).cons _)

/-- **Which failures are attributed to their script.** Whatever the directory, the history and the
database, a migration comes to its end. If it fails after the history has let the scripts run, then
for one of them: it could not be executed, or could not be recorded after it was. The answer is an
error that names this script and has the reason of the failure,

* always if the script could not be executed, and
* if it could not be recorded, exactly when the failure that the target has reported names it. -/
theorem attributes_iff (target : Target δ) (location : Path) (schema : String) (w : World δ) :
    ∃ r, (Build.migrate target location schema).run w = some r ∧
      (∀ scripts rows ps e, Script.discover w.files location = .ok scripts →
        (target.prepare schema w.outside).1 = .ok () →
        (target.applied schema (target.prepare schema w.outside).2).1 = .ok rows →
        History.pending scripts rows = .ok ps → r.answer = .error e →
        ∃ s ∈ ps, ∃ f, Fails schema s f (Build.calls r.events)) ∧
      ∀ s f,
        ((schema, s, .error f) ∈ attempts (Build.calls r.events) → Attributes r.answer s f) ∧
        (Unrecorded schema s f (Build.calls r.events) →
          (Attributes r.answer s f ↔ f.script? = some s.path)) := by
  cases hfound : Script.discover w.files location with
  | error e =>
    -- nothing is called
    refine ⟨_, Build.run_migrate_of_error hfound, fun scripts _ _ _ h ↦ (nomatch h), fun s f ↦ ?_⟩
    exact ⟨fun h ↦ absurd h List.not_mem_nil, fun h ↦ absurd h not_unrecorded_nil⟩
  | ok found =>
    obtain ⟨r, hr, hconduct, -, -⟩ := Build.exists_run_migrate target schema hfound
    refine ⟨r, hr, ?_, fun s f ↦ ⟨?_, ?_⟩⟩
    · intro scripts rows ps e hscripts hprepared hlisted hpending herror
      obtain rfl := Except.ok.inj hscripts
      rw [herror] at hconduct
      exact hconduct.exists_fails hprepared hlisted hpending
    · intro hfailed
      rw [hconduct.of_executing hfailed]
      exact attributes_onScript s f
    · intro hunrecorded
      rw [hconduct.of_unrecorded hunrecorded]
      exact attributes_error_iff

/-- A rehearsal in which one script can be executed, but not recorded. -/
def unrecordable (f : Error) : World Rehearsal :=
  World.start ⟨[([RawText.ofText "db"], .directory none),
    ([RawText.ofText "db", RawText.ofText "V1__users.sql"],
      .file (Utf8.encode "CREATE TABLE users;") false)], []⟩ {
    handleOf := fun _ ↦ ⟨"", "", "root", ""⟩
    rules := { record := some f } }

theorem exists_run_unrecordable (f : Error) :
    ∃ r s, (Build.migrate Rehearsal.target ⟨"db"⟩ "app").run (unrecordable f) = some r ∧
      s.path = ⟨"db/V1__users.sql"⟩ ∧ Unrecorded "app" s f (Build.calls r.events) := by
  have hpaths : (Script.discover (unrecordable (.configuration "")).files ⟨"db"⟩).map
      (fun scripts ↦ scripts.map (·.path)) = .ok [⟨"db/V1__users.sql"⟩] := by
    decide +kernel
  -- the files are the same whatever the failure is
  replace hpaths : (Script.discover (unrecordable f).files ⟨"db"⟩).map
      (fun scripts ↦ scripts.map (·.path)) = .ok [⟨"db/V1__users.sql"⟩] := hpaths
  cases hfound : Script.discover (unrecordable f).files ⟨"db"⟩ with
  | error e =>
    rw [hfound] at hpaths
    cases hpaths
  | ok scripts =>
    rw [hfound] at hpaths
    obtain ⟨s, rfl, hpath⟩ := List.map_eq_singleton_iff.1 (Except.ok.inj hpaths)
    refine ⟨_, s, Build.run_migrate_of_ok hfound rfl, hpath, ?_⟩
    rw [Build.calls_searched]
    exact ⟨_, (List.suffix_append [_, _] _).isInfix⟩

/-- A target that names the script itself. -/
theorem attributes_iff_unrecordable :
    let f : Error := .migration (some ⟨"db/V1__users.sql"⟩) "disk full"
    ∃ r s, (Build.migrate Rehearsal.target ⟨"db"⟩ "app").run (unrecordable f) = some r ∧
      Unrecorded "app" s f (Build.calls r.events) ∧ f.script? = some s.path ∧
      Attributes r.answer s f := by
  intro f
  obtain ⟨r, s, hr, hpath, hunrecorded⟩ := exists_run_unrecordable f
  obtain ⟨r', hr', -, hattributes⟩ := attributes_iff Rehearsal.target ⟨"db"⟩ "app" (unrecordable f)
  obtain rfl := Option.some.inj (hr'.symm.trans hr)
  have hscript : f.script? = some s.path := congrArg some hpath.symm
  exact ⟨r', s, hr, hunrecorded, hscript, ((hattributes s f).2 hunrecorded).2 hscript⟩

/-- **A script that was executed and not recorded is not named**: the answer is the failure of the
recording as it is. -/
theorem not_attributes_unrecordable :
    let f : Error := .migration none "disk full"
    ∃ r s, (Build.migrate Rehearsal.target ⟨"db"⟩ "app").run (unrecordable f) = some r ∧
      Unrecorded "app" s f (Build.calls r.events) ∧ r.answer = .error f ∧
      ¬Attributes r.answer s f := by
  intro f
  obtain ⟨r, s, hr, -, hunrecorded⟩ := exists_run_unrecordable f
  obtain ⟨scripts, hfound⟩ : ∃ scripts,
      Script.discover (unrecordable f).files ⟨"db"⟩ = .ok scripts := ⟨_, rfl⟩
  obtain ⟨r', hr', hconduct, -, -⟩ := Build.exists_run_migrate Rehearsal.target "app" hfound
  obtain rfl := Option.some.inj (hr'.symm.trans hr)
  have hanswer : r'.answer = .error f := hconduct.of_unrecorded hunrecorded
  refine ⟨r', s, hr, hunrecorded, hanswer, ?_⟩
  rw [hanswer, attributes_error_iff]
  exact nofun

end Migration

namespace Mysql

open Migration (Attributes Unrecorded)

variable {σ : Type} {c : Connection σ}

/-- No failure of a server names a script. -/
theorem script?_of_recorded {schema : String} {entry : HistoryEntry} {s : σ} {f : Error}
    (h : ((target c).record schema entry s).1 = .error f) : f.script? = none := by
  change (c.insert (insertHistory schema) (Row.ofEntry entry) s).1.mapError ServerFault.error =
    .error f at h
  cases hinsert : (c.insert (insertHistory schema) (Row.ofEntry entry) s).1 with
  | ok u =>
    rw [hinsert] at h
    cases h
  | error fault =>
    rw [hinsert] at h
    obtain rfl := Except.error.inj h
    rfl

/-- On a server no script is named that was executed and could not be recorded. -/
theorem not_attributes_of_unrecorded {location : Path} {schema : String} {w : World σ}
    {r : Migration.Outcome σ} {s : Script} {f : Error}
    (hr : (Build.migrate (target c) location schema).run w = some r)
    (hunrecorded : Unrecorded schema s f (Build.calls r.events)) : ¬Attributes r.answer s f := by
  cases hfound : Script.discover w.files location with
  | error e =>
    rw [Build.run_migrate_of_error hfound] at hr
    obtain rfl := Option.some.inj hr
    exact absurd hunrecorded Migration.not_unrecorded_nil
  | ok scripts =>
    obtain ⟨r₀, hr₀, hconduct⟩ :=
      Migration.exists_conduct (target c) schema scripts w.outside
    rw [Build.run_migrate_of_ok hfound hr₀] at hr
    obtain rfl := Option.some.inj hr
    simp only [Build.calls_searched] at hunrecorded
    rw [hconduct.of_unrecorded hunrecorded, Migration.attributes_error_iff]
    -- the failure is what some step of the migration got from the server
    obtain ⟨steps, htakes, hevents, -⟩ := Program.takes_of_run hr₀
    obtain ⟨entry, hinfix⟩ := hunrecorded
    have hmem : Migration.Event.recorded schema entry (.error f) ∈
        steps.map Footstep.event := hevents ▸ hinfix.subset (by simp)
    obtain ⟨x, hx, hevent⟩ := List.mem_map.1 hmem
    have hsteps : (Migration.migrate (target c) schema scripts).Always fun x ↦
        ∀ entry f, x.event = .recorded schema entry (.error f) → f.script? = none := by
      refine Migration.always_migrate (fun _ _ _ h ↦ (nomatch h)) (fun _ _ _ h ↦ (nomatch h))
        (fun _ _ _ _ _ h ↦ (nomatch h)) fun script _ rank e d entry f h ↦ ?_
      obtain ⟨-, -, houtcome⟩ := Migration.Event.recorded.inj h
      exact script?_of_recorded houtcome
    rw [hsteps steps _ htakes x hx entry f hevent]
    exact nofun

end Mysql

end SchemaForge
