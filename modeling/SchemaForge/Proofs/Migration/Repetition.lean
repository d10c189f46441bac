import SchemaForge.Proofs.Migration.Alone

/-!
# Migrating again

A migration that succeeds has run the scripts that were not in the history, and the rows that it
has added are determined by them up to times. A second migration finds these rows and checks them
against the same scripts. It has nothing to run, because each script that was left is now recorded,
and nothing to object to, because each of the new rows has the version and the checksum of the
script that it records (`History.pending_append_seals`).

The history may have been anything to begin with, and between the two migrations anything may happen
that does not touch it or the scripts.
-/

namespace SchemaForge

namespace Migration

variable {δ : Type} {target : Target δ} {history : δ → String → List HistoryEntry} {schema : String}
  {location : Path} {scripts : List Script} {d : δ} {calls : List Event}
  {answer : Except Error (List Applied)}

/-- Where nothing is left, nothing is executed or recorded, and all that can fail is the look at the
history. -/
theorem Conduct.of_pending_nil (hkeeps : target.Keeps history)
    (h : Conduct target schema scripts d calls answer)
    (hpending : History.pending scripts (history d schema) = .ok []) :
    attempts calls = [] ∧ recordings calls = [] ∧
      ∀ rows, (target.prepare schema d).1 = .ok () →
        (target.applied schema (target.prepare schema d).2).1 = .ok rows → answer = .ok [] := by
  cases h with
  | unprepared prepared =>
    refine ⟨rfl, rfl, fun rows hprepared _ ↦ ?_⟩
    rw [prepared] at hprepared
    cases hprepared
  | unlisted prepared listed =>
    refine ⟨rfl, rfl, fun rows _ hlisted ↦ ?_⟩
    rw [listed] at hlisted
    cases hlisted
  | refused prepared listed refused =>
    rw [hkeeps.eq_of_listed listed, hpending] at refused
    cases refused
  | ran prepared listed pending trail =>
    rw [hkeeps.eq_of_listed listed, hpending] at pending
    cases pending
    cases trail
    exact ⟨rfl, rfl, fun _ _ _ ↦ rfl⟩

/-- **A migration that succeeds, and the next one.** The scripts that it has executed are those of
the directory whose versions were not in the history, each once and in ascending order, and they are
its answer. The history of the schema has grown by one successful row for each of them, with
consecutive ranks above the largest that there was. Other histories and the files are as they were.

A migration later on, with the same scripts and the history as it was left, executes nothing and
records nothing. If the database can be asked for the history at all it answers that nothing was
left to do. -/
theorem migrate_then_again (hkeeps : target.Keeps history) {w : World δ}
    {r : Outcome δ} (hr : (Build.migrate target location schema).run w = some r)
    {applied : List Applied} (hok : r.answer = .ok applied) :
    ∃ (scripts ps : List Script) (rows : List HistoryEntry),
      Script.discover w.files location = .ok scripts ∧
      (∀ s, s ∈ ps ↔ s ∈ scripts ∧ ∀ h ∈ history w.outside schema, h.version ≠ s.version) ∧
      Script.Ascending ps ∧
      attempts (Build.calls r.events) = successes schema ps ∧
      applied = ps.map (fun s ↦ ⟨s.path, s.version⟩) ∧
      r.state.files = w.files ∧
      history r.state.outside =
        Function.update (history w.outside) schema (history w.outside schema ++ rows) ∧
      rows.map HistoryEntry.untimed =
        rowsOf (((history w.outside schema).map (·.rank)).max?.getD 0 + 1) ps ∧
      ∀ w' : World δ, Script.discover w'.files location = .ok scripts →
        history w'.outside schema = history r.state.outside schema →
        ∃ r', (Build.migrate target location schema).run w' = some r' ∧
          attempts (Build.calls r'.events) = [] ∧ recordings (Build.calls r'.events) = [] ∧
          history r'.state.outside = history w'.outside ∧
          ∀ listed, (target.prepare schema w'.outside).1 = .ok () →
            (target.applied schema (target.prepare schema w'.outside).2).1 = .ok listed →
            r'.answer = .ok [] := by
  obtain ⟨scripts, ps, rows, hfound, hpending, hattempts, happlied, hfiles, hafter, hrows⟩ :=
    Build.of_run_migrate_ok hkeeps hr hok
  have hscripts := Script.ascending_of_discover hfound
  refine ⟨scripts, ps, rows, hfound, fun s ↦ ?_, History.ascending_of_pending hscripts hpending,
    hattempts, happlied, hfiles, hafter, by rw [hrows, History.nextRank_eq_max?],
    fun w' hfound' hsame ↦ ?_⟩
  · rw [← ((History.pending_eq_ok_iff_admits hscripts).1 hpending).2, History.mem_missing]
  · obtain ⟨r', hr', hconduct', -, hhistory'⟩ := Build.exists_run_migrate target schema hfound'
    have hnothing : History.pending scripts (history w'.outside schema) = .ok [] := by
      rw [hsame, hafter, Function.update_self]
      exact History.pending_append_seals hscripts hpending (forall₂_seals hrows)
    obtain ⟨hnone, hunrecorded, hanswer⟩ := hconduct'.of_pending_nil hkeeps hnothing
    refine ⟨r', hr', hnone, hunrecorded, ?_, hanswer⟩
    rw [hhistory' history hkeeps, hunrecorded]
    rfl

/-- A rehearsal with a history from another time: a script of version 1.5 that is gone. The scripts
of versions 2 and 10 are run, and then there is nothing left to do. -/
theorem migrate_then_again_rehearsal :
    let script (name sql : String) : Location × Node :=
      ([RawText.ofText "db", RawText.ofText name], .file (Utf8.encode sql) false)
    let files : FileSystem := ⟨[([RawText.ofText "db"], .directory none),
      script "V10__orders.sql" "CREATE TABLE orders;",
      script "V2__users.sql" "CREATE TABLE users;"], []⟩
    let old : HistoryEntry := ⟨7, .ofSegments [1, 5], "gone", "V1.5__gone.sql", "", 3, true⟩
    let w : World Rehearsal := World.start files
      { handleOf := fun _ ↦ ⟨"", "", "root", ""⟩, histories := [("app", [old])] }
    let applied : List Applied := [⟨⟨"db/V2__users.sql"⟩, .ofSegments [2]⟩,
      ⟨⟨"db/V10__orders.sql"⟩, .ofSegments [10]⟩]
    ∃ r r', (Build.migrate Rehearsal.target ⟨"db"⟩ "app").run w = some r ∧ r.answer = .ok applied ∧
      (∃ rows, r.state.outside.history "app" = old :: rows) ∧
      (Build.migrate Rehearsal.target ⟨"db"⟩ "app").run r.state = some r' ∧
      attempts (Build.calls r'.events) = [] ∧ recordings (Build.calls r'.events) = [] ∧
      r'.answer = .ok [] := by
  intro script files old w applied
  have hany : ((Build.migrate Rehearsal.target ⟨"db"⟩ "app").run w).any (fun r ↦
      r.answer.toOption == some applied && r.state.outside.rules.prepare.isNone &&
        r.state.outside.rules.applied.isNone) = true := by
    decide +kernel +zetaReduce
  obtain ⟨r, hr, hall⟩ := (Option.any_eq_true _ _).1 hany
  simp only [Bool.and_eq_true, beq_iff_eq, Option.isNone_iff_eq_none] at hall
  obtain ⟨⟨hanswer, hprepare⟩, hlist⟩ := hall
  have hok : r.answer = .ok applied := by
    cases h : r.answer with
    | error e => rw [h] at hanswer; cases hanswer
    | ok a => rw [h] at hanswer; exact congrArg Except.ok (Option.some.inj hanswer)
  obtain ⟨scripts, ps, rows, hfound, -, -, -, -, hfiles, hafter, -, hagain⟩ :=
    migrate_then_again Rehearsal.target_keeps hr hok
  obtain ⟨r', hr', hnone, hunrecorded, -, hnothing⟩ := hagain r.state (hfiles ▸ hfound) rfl
  refine ⟨r, r', hr, hok, ⟨rows, ?_⟩, hr', hnone, hunrecorded, ?_⟩
  · rw [hafter, Function.update_self]
    rfl
  · refine hnothing (r.state.outside.history "app") ?_ ?_
    · simp only [Rehearsal.target, hprepare, Rehearsal.outcome]
    · simp only [Rehearsal.target, Rehearsal.note, hlist, Rehearsal.outcome]
      rfl

end Migration

end SchemaForge
