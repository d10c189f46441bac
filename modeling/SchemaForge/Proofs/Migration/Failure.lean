import SchemaForge.Proofs.Migration.Alone

/-!
# Migrations that fail

A migration can fail before it has run anything or at one of its scripts. Before the first script
all that has been done is to look: at the directory, and then at the database (`Refuses`). At a
script the migration stops (`StopsAt`): what it was about to run is split there into what has been
run and recorded and what has not been touched.

The row of the failed script is what the next migration sees. It is the last row, and no migration
gets past it: rows are never taken away (`mem_history_of_run`), and a history in which one has
failed is refused whatever the scripts are (`exists_run_of_failed_row`).
-/

namespace SchemaForge

/-- A history in which a script has failed is refused. -/
theorem History.exists_pending_eq_error {history : List HistoryEntry} {x : HistoryEntry}
    (hx : x ∈ history) (hfailed : x.success = false) (scripts : List Script) :
    ∃ e, pending scripts history = .error e := by
  cases hpending : pending scripts history with
  | error e => exact ⟨e, rfl⟩
  | ok ps =>
    have hsuccess := (pending_eq_ok_iff.1 hpending).1 x hx
    rw [hfailed] at hsuccess
    cases hsuccess

namespace Migration

variable {δ : Type} {target : Target δ} {history : δ → String → List HistoryEntry} {schema : String}
  {location : Path} {scripts : List Script} {d : δ} {calls : List Event}
  {answer : Except Error (List Applied)} {x : HistoryEntry} {w : World δ}

/-! ### Before any script -/

/-- Why no script is run: the schema cannot be prepared, its history cannot be listed, or the
history does not let the scripts run. -/
inductive Refuses (target : Target δ) (schema : String) (scripts : List Script) (d : δ) :
    Error → Prop
  | prepare {e : Error} (unprepared : (target.prepare schema d).1 = .error e) :
      Refuses target schema scripts d e
  | applied {e : Error} (prepared : (target.prepare schema d).1 = .ok ())
      (unlisted : (target.applied schema (target.prepare schema d).2).1 = .error e) :
      Refuses target schema scripts d e
  | pending {rows : List HistoryEntry} {e : Error} (prepared : (target.prepare schema d).1 = .ok ())
      (listed : (target.applied schema (target.prepare schema d).2).1 = .ok rows)
      (refused : History.pending scripts rows = .error e) : Refuses target schema scripts d e

theorem Conduct.of_refuses (h : Conduct target schema scripts d calls answer) {e : Error}
    (hrefuses : Refuses target schema scripts d e) :
    attempts calls = [] ∧ recordings calls = [] ∧ answer = .error e := by
  cases hrefuses with
  | prepare unprepared =>
    cases h with
    | unprepared prepared =>
      obtain rfl := Except.error.inj (prepared.symm.trans unprepared)
      exact ⟨rfl, rfl, rfl⟩
    | unlisted prepared => cases prepared.symm.trans unprepared
    | refused prepared => cases prepared.symm.trans unprepared
    | ran prepared => cases prepared.symm.trans unprepared
  | applied prepared unlisted =>
    cases h with
    | unprepared unprepared => cases unprepared.symm.trans prepared
    | unlisted _ listed =>
      obtain rfl := Except.error.inj (listed.symm.trans unlisted)
      exact ⟨rfl, rfl, rfl⟩
    | refused _ listed => cases listed.symm.trans unlisted
    | ran _ listed => cases listed.symm.trans unlisted
  | pending prepared listed refused =>
    cases h with
    | unprepared unprepared => cases unprepared.symm.trans prepared
    | unlisted _ unlisted => cases unlisted.symm.trans listed
    | refused _ listed' refused' =>
      obtain rfl := Except.ok.inj (listed'.symm.trans listed)
      obtain rfl := Except.error.inj (refused'.symm.trans refused)
      exact ⟨rfl, rfl, rfl⟩
    | ran _ listed' pending =>
      obtain rfl := Except.ok.inj (listed'.symm.trans listed)
      cases pending.symm.trans refused

/-! ### At a script -/

/-- A script that fails is one of those that the history let through, and the last to be run. -/
theorem Conduct.of_error (h : Conduct target schema scripts d calls answer) {s : Script} {e : Error}
    (hfailed : (schema, s, .error e) ∈ attempts calls) :
    ∃ rows done rest new last kept,
      (target.applied schema (target.prepare schema d).2).1 = .ok rows ∧
      History.pending scripts rows = .ok (done ++ s :: rest) ∧
      StopsAt schema (History.nextRank rows) done s e new last kept calls answer := by
  cases h with
  | unprepared => cases hfailed
  | unlisted => cases hfailed
  | refused => cases hfailed
  | @ran rows ps calls _ prepared listed pending trail =>
    obtain ⟨done, rest, new, last, kept, rfl, hstops⟩ := trail.of_error hfailed
    exact ⟨rows, done, rest, new, last, kept, listed, pending, hstops.attempts, hstops.recordings,
      hstops.rows, hstops.last, hstops.answer⟩

/-- If the failure could be recorded too, there is a row for each script that was run. -/
theorem foldl_write_of_stopsAt {rank : ℕ} {done : List Script} {s : Script} {e : Error}
    {rows : List HistoryEntry} {last : HistoryEntry}
    (h : StopsAt schema rank done s e rows last (.ok ()) calls answer)
    (g : String → List HistoryEntry) :
    (recordings calls).foldl write g =
      Function.update g schema (g schema ++ (rows ++ [last])) := by
  rw [h.recordings, ← foldl_write_map, List.map_append]
  rfl

/-- Where there is room for the scripts that were run, their rows have ranks below the limit. -/
theorem StopsAt.rank_lt {rows new : List HistoryEntry} {done : List Script} {s : Script} {e : Error}
    {last : HistoryEntry} {kept : Except Error Unit}
    (h : StopsAt schema (History.nextRank rows) done s e new last kept calls answer)
    (hroom : History.HasRoom rows (done.length + 1)) :
    ∀ x ∈ new ++ [last], x.rank < UInt32.size := by
  rw [History.HasRoom] at hroom
  refine List.forall_mem_append.2 ⟨fun x hx ↦ ?_, List.forall_mem_singleton.2 ?_⟩
  · have hrank := rank_lt_of_untimed h.rows x hx
    omega
  · have hrank : last.rank = History.nextRank rows + done.length :=
      congrArg HistoryEntry.rank h.last
    omega

/-! ### After a failure -/

/-- No migration takes a row away. -/
theorem mem_history_of_run (hkeeps : target.Keeps history) {other : String} {r : Outcome δ}
    (hr : (Build.migrate target location other).run w = some r)
    (hx : x ∈ history w.outside schema) : x ∈ history r.state.outside schema := by
  obtain ⟨r₀, hr₀, hcases⟩ := request_ensures hkeeps location other w
  obtain rfl := Option.some.inj (hr₀.symm.trans hr)
  rcases hcases with hsame | ⟨-, -, -, -, rows, hgrown, -⟩
  · rwa [hsame]
  · rw [hgrown]
    by_cases hother : schema = other
    · subst hother
      rw [Function.update_self]
      exact List.mem_append_left rows hx
    · rwa [Function.update_of_ne hother]

/-- Where a script has failed a migration fails, before it has run anything. -/
theorem exists_run_of_failed_row (hkeeps : target.Keeps history) (location : Path)
    (hx : x ∈ history w.outside schema) (hfailed : x.success = false) :
    ∃ r, (Build.migrate target location schema).run w = some r ∧ (∃ e, r.answer = .error e) ∧
      attempts (Build.calls r.events) = [] ∧ recordings (Build.calls r.events) = [] := by
  cases hfound : Script.discover w.files location with
  | error e => exact ⟨_, Build.run_migrate_of_error hfound, ⟨e, rfl⟩, rfl, rfl⟩
  | ok scripts =>
    obtain ⟨r, hr, hconduct, -, -⟩ := Build.exists_run_migrate target schema hfound
    obtain ⟨e, he⟩ := History.exists_pending_eq_error hx hfailed scripts
    refine ⟨r, hr, ?_⟩
    generalize Build.calls r.events = calls at hconduct
    generalize r.answer = answer at hconduct
    cases hconduct with
    | unprepared => exact ⟨⟨_, rfl⟩, rfl, rfl⟩
    | unlisted => exact ⟨⟨_, rfl⟩, rfl, rfl⟩
    | refused => exact ⟨⟨_, rfl⟩, rfl, rfl⟩
    | ran prepared listed pending trail =>
      rw [hkeeps.eq_of_listed listed, he] at pending
      cases pending

/-- If the migration was asked for on the schema, it has failed before it ran anything. -/
def Blocked (schema : String) (q : Request) (r : Outcome δ) : Prop :=
  q.schema = schema → (∃ e, r.answer = .error e) ∧ attempts (Build.calls r.events) = [] ∧
    recordings (Build.calls r.events) = []

/-- Where a script has failed every migration fails from then on. -/
theorem blocked_of_runAll (hkeeps : target.Keeps history) {qs : List Request}
    (hx : x ∈ history w.outside schema) (hfailed : x.success = false) {rs : List (Outcome δ)}
    {w' : World δ} (hrs : runAll target qs w = some (rs, w')) :
    List.Forall₂ (Blocked schema) qs rs := by
  induction qs generalizing w rs with
  | nil =>
    obtain ⟨rfl, -⟩ := Prod.mk.inj (Option.some.inj hrs)
    exact .nil
  | cons q qs ih =>
    obtain ⟨r, rest, rfl, hr, hrest⟩ := of_runAll_cons hrs
    refine .cons (fun hschema ↦ ?_) (ih (mem_history_of_run hkeeps hr hx) hrest)
    obtain ⟨r₀, hr₀, hfails⟩ := exists_run_of_failed_row hkeeps q.location
      (w := { w with files := q.files }) hx hfailed
    rw [hschema] at hr
    obtain rfl := Option.some.inj (hr₀.symm.trans hr)
    exact hfails

/-- **What a failure leaves behind.** Whatever the directory, the history and the database, a
migration comes to its end.

* If the scripts cannot be read the database is not asked for anything.
* If the schema cannot be prepared, its history cannot be listed, or the history does not let the
  scripts run, none is executed and no row is recorded.
* If a script fails, those before it have been executed and recorded as successes. It is recorded
  once, as a failure and with the next rank, and nothing after it is executed. The answer is an
  error that names its path and has the message of the cause. Where there is room for a row of each
  script that was executed, no rank is beyond its limit.

If that last row was kept, the history has all these rows, and from then on every migration of the
schema fails without executing or recording anything, whatever else is migrated in between and
whatever the scripts are. -/
theorem migrate_fails (target : Target δ) (location : Path) (schema : String) (w : World δ) :
    ∃ r, (Build.migrate target location schema).run w = some r ∧
      (∀ e, Script.discover w.files location = .error e →
        Build.calls r.events = [] ∧ r.state = w ∧ r.answer = .error e) ∧
      ∀ scripts, Script.discover w.files location = .ok scripts →
        (∀ e, Refuses target schema scripts w.outside e →
          attempts (Build.calls r.events) = [] ∧ recordings (Build.calls r.events) = [] ∧
          r.answer = .error e) ∧
        ∀ s e, (schema, s, .error e) ∈ attempts (Build.calls r.events) →
          ∃ rows done rest new last kept,
            (target.applied schema (target.prepare schema w.outside).2).1 = .ok rows ∧
            History.pending scripts rows = .ok (done ++ s :: rest) ∧
            StopsAt schema (History.nextRank rows) done s e new last kept (Build.calls r.events)
              r.answer ∧
            (History.HasRoom rows (done.length + 1) → ∀ x ∈ new ++ [last], x.rank < UInt32.size) ∧
            ∀ history, target.Keeps history → kept = .ok () →
              history r.state.outside = Function.update (history w.outside) schema
                (history w.outside schema ++ (new ++ [last])) ∧
              ∀ qs, ∃ rs w', runAll target qs r.state = some (rs, w') ∧
                List.Forall₂ (Blocked schema) qs rs := by
  cases hfound : Script.discover w.files location with
  | error e =>
    refine ⟨_, Build.run_migrate_of_error hfound, fun e' he ↦ ?_, fun scripts h ↦ (nomatch h)⟩
    obtain rfl := Except.error.inj he
    exact ⟨rfl, rfl, rfl⟩
  | ok found =>
    obtain ⟨r, hr, hconduct, -, hhistory⟩ := Build.exists_run_migrate target schema hfound
    refine ⟨r, hr, fun e h ↦ (nomatch h), fun scripts h ↦ ?_⟩
    obtain rfl := Except.ok.inj h
    refine ⟨fun e hrefuses ↦ hconduct.of_refuses hrefuses, fun s e hfailed ↦ ?_⟩
    obtain ⟨rows, done, rest, new, last, kept, hlisted, hpending, hstops⟩ :=
      hconduct.of_error hfailed
    refine ⟨rows, done, rest, new, last, kept, hlisted, hpending, hstops, hstops.rank_lt,
      fun history hkeeps h ↦ ?_⟩
    subst h
    have hafter := hhistory history hkeeps
    rw [foldl_write_of_stopsAt hstops] at hafter
    have hlast : last ∈ history r.state.outside schema := by
      rw [hafter, Function.update_self]
      simp
    refine ⟨hafter, fun qs ↦ ?_⟩
    obtain ⟨rs, w', hrs⟩ := exists_runAll target qs r.state
    exact ⟨rs, w', hrs,
      blocked_of_runAll hkeeps hlast (congrArg HistoryEntry.success hstops.last) hrs⟩

/-- A rehearsal in which the second of three scripts fails. -/
theorem migrate_fails_rehearsal :
    let script (name sql : String) : Location × Node :=
      ([RawText.ofText "db", RawText.ofText name], .file (Utf8.encode sql) false)
    let files : FileSystem := ⟨[([RawText.ofText "db"], .directory none),
      script "V1__users.sql" "CREATE TABLE users;",
      script "V2__orders.sql" "CREATE TABEL orders;",
      script "V3__open.sql" "CREATE VIEW open;"], []⟩
    let w : World Rehearsal := World.start files {
      handleOf := fun _ ↦ ⟨"", "", "root", ""⟩
      rules := { execute := [("TABEL", .provisioning "connection lost")] } }
    ∃ r s e, (Build.migrate Rehearsal.target ⟨"db"⟩ "app").run w = some r ∧
      ("app", s, .error e) ∈ attempts (Build.calls r.events) ∧
      r.answer = .error (.migration (some s.path) e.reason) ∧
      (∃ rows last, r.state.outside.history "app" = rows ++ [last] ∧ last.success = false ∧
        last.rank < UInt32.size) ∧
      ∀ qs, ∃ rs w', runAll Rehearsal.target qs r.state = some (rs, w') ∧
        List.Forall₂ (Blocked "app") qs rs := by
  intro script files w
  have hany : ((Build.migrate Rehearsal.target ⟨"db"⟩ "app").run w).any (fun r ↦
      (attempts (Build.calls r.events)).any (fun a ↦ a.1 == "app" && !a.2.2.isOk) &&
        (recordings (Build.calls r.events)).all fun x ↦ x.2.2.isOk) = true := by
    decide +kernel +zetaReduce
  obtain ⟨r, hr, hall⟩ := (Option.any_eq_true _ _).1 hany
  simp only [Bool.and_eq_true, List.any_eq_true, List.all_eq_true, beq_iff_eq] at hall
  obtain ⟨⟨⟨schema, s, outcome⟩, hmem, hschema, hfailed⟩, hrecorded⟩ := hall
  obtain rfl : schema = "app" := hschema
  cases outcome with
  | ok u => cases hfailed
  | error e =>
    obtain ⟨scripts, hfound, hlength⟩ : ∃ scripts, Script.discover files ⟨"db"⟩ = .ok scripts ∧
        scripts.length = 3 := ⟨_, rfl, rfl⟩
    obtain ⟨r₀, hr₀, -, hfails⟩ := migrate_fails Rehearsal.target ⟨"db"⟩ "app" w
    obtain rfl := Option.some.inj (hr₀.symm.trans hr)
    obtain ⟨rows, done, rest, new, last, kept, hlisted, hpending, hstops, hranks, hthen⟩ :=
      (hfails scripts hfound).2 s e hmem
    have hlast : ("app", last, kept) ∈ recordings (Build.calls r₀.events) := by
      rw [hstops.recordings]
      simp
    have hkept : kept = .ok () := by
      cases kept with
      | ok u => rfl
      | error e => cases hrecorded _ hlast
    have hroom : History.HasRoom rows (done.length + 1) := by
      obtain rfl : [] = rows := Except.ok.inj hlisted
      obtain ⟨-, -, -, hleft⟩ := History.pending_eq_ok_iff.1 hpending
      have hdone := (congrArg List.length hleft).ge.trans (List.length_filter_le ..)
      rw [List.length_append, List.length_cons, hlength] at hdone
      show 1 + (done.length + 1) < 4294967296
      omega
    obtain ⟨hafter, hblocked⟩ := hthen _ Rehearsal.target_keeps hkept
    refine ⟨r₀, s, e, hr, hmem, hstops.answer, ⟨new, last, ?_, ?_, hranks hroom last (by simp)⟩,
      hblocked⟩
    · rw [hafter, Function.update_self]
      rfl
    · exact congrArg HistoryEntry.success hstops.last

end Migration

end SchemaForge
