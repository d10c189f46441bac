import SchemaForge.Build.World
import SchemaForge.Proofs.Migration.Pending
import SchemaForge.Proofs.Migration.Target
import SchemaForge.Proofs.Program.Alone

/-!
# Histories under sequences of migrations

Migrations run one after the other, on any schemas and each with the scripts that it finds, and any
operation of the database may fail. Starting from empty histories, every history keeps the form
`History.Sound`: ranks from one on without a gap, versions strictly ascending, and no failure but
possibly the last row.

## How the parts fit

* One migration adds rows at the end of one history, and what it adds is fixed by its scripts up to
  the outcomes (`History.Recorded`, `Grown`, `migrate_ensures`). Nothing is said of the answer: a
  record that fails ends the migration just as a script does.
* What is added continues a sound history (`History.Sound.append`). Each of the four facts that this
  needs comes from another check: the ranks from `nextRank_eq`, the order within from the ascending
  scripts, the order across from `isBefore_of_mem_pending`, and that the old rows have all succeeded
  from the refusal of a failed one.
-/

namespace SchemaForge

namespace History

/-! ### The form of a history -/

/-- The form of a history: ranks from one on, versions strictly ascending, and no failure except
possibly in the last row. -/
structure Sound (history : List HistoryEntry) : Prop where
  ranks : history.map (·.rank) = List.range' 1 history.length
  versions : history.Pairwise fun x y ↦ x.version.isBefore y.version = true
  success : ∀ h ∈ history.dropLast, h.success = true

theorem sound_nil : Sound [] :=
  ⟨rfl, List.Pairwise.nil, by simp⟩

/-- No version occurs twice in a sound history. -/
theorem Sound.nodup {history : List HistoryEntry} (h : Sound history) :
    (history.map (·.version)).Nodup :=
  List.pairwise_map.2 (h.versions.imp Version.ne_of_isBefore)

/-- The rows that a run of scripts adds from a rank on. The run may end anywhere; a row of a script
that failed is the last. -/
inductive Recorded : ℕ → List Script → List HistoryEntry → Prop
  | stopped (rank : ℕ) (scripts : List Script) : Recorded rank scripts []
  | failed (rank : ℕ) (s : Script) (scripts : List Script) (e : Migration.Execution) :
      Recorded rank (s :: scripts) [Migration.entryOf rank s e]
  | ran {rank : ℕ} {s : Script} {scripts : List Script} {e : Migration.Execution}
      {rows : List HistoryEntry} (success : e.outcome = .ok ())
      (rest : Recorded (rank + 1) scripts rows) :
      Recorded rank (s :: scripts) (Migration.entryOf rank s e :: rows)

theorem Recorded.ranks {rank : ℕ} {scripts : List Script} {rows : List HistoryEntry}
    (h : Recorded rank scripts rows) : rows.map (·.rank) = List.range' rank rows.length := by
  induction h with
  | stopped => rfl
  | failed => rfl
  | @ran rank s _ e rows _ _ ih =>
    rw [List.map_cons, ih, List.length_cons, List.range'_succ]
    rfl

theorem Recorded.versions {rank : ℕ} {scripts : List Script} {rows : List HistoryEntry}
    (h : Recorded rank scripts rows) : rows.map (·.version) <+: scripts.map (·.version) := by
  induction h with
  | stopped => exact List.nil_prefix
  | failed rank s scripts e => exact ⟨scripts.map (·.version), rfl⟩
  | ran _ _ ih => exact List.cons_prefix_cons.2 ⟨rfl, ih⟩

theorem Recorded.success {rank : ℕ} {scripts : List Script} {rows : List HistoryEntry}
    (h : Recorded rank scripts rows) : ∀ x ∈ rows.dropLast, x.success = true := by
  induction h with
  | stopped => simp
  | failed => simp
  | @ran rank s _ e rows hok _ ih =>
    cases rows with
    | nil => simp
    | cons x rows =>
      rw [List.dropLast_cons_cons]
      refine List.forall_mem_cons.2 ⟨?_, ih⟩
      show e.outcome.isOk = true
      rw [hok]
      rfl

/-- The scripts that are left continue a sound history without a failure. -/
theorem Sound.append {history rows : List HistoryEntry} {ps : List Script}
    (h : Sound history) (hsuccess : ∀ x ∈ history, x.success = true)
    (hps : Script.Ascending ps)
    (habove : ∀ x ∈ history, ∀ s ∈ ps, x.version.isBefore s.version = true)
    (hrows : Recorded (history.length + 1) ps rows) : Sound (history ++ rows) where
  ranks := by
    rw [List.map_append, h.ranks, hrows.ranks, List.length_append, Nat.add_comm history.length 1,
      List.range'_append_1]
  versions := by
    have hmem : ∀ y ∈ rows, ∃ s ∈ ps, s.version = y.version := fun y hy ↦
      List.mem_map.1 (hrows.versions.subset (List.mem_map_of_mem hy))
    refine List.pairwise_append.2 ⟨h.versions, ?_, fun x hx y hy ↦ ?_⟩
    · have hversions : (ps.map (·.version)).Pairwise fun v w ↦ v.isBefore w = true :=
        List.pairwise_map.2 hps
      exact List.pairwise_map.1 (hversions.sublist hrows.versions.sublist)
    · obtain ⟨s, hs, hversion⟩ := hmem y hy
      exact hversion ▸ habove x hx s hs
  success := by
    cases rows with
    | nil => rw [List.append_nil]; exact h.success
    | cons y ys =>
      rw [List.dropLast_append_of_ne_nil (List.cons_ne_nil y ys)]
      exact List.forall_mem_append.2 ⟨hsuccess, hrows.success⟩

end History

namespace Migration

variable {δ : Type} {target : Target δ} {history : δ → String → List HistoryEntry}

/-! ### One migration -/

/-- The histories `f` are the histories `g` but for rows at the end of that of the schema, which a
run of the scripts from the rank on has added. -/
def Grown (g : String → List HistoryEntry) (schema : String) (rank : ℕ) (scripts : List Script)
    (f : String → List HistoryEntry) : Prop :=
  ∃ rows, f = Function.update g schema (g schema ++ rows) ∧ History.Recorded rank scripts rows

variable {g f : String → List HistoryEntry} {schema : String} {rank : ℕ}

theorem grown_same (scripts : List Script) : Grown g schema rank scripts g := by
  refine ⟨[], ?_, .stopped rank scripts⟩
  rw [List.append_nil, Function.update_eq_self]

/-- Rows behind that of a script that has run. -/
theorem Grown.cons {s : Script} {scripts : List Script} {e : Execution} (hok : e.outcome = .ok ())
    (h : Grown (Function.update g schema (g schema ++ [entryOf rank s e])) schema (rank + 1)
      scripts f) : Grown g schema rank (s :: scripts) f := by
  obtain ⟨rows, rfl, hrows⟩ := h
  refine ⟨entryOf rank s e :: rows, ?_, .ran hok hrows⟩
  rw [Function.update_idem, Function.update_self, List.append_assoc, List.singleton_append]

/-- Executing and recording scripts adds their rows at the end of the schema's history. -/
theorem runPending_ensures (hkeeps : target.Keeps history) (schema : String)
    (g : String → List HistoryEntry) (rank : ℕ) (scripts : List Script) :
    (runPending target schema rank scripts).Ensures (fun d ↦ history d = g) fun _ d ↦
      Grown g schema rank scripts (history d) := by
  induction scripts generalizing rank g with
  | nil => exact Program.ensures_pure fun d hd ↦ hd ▸ grown_same []
  | cons s ss ih =>
    refine Program.ensures_perform fun execution ↦ Program.ensures_perform fun recorded ↦ ?_
    have hexecuted : ∀ d, (∃ d₀, history d₀ = g ∧ target.execute schema s d₀ = (execution, d)) →
        history d = g := by
      rintro d ⟨d₀, hd₀, hexecute⟩
      rw [← hd₀, ← hkeeps.execute schema s d₀, hexecute]
    -- the row is there exactly when recording it has succeeded
    cases recorded with
    | error e =>
      have hsame : ∀ d', (∃ d, (∃ d₀, history d₀ = g ∧
          target.execute schema s d₀ = (execution, d)) ∧
          target.record schema (entryOf rank s execution) d = (.error e, d')) →
          Grown g schema rank (s :: ss) (history d') := by
        rintro d' ⟨d, hd, hrecord⟩
        have hd' := hkeeps.unrecorded (congrArg Prod.fst hrecord)
        rw [hrecord, hexecuted d hd] at hd'
        exact hd' ▸ grown_same _
      cases execution.outcome with
      | error e => exact Program.ensures_pure hsame
      | ok u => exact Program.ensures_pure hsame
    | ok u =>
      refine Program.Ensures.strengthen (P := fun d ↦
        history d = Function.update g schema (g schema ++ [entryOf rank s execution])) ?_ ?_
      · cases hok : execution.outcome with
        | error e =>
          exact Program.ensures_pure fun d hd ↦
            ⟨[entryOf rank s execution], hd, .failed rank s ss execution⟩
        | ok u =>
          refine Program.Ensures.bind (ih _ (rank + 1)) fun answer ↦ ?_
          cases answer with
          | error e => exact Program.ensures_pure fun d hd ↦ hd.cons hok
          | ok applied => exact Program.ensures_pure fun d hd ↦ hd.cons hok
      · rintro d' ⟨d, hd, hrecord⟩
        have hd' := hkeeps.recorded (congrArg Prod.fst hrecord)
        rwa [hrecord, hexecuted d hd] at hd'

/-- A migration adds rows of scripts that are left at the end of the schema's history, or none. -/
theorem migrate_ensures (hkeeps : target.Keeps history) (schema : String)
    (g : String → List HistoryEntry) (scripts : List Script) :
    (migrate target schema scripts).Ensures (fun d ↦ history d = g) fun _ d ↦
      history d = g ∨ ∃ ps, History.pending scripts (g schema) = .ok ps ∧
        Grown g schema (History.nextRank (g schema)) ps (history d) := by
  refine Program.ensures_perform fun prepared ↦ ?_
  refine Program.Ensures.strengthen (P := fun d ↦ history d = g) ?_ ?_
  · cases prepared with
    | error e => exact Program.ensures_pure fun d hd ↦ Or.inl hd
    | ok u =>
      refine Program.ensures_perform fun listed ↦ ?_
      refine Program.Ensures.strengthen
        (P := fun d ↦ (∀ rows, listed = .ok rows → rows = g schema) ∧ history d = g) ?_ ?_
      · refine Program.Ensures.of_pure fun hlisted ↦ ?_
        cases listed with
        | error e => exact Program.ensures_pure fun d hd ↦ Or.inl hd
        | ok rows =>
          obtain rfl := hlisted rows rfl
          dsimp only
          cases hpending : History.pending scripts (g schema) with
          | error e => exact Program.ensures_pure fun d hd ↦ Or.inl hd
          | ok ps =>
            exact (runPending_ensures hkeeps schema g _ ps).weaken fun _ d hd ↦
              Or.inr ⟨ps, rfl, hd⟩
      · rintro d' ⟨d, hd, hlisted⟩
        have hd' : (target.applied schema d).2 = d' := by rw [hlisted]
        refine ⟨fun rows hrows ↦ ?_, by rw [← hd', hkeeps.applied, hd]⟩
        rw [← hd]
        exact hkeeps.listed (by rw [hlisted, hrows])
  · rintro d' ⟨d, hd, hprepared⟩
    have hd' : (target.prepare schema d).2 = d' := by rw [hprepared]
    rw [← hd', hkeeps.prepare, hd]

/-! ### Migrations one after the other -/

/-- A migration as it is asked for: the files at the time, where its scripts are, and the schema. -/
structure Request where
  files : FileSystem
  location : Path
  schema : String

/-- Runs migrations one after the other, each on the files of its time. -/
def runEach (target : Target δ) : List Request → World δ → Option (World δ)
  | [], w => some w
  | q :: qs, w =>
    ((Build.migrate target q.location q.schema).run { w with files := q.files }).bind fun r ↦
      runEach target qs r.state

theorem runEach_append (qs qs' : List Request) (w : World δ) :
    runEach target (qs ++ qs') w = (runEach target qs w).bind (runEach target qs') := by
  induction qs generalizing w with
  | nil => rfl
  | cons q qs ih =>
    rw [List.cons_append, runEach, runEach, Option.bind_assoc]
    exact congrArg _ (funext fun r ↦ ih r.state)

/-- A migration of the scripts of a directory comes to its end. It adds rows of strictly ascending
scripts that the history of its schema lets through, or none. -/
theorem request_ensures (hkeeps : target.Keeps history) (location : Path) (schema : String)
    (w : World δ) :
    ∃ r, (Build.migrate target location schema).run w = some r ∧
      (history r.state.outside = history w.outside ∨ ∃ scripts ps, Script.Ascending scripts ∧
        History.pending scripts (history w.outside schema) = .ok ps ∧
        Grown (history w.outside) schema (History.nextRank (history w.outside schema)) ps
          (history r.state.outside)) := by
  rw [Build.migrate]
  cases hfound : Script.discover w.files location with
  | error e =>
    refine ⟨⟨.error e, [.searched location (.error e)], w⟩, ?_, Or.inl rfl⟩
    simp [Program.look, Program.perform, Program.run, hfound, pure, bind, Program.bind]
  | ok scripts =>
    obtain ⟨r, hr, hq, -⟩ := (migrate_ensures hkeeps schema (history w.outside) scripts).zoom
      World.outside (fun d w ↦ { w with outside := d }) Build.Event.migration
      (fun _ _ ↦ rfl) (fun _ ↦ rfl) (fun _ _ _ ↦ rfl) w rfl
    refine ⟨{ r with events := .searched location (.ok scripts) :: r.events }, ?_, ?_⟩
    · simp only [Program.look, Program.perform, Program.bind_step, Program.run, hfound]
      exact congrArg (Option.map _) hr
    · rcases hq with hsame | ⟨ps, hpending, hgrown⟩
      · exact Or.inl hsame
      · exact Or.inr ⟨scripts, ps, Script.ascending_of_discover hfound, hpending, hgrown⟩

/-- One migration keeps all histories sound, and the histories of other schemas as they are. -/
theorem request_keeps_sound (hkeeps : target.Keeps history) (q : Request) {w : World δ}
    (hsound : ∀ schema, History.Sound (history w.outside schema)) :
    ∃ w', runEach target [q] w = some w' ∧
      (∀ schema, History.Sound (history w'.outside schema)) ∧
      ∀ schema, schema ≠ q.schema → history w'.outside schema = history w.outside schema := by
  obtain ⟨r, hr, hq⟩ := request_ensures hkeeps q.location q.schema { w with files := q.files }
  refine ⟨r.state, by rw [runEach, hr]; rfl, ?_⟩
  rcases hq with hsame | ⟨scripts, ps, hscripts, hpending, rows, hafter, hrows⟩
  · rw [hsame]
    exact ⟨hsound, fun _ _ ↦ rfl⟩
  · rw [hafter]
    refine ⟨fun schema ↦ ?_, fun schema hne ↦ Function.update_of_ne hne _ _⟩
    by_cases hschema : schema = q.schema
    · subst hschema
      rw [Function.update_self]
      have hold := hsound q.schema
      rw [History.nextRank_eq hold.ranks] at hrows
      exact hold.append (History.pending_eq_ok_iff.1 hpending).1
        (History.ascending_of_pending hscripts hpending)
        (fun x hx s hs ↦ History.isBefore_of_mem_pending hscripts hpending hx hs) hrows
    · rw [Function.update_of_ne hschema]
      exact hsound schema

theorem runEach_keeps_sound (hkeeps : target.Keeps history) (qs : List Request) {w : World δ}
    (hsound : ∀ schema, History.Sound (history w.outside schema)) :
    ∃ w', runEach target qs w = some w' ∧
      ∀ schema, History.Sound (history w'.outside schema) := by
  induction qs generalizing w with
  | nil => exact ⟨w, rfl, hsound⟩
  | cons q qs ih =>
    obtain ⟨w', hw', hsound', -⟩ := request_keeps_sound hkeeps q hsound
    obtain ⟨w'', hw'', hsound''⟩ := ih hsound'
    exact ⟨w'', by rw [← List.singleton_append, runEach_append, hw']; exact hw'', hsound''⟩

/-- **Histories stay sound.** From empty histories on, after every sequence of migrations of any
schemas and with one more at its end, each history has ranks from one on, strictly ascending
versions of which none occurs twice, and no failure except possibly in its last row; and the last
migration has left the histories of all other schemas alone. Any operation may fail at any time. -/
theorem histories_sound (hkeeps : target.Keeps history) {w : World δ}
    (hempty : ∀ schema, history w.outside schema = []) (qs : List Request) (q : Request) :
    ∃ before after, runEach target qs w = some before ∧
      runEach target (qs ++ [q]) w = some after ∧
      (∀ schema, History.Sound (history after.outside schema) ∧
        ((history after.outside schema).map (·.version)).Nodup) ∧
      ∀ schema, schema ≠ q.schema →
        history after.outside schema = history before.outside schema := by
  have hstart : ∀ schema, History.Sound (history w.outside schema) := fun schema ↦
    (hempty schema) ▸ History.sound_nil
  obtain ⟨before, hbefore, hsound⟩ := runEach_keeps_sound hkeeps qs hstart
  obtain ⟨after, hafter, hsound', hothers⟩ := request_keeps_sound hkeeps q hsound
  refine ⟨before, after, hbefore, ?_, fun schema ↦ ⟨hsound' schema, (hsound' schema).nodup⟩,
    hothers⟩
  rw [runEach_append, hbefore]
  exact hafter

/-- A rehearsal in which the script of version 2 fails: three migrations of one schema, the second
of which finds that script, and then one of another schema. -/
theorem histories_sound_rehearsal :
    let directory : Location × Node := ([RawText.ofText "db"], .directory none)
    let script (name sql : String) : Location × Node :=
      ([RawText.ofText "db", RawText.ofText name], .file (Utf8.encode sql) false)
    let first : FileSystem := ⟨[directory, script "V1__users.sql" "CREATE TABLE users;"], []⟩
    let both : FileSystem := ⟨script "V2__orders.sql" "CREATE TABEL orders;" :: first.nodes, []⟩
    let rules : Rehearsal.Rules := { execute := [("TABEL", .migration none "syntax error")] }
    let w : World Rehearsal := World.start first { handleOf := fun _ ↦ ⟨"", "", "root", ""⟩, rules }
    (∀ schema, w.outside.history schema = []) ∧
      ∃ before after,
        runEach Rehearsal.target [⟨first, ⟨"db"⟩, "app"⟩, ⟨both, ⟨"db"⟩, "app"⟩,
          ⟨both, ⟨"db"⟩, "app"⟩] w = some before ∧
        runEach Rehearsal.target ([⟨first, ⟨"db"⟩, "app"⟩, ⟨both, ⟨"db"⟩, "app"⟩,
          ⟨both, ⟨"db"⟩, "app"⟩] ++ [⟨both, ⟨"db"⟩, "reporting"⟩]) w = some after ∧
        (∀ schema, History.Sound (after.outside.history schema) ∧
          ((after.outside.history schema).map (·.version)).Nodup) ∧
        ∀ schema, schema ≠ "reporting" →
          after.outside.history schema = before.outside.history schema :=
  ⟨fun _ ↦ rfl, histories_sound Rehearsal.target_keeps (fun _ ↦ rfl) _ ⟨_, _, "reporting"⟩⟩

end Migration

end SchemaForge
