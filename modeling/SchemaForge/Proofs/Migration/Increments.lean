import Mathlib.Data.List.Infix
import SchemaForge.Proofs.Migration.Alone
import SchemaForge.Proofs.Migration.Arrangement

/-!
# Migrating in increments

A directory of scripts grows over time, and each time a migration is run. If only scripts are added
that are newer than those already there, it comes to the same as a single migration in the end: the
same scripts are executed in the same order, and the history has the same rows up to times.

The scripts of each time are a prefix of the scripts at the end (`Script.Gains.exists_isPrefix`).
What is left of a prefix is a prefix of what is left of all, so that the rows of the prefixes, one
behind the other, are the rows of all (`Reached`). That each migration succeeds takes more: the rows
of those before it are checked against scripts that the first history knew nothing of. It is here
that the new scripts have to be newer (`History.pending_append_of_older`).
-/

namespace SchemaForge

namespace History

variable {before rows : List HistoryEntry} {older newer rest ps : List Script}

/-! ### The check after an increment -/

theorem holds_append (before rows : List HistoryEntry) (v : Version) :
    holds (before ++ rows) v = (holds before v || holds rows v) :=
  List.any_append

theorem missing_eq_nil_of_seals (hrows : List.Forall₂ Seals (missing before older) rows) :
    missing (before ++ rows) older = [] := by
  refine List.eq_nil_iff_forall_not_mem.2 fun s hs ↦ ?_
  obtain ⟨hmem, hnone⟩ := mem_missing.1 hs
  obtain ⟨hbefore, hnew⟩ := List.forall_mem_append.1 hnone
  obtain ⟨x, hx, hsx⟩ := exists_of_mem_scripts hrows (mem_missing.2 ⟨hmem, hbefore⟩)
  exact hnew x hx hsx.version

theorem missing_append_of_seals (hscripts : Script.Ascending (older ++ newer))
    (hrows : List.Forall₂ Seals (missing before older) rows) :
    missing (before ++ rows) newer = missing before newer := by
  refine List.filter_congr fun s hs ↦ ?_
  have hnew : holds rows s.version = false := by
    refine List.any_eq_false.2 fun x hx heq ↦ ?_
    obtain ⟨t, ht, htx⟩ := exists_of_mem_rows hrows hx
    have hbefore := (List.pairwise_append.1 hscripts).2.2 t (mem_missing.1 ht).1 s hs
    exact Version.ne_of_isBefore hbefore (htx.version.symm.trans (beq_iff_eq.1 heq))
  rw [holds_append, hnew, Bool.or_false]

/-- If all scripts may run, so may the first of them after some that are older have run. What is
left then is what was left of them before. -/
theorem pending_append_of_older (hscripts : Script.Ascending (older ++ newer ++ rest))
    (h : pending (older ++ newer ++ rest) before = .ok ps)
    (hrows : List.Forall₂ Seals (missing before older) rows) :
    pending (older ++ newer) (before ++ rows) = .ok (missing before newer) := by
  have hascending : Script.Ascending (older ++ newer) := (List.pairwise_append.1 hscripts).1
  obtain ⟨⟨hsuccess, hchecksum, horder⟩, -⟩ := (pending_eq_ok_iff_admits hscripts).1 h
  have hsucceeded : ∀ x ∈ before ++ rows, x.success = true := by
    refine List.forall_mem_append.2 ⟨hsuccess, fun x hx ↦ ?_⟩
    obtain ⟨t, -, htx⟩ := exists_of_mem_rows hrows hx
    exact htx.success
  have hunchanged : ∀ x ∈ before ++ rows, ∀ s ∈ older ++ newer, s.version = x.version →
      s.checksum = x.checksum := by
    intro x hx s hs hversion
    rcases List.mem_append.1 hx with hx | hx
    · exact hchecksum x hx s (List.mem_append_left rest hs) hversion
    · -- the row is that of the one script of its version
      obtain ⟨t, ht, htx⟩ := exists_of_mem_rows hrows hx
      have ht_mem : t ∈ older ++ newer := List.mem_append_left newer (mem_missing.1 ht).1
      rw [hascending.eq_of_version_eq hs ht_mem (hversion.trans htx.version), htx.checksum]
  have hnewer : ∀ v, IsLatest (before ++ rows) v → ∀ s ∈ older ++ newer,
      (∀ x ∈ before ++ rows, x.version ≠ s.version) → ¬s.version.isBefore v = true := by
    rintro v ⟨⟨x, hx, rfl⟩, hlast⟩ s hs hnone
    obtain ⟨hnone_before, hnone_rows⟩ := List.forall_mem_append.1 hnone
    rcases List.mem_append.1 hx with hx | hx
    · have hlatest : IsLatest before x.version :=
        ⟨⟨x, hx, rfl⟩, fun y hy ↦ hlast y (List.mem_append_left rows hy)⟩
      exact horder x.version hlatest s (List.mem_append_left rest hs) hnone_before
    · -- the latest version is that of an older script, and what is left is newer than it
      obtain ⟨t, ht, htx⟩ := exists_of_mem_rows hrows hx
      rcases List.mem_append.1 hs with hs | hs
      · obtain ⟨y, hy, hsy⟩ := exists_of_mem_scripts hrows (mem_missing.2 ⟨hs, hnone_before⟩)
        exact absurd hsy.version (hnone_rows y hy)
      · have hbefore : t.version.isBefore s.version = true :=
          (List.pairwise_append.1 hascending).2.2 t (mem_missing.1 ht).1 s hs
        rw [htx.version]
        exact Version.not_isBefore_of_isBefore hbefore
  have hleft : missing (before ++ rows) (older ++ newer) = missing before newer := by
    rw [missing_append, missing_eq_nil_of_seals hrows, missing_append_of_seals hascending hrows,
      List.nil_append]
  exact (pending_eq_ok_iff_admits hascending).2 ⟨⟨hsucceeded, hunchanged, hnewer⟩, hleft⟩

end History

namespace Migration

/-! ### The ranks after an increment -/

theorem nextRank_append {before rows : List HistoryEntry} {ps : List Script}
    (hrows : rows.map HistoryEntry.untimed = rowsOf (History.nextRank before) ps) :
    History.nextRank (before ++ rows) = History.nextRank before + ps.length := by
  have hlength : rows.length = ps.length := by
    have := congrArg List.length hrows
    rwa [List.length_map, rowsOf, List.length_mapIdx] at this
  have hranks := rank_of_untimed hrows
  rw [← hlength] at hranks
  rw [History.nextRank, List.foldl_append, History.foldl_max_rank hranks, hlength, History.nextRank]
  omega

/-! ### One increment -/

variable {δ : Type} {target : Target δ} {history : δ → String → List HistoryEntry} {schema : String}
  {location : Path} {g : String → List HistoryEntry} {scripts older newer ps : List Script}
  {calls : List Event} {answer : Except Error (List Applied)} {d : δ} {w : World δ} {r : Outcome δ}

/-- Where the history lets the scripts run, only a call that fails can keep the migration from its
end. -/
theorem Conduct.exists_ok (hkeeps : target.Keeps history)
    (h : Conduct target schema scripts d calls answer)
    (hpending : History.pending scripts (history d schema) = .ok ps)
    (hcalls : ∀ c ∈ calls, c.outcome = .ok ()) : ∃ applied, answer = .ok applied := by
  cases h with
  | unprepared => cases hcalls _ List.mem_cons_self
  | unlisted => cases hcalls _ (List.mem_cons_of_mem _ List.mem_cons_self)
  | refused prepared listed refused =>
    rw [hkeeps.eq_of_listed listed, hpending] at refused
    cases refused
  | ran prepared listed pending trail =>
    exact trail.exists_ok fun c hc ↦ hcalls c (List.mem_cons_of_mem _ (List.mem_cons_of_mem _ hc))

/-- The histories `g` have come to what they are by migrations with the scripts. -/
def Reached (history : δ → String → List HistoryEntry) (schema : String)
    (g : String → List HistoryEntry) (scripts : List Script) (d : δ) : Prop :=
  ∃ rows, history d = Function.update g schema (g schema ++ rows) ∧
    rows.map HistoryEntry.untimed =
      rowsOf (History.nextRank (g schema)) (History.missing (g schema) scripts)

theorem reached_nil (history : δ → String → List HistoryEntry) (schema : String) (d : δ) :
    Reached history schema (history d) [] d := by
  refine ⟨[], ?_, rfl⟩
  rw [List.append_nil, Function.update_eq_self]

/-- The same migrations lead to the same histories, up to times. -/
theorem Reached.untimed_eq {d' : δ} (h : Reached history schema g scripts d)
    (h' : Reached history schema g scripts d') (other : String) :
    (history d other).map HistoryEntry.untimed = (history d' other).map HistoryEntry.untimed := by
  obtain ⟨rows, hd, hrows⟩ := h
  obtain ⟨rows', hd', hrows'⟩ := h'
  rw [hd, hd']
  by_cases hother : other = schema
  · subst hother
    rw [Function.update_self, Function.update_self, List.map_append, List.map_append, hrows, hrows']
  · rw [Function.update_of_ne hother, Function.update_of_ne hother]

/-- Where there is room for the scripts, all ranks that are reached are below the limit. -/
theorem Reached.rank_lt (h : Reached history schema g scripts d)
    (hroom : History.HasRoom (g schema) scripts.length) :
    ∀ x ∈ history d schema, x.rank < UInt32.size := by
  obtain ⟨rows, hd, hrows⟩ := h
  rw [hd, Function.update_self]
  rw [History.HasRoom] at hroom
  refine List.forall_mem_append.2 ⟨fun x hx ↦ ?_, fun x hx ↦ ?_⟩
  · have hrank := History.rank_lt_nextRank hx
    omega
  · have hrank := rank_lt_of_untimed hrows x hx
    have hlength : (History.missing (g schema) scripts).length ≤ scripts.length :=
      List.length_filter_le ..
    omega

/-- A migration with more scripts runs those of them that were left before. -/
theorem Reached.migrate (hkeeps : target.Keeps history) (hscripts : Script.Ascending scripts)
    (hpending : History.pending scripts (g schema) = .ok ps) (holder : older <+: newer)
    (hnewer : newer <+: scripts) (h : Reached history schema g older w.outside)
    (hfound : Script.discover w.files location = .ok newer)
    (hr : (Build.migrate target location schema).run w = some r)
    (hcalls : ∀ c ∈ Build.calls r.events, c.outcome = .ok ()) :
    (∃ applied, r.answer = .ok applied) ∧ Reached history schema g newer r.state.outside ∧
      successes schema (History.missing (g schema) older) ++ attempts (Build.calls r.events) =
        successes schema (History.missing (g schema) newer) := by
  obtain ⟨rows, hbefore, hrows⟩ := h
  obtain ⟨added, rfl⟩ := holder
  obtain ⟨rest, rfl⟩ := hnewer
  have hnow : history w.outside schema = g schema ++ rows := by
    rw [hbefore, Function.update_self]
  have hleft : History.pending (older ++ added) (history w.outside schema) =
      .ok (History.missing (g schema) added) := by
    rw [hnow]
    exact History.pending_append_of_older hscripts hpending (forall₂_seals hrows)
  obtain ⟨r₀, hr₀, hconduct, -, hhistory⟩ := Build.exists_run_migrate target schema hfound
  obtain rfl := Option.some.inj (hr₀.symm.trans hr)
  obtain ⟨applied, happlied⟩ := hconduct.exists_ok hkeeps hleft hcalls
  rw [happlied] at hconduct
  obtain ⟨ps', new, hps', hattempts, -, hrecordings, hnew⟩ := hconduct.of_ok hkeeps
  obtain rfl := Except.ok.inj (hleft.symm.trans hps')
  refine ⟨⟨applied, happlied⟩, ⟨rows ++ new, ?_, ?_⟩, ?_⟩
  · rw [hhistory history hkeeps, hrecordings, foldl_write_map, hbefore, Function.update_idem,
      Function.update_self, List.append_assoc]
  · rw [List.map_append, hrows, hnew, hnow, nextRank_append hrows, History.missing_append,
      rowsOf_append]
  · rw [hattempts, History.missing_append, successes_append]

/-! ### All increments -/

/-- The scripts that a migration is to find. -/
def Finds (location : Path) (schema : String) (q : Request) (scripts : List Script) : Prop :=
  q.location = location ∧ q.schema = schema ∧ Script.discover q.files location = .ok scripts

theorem finds_of_found {stages : List (FileSystem × List Script)} {prefixes : List (List Script)}
    (hstages : ∀ stage ∈ stages, Script.found stage.1 location = .ok stage.2)
    (hprefixes : List.Forall₂ (fun found stage ↦ Script.arrange found = .ok stage)
      (stages.map Prod.snd) prefixes) :
    List.Forall₂ (Finds location schema) (stages.map fun stage ↦ ⟨stage.1, location, schema⟩)
      prefixes := by
  rw [List.forall₂_map_left_iff] at hprefixes ⊢
  refine ((List.forall₂_and_left _ _).2 ⟨hstages, hprefixes⟩).imp fun stage scripts h ↦ ?_
  refine ⟨rfl, rfl, ?_⟩
  rw [Script.discover_eq_bind]
  exact (congrArg (·.bind Script.arrange) h.1).trans h.2

/-- Along a chain of prefixes each migration succeeds, and the last of them is reached. -/
theorem Reached.runAll (hkeeps : target.Keeps history) (hscripts : Script.Ascending scripts)
    (hpending : History.pending scripts (g schema) = .ok ps) {qs : List Request}
    {stages : List (List Script)} (hstages : List.Forall₂ (Finds location schema) qs stages)
    (hchain : (older :: stages).IsChain (· <+: ·)) (hstart : ∀ stage ∈ stages, stage <+: scripts)
    (h : Reached history schema g older w.outside) {rs : List (Outcome δ)} {w' : World δ}
    (hrs : runAll target qs w = some (rs, w'))
    (hcalls : ∀ r ∈ rs, ∀ c ∈ Build.calls r.events, c.outcome = .ok ()) :
    (∀ r ∈ rs, ∃ applied, r.answer = .ok applied) ∧
      Reached history schema g (stages.getLastD older) w'.outside ∧
      successes schema (History.missing (g schema) older) ++
          rs.flatMap (fun r ↦ attempts (Build.calls r.events)) =
        successes schema (History.missing (g schema) (stages.getLastD older)) := by
  induction hstages generalizing older w rs with
  | nil =>
    obtain ⟨rfl, rfl⟩ := Prod.mk.inj (Option.some.inj hrs)
    exact ⟨List.forall_mem_nil _, h, List.append_nil _⟩
  | @cons q stage qs stages hfinds _ ih =>
    obtain ⟨rfl, rfl, hfound⟩ := hfinds
    obtain ⟨r, rest, rfl, hr, hrest⟩ := of_runAll_cons hrs
    obtain ⟨hcalls_r, hcalls_rs⟩ := List.forall_mem_cons.1 hcalls
    obtain ⟨hstage, hstages_start⟩ := List.forall_mem_cons.1 hstart
    rw [List.isChain_cons_cons] at hchain
    obtain ⟨hok, hreached, hattempts⟩ := Reached.migrate hkeeps hscripts hpending hchain.1
      hstage (w := { w with files := q.files }) h hfound hr hcalls_r
    obtain ⟨hoks, hend, hrests⟩ := ih hchain.2 hstages_start hreached hrest hcalls_rs
    refine ⟨List.forall_mem_cons.2 ⟨hok, hoks⟩, ?_, ?_⟩
    · rwa [List.getLastD_cons]
    · rw [List.flatMap_cons, ← List.append_assoc, hattempts, List.getLastD_cons, hrests]

/-- **Increments come to the same.** Suppose that a migration of all scripts succeeds. Suppose that
the directory has come to hold them in stages, each of which has the scripts of the one before and
possibly others that are all newer. Migrations on the same history, one at each stage, come to their
end. If none of their calls fails each of them succeeds, together they have executed the same
scripts in the same order, and all histories are the same up to times. Ranks are counted without a
limit here; where there is room for a row of each script, none is beyond the limit there is. -/
theorem increments_agree (hkeeps : target.Keeps history) {w : World δ} {found : List Script}
    (hfound : Script.found w.files location = .ok found) {r : Outcome δ}
    (hr : (Build.migrate target location schema).run w = some r) {applied : List Applied}
    (hok : r.answer = .ok applied) {stages : List (FileSystem × List Script)}
    (hstages : ∀ stage ∈ stages, Script.found stage.1 location = .ok stage.2)
    (hchain : (stages.map Prod.snd ++ [found]).IsChain Script.Gains) :
    ∃ rs w', runAll target (stages.map (fun stage ↦ ⟨stage.1, location, schema⟩) ++
        [⟨w.files, location, schema⟩]) w = some (rs, w') ∧
      ((∀ r' ∈ rs, ∀ c ∈ Build.calls r'.events, c.outcome = .ok ()) →
        (∀ r' ∈ rs, ∃ applied, r'.answer = .ok applied) ∧
        rs.flatMap (fun r' ↦ attempts (Build.calls r'.events)) = attempts (Build.calls r.events) ∧
        (∀ other, (history w'.outside other).map HistoryEntry.untimed =
          (history r.state.outside other).map HistoryEntry.untimed) ∧
        (History.HasRoom (history w.outside schema) found.length →
          ∀ x ∈ history w'.outside schema, x.rank < UInt32.size)) := by
  obtain ⟨scripts, ps, rows, hdiscover, hpending, hattempts, -, -, hafter, hrows⟩ :=
    Build.of_run_migrate_ok hkeeps hr hok
  have hscripts := Script.ascending_of_discover hdiscover
  obtain rfl := ((History.pending_eq_ok_iff_admits hscripts).1 hpending).2
  have harrange : Script.arrange found = .ok scripts := by
    rw [← hdiscover, Script.discover_eq_bind, hfound]
    rfl
  obtain ⟨prefixes, hprefixes, hchain'⟩ := Script.exists_prefixes harrange hchain
  have hfinds : List.Forall₂ (Finds location schema)
      (stages.map (fun stage ↦ ⟨stage.1, location, schema⟩) ++ [⟨w.files, location, schema⟩])
      (prefixes ++ [scripts]) :=
    List.rel_append (finds_of_found hstages hprefixes) (.cons ⟨rfl, rfl, hdiscover⟩ .nil)
  have hstart : ∀ stage ∈ prefixes ++ [scripts], stage <+: scripts := by
    have hpairs := (List.pairwise_append.1 hchain'.pairwise).2.2
    refine List.forall_mem_append.2 ⟨fun stage hstage ↦ ?_, ?_⟩
    · exact hpairs stage hstage scripts (List.mem_singleton_self scripts)
    · exact List.forall_mem_singleton.2 List.prefix_rfl
  obtain ⟨rs, w', hrs⟩ := exists_runAll target _ w
  refine ⟨rs, w', hrs, fun hcalls ↦ ?_⟩
  obtain ⟨hoks, hend, hall⟩ := Reached.runAll hkeeps hscripts hpending hfinds
    (List.isChain_cons.2 ⟨fun _ _ ↦ List.nil_prefix, hchain'⟩) hstart
    (reached_nil history schema w.outside) hrs hcalls
  rw [List.getLastD_concat] at hend hall
  have hlength : scripts.length = found.length := (Script.arrange_eq_ok_iff.1 harrange).2.length_eq
  exact ⟨hoks, hall.trans hattempts.symm, hend.untimed_eq ⟨rows, hafter, hrows⟩,
    fun hroom ↦ hend.rank_lt (hlength ▸ hroom)⟩

end Migration

/-! ### A rehearsal -/

namespace Rehearsal

open Migration

variable {schema : String} {scripts : List Script} {location : Path} {w w' : World Rehearsal}

theorem always_succeeds : (Migration.migrate target schema scripts).Always fun x ↦
    x.before.rules = {} → x.after.rules = {} ∧ x.event.outcome = .ok () := by
  refine always_migrate (fun d (h : d.rules = {}) ↦ ⟨h, ?_⟩) (fun d (h : d.rules = {}) ↦ ⟨h, ?_⟩)
    (fun s _ d (h : d.rules = {}) ↦ ⟨h, ?_⟩)
    fun s _ rank x d (h : d.rules = {}) ↦ ⟨(rules_record ..).trans h, ?_⟩
  · simp only [Event.outcome, target, h, outcome]
  · simp only [Event.outcome, target, h, outcome, Except.map]
  · simp only [Event.outcome, target, h, outcome, scriptFault?, List.find?_nil, Option.map_none]
  · simp only [Event.outcome, target, h]

/-- Without rules no call fails. -/
theorem outcome_of_run (hrules : w.outside.rules = {}) {r : Outcome Rehearsal}
    (hr : (Build.migrate target location schema).run w = some r) :
    r.state.outside.rules = {} ∧ ∀ c ∈ Build.calls r.events, c.outcome = .ok () := by
  cases hfound : Script.discover w.files location with
  | error e =>
    rw [Build.run_migrate_of_error hfound] at hr
    obtain rfl := Option.some.inj hr
    exact ⟨hrules, List.forall_mem_nil _⟩
  | ok scripts =>
    obtain ⟨q, hq, -⟩ := exists_conduct target schema scripts w.outside
    rw [Build.run_migrate_of_ok hfound hq] at hr
    obtain rfl := Option.some.inj hr
    obtain ⟨steps, htakes, hevents, hleads⟩ := Program.takes_of_run hq
    obtain ⟨hend, hall⟩ := hleads.forall_of_forall (J := fun d ↦ d.rules = {}) hrules
      (always_succeeds steps _ htakes)
    refine ⟨hend, fun c hc ↦ ?_⟩
    rw [Build.calls_searched, ← hevents] at hc
    obtain ⟨x, hx, rfl⟩ := List.mem_map.1 hc
    exact hall x hx

theorem outcome_of_runAll {qs : List Request} (hrules : w.outside.rules = {})
    {rs : List (Outcome Rehearsal)} (hrs : runAll target qs w = some (rs, w')) :
    ∀ r ∈ rs, ∀ c ∈ Build.calls r.events, c.outcome = .ok () := by
  induction qs generalizing w rs with
  | nil =>
    obtain ⟨rfl, -⟩ := Prod.mk.inj (Option.some.inj hrs)
    exact List.forall_mem_nil _
  | cons q qs ih =>
    obtain ⟨r, rest, rfl, hr, hrest⟩ := of_runAll_cons hrs
    obtain ⟨hafter, hcalls⟩ := outcome_of_run (w := { w with files := q.files }) hrules hr
    exact List.forall_mem_cons.2 ⟨hcalls, ih hafter hrest⟩

end Rehearsal

namespace Migration

/-- A rehearsal on a history from another time. First there is one script, and then another that is
newer, although it is found before the first. -/
theorem increments_agree_rehearsal :
    let directory : Location × Node := ([RawText.ofText "db"], .directory none)
    let file (name sql : String) : Location × Node :=
      ([RawText.ofText "db", RawText.ofText name], .file (Utf8.encode sql) false)
    let users := file "V2__users.sql" "CREATE TABLE users;"
    let first : FileSystem := ⟨[directory, users], []⟩
    let files : FileSystem :=
      ⟨[directory, file "V10__orders.sql" "CREATE TABLE orders;", users], []⟩
    let old : HistoryEntry := ⟨7, .ofSegments [1, 5], "gone", "V1.5__gone.sql", "", 3, true⟩
    let w : World Rehearsal := World.start files
      { handleOf := fun _ ↦ ⟨"", "", "root", ""⟩, histories := [("app", [old])] }
    ∃ r applied rs w', (Build.migrate Rehearsal.target ⟨"db"⟩ "app").run w = some r ∧
      r.answer = .ok applied ∧
      runAll Rehearsal.target [⟨first, ⟨"db"⟩, "app"⟩, ⟨files, ⟨"db"⟩, "app"⟩] w = some (rs, w') ∧
      (∀ r' ∈ rs, ∃ applied, r'.answer = .ok applied) ∧
      rs.flatMap (fun r' ↦ attempts (Build.calls r'.events)) = attempts (Build.calls r.events) ∧
      (∀ other, (w'.outside.history other).map HistoryEntry.untimed =
        (r.state.outside.history other).map HistoryEntry.untimed) ∧
      ∀ x ∈ w'.outside.history "app", x.rank < UInt32.size := by
  intro directory file users first files old w
  let script (segments : List ℕ) (description name sql : String) : Script :=
    ⟨.ofSegments segments, description, ⟨"db/" ++ name⟩, name, Checksum.ofScript sql, sql⟩
  let older := script [2] "users" "V2__users.sql" "CREATE TABLE users;"
  let newer := script [10] "orders" "V10__orders.sql" "CREATE TABLE orders;"
  have hstages : ∀ stage ∈ [(first, [older])], Script.found stage.1 ⟨"db"⟩ = .ok stage.2 :=
    List.forall_mem_singleton.2 (by rfl)
  have hfound : Script.found files ⟨"db"⟩ = .ok [newer, older] := by rfl
  have hbefore : older.version.isBefore newer.version = true := by decide
  have hgains : Script.Gains [older] [newer, older] := by
    refine ⟨(List.sublist_cons_self newer [older]).subperm, fun s hs hnew t ht ↦ ?_⟩
    obtain rfl := List.mem_singleton.1 ht
    rcases List.mem_cons.1 hs with rfl | hs
    · exact hbefore
    · exact absurd hs hnew
  have hany : ((Build.migrate Rehearsal.target ⟨"db"⟩ "app").run w).any (·.answer.isOk) = true := by
    decide +kernel +zetaReduce
  obtain ⟨r, hr, hok⟩ := (Option.any_eq_true _ _).1 hany
  cases hanswer : r.answer with
  | error e =>
    rw [hanswer] at hok
    cases hok
  | ok applied =>
    obtain ⟨rs, w', hrs, hsame⟩ := increments_agree Rehearsal.target_keeps hfound hr hanswer hstages
      (.cons_cons hgains (.singleton _))
    obtain ⟨hoks, hattempts, huntimed, hranks⟩ := hsame (Rehearsal.outcome_of_runAll rfl hrs)
    exact ⟨r, applied, rs, w', hr, hanswer, hrs, hoks, hattempts, huntimed,
      hranks (by decide +kernel)⟩

end Migration

end SchemaForge
