import Mathlib.Data.List.Fold
import Mathlib.Data.List.MinMax
import Mathlib.Data.List.Perm.Basic
import Mathlib.Data.List.Sort
import SchemaForge.Mysql.Server
import SchemaForge.Proofs.Gathering
import SchemaForge.Proofs.Migration.Steps

/-!
# Ranks in a table that others write to

The rank of a row is the primary key of the history, and a migration numbers its rows on from the
highest rank that it is told of. Other tools add rows without a version; such a row is in the table
and has its rank, but a migration is not told of it (`Row.toEntry`). So a script may be executed
whose row the table then refuses.

`collides_free_iff` says exactly when: the ranks of a migration are those in a row from the highest
rank of a row *with* a version on, and one of them collides exactly when a row without a version has
it. What collides is refused and leaves the table as it was, so the script is left to run again
(`collides_unversioned`).

## How the parts fit

* `Connection.Tables` is what is asked of a server: the history of the schema is a table with the
  rank as its key. `Store` is a server of this kind.
* An insertion changes the table at its own rank only, and a migration only goes up. So at its turn
  a rank is taken exactly when it was taken at the start (`runPending_numbered`, by induction on the
  scripts), and no row with a version has one of these ranks (`rank_le_lastVersioned`).
-/

namespace SchemaForge.Mysql

open Migration (Event)
open Program (Takes Leads done takes_pure takes_bind takes_perform_bind takes_of_run)

variable {σ : Type} {c : Connection σ} {schema : String} {rows : σ → List Row}

/-! ### The table of a server -/

/-- A statement leaves the table as it is. -/
def Connection.Spares (c : Connection σ) (rows : σ → List Row) (sql : String) : Prop :=
  ∀ s, rows (c.send sql s).2 = rows s

/-- The history of the schema is a table of the server with the rank as its primary key: `rows`
reads it off the state. Any statement may fail. -/
structure Connection.Tables (c : Connection σ) (schema : String) (rows : σ → List Row) : Prop where
  createSchema : c.Spares rows (createSchema schema)
  /-- The history is created only where it is missing. -/
  createHistory : c.Spares rows (createHistory schema)
  useSchema : c.Spares rows (useSchema schema)
  select : ∀ s, rows (c.select (selectHistory schema) s).2 = rows s
  /-- All rows are read, in whatever order. -/
  selected : ∀ {s found}, (c.select (selectHistory schema) s).1 = .ok found → found.Perm (rows s)
  inserted : ∀ {row s}, (c.insert (insertHistory schema) row s).1 = .ok () →
    (rows (c.insert (insertHistory schema) row s).2).Perm (row :: rows s)
  refused : ∀ {row s fault}, (c.insert (insertHistory schema) row s).1 = .error fault →
    rows (c.insert (insertHistory schema) row s).2 = rows s
  /-- A second row of one rank is refused. -/
  key : ∀ {row s}, row.rank ∈ (rows s).map Row.rank →
    ∃ fault, (c.insert (insertHistory schema) row s).1 = .error fault

theorem rows_sendEach {statements : List String} (h : ∀ sql ∈ statements, c.Spares rows sql)
    (s : σ) : rows (sendEach c statements s).2 = rows s := by
  induction statements generalizing s with
  | nil => rfl
  | cons sql rest ih =>
    obtain ⟨hsql, hrest⟩ := List.forall_mem_cons.1 h
    rw [sendEach]
    split
    · rename_i t hsent
      rw [ih hrest, ← hsql s, hsent]
    · exact hsql s

namespace Connection.Tables

theorem rows_prepare (h : c.Tables schema rows) (s : σ) :
    rows ((target c).prepare schema s).2 = rows s :=
  rows_sendEach (List.forall_mem_cons.2
    ⟨h.createSchema, List.forall_mem_singleton.2 h.createHistory⟩) s

theorem rows_applied (h : c.Tables schema rows) (s : σ) :
    rows ((target c).applied schema s).2 = rows s :=
  h.select s

theorem rows_execute (h : c.Tables schema rows) {script : Script}
    (hspares : c.Spares rows script.sql) (s : σ) :
    rows ((target c).execute schema script s).2 = rows s :=
  rows_sendEach (List.forall_mem_cons.2 ⟨h.useSchema, List.forall_mem_singleton.2 hspares⟩) s

/-- An insertion changes what is taken at its own rank only. -/
theorem taken_record (h : c.Tables schema rows) (entry : HistoryEntry) (s : σ) {n : ℕ}
    (hn : n ≠ entry.rank) :
    n ∈ (rows ((target c).record schema entry s).2).map Row.rank ↔
      n ∈ (rows s).map Row.rank := by
  show n ∈ (rows (c.insert (insertHistory schema) (Row.ofEntry entry) s).2).map Row.rank ↔ _
  cases hinsert : (c.insert (insertHistory schema) (Row.ofEntry entry) s).1 with
  | error fault => rw [h.refused hinsert]
  | ok u =>
    rw [((h.inserted hinsert).map Row.rank).mem_iff, List.map_cons, List.mem_cons, or_iff_right]
    exact hn

end Connection.Tables

/-! ### What a migration is told -/

/-- The highest rank of a row with a version, zero if there is no such row. -/
def lastVersioned (table : List Row) : ℕ :=
  ((table.filter (·.version.isSome)).map Row.rank).foldr max 0

theorem rank_le_lastVersioned {table : List Row} {row : Row} (hrow : row ∈ table)
    (hversion : row.version ≠ none) : row.rank ≤ lastVersioned table :=
  List.le_max_of_le' 0 (List.mem_map_of_mem
    (List.mem_filter.2 ⟨hrow, Option.isSome_iff_ne_none.2 hversion⟩)) le_rfl

/-- **What rows are read as**: if each of them can be read, the entries of those with a version. -/
theorem Row.toEntries_eq_ok_iff {table : List Row} {history : List HistoryEntry} :
    Row.toEntries table = .ok history ↔ (∀ row ∈ table, ∃ entry, row.toEntry = .ok entry) ∧
      table.filterMap (contribution? Row.toEntry) = history :=
  gather_eq_ok_iff

/-- The entries of a table have the ranks of its rows with a version. -/
theorem ranks_of_toEntries {table : List Row} {history : List HistoryEntry}
    (h : Row.toEntries table = .ok history) :
    history.map HistoryEntry.rank = (table.filter (·.version.isSome)).map Row.rank := by
  obtain ⟨hread, rfl⟩ := Row.toEntries_eq_ok_iff.1 h
  clear h
  induction table with
  | nil => rfl
  | cons row table ih =>
    obtain ⟨⟨entry, hentry⟩, hread⟩ := List.forall_mem_cons.1 hread
    replace ih := ih hread
    rw [List.filterMap_cons, contribution?_of_ok hentry]
    rw [Row.toEntry] at hentry
    split at hentry
    · rename_i hnone
      cases hentry
      simpa [hnone] using ih
    · rename_i hsome
      split at hentry
      · cases hentry
      · cases hentry
        simpa [hsome] using ih

theorem nextRank_of_applied (hc : c.Tables schema rows) {s : σ} {history : List HistoryEntry}
    (h : ((target c).applied schema s).1 = .ok history) :
    History.nextRank history = lastVersioned (rows s) + 1 := by
  cases hselect : (c.select (selectHistory schema) s).1 with
  | error fault =>
    simp [target, withError, hselect, Except.mapError, Except.bind] at h
  | ok found =>
    have hentries : Row.toEntries found = .ok history := by
      simpa [target, withError, hselect, Except.mapError, bind, Except.bind] using h
    have hranks : (history.map HistoryEntry.rank).Perm
        (((rows s).filter (·.version.isSome)).map Row.rank) := by
      rw [ranks_of_toEntries hentries]
      exact ((hc.selected hselect).filter _).map _
    rw [History.nextRank, lastVersioned, ← List.foldl_eq_foldr, ← hranks.foldl_eq, List.foldl_map]

/-! ### Insertions -/

/-- The rank of the row that an event tells of. -/
def insertedRank? (e : Event) : Option ℕ := e.entry?.map HistoryEntry.rank

/-- The ranks at which steps insert rows, or try to, one after the other. -/
def inserts (steps : List (Footstep Event σ)) : List ℕ :=
  steps.filterMap fun x ↦ insertedRank? x.event

theorem inserts_cons (x : Footstep Event σ) (steps : List (Footstep Event σ)) :
    inserts (x :: steps) = (insertedRank? x.event).toList ++ inserts steps := by
  rw [inserts, List.filterMap_cons]
  cases insertedRank? x.event <;> rfl

theorem mem_inserts {steps : List (Footstep Event σ)} {n : ℕ} :
    n ∈ inserts steps ↔ ∃ x ∈ steps, insertedRank? x.event = some n :=
  List.mem_filterMap

/-- A step inserts a row, or tries to, at a rank that the table already has. -/
def Collides (rows : σ → List Row) (x : Footstep Event σ) : Prop :=
  ∃ n, insertedRank? x.event = some n ∧ n ∈ (rows x.before).map Row.rank

/-- Steps that insert at the ranks in a row from a rank on, each of which is in the table at its
turn exactly when `taken` says so. -/
structure Numbered (rows : σ → List Row) (taken : ℕ → Prop) (rank : ℕ)
    (steps : List (Footstep Event σ)) : Prop where
  inserts_eq : ∃ k, inserts steps = List.range' rank k
  taken_iff : ∀ x ∈ steps, ∀ n, insertedRank? x.event = some n →
    (n ∈ (rows x.before).map Row.rank ↔ taken n)

variable {steps : List (Footstep Event σ)} {x : Footstep Event σ} {taken : ℕ → Prop} {rank : ℕ}

theorem numbered_nil : Numbered rows taken rank [] :=
  ⟨⟨0, rfl⟩, List.forall_mem_nil _⟩

theorem Numbered.cons_of_eq_none (h : Numbered rows taken rank steps)
    (hx : insertedRank? x.event = none) : Numbered rows taken rank (x :: steps) := by
  refine ⟨?_, List.forall_mem_cons.2 ⟨fun n hn ↦ ?_, h.taken_iff⟩⟩
  · obtain ⟨k, hk⟩ := h.inserts_eq
    exact ⟨k, by rw [inserts_cons, hx]; exact hk⟩
  · rw [hx] at hn
    cases hn

theorem Numbered.cons (h : Numbered rows taken (rank + 1) steps)
    (hx : insertedRank? x.event = some rank)
    (htaken : rank ∈ (rows x.before).map Row.rank ↔ taken rank) :
    Numbered rows taken rank (x :: steps) := by
  refine ⟨?_, List.forall_mem_cons.2 ⟨fun n hn ↦ ?_, h.taken_iff⟩⟩
  · obtain ⟨k, hk⟩ := h.inserts_eq
    refine ⟨k + 1, ?_⟩
    rw [inserts_cons, hx, hk, List.range'_succ]
    rfl
  · obtain rfl := Option.some.inj (hx.symm.trans hn)
    exact htaken

variable {s t : σ} {scripts : List Script}
  {q : Program Event σ (Except Error (List Migration.Applied))}

/-- Scripts are numbered from a rank on, and each rank is taken at its turn exactly when it was at
the start. The induction is on the scripts: what has been inserted by then has a lower rank. -/
theorem runPending_numbered (hc : c.Tables schema rows)
    (hspares : ∀ script ∈ scripts, c.Spares rows script.sql)
    (htakes : (Migration.runPending (target c) schema rank scripts).Takes steps q)
    (hleads : Leads s steps t)
    (htaken : ∀ n, rank ≤ n → (n ∈ (rows s).map Row.rank ↔ taken n)) :
    Numbered rows taken rank steps := by
  induction scripts generalizing rank s steps q with
  | nil =>
    obtain ⟨rfl, -⟩ := takes_pure.1 htakes
    exact numbered_nil
  | cons script scripts ih =>
    obtain ⟨hscript, hscripts⟩ := List.forall_mem_cons.1 hspares
    rw [Migration.runPending, takes_perform_bind] at htakes
    rcases htakes with ⟨rfl, -⟩ | ⟨s₀, execution, s₁, steps, hexecute, rfl, htakes⟩
    · exact numbered_nil
    obtain ⟨rfl, hleads⟩ := hleads
    have hs₁ : rows s₁ = rows s₀ := by rw [← hc.rows_execute hscript s₀, hexecute]
    refine Numbered.cons_of_eq_none ?_ rfl
    rw [takes_perform_bind] at htakes
    rcases htakes with ⟨rfl, -⟩ | ⟨s₁', recorded, s₂, steps, hrecord, rfl, htakes⟩
    · exact numbered_nil
    obtain ⟨rfl, hleads⟩ := hleads
    refine Numbered.cons ?_ rfl (hs₁ ▸ htaken rank le_rfl)
    have hs₂ : ∀ n, rank + 1 ≤ n → (n ∈ (rows s₂).map Row.rank ↔ taken n) := by
      intro n hn
      have hrank := hc.taken_record (Migration.entryOf rank script execution) s₁'
        (show n ≠ rank by omega)
      rw [hrecord] at hrank
      rw [hrank, hs₁, htaken n (by omega)]
    cases houtcome : execution.outcome with
    | error e =>
      simp only [houtcome] at htakes
      obtain ⟨rfl, -⟩ := takes_pure.1 htakes
      exact numbered_nil
    | ok u =>
      cases recorded with
      | error e =>
        simp only [houtcome] at htakes
        obtain ⟨rfl, -⟩ := takes_pure.1 htakes
        exact numbered_nil
      | ok u =>
        simp only [houtcome] at htakes
        rcases takes_bind.1 htakes with ⟨p, htakes, -, -⟩ | ⟨a, front, back, rfl, hfront, hback⟩
        · exact ih hscripts htakes hleads hs₂
        · obtain rfl : back = [] := by
            cases a <;> exact (takes_pure.1 hback).1
          rw [List.append_nil] at hleads ⊢
          exact ih hscripts hfront hleads hs₂

/-- A migration is numbered from the rank after the highest of a row with a version on. -/
theorem migrate_numbered (hc : c.Tables schema rows)
    (hspares : ∀ script ∈ scripts, c.Spares rows script.sql)
    (htakes : (Migration.migrate (target c) schema scripts).Takes steps q)
    (hleads : Leads s steps t) :
    Numbered rows (· ∈ (rows s).map Row.rank) (lastVersioned (rows s) + 1) steps := by
  rw [Migration.migrate, takes_perform_bind] at htakes
  rcases htakes with ⟨rfl, -⟩ | ⟨s₀, prepared, s₁, steps, hprepare, rfl, htakes⟩
  · exact numbered_nil
  obtain ⟨rfl, hleads⟩ := hleads
  have hs₁ : rows s₁ = rows s₀ := by rw [← hc.rows_prepare s₀, hprepare]
  refine Numbered.cons_of_eq_none ?_ rfl
  cases prepared with
  | error e =>
    obtain ⟨rfl, -⟩ := takes_pure.1 htakes
    exact numbered_nil
  | ok u =>
    replace htakes := takes_perform_bind.1 htakes
    rcases htakes with ⟨rfl, -⟩ | ⟨s₁', applied, s₂, steps, happlied, rfl, htakes⟩
    · exact numbered_nil
    obtain ⟨rfl, hleads⟩ := hleads
    have hs₂ : rows s₂ = rows s₀ := by rw [← hs₁, ← hc.rows_applied s₁', happlied]
    refine Numbered.cons_of_eq_none ?_ rfl
    cases applied with
    | error e =>
      obtain ⟨rfl, -⟩ := takes_pure.1 htakes
      exact numbered_nil
    | ok history =>
      have hrank := nextRank_of_applied hc (congrArg Prod.fst happlied)
      rw [hs₁] at hrank
      dsimp only at htakes
      cases hpending : History.pending scripts history with
      | error e =>
        rw [hpending] at htakes
        obtain ⟨rfl, -⟩ := takes_pure.1 htakes
        exact numbered_nil
      | ok pending =>
        rw [hpending, hrank] at htakes
        refine runPending_numbered hc (fun script hscript ↦ hspares script ?_) htakes hleads
          fun n _ ↦ by rw [hs₂]
        obtain ⟨-, -, -, rfl⟩ := History.pending_eq_ok_iff.1 hpending
        exact (List.mem_filter.1 hscript).1

/-! ### Collisions -/

/-- A step that collides is refused, and the table stays as it was. -/
def Refused (schema : String) (rows : σ → List Row) (x : Footstep Event σ) : Prop :=
  (∃ entry e, x.event = .recorded schema entry (.error e)) ∧ rows x.after = rows x.before

theorem not_collides_of_eq_none (hx : insertedRank? x.event = none) : ¬Collides rows x := by
  rintro ⟨n, hn, -⟩
  rw [hx] at hn
  cases hn

theorem always_refused (hc : c.Tables schema rows) (scripts : List Script) :
    (Migration.migrate (target c) schema scripts).Always fun x ↦
      Collides rows x → Refused schema rows x := by
  refine Migration.always_migrate (fun s hs ↦ absurd hs (not_collides_of_eq_none rfl))
    (fun s hs ↦ absurd hs (not_collides_of_eq_none rfl))
    (fun script _ s hs ↦ absurd hs (not_collides_of_eq_none rfl)) fun script _ rank e s hs ↦ ?_
  obtain ⟨n, hn, htaken⟩ := hs
  obtain rfl := Option.some.inj hn
  obtain ⟨fault, hfault⟩ : ∃ fault, (c.insert (insertHistory schema)
      (Row.ofEntry (Migration.entryOf rank script e)) s).1 = .error fault := hc.key htaken
  refine ⟨⟨_, fault.error, congrArg (Event.recorded _ _) ?_⟩, hc.refused hfault⟩
  exact congrArg (Except.mapError ServerFault.error) hfault

/-- **Ranks are free exactly where no row without a version stands in the way.** In every run of a
migration, as far as it has come, the rows get the ranks in a row from the highest rank of a row
with a version on. At its turn each of these ranks is free exactly when none of them belongs to a
row without a version; a row whose rank is not free is refused. -/
theorem collides_free_iff (hc : c.Tables schema rows)
    (hspares : ∀ script ∈ scripts, c.Spares rows script.sql)
    (htakes : (Migration.migrate (target c) schema scripts).Takes steps q)
    (hleads : Leads s steps t) :
    ∃ k, inserts steps = List.range' (lastVersioned (rows s) + 1) k ∧
      ((∀ x ∈ steps, ¬Collides rows x) ↔ ∀ row ∈ rows s, row.version = none →
        row.rank ≤ lastVersioned (rows s) ∨ lastVersioned (rows s) + k < row.rank) ∧
      ∀ x ∈ steps, Collides rows x → Refused schema rows x := by
  have hnumbered := migrate_numbered hc hspares htakes hleads
  obtain ⟨k, hk⟩ := hnumbered.inserts_eq
  have hrange {n : ℕ} : (∃ x ∈ steps, insertedRank? x.event = some n) ↔
      lastVersioned (rows s) < n ∧ n ≤ lastVersioned (rows s) + k := by
    rw [← mem_inserts, hk, List.mem_range'_1]
    omega
  refine ⟨k, hk, ⟨fun hfree row hrow _ ↦ ?_, fun hfree x hx hcollides ↦ ?_⟩,
    always_refused hc scripts steps q htakes⟩
  · by_contra hbetween
    obtain ⟨x, hx, hrank⟩ := hrange.2 (show _ < row.rank ∧ row.rank ≤ _ by omega)
    exact hfree x hx
      ⟨row.rank, hrank, (hnumbered.taken_iff x hx _ hrank).2 (List.mem_map_of_mem hrow)⟩
  · obtain ⟨n, hrank, htaken⟩ := hcollides
    obtain ⟨row, hrow, rfl⟩ := List.mem_map.1 ((hnumbered.taken_iff x hx n hrank).1 htaken)
    have hbetween := hrange.1 ⟨x, hx, hrank⟩
    -- a row with a version has a lower rank
    have hversion : row.version = none := by
      by_contra hversion
      exact absurd (rank_le_lastVersioned hrow hversion) (by omega)
    have := hfree row hrow hversion
    omega

/-- A server in memory that keeps the history of one schema and the statements that were sent to
it. -/
structure Store where
  rows : List Row
  sent : List String

/-- The connection to a store: the rank is the primary key, and no other statement fails. -/
def Store.connection : Connection Store where
  send sql s := (.ok (), { s with sent := s.sent ++ [sql] })
  select _ s := (.ok s.rows, s)
  insert _ row s :=
    if row.rank ∈ s.rows.map Row.rank then
      (.error (.refused 1062 "23000" ("Duplicate entry '" ++ toString row.rank ++
        "' for key 'PRIMARY'")), s)
    else (.ok (), { s with rows := s.rows.orderedInsert (·.rank ≤ ·.rank) row })
  clock _ := 0
  disconnect s := (.ok (), s)

theorem Store.spares (sql : String) : Store.connection.Spares Store.rows sql :=
  fun _ ↦ rfl

theorem Store.tables (schema : String) : Store.connection.Tables schema Store.rows where
  createSchema := Store.spares _
  createHistory := Store.spares _
  useSchema := Store.spares _
  select _ := rfl
  selected h := Except.ok.inj h ▸ List.Perm.refl _
  inserted {row s} h := by
    simp only [connection] at h ⊢
    split at h
    · cases h
    · rename_i hfree
      rw [if_neg hfree]
      exact List.perm_orderedInsert ..
  refused {row s fault} h := by
    simp only [connection] at h ⊢
    split at h
    · rename_i htaken
      rw [if_pos htaken]
    · cases h
  key {row s} h := ⟨_, congrArg Prod.fst (if_pos h)⟩

/-- The script of a version. -/
def Store.script (version : ℕ) (fileName sql : String) : Script where
  version := Version.ofSegments [version]
  description := "rehearsal"
  path := ⟨"db/" ++ fileName⟩
  fileName
  checksum := sql
  sql

/-- A row without a version between two with one, and one script left to run. -/
theorem collides_free_iff_store :
    let script := Store.script
    let scripts := [script 1 "V1__users.sql" "a", script 2 "V2__orders.sql" "b",
      script 3 "V3__items.sql" "c"]
    let store : Store := ⟨[⟨1, some "1", "users", "V1__users.sql", some "a", 5, 1⟩,
      ⟨2, none, "views", "R__views.sql", none, 5, 1⟩,
      ⟨3, some "2", "orders", "V2__orders.sql", some "b", 5, 1⟩], []⟩
    Store.connection.Tables "app" Store.rows ∧
      (∀ s ∈ scripts, Store.connection.Spares Store.rows s.sql) ∧
      ∃ (steps : List (Footstep Event Store)) (a : Except Error (List Migration.Applied)) (t : Store),
        (Migration.migrate (target Store.connection) "app" scripts).Takes steps (done a) ∧
        Leads store steps t ∧ inserts steps = [4] ∧
        ∃ k, inserts steps = List.range' (lastVersioned store.rows + 1) k ∧
          ((∀ x ∈ steps, ¬Collides Store.rows x) ↔ ∀ row ∈ store.rows, row.version = none →
            row.rank ≤ lastVersioned store.rows ∨ lastVersioned store.rows + k < row.rank) ∧
          ∀ x ∈ steps, Collides Store.rows x → Refused "app" Store.rows x := by
  intro script scripts store
  refine ⟨Store.tables _, fun s _ ↦ Store.spares _, ?_⟩
  have hrun : ((Migration.migrate (target Store.connection) "app" scripts).run store).any (fun r ↦
      r.events.filterMap insertedRank? == [4]) = true := by
    decide +kernel
  obtain ⟨r, hr, hranks⟩ := (Option.any_eq_true _ _).1 hrun
  obtain ⟨steps, htakes, hevents, hleads⟩ := takes_of_run hr
  refine ⟨steps, r.answer, r.state, htakes, hleads, ?_,
    collides_free_iff (Store.tables _) (fun s _ ↦ Store.spares _) htakes hleads⟩
  rw [inserts, ← beq_iff_eq.1 hranks, ← hevents, List.filterMap_map]
  rfl

/-- **A row without a version is run into**: the script is executed, its row is refused, and the
history stays as it was, so that the script is left to run again. -/
theorem collides_unversioned :
    let scripts := [Store.script 1 "V1__users.sql" "CREATE TABLE users;"]
    let store : Store := ⟨[⟨1, none, "views", "R__views.sql", none, 5, 1⟩], []⟩
    ∃ (steps : List (Footstep Event Store)) (e : Error) (t : Store),
      (Migration.migrate (target Store.connection) "app" scripts).Takes steps (done (.error e)) ∧
      Leads store steps t ∧ (∃ x ∈ steps, Collides Store.rows x) ∧ t.rows = store.rows ∧
      "CREATE TABLE users;" ∈ t.sent := by
  intro scripts store
  have hrun : ((Migration.migrate (target Store.connection) "app" scripts).run store).any (fun r ↦
      r.answer.toOption.isNone && r.events.filterMap insertedRank? == [1] &&
        r.state.rows == store.rows && r.state.sent.contains "CREATE TABLE users;") = true := by
    decide +kernel
  obtain ⟨r, hr, hfound⟩ := (Option.any_eq_true _ _).1 hrun
  simp only [Bool.and_eq_true, beq_iff_eq, List.contains_iff_mem] at hfound
  obtain ⟨⟨⟨hanswer, hranks⟩, hrows⟩, hsent⟩ := hfound
  obtain ⟨steps, htakes, hevents, hleads⟩ := takes_of_run hr
  have hinserts : inserts steps = [1] := by
    rw [inserts, ← hranks, ← hevents, List.filterMap_map]
    rfl
  have hnumbered := migrate_numbered (Store.tables _) (fun s _ ↦ Store.spares _) htakes hleads
  obtain ⟨x, hx, hrank⟩ := mem_inserts.1 (hinserts ▸ List.mem_singleton_self 1)
  cases ha : r.answer with
  | ok a =>
    rw [ha] at hanswer
    cases hanswer
  | error e =>
    refine ⟨steps, e, r.state, ha ▸ htakes, hleads, ⟨x, hx, 1, hrank, ?_⟩, hrows, hsent⟩
    exact (hnumbered.taken_iff x hx 1 hrank).2 (by decide)

end SchemaForge.Mysql
