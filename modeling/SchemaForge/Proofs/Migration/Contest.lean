import SchemaForge.Proofs.Build.Trace
import SchemaForge.Proofs.Migration.Target

/-!
# Tasks that contend for a schema

Any number of tasks run side by side; some of them migrate one schema, which is the one that is
watched, and the others different ones. This module has what holds between any two of their steps
(`Contest.Inv`), the terms under which each of them works, and the rules for its steps.

## The part of the holder

Whoever holds the lock of the schema owns a part of what is shared: the history of the schema, and
that nobody else is connected to it or runs a script on it. Nobody else changes this part
(`Contest.Spares`), so what the holder knows of it stays true between the holder's steps
(`Contest.stable_held`). While nobody holds the lock, attempts and history are `Settled`, and
this is what the next holder finds.
-/

namespace SchemaForge

namespace Migration

open Build Program

/-- Tasks on a shared state, some of which migrate the watched schema. -/
structure Contest (ι δ : Type) where
  /-- Reads the histories off the databases. -/
  history : δ → String → List HistoryEntry
  /-- No operation but a script fails. -/
  ready : δ → Prop
  /-- What each task migrates. -/
  schemaOf : ι → String
  /-- The schema that is watched. -/
  schema : String
  files : FileSystem
  /-- The history at the start. -/
  before : List HistoryEntry
  /-- The scripts that are left at the start. -/
  pending : List Script

namespace Contest

variable {ι δ : Type} [DecidableEq ι] (S : Contest ι δ)

/-! ### Between two steps -/

/-- The history of the watched schema. -/
def rows (c : Course ι Build.Event (World δ)) : List HistoryEntry :=
  S.history c.state.outside S.schema

/-- What holds between any two steps. -/
structure Inv (c : Course ι Build.Event (World δ)) : Prop where
  files : c.state.files = S.files
  ready : S.ready c.state.outside
  /-- The lock is taken once for its holder. -/
  locks : c.state.locks.count (Defaults.databaseService, S.schema) =
    (holder S.schema c.events).toList.length
  holds : ∀ i, holder S.schema c.events = some i → S.schemaOf i = S.schema
  /-- Only the holder is connected. -/
  connected : ∀ i, S.schemaOf i = S.schema → isConnected i c.events = true →
    holder S.schema c.events = some i
  executors : ∀ x ∈ executions S.schema c.events, S.schemaOf x.1 = S.schema
  progress : Progress S.pending ((executions S.schema c.events).map Prod.snd)
  /-- Nothing is half done while nobody holds the lock. -/
  settled : holder S.schema c.events = none →
    Settled S.before S.pending ((executions S.schema c.events).map Prod.snd) (S.rows c)

theorem inv_start {w : World δ} (hfiles : w.files = S.files) (hready : S.ready w.outside)
    (hlocks : (Defaults.databaseService, S.schema) ∉ w.locks)
    (hbefore : S.history w.outside S.schema = S.before) :
    S.Inv (⟨[], w⟩ : Course ι Build.Event (World δ)) where
  files := hfiles
  ready := hready
  locks := List.count_eq_zero.2 hlocks
  holds _ h := nomatch h
  connected _ _ h := nomatch h
  executors _ h := nomatch h
  progress := Progress.ran (List.nil_append S.pending).symm
  settled _ := by
    rw [rows, hbefore]
    exact Settled.untouched

/-- A step that leaves the part of the holder as it is. -/
structure Spares (c d : Course ι Build.Event (World δ)) : Prop where
  executions : executions S.schema d.events = executions S.schema c.events
  holder : holder S.schema d.events = holder S.schema c.events
  rows : S.rows d = S.rows c

/-- The terms of the tasks: the steps of others leave the part of the holder alone, and a task
waits only for somebody else who holds the lock of the watched schema, or on another schema. -/
def terms (i : ι) : Terms ι Build.Event (World δ) where
  rely c d := (S.Inv c → S.Inv d) ∧ (∃ j e, j ≠ i ∧ d.events = c.events ++ [(j, e)]) ∧
    (holder S.schema c.events = some i → S.Spares c d)
  guarantee c d := (S.Inv c → S.Inv d) ∧ (∃ e, d.events = c.events ++ [(i, e)]) ∧
    ∀ j, j ≠ i → holder S.schema c.events = some j → S.Spares c d
  wait c := S.schemaOf i = S.schema → ∃ j, j ≠ i ∧ holder S.schema c.events = some j

theorem guarantee_rely {i j : ι} (hij : i ≠ j) {c d : Course ι Build.Event (World δ)}
    (h : (S.terms i).guarantee c d) : (S.terms j).rely c d := by
  obtain ⟨hinv, ⟨e, hevents⟩, hspares⟩ := h
  exact ⟨hinv, ⟨i, e, hij, hevents⟩, hspares j (Ne.symm hij)⟩

/-! ### Assertions -/

/-- The task holds the lock, with an assertion on its part: the executions so far, the history, and
whether the task is connected. -/
def Held (i : ι) (φ : List (ι × Attempt) → List HistoryEntry → Bool → Prop)
    (c : Course ι Build.Event (World δ)) : Prop :=
  S.Inv c ∧ holder S.schema c.events = some i ∧
    φ (executions S.schema c.events) (S.rows c) (isConnected i c.events)

/-- What a holder knows of its part stays true. -/
theorem stable_held (i : ι) (φ : List (ι × Attempt) → List HistoryEntry → Bool → Prop) :
    (S.terms i).Stable (S.Held i φ) := by
  rintro c d ⟨hinv, ⟨j, e, hji, hevents⟩, hspares⟩ ⟨hc, hholder, hφ⟩
  obtain ⟨hexecutions, hholder', hrows⟩ := hspares hholder
  refine ⟨hinv hc, hholder'.trans hholder, ?_⟩
  rw [hexecutions, hrows, hevents, isConnected_append_of_ne hji]
  exact hφ

/-- The task has not started: it has executed nothing, and is not connected. -/
def Idle (i : ι) (c : Course ι Build.Event (World δ)) : Prop :=
  S.Inv c ∧ holder S.schema c.events ≠ some i ∧ isConnected i c.events = false ∧
    ∀ x ∈ executions S.schema c.events, x.1 ≠ i

theorem stable_idle (i : ι) : (S.terms i).Stable (S.Idle i) := by
  rintro c d ⟨hinv, ⟨j, e, hji, hevents⟩, -⟩ ⟨hc, hholder, hconnected, hnone⟩
  refine ⟨hinv hc, fun h ↦ ?_, ?_, ?_⟩
  · rw [hevents] at h
    exact hholder (holder_of_append hji h)
  · rwa [hevents, isConnected_append_of_ne hji]
  · rw [hevents, executions_append]
    refine List.forall_mem_append.2 ⟨hnone, fun x hx ↦ ?_⟩
    rw [fst_eq_of_mem_attempt hx]
    exact hji

/-- What a task finds that gets the lock: nothing half done, and nothing done by itself. -/
def Found (i : ι) (xs : List (ι × Attempt)) (rows : List HistoryEntry) : Prop :=
  Settled S.before S.pending (xs.map Prod.snd) rows ∧ ∀ x ∈ xs, x.1 ≠ i

/-- The task is done: it has no lock, and of all executions something is known that is the last
word on them. -/
def Done (i : ι) (φ : List (ι × Attempt) → Prop) (c : Course ι Build.Event (World δ)) : Prop :=
  S.Inv c ∧ holder S.schema c.events ≠ some i ∧ φ (executions S.schema c.events)

theorem stable_done (i : ι) {φ : List (ι × Attempt) → Prop}
    (hended : ∀ xs, φ xs → Ended S.pending (xs.map Prod.snd)) :
    (S.terms i).Stable (S.Done i φ) := by
  rintro c d ⟨hinv, ⟨j, e, hji, hevents⟩, -⟩ ⟨hc, hholder, hφ⟩
  have hd := hinv hc
  refine ⟨hd, fun h ↦ ?_, ?_⟩
  · rw [hevents] at h
    exact hholder (holder_of_append hji h)
  · -- after the end nobody executes anything
    have happend : executions S.schema d.events = executions S.schema c.events ++
        ((e.attempt? S.schema).map (j, ·)).toList := by rw [hevents, executions_append]
    have hmap : (executions S.schema d.events).map Prod.snd =
        (executions S.schema c.events).map Prod.snd :=
      hd.progress.eq_of_ended (by rw [happend, List.map_append]; exact List.prefix_append _ _)
        (hended _ hφ)
    have hlength := congrArg List.length hmap
    rw [happend, List.length_map, List.length_map, List.length_append] at hlength
    rw [happend, List.eq_nil_of_length_eq_zero
      (by omega : (((e.attempt? S.schema).map (j, ·)).toList).length = 0), List.append_nil]
    exact hφ

variable {S}

/-! ### What the invariant says of a course -/

/-- The scripts are executed in their order, from the first on. -/
theorem Inv.isPrefix {c : Course ι Build.Event (World δ)} (hc : S.Inv c) :
    (executions S.schema c.events).map (·.2.1) <+: S.pending := by
  have h := hc.progress.isPrefix
  rwa [List.map_map] at h

/-- Two tasks on the watched schema that are connected are one. -/
theorem Inv.eq_of_isConnected {i j : ι} {c : Course ι Build.Event (World δ)} (hc : S.Inv c)
    (hi : S.schemaOf i = S.schema) (hj : S.schemaOf j = S.schema)
    (hiopen : isConnected i c.events = true) (hjopen : isConnected j c.events = true) : i = j :=
  Option.some.inj ((hc.connected i hi hiopen).symm.trans (hc.connected j hj hjopen))

/-- A failure is the last execution. -/
theorem Inv.exists_earlier {i : ι} {s : Script} {e : Error}
    {c : Course ι Build.Event (World δ)} (hc : S.Inv c)
    (hx : (i, s, .error e) ∈ executions S.schema c.events) :
    ∃ earlier, executions S.schema c.events = earlier ++ [(i, s, .error e)] := by
  obtain ⟨earlier, later, hsplit⟩ := List.append_of_mem hx
  have hmap : (executions S.schema c.events).map Prod.snd =
      earlier.map Prod.snd ++ (s, .error e) :: later.map Prod.snd := by
    rw [hsplit, List.map_append, List.map_cons]
  obtain ⟨hlater, -⟩ := hc.progress.eq_append_of_error hmap
  rw [List.map_eq_nil_iff.1 hlater] at hsplit
  exact ⟨earlier, hsplit⟩

/-- The tasks on the watched schema do not block one another: whoever waits does so for the holder
of the lock, who is not done and waits for nobody. -/
theorem Inv.exists_advance {α : Type} {ps : ι → Operation δ α}
    {c : Course ι Build.Event (World δ)} (hc : S.Inv c)
    (hdone : ∀ i a, S.schemaOf i = S.schema → (ps i).answer? = some a →
      holder S.schema c.events ≠ some i)
    (hrunning : ∀ i, (ps i).answer? = none →
      ((ps i).advance c.state).isSome = true ∨ (S.terms i).wait c)
    {i : ι} (hi : S.schemaOf i = S.schema) (ha : (ps i).answer? = none) :
    ∃ j, S.schemaOf j = S.schema ∧ ((ps j).advance c.state).isSome = true := by
  rcases hrunning i ha with hadvance | hwait
  · exact ⟨i, hi, hadvance⟩
  · obtain ⟨j, -, hj⟩ := hwait hi
    have hwatched : S.schemaOf j = S.schema := hc.holds j hj
    refine ⟨j, hwatched, ?_⟩
    cases haj : (ps j).answer? with
    | some a => exact absurd hj (hdone j a hwatched haj)
    | none =>
      rcases hrunning j haj with hadvance | hwait
      · exact hadvance
      · obtain ⟨k, hkj, hk⟩ := hwait hwatched
        exact absurd (Option.some.inj (hk.symm.trans hj)) hkj

/-! ### One step more -/

/-- What a step has to do for the invariant to hold after it. -/
theorem Inv.extend {i : ι} {c : Course ι Build.Event (World δ)} {e : Build.Event} {w : World δ}
    (hc : S.Inv c) (hfiles : w.files = c.state.files) (hready : S.ready w.outside)
    (hlocks : w.locks.count (Defaults.databaseService, S.schema) =
      (holder S.schema (c.events ++ [(i, e)])).toList.length)
    (hholds : ∀ j, holder S.schema (c.events ++ [(i, e)]) = some j → S.schemaOf j = S.schema)
    (hothers : ∀ j, j ≠ i → holder S.schema c.events = some j →
      holder S.schema (c.events ++ [(i, e)]) = some j)
    (hself : S.schemaOf i = S.schema → e.connectedAfter (isConnected i c.events) = true →
      holder S.schema (c.events ++ [(i, e)]) = some i)
    (hexecutor : ∀ a, e.attempt? S.schema = some a → S.schemaOf i = S.schema)
    (hprogress : Progress S.pending ((executions S.schema (c.events ++ [(i, e)])).map Prod.snd))
    (hsettled : holder S.schema (c.events ++ [(i, e)]) = none → Settled S.before S.pending
      ((executions S.schema (c.events ++ [(i, e)])).map Prod.snd)
      (S.history w.outside S.schema)) : S.Inv (c.extend i e w) where
  files := hfiles.trans hc.files
  ready := hready
  locks := hlocks
  holds := hholds
  connected j hj hopen := by
    rw [Course.extend_events] at hopen ⊢
    by_cases hji : j = i
    · subst hji
      rw [isConnected_append_self] at hopen
      exact hself hj hopen
    · rw [isConnected_append_of_ne (Ne.symm hji)] at hopen
      exact hothers j hji (hc.connected j hj hopen)
  executors := by
    rw [Course.extend_events, executions_append]
    refine List.forall_mem_append.2 ⟨hc.executors, fun x hx ↦ ?_⟩
    obtain ⟨a, ha, rfl⟩ := Option.map_eq_some_iff.1 (Option.mem_toList.1 hx)
    exact hexecutor a ha
  progress := hprogress
  settled := hsettled

/-! ### Steps of the holder -/

/-- A step of the holder that leaves the lock alone. -/
theorem Inv.extend_holder {i : ι} {c : Course ι Build.Event (World δ)} {e : Build.Event}
    {w : World δ} (hc : S.Inv c) (hholder : holder S.schema c.events = some i)
    (hquiet : ∀ h, e.holderAfter S.schema i h = h) (hfiles : w.files = c.state.files)
    (hlocks : w.locks = c.state.locks) (hready : S.ready w.outside)
    (hprogress : Progress S.pending ((executions S.schema (c.events ++ [(i, e)])).map Prod.snd)) :
    (S.terms i).guarantee c (c.extend i e w) ∧ S.Inv (c.extend i e w) ∧
      holder S.schema (c.extend i e w).events = some i := by
  have hholder' : holder S.schema (c.events ++ [(i, e)]) = some i := by
    rw [holder_append, hquiet, hholder]
  have hi := hc.holds i hholder
  -- nobody else holds the lock
  have hothers : ∀ j, j ≠ i → holder S.schema c.events ≠ some j := fun j hji hj ↦
    hji (Option.some.inj (hj.symm.trans hholder))
  have hd : S.Inv (c.extend i e w) := by
    refine hc.extend hfiles hready ?_ (fun j hj ↦ ?_) (fun j hji hj ↦ absurd hj (hothers j hji))
      (fun _ _ ↦ hholder') (fun _ _ ↦ hi) hprogress fun h ↦ (nomatch hholder'.symm.trans h)
    · rw [hlocks, hc.locks, hholder, hholder']
    · rw [← Option.some.inj (hholder'.symm.trans hj)]
      exact hi
  exact ⟨⟨fun _ ↦ hd, ⟨e, rfl⟩, fun j hji hj ↦ absurd hj (hothers j hji)⟩, hd, hholder'⟩

variable {α γ : Type} {i : ι} {Q : α → Course ι Build.Event (World δ) → Prop}

/-- What an assertion of a holder says of no course in particular may be used. -/
theorem abides_of_pure {φ : Prop} {ψ : List (ι × Attempt) → List HistoryEntry → Bool → Prop}
    {p : Operation δ α} (h : φ → Abides (S.terms i) i p (S.Held i ψ) Q) :
    Abides (S.terms i) i p (S.Held i fun xs rows connected ↦ φ ∧ ψ xs rows connected) Q := by
  refine (Abides.of_pure h).strengthen ?_
  rintro c ⟨hc, hholder, hφ, hψ⟩
  exact ⟨hφ, hc, hholder, hψ⟩

/-- A step of the holder that executes nothing. -/
theorem abides_work {φ : List (ι × Attempt) → List HistoryEntry → Bool → Prop}
    {ψ : γ → List (ι × Attempt) → List HistoryEntry → Bool → Prop} {act : World δ → γ × World δ}
    {event : γ → Build.Event} {next : γ → Operation δ α}
    (hquiet : ∀ b h, (event b).holderAfter S.schema i h = h)
    (hattempt : ∀ b, (event b).attempt? S.schema = none)
    (hact : ∀ w, w.files = S.files → S.ready w.outside →
      (act w).2.files = w.files ∧ (act w).2.locks = w.locks ∧ S.ready (act w).2.outside ∧
      ∀ xs connected, φ xs (S.history w.outside S.schema) connected →
        ψ (act w).1 xs (S.history (act w).2.outside S.schema)
          ((event (act w).1).connectedAfter connected))
    (hnext : ∀ b, Abides (S.terms i) i (next b) (S.Held i (ψ b)) Q) :
    Abides (S.terms i) i (perform act event >>= next) (S.Held i φ) Q := by
  refine abides_perform ?_ (fun b ↦ S.stable_held i (ψ b)) hnext
  rintro c ⟨hc, hholder, hφ⟩
  obtain ⟨hfiles, hlocks, hready, hψ⟩ := hact c.state hc.files hc.ready
  have hexecutions := executions_append_of_none (hattempt (act c.state).1) c.events i
  obtain ⟨hguarantee, hd, hholder'⟩ := hc.extend_holder hholder (hquiet _) hfiles hlocks hready
    (hexecutions ▸ hc.progress)
  refine ⟨hguarantee, hd, hholder', ?_⟩
  rw [Course.extend_events, hexecutions, isConnected_append_self]
  exact hψ _ _ hφ

/-- The holder executes a script. -/
theorem abides_execute {φ : List (ι × Attempt) → List HistoryEntry → Bool → Prop}
    {ψ : Execution → List (ι × Attempt) → List HistoryEntry → Bool → Prop} {target : Target δ}
    (hserves : target.Serves S.history S.ready S.schema) {s : Script}
    {next : Execution → Operation δ α}
    (hφ : ∀ xs rows connected e, φ xs rows connected →
      Progress S.pending ((xs ++ [(i, s, e.outcome)]).map Prod.snd) ∧
      ψ e (xs ++ [(i, s, e.outcome)]) rows connected)
    (hnext : ∀ e, Abides (S.terms i) i (next e) (S.Held i (ψ e)) Q) :
    Abides (S.terms i) i
      (perform (fun w : World δ ↦ ((target.execute S.schema s w.outside).1,
          { w with outside := (target.execute S.schema s w.outside).2 }))
        (fun e ↦ .migration (.executed S.schema s e.outcome)) >>= next) (S.Held i φ) Q := by
  refine abides_perform ?_ (fun e ↦ S.stable_held i (ψ e)) hnext
  rintro c ⟨hc, hholder, hc'⟩
  have hexecutions : ∀ outcome : Except Error Unit,
      executions S.schema (c.events ++ [(i, .migration (.executed S.schema s outcome))]) =
        executions S.schema c.events ++ [(i, s, outcome)] := by
    intro outcome
    simp [Event.attempt?]
  obtain ⟨hprogress, hψ⟩ := hφ _ _ _ (target.execute S.schema s c.state.outside).1 hc'
  obtain ⟨hguarantee, hd, hholder'⟩ := hc.extend_holder
    (w := { c.state with outside := (target.execute S.schema s c.state.outside).2 })
    (e := .migration (.executed S.schema s (target.execute S.schema s c.state.outside).1.outcome))
    hholder (fun _ ↦ rfl) rfl rfl (hserves.ready_execute hc.ready)
    (by rw [hexecutions]; exact hprogress)
  refine ⟨hguarantee, hd, hholder', ?_⟩
  rw [Course.extend_events, hexecutions, isConnected_append_self]
  show ψ _ _ (S.history _ S.schema) _
  rw [Course.extend_state, hserves.execute]
  exact hψ

/-! ### Taking and giving back the lock -/

/-- The lock is taken when nobody holds it, so its new holder finds nothing half done. -/
theorem abides_lock {next : Unit → Operation δ α} (hi : S.schemaOf i = S.schema)
    (hnext : Abides (S.terms i) i (next ())
      (S.Held i fun xs rows connected ↦ S.Found i xs rows ∧ connected = false) Q) :
    Abides (S.terms i) i (Build.lock Defaults.databaseService S.schema >>= next) (S.Idle i) Q := by
  refine abides_step
    (R := fun _ ↦ S.Held i fun xs rows connected ↦ S.Found i xs rows ∧ connected = false)
    ?_ ?_ (fun _ ↦ S.stable_held i _) fun _ ↦ hnext
  · rintro c ⟨hc, hholder, -, -⟩ hact -
    -- the lock is taken, so somebody holds it
    have htaken : (Defaults.databaseService, S.schema) ∈ c.state.locks := by
      split at hact
      · rename_i hcontains
        exact List.contains_iff_mem.1 hcontains
      · cases hact
    have hcount := List.count_pos_iff.2 htaken
    rw [hc.locks] at hcount
    cases hj : holder S.schema c.events with
    | none =>
      rw [hj] at hcount
      exact absurd hcount (by simp)
    | some j => exact ⟨j, fun hji ↦ hholder (hji ▸ hj), rfl⟩
  · rintro c ⟨hc, hidle, hconnected, hnone⟩ ⟨⟩ w hact
    split at hact
    · cases hact
    · rename_i hfree
      obtain ⟨-, rfl⟩ := Prod.mk.inj (Option.some.inj hact)
      have hcount : c.state.locks.count (Defaults.databaseService, S.schema) = 0 :=
        List.count_eq_zero.2 fun h ↦ hfree (List.contains_iff_mem.2 h)
      have hholder : holder S.schema c.events = none := by
        rw [hc.locks] at hcount
        exact Option.toList_eq_nil_iff.1 (List.eq_nil_of_length_eq_zero hcount)
      have hexecutions : executions S.schema
          (c.events ++ [(i, .locked Defaults.databaseService S.schema)]) =
          executions S.schema c.events := executions_append_of_none rfl _ _
      have hholder' : holder S.schema
          (c.events ++ [(i, .locked Defaults.databaseService S.schema)]) = some i := by
        simp [Event.holderAfter]
      have hd : S.Inv (c.extend i (.locked Defaults.databaseService S.schema) { c.state with
          locks := (Defaults.databaseService, S.schema) :: c.state.locks }) := by
        refine hc.extend rfl hc.ready ?_ (fun j hj ↦ ?_)
          (fun j _ hj ↦ (nomatch hholder.symm.trans hj)) (fun _ _ ↦ hholder')
          (fun _ _ ↦ hi) (hexecutions ▸ hc.progress) fun h ↦ (nomatch hholder'.symm.trans h)
        · rw [hholder', List.count_cons_self, hcount]
          rfl
        · rw [← Option.some.inj (hholder'.symm.trans hj)]
          exact hi
      refine ⟨⟨fun _ ↦ hd, ⟨_, rfl⟩, fun j _ hj ↦ nomatch hholder.symm.trans hj⟩, hd, hholder', ?_⟩
      rw [Course.extend_events, hexecutions, isConnected_append_self]
      exact ⟨⟨hc.settled hholder, hnone⟩, hconnected⟩

/-- The lock is given back when nothing is half done. -/
theorem abides_unlock {next : Unit → Operation δ α} {ψ : List (ι × Attempt) → Prop}
    (hended : ∀ xs, ψ xs → Ended S.pending (xs.map Prod.snd))
    (hnext : Abides (S.terms i) i (next ()) (S.Done i ψ) Q) :
    Abides (S.terms i) i (Build.unlock Defaults.databaseService S.schema >>= next)
      (S.Held i fun xs rows connected ↦
        (Settled S.before S.pending (xs.map Prod.snd) rows ∧ ψ xs) ∧ connected = false) Q := by
  refine abides_perform (R := fun _ ↦ S.Done i ψ) ?_ (fun _ ↦ S.stable_done i hended) fun _ ↦ hnext
  rintro c ⟨hc, hholder, ⟨hsettled, hψ⟩, hclosed⟩
  have hexecutions : executions S.schema
      (c.events ++ [(i, .unlocked Defaults.databaseService S.schema)]) =
      executions S.schema c.events := executions_append_of_none rfl _ _
  have hholder' : holder S.schema
      (c.events ++ [(i, .unlocked Defaults.databaseService S.schema)]) = none := by
    simp [Event.holderAfter]
  have hothers : ∀ j, j ≠ i → holder S.schema c.events ≠ some j := fun j hji hj ↦
    hji (Option.some.inj (hj.symm.trans hholder))
  have hd : S.Inv (c.extend i (.unlocked Defaults.databaseService S.schema) { c.state with
      locks := c.state.locks.erase (Defaults.databaseService, S.schema) }) := by
    refine hc.extend rfl hc.ready ?_ (fun j hj ↦ (nomatch hholder'.symm.trans hj))
      (fun j hji hj ↦ absurd hj (hothers j hji)) (fun _ hopen ↦ (nomatch hclosed.symm.trans hopen))
      (fun _ h ↦ (nomatch h)) (hexecutions ▸ hc.progress) fun _ ↦ hexecutions ▸ hsettled
    rw [hholder', List.count_erase_self, hc.locks, hholder]
    rfl
  refine ⟨⟨fun _ ↦ hd, ⟨_, rfl⟩, fun j hji hj ↦ absurd hj (hothers j hji)⟩, hd,
    fun h ↦ (nomatch hholder'.symm.trans h), ?_⟩
  rw [Course.extend_events, hexecutions]
  exact hψ

/-! ### Steps on other schemas -/

/-- A step of a task on another schema leaves all alone that the watched one is about. -/
theorem abides_other (hi : S.schemaOf i ≠ S.schema) {R : γ → Prop}
    {act : World δ → Option (γ × World δ)} {event : γ → Build.Event} {next : γ → Operation δ α}
    (hquiet : ∀ b h, (event b).holderAfter S.schema i h = h)
    (hattempt : ∀ b, (event b).attempt? S.schema = none)
    (hact : ∀ w b w', S.ready w.outside → act w = some (b, w') → R b ∧ w'.files = w.files ∧
      w'.locks.count (Defaults.databaseService, S.schema) =
        w.locks.count (Defaults.databaseService, S.schema) ∧
      S.ready w'.outside ∧ S.history w'.outside S.schema = S.history w.outside S.schema)
    (hnext : ∀ b, R b → Abides (S.terms i) i (next b) S.Inv Q) :
    Abides (S.terms i) i (await act event >>= next) S.Inv Q := by
  refine abides_step (R := fun b c ↦ R b ∧ S.Inv c) (fun _ _ _ hwatched ↦ absurd hwatched hi) ?_ ?_
    fun b ↦ Abides.of_pure (hnext b)
  · intro c hc b w hw
    obtain ⟨hR, hfiles, hlocks, hready, hrows⟩ := hact _ _ _ hc.ready hw
    have hexecutions := executions_append_of_none (hattempt b) c.events i
    have hholder : holder S.schema (c.events ++ [(i, event b)]) = holder S.schema c.events := by
      rw [holder_append, hquiet]
    have hd : S.Inv (c.extend i (event b) w) := by
      refine hc.extend hfiles hready ?_ (fun j hj ↦ hc.holds j (hholder ▸ hj))
        (fun j _ hj ↦ hholder.trans hj) (fun hwatched ↦ absurd hwatched hi)
        (fun a ha ↦ (nomatch (hattempt b).symm.trans ha)) (hexecutions ▸ hc.progress) fun h ↦ ?_
      · rw [hholder, ← hc.locks]
        exact hlocks
      · rw [hexecutions, hrows]
        exact hc.settled (hholder ▸ h)
    exact ⟨⟨fun _ ↦ hd, ⟨_, rfl⟩, fun _ _ _ ↦ ⟨hexecutions, hholder, hrows⟩⟩, hR, hd⟩
  · rintro b c d ⟨hinv, -, -⟩ ⟨hR, hc⟩
    exact ⟨hR, hinv hc⟩

end Contest

end Migration

end SchemaForge
