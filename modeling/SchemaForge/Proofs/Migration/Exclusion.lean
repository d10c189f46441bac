import SchemaForge.GenerationTask.Generation
import SchemaForge.Proofs.Migration.Contest

/-!
# Tasks that share a schema migrate it once

Any number of tasks migrate side by side, each over a connection of its own and while it holds the
lock of its schema (`GenerationTask.migrate`). Whatever the order of their steps, the tasks on one
schema execute its scripts at most once and in order, and never two of them are connected.

The first task that gets the lock runs all scripts or stops at one that fails. Either way it leaves
a history whose check has one answer, so `Contest.Account` has only four ways in which the answer of
a task can account for the executions: it ran all, others ran all, it failed, or it met the row of
somebody else's failure. No execution follows on any of these, and the answers are final.
-/

namespace SchemaForge

namespace Migration

open Build Program

/-- What an answer says of a script. -/
def appliedOf (s : Script) : Applied := ⟨s.path, s.version⟩

namespace Contest

variable {ι δ : Type}

/-- How the answer of a task accounts for all executions on its schema. -/
inductive Account (ps : List Script) (i : ι) :
    Except Error (List Applied) → List (ι × Attempt) → Prop
  | ran : Account ps i (.ok (ps.map appliedOf)) (ps.map fun s ↦ (i, succeeded s))
  | spared {xs : List (ι × Attempt)} (others : ∀ x ∈ xs, x.1 ≠ i)
      (all : xs.map Prod.snd = ps.map succeeded) : Account ps i (.ok []) xs
  | failed {done rest : List Script} {s : Script} {e : Error} (split : ps = done ++ s :: rest) :
      Account ps i (.error (onScript s.path e))
        (done.map (fun s ↦ (i, succeeded s)) ++ [(i, s, .error e)])
  | refused {done rest : List Script} {s : Script} {e : Error} {xs : List (ι × Attempt)}
      (others : ∀ x ∈ xs, x.1 ≠ i) (split : ps = done ++ s :: rest)
      (all : xs.map Prod.snd = done.map succeeded ++ [(s, .error e)]) :
      Account ps i (.error (History.failedError s)) xs

theorem map_snd_succeeded (i : ι) (ps : List Script) :
    (ps.map fun s ↦ (i, succeeded s)).map Prod.snd = ps.map succeeded := by
  rw [List.map_map]
  rfl

theorem Account.ended {ps : List Script} {i : ι} {a : Except Error (List Applied)}
    {xs : List (ι × Attempt)} (h : Account ps i a xs) : Ended ps (xs.map Prod.snd) := by
  cases h with
  | ran => exact Or.inl (map_snd_succeeded i ps)
  | spared _ all => exact Or.inl all
  | @failed done rest s e split =>
    refine Or.inr ⟨(s, .error e), ?_, e, rfl⟩
    simp
  | @refused done rest s e xs _ split all =>
    refine Or.inr ⟨(s, .error e), ?_, e, rfl⟩
    rw [all]
    simp

/-- A failure is not among scripts that were run with success. -/
theorem not_mem_succeeded {i : ι} {ps : List Script} {x : ι × Attempt} {e : Error}
    (hx : x.2.2 = .error e) : x ∉ ps.map fun s ↦ (i, succeeded s) := by
  intro h
  obtain ⟨t, -, rfl⟩ := List.mem_map.1 h
  cases hx

theorem eq_of_mem_error {done : List Script} {s t : Script} {e f : Error}
    (h : (s, Except.error e) ∈ done.map succeeded ++ [(t, Except.error f)]) : s = t ∧ e = f := by
  rcases List.mem_append.1 h with h | h
  · obtain ⟨u, -, hu⟩ := List.mem_map.1 h
    cases hu
  · cases List.mem_singleton.1 h
    exact ⟨rfl, rfl⟩

/-- Without a failure, all has been run, and the answer lists all or nothing. -/
theorem Account.of_success {ps : List Script} {i : ι} {a : Except Error (List Applied)}
    {xs : List (ι × Attempt)} (h : Account ps i a xs) (hxs : ∀ x ∈ xs, x.2.2 = .ok ()) :
    xs.map Prod.snd = ps.map succeeded ∧ (a = .ok [] ∨ a = .ok (ps.map appliedOf)) := by
  cases h with
  | ran => exact ⟨map_snd_succeeded i ps, Or.inr rfl⟩
  | spared _ all => exact ⟨all, Or.inl rfl⟩
  | @failed done rest s e split =>
    cases hxs (i, s, .error e) (by simp)
  | @refused done rest s e xs _ split all =>
    have hmem : (s, Except.error e) ∈ xs.map Prod.snd := by
      rw [all]
      simp
    obtain ⟨x, hx, hsnd⟩ := List.mem_map.1 hmem
    have hok := hxs x hx
    rw [hsnd] at hok
    cases hok

/-- Whoever has executed a script lists all of them, unless one failed. -/
theorem Account.eq_of_mem {ps : List Script} {i : ι} {a : Except Error (List Applied)}
    {xs : List (ι × Attempt)} (h : Account ps i a xs) (hxs : ∀ x ∈ xs, x.2.2 = .ok ())
    {x : ι × Attempt} (hx : x ∈ xs) (hi : x.1 = i) : a = .ok (ps.map appliedOf) := by
  cases h with
  | ran => rfl
  | spared others _ => exact absurd hi (others x hx)
  | @failed done rest s e split => cases hxs (i, s, .error e) (by simp)
  | refused others _ _ => exact absurd hi (others x hx)

/-- An answer that lists anything comes from whoever has executed everything. -/
theorem Account.of_cons {ps : List Script} {i : ι} {y : Applied} {ys : List Applied}
    {xs : List (ι × Attempt)} (h : Account ps i (.ok (y :: ys)) xs) :
    ps ≠ [] ∧ xs = ps.map fun s ↦ (i, succeeded s) := by
  generalize ha : Except.ok (ε := Error) (y :: ys) = a at h
  cases h with
  | ran =>
    refine ⟨fun hps ↦ ?_, rfl⟩
    rw [hps] at ha
    cases ha
  | spared => cases ha
  | failed => cases ha
  | refused => cases ha

/-- At most one answer lists anything. -/
theorem Account.eq_of_cons {ps : List Script} {i j : ι} {x y : Applied} {xs ys : List Applied}
    {zs : List (ι × Attempt)} (h : Account ps i (.ok (x :: xs)) zs)
    (h' : Account ps j (.ok (y :: ys)) zs) : i = j := by
  obtain ⟨hne, hi⟩ := h.of_cons
  obtain ⟨-, hj⟩ := h'.of_cons
  obtain ⟨s, ss, rfl⟩ := List.exists_cons_of_ne_nil hne
  have hboth := hi.symm.trans hj
  rw [List.map_cons, List.map_cons] at hboth
  exact congrArg Prod.fst (List.cons.inj hboth).1

/-- Whoever has executed the script that failed answers its error. -/
theorem Account.of_failure {ps : List Script} {i : ι} {a : Except Error (List Applied)}
    {xs : List (ι × Attempt)} (h : Account ps i a xs) {s : Script} {e : Error}
    (hx : (i, s, .error e) ∈ xs) : a = .error (onScript s.path e) := by
  cases h with
  | ran => exact absurd hx (not_mem_succeeded rfl)
  | spared others _ => exact absurd rfl (others _ hx)
  | @failed done rest t f split =>
    rcases List.mem_append.1 hx with hx | hx
    · exact absurd hx (not_mem_succeeded rfl)
    · cases List.mem_singleton.1 hx
      rfl
  | refused others _ _ => exact absurd rfl (others _ hx)

/-- Everybody else answers the refusal on account of the failed row. -/
theorem Account.of_failure_of_ne {ps : List Script} {i j : ι} {a : Except Error (List Applied)}
    {xs : List (ι × Attempt)} (h : Account ps j a xs) (hij : i ≠ j) {s : Script} {e : Error}
    (hx : (i, s, .error e) ∈ xs) : a = .error (History.failedError s) := by
  have hsnd : (s, Except.error e) ∈ xs.map Prod.snd := List.mem_map_of_mem hx
  cases h with
  | ran => exact absurd hx (not_mem_succeeded rfl)
  | spared _ all =>
    rw [all] at hsnd
    obtain ⟨t, -, ht⟩ := List.mem_map.1 hsnd
    cases ht
  | @failed done rest t f split =>
    rcases List.mem_append.1 hx with hx | hx
    · exact absurd hx (not_mem_succeeded rfl)
    · exact absurd (congrArg Prod.fst (List.mem_singleton.1 hx)) hij
  | @refused done rest t f xs others split all =>
    rw [all] at hsnd
    rw [(eq_of_mem_error hsnd).1]

/-! ### Running the scripts -/

variable {S : Contest ι δ} {i : ι}

/-- Where a task is that has run what was left: all has been run by it and recorded, or one script
has failed and stands recorded as failed. -/
inductive Ran (S : Contest ι δ) (i : ι) (left : List Script) :
    Except Error (List Applied) → List (ι × Attempt) → List HistoryEntry → Prop
  | all {rows : List HistoryEntry} (seals : List.Forall₂ History.Seals S.pending rows) :
      Ran S i left (.ok (left.map appliedOf)) (S.pending.map fun s ↦ (i, succeeded s))
        (S.before ++ rows)
  | failed {done rest : List Script} {s : Script} {e : Error} {rows : List HistoryEntry}
      {x : HistoryEntry} (split : S.pending = done ++ s :: rest)
      (seals : List.Forall₂ History.Seals done rows) (success : x.success = false)
      (version : x.version = s.version) (fileName : x.fileName = s.fileName) :
      Ran S i left (.error (onScript s.path e))
        (done.map (fun s ↦ (i, succeeded s)) ++ [(i, s, .error e)]) (S.before ++ rows ++ [x])

theorem Ran.settled {left : List Script} {a : Except Error (List Applied)}
    {xs : List (ι × Attempt)} {rows : List HistoryEntry} (h : S.Ran i left a xs rows) :
    Settled S.before S.pending (xs.map Prod.snd) rows := by
  cases h with
  | all seals =>
    rw [map_snd_succeeded]
    exact .complete seals
  | failed split seals success version fileName =>
    rw [List.map_append, map_snd_succeeded]
    exact .failed split seals success version fileName

theorem Ran.account {a : Except Error (List Applied)} {xs : List (ι × Attempt)}
    {rows : List HistoryEntry} (h : S.Ran i S.pending a xs rows) : Account S.pending i a xs := by
  cases h with
  | all => exact .ran
  | failed split => exact .failed split

theorem Ran.cons {s : Script} {left : List Script} {a : Except Error (List Applied)}
    {xs : List (ι × Attempt)} {rows : List HistoryEntry} (h : S.Ran i left a xs rows) :
    S.Ran i (s :: left) (a.map (appliedOf s :: ·)) xs rows := by
  cases h with
  | all seals => exact .all seals
  | failed split seals success version fileName =>
    exact .failed split seals success version fileName

variable [DecidableEq ι]

/-- The holder records a row, behind those that stand recorded. -/
theorem abides_record {target : Target δ} (hserves : target.Serves S.history S.ready S.schema)
    {φ ψ : List (ι × Attempt) → List HistoryEntry → Bool → Prop} {entry : HistoryEntry}
    {α : Type} {next : Except Error Unit → Operation δ α}
    {Q : α → Course ι Build.Event (World δ) → Prop}
    (hφ : ∀ xs rows connected, φ xs rows connected → ψ xs (rows ++ [entry]) connected)
    (hnext : Abides (S.terms i) i (next (.ok ())) (S.Held i ψ) Q) :
    Abides (S.terms i) i
      (perform (fun w : World δ ↦ ((target.record S.schema entry w.outside).1,
          { w with outside := (target.record S.schema entry w.outside).2 }))
        (fun answer ↦ .migration (.recorded S.schema entry answer)) >>= next) (S.Held i φ) Q := by
  refine abides_work (ψ := fun answer xs rows connected ↦ answer = .ok () ∧ ψ xs rows connected)
    (fun _ _ ↦ rfl) (fun _ ↦ rfl) (fun w _ hready ↦ ⟨rfl, rfl, hserves.ready_record hready, ?_⟩)
    fun answer ↦ abides_of_pure ?_
  · intro xs connected h
    have hanswer : (target.record S.schema entry w.outside).1 = .ok () := hserves.records hready
    refine ⟨hanswer, ?_⟩
    rw [hserves.recorded hanswer, Function.update_self]
    exact hφ _ _ _ h
  · rintro rfl
    exact hnext

/-- The holder runs what is left, script by script: executed, then recorded. -/
theorem abides_runPending {target : Target δ} (hserves : target.Serves S.history S.ready S.schema)
    {done left : List Script} {recorded : List HistoryEntry} (rank : ℕ)
    (hsplit : S.pending = done ++ left) (hseals : List.Forall₂ History.Seals done recorded) :
    Abides (S.terms i) i (Build.outside (runPending target S.schema rank left))
      (S.Held i fun xs rows connected ↦ xs = done.map (fun s ↦ (i, succeeded s)) ∧
        rows = S.before ++ recorded ∧ connected = true)
      (fun a ↦ S.Held i fun xs rows connected ↦ S.Ran i left a xs rows ∧ connected = true) := by
  -- on what is left: `done` and its rows grow by a script with each turn
  induction left generalizing done recorded rank with
  | nil =>
    refine abides_pure ?_
    rintro c ⟨hc, hholder, hxs, hrows, hopen⟩
    rw [List.append_nil] at hsplit
    refine ⟨hc, hholder, ?_, hopen⟩
    rw [hxs, hrows, ← hsplit]
    exact .all (hsplit ▸ hseals)
  | cons s left ih =>
    have hsplit' : S.pending = (done ++ [s]) ++ left := by rw [hsplit, List.append_assoc]; rfl
    rw [runPending, outside_perform]
    refine abides_execute (ψ := fun execution xs rows connected ↦
      xs = done.map (fun s ↦ (i, succeeded s)) ++ [(i, s, execution.outcome)] ∧
        rows = S.before ++ recorded ∧ connected = true) hserves ?_ fun execution ↦ ?_
    · rintro xs rows connected execution ⟨rfl, hrows, hopen⟩
      refine ⟨?_, rfl, hrows, hopen⟩
      rw [List.map_append, map_snd_succeeded]
      exact .attempted hsplit execution.outcome
    dsimp only
    rw [outside_perform]
    refine abides_record (ψ := fun xs rows connected ↦
      xs = done.map (fun s ↦ (i, succeeded s)) ++ [(i, s, execution.outcome)] ∧
        rows = S.before ++ (recorded ++ [entryOf rank s execution]) ∧ connected = true) hserves ?_ ?_
    · rintro xs rows connected ⟨hxs, hrows, hopen⟩
      exact ⟨hxs, by rw [hrows, List.append_assoc], hopen⟩
    cases hoc : execution.outcome with
    | error e =>
      refine abides_pure ?_
      rintro c ⟨hc, hholder, hxs, hrows, hopen⟩
      refine ⟨hc, hholder, ?_, hopen⟩
      rw [hxs, hrows, ← List.append_assoc]
      exact .failed hsplit hseals (by rw [entryOf, hoc]; rfl) rfl rfl
    | ok u =>
      dsimp only
      rw [outside_bind]
      have hseals' : List.Forall₂ History.Seals (done ++ [s])
          (recorded ++ [entryOf rank s execution]) :=
        List.rel_append hseals (.cons (History.seals_entryOf rank hoc) .nil)
      refine Abides.bind ((ih (rank + 1) hsplit' hseals').strengthen ?_) fun a ↦ ?_
      · rintro c ⟨hc, hholder, hxs, hrows, hopen⟩
        refine ⟨hc, hholder, ?_, hrows, hopen⟩
        rw [hxs, List.map_append]
        rfl
      · have hlast : ∀ c,
            S.Held i (fun xs rows connected ↦ S.Ran i left a xs rows ∧ connected = true) c →
            S.Held i (fun xs rows connected ↦
              S.Ran i (s :: left) (a.map (appliedOf s :: ·)) xs rows ∧ connected = true) c := by
          rintro c ⟨hc, hholder, hran, hopen⟩
          exact ⟨hc, hholder, hran.cons, hopen⟩
        cases a with
        | error e => exact abides_pure hlast
        | ok rest => exact abides_pure hlast

/-! ### A task on the watched schema -/

/-- What a task leaves with its answer: nothing half done, and executions that the answer accounts
for. -/
def Left (S : Contest ι δ) (i : ι) (a : Except Error (List Applied)) (xs : List (ι × Attempt))
    (rows : List HistoryEntry) : Prop :=
  Settled S.before S.pending (xs.map Prod.snd) rows ∧ Account S.pending i a xs

/-- The answer of the check decides what a task with the lock does: it runs all scripts, or it
leaves what it has found. -/
theorem abides_checked {target : Target δ} (hserves : target.Serves S.history S.ready S.schema)
    {scripts : List Script} (hscripts : Script.Ascending scripts)
    (hpending : History.pending scripts S.before = .ok S.pending) (listed : List HistoryEntry) :
    Abides (S.terms i) i
      (Build.outside (match History.pending scripts listed with
        | .error e => return .error e
        | .ok pending => runPending target S.schema (History.nextRank listed) pending))
      (S.Held i fun xs rows connected ↦ listed = rows ∧ S.Found i xs rows ∧ connected = true)
      (fun a ↦ S.Held i fun xs rows connected ↦ S.Left i a xs rows ∧ connected = true) := by
  cases hanswer : History.pending scripts listed with
  | error e =>
    refine abides_pure ?_
    rintro c ⟨hc, hholder, rfl, ⟨hsettled, hothers⟩, hopen⟩
    refine ⟨hc, hholder, ⟨hsettled, ?_⟩, hopen⟩
    rcases hsettled.pending hscripts hpending with ⟨-, -, h⟩ | ⟨-, h⟩ |
      ⟨done, rest, s, e', hsplit, hxs, h⟩
    · cases hanswer.symm.trans h
    · cases hanswer.symm.trans h
    · obtain rfl := Except.error.inj (hanswer.symm.trans h)
      exact .refused hothers hsplit hxs
  | ok ps =>
    cases ps with
    | nil =>
      refine abides_pure ?_
      rintro c ⟨hc, hholder, rfl, ⟨hsettled, hothers⟩, hopen⟩
      refine ⟨hc, hholder, ⟨hsettled, .spared hothers ?_⟩, hopen⟩
      rcases hsettled.pending hscripts hpending with ⟨hxs, -, h⟩ | ⟨hxs, -⟩ |
        ⟨done, rest, s, e, -, -, h⟩
      · rw [hxs, ← Except.ok.inj (hanswer.symm.trans h)]
        rfl
      · exact hxs
      · cases hanswer.symm.trans h
    | cons s ss =>
      -- some script is left, so nothing has been run and all are left
      refine Abides.strengthen (P := fun c ↦ s :: ss = S.pending ∧ S.Held i
        (fun xs rows connected ↦ xs = [] ∧ rows = S.before ∧ connected = true) c) ?_ ?_
      · refine Abides.of_pure fun hps ↦ ?_
        rw [hps]
        refine Abides.weaken ((abides_runPending hserves _ (List.nil_append _).symm
          List.Forall₂.nil).strengthen ?_) ?_
        · rintro c ⟨hc, hholder, hxs, hrows, hopen⟩
          exact ⟨hc, hholder, hxs, by rw [hrows, List.append_nil], hopen⟩
        · rintro a c ⟨hc, hholder, hran, hopen⟩
          exact ⟨hc, hholder, ⟨hran.settled, hran.account⟩, hopen⟩
      · rintro c ⟨hc, hholder, rfl, ⟨hsettled, -⟩, hopen⟩
        rcases hsettled.pending hscripts hpending with ⟨hxs, hrows, h⟩ | ⟨-, h⟩ |
          ⟨done, rest, s, e, -, -, h⟩
        · exact ⟨Except.ok.inj (hanswer.symm.trans h), hc, hholder,
            List.map_eq_nil_iff.1 hxs, hrows, hopen⟩
        · cases hanswer.symm.trans h
        · cases hanswer.symm.trans h

/-- What a task that holds the lock does over its connection. -/
theorem abides_connection {target : Target δ} (hserves : target.Serves S.history S.ready S.schema)
    {dir : Path} {scripts : List Script} (hscripts : Script.discover S.files dir = .ok scripts)
    (hpending : History.pending scripts S.before = .ok S.pending) :
    Abides (S.terms i) i (Build.migrate target dir S.schema)
      (S.Held i fun xs rows connected ↦ S.Found i xs rows ∧ connected = true)
      (fun a ↦ S.Held i fun xs rows connected ↦ S.Left i a xs rows ∧ connected = true) := by
  -- the files are those of the start, and so are the scripts among them
  refine abides_work (ψ := fun found xs rows connected ↦ found = .ok scripts ∧
    S.Found i xs rows ∧ connected = true) (fun _ _ ↦ rfl) (fun _ ↦ rfl)
    (fun w hfiles hready ↦ ⟨rfl, rfl, hready, fun xs connected h ↦ ?_⟩)
    fun found ↦ abides_of_pure ?_
  · exact ⟨(congrArg (Script.discover · dir) hfiles).trans hscripts, h⟩
  rintro rfl
  dsimp only
  rw [Migration.migrate, outside_perform]
  refine abides_work (ψ := fun prepared xs rows connected ↦ prepared = .ok () ∧
    S.Found i xs rows ∧ connected = true) (fun _ _ ↦ rfl) (fun _ ↦ rfl)
    (fun w _ hready ↦ ⟨rfl, rfl, hserves.ready_prepare hready, ?_⟩) fun prepared ↦ abides_of_pure ?_
  · rintro xs connected h
    exact ⟨hserves.prepares hready, by rw [hserves.prepare]; exact h⟩
  rintro rfl
  dsimp only
  rw [outside_perform]
  -- the rows are listed under the lock, so nobody adds any before they are used
  refine abides_work (ψ := fun listed xs rows connected ↦ listed = .ok rows ∧
    S.Found i xs rows ∧ connected = true) (fun _ _ ↦ rfl) (fun _ ↦ rfl)
    (fun w _ hready ↦ ⟨rfl, rfl, hserves.ready_applied hready, ?_⟩) fun listed ↦ ?_
  · rintro xs connected h
    exact ⟨by rw [hserves.applied]; exact hserves.lists hready, by rw [hserves.applied]; exact h⟩
  cases listed with
  | error e =>
    refine abides_pure ?_
    rintro c ⟨-, -, h, -⟩
    cases h
  | ok listed =>
    refine (abides_checked hserves (Script.ascending_of_discover hscripts) hpending
      listed).strengthen ?_
    rintro c ⟨hc, hholder, hlisted, hfound⟩
    exact ⟨hc, hholder, Except.ok.inj hlisted, hfound⟩

/-- A task on the watched schema, from before it has the lock until it is done. -/
theorem abides_migrate {b : Backend δ} {handle : DatabaseHandle}
    (hhosts : b.Hosts handle S.history S.ready S.schema) {t : GenerationTask}
    {scripts : List Script} (hi : S.schemaOf i = S.schema)
    (hscripts : Script.discover S.files t.migrationsDir = .ok scripts)
    (hpending : History.pending scripts S.before = .ok S.pending) :
    Abides (S.terms i) i (t.migrate b handle S.schema) (S.Idle i)
      (fun a ↦ S.Done i (Account S.pending i a)) := by
  refine abides_lock hi (Abides.bind
    (Q := fun a ↦ S.Held i fun xs rows connected ↦ S.Left i a xs rows ∧ connected = false)
    ?_ fun a ↦ ?_)
  · refine abides_work (ψ := fun opened xs rows connected ↦
      (∃ target, opened = .ok target ∧ target.Serves S.history S.ready S.schema) ∧
      S.Found i xs rows ∧ connected = true) (fun _ _ ↦ rfl) (fun _ ↦ rfl)
      (fun w _ hready ↦ ⟨rfl, rfl, hhosts.ready_connect hready, ?_⟩) fun opened ↦ abides_of_pure ?_
    · rintro xs connected ⟨hfound, -⟩
      obtain ⟨target, htarget, hserves⟩ := hhosts.connects hready
      refine ⟨⟨target, htarget, hserves⟩, by rw [hhosts.history_connect]; exact hfound, ?_⟩
      show ((b.connect handle w.outside).1.map fun _ ↦ ()).isOk = true
      rw [htarget]
      rfl
    · rintro ⟨target, rfl, hserves⟩
      refine Abides.bind (abides_connection hserves hscripts hpending) fun a ↦ ?_
      refine abides_work (ψ := fun closed xs rows connected ↦ closed = .ok () ∧
        S.Left i a xs rows ∧ connected = false) (fun _ _ ↦ rfl) (fun _ ↦ rfl)
        (fun w _ hready ↦ ⟨rfl, rfl, hserves.ready_close hready, ?_⟩) fun closed ↦ abides_of_pure ?_
      · rintro xs connected ⟨hleft, -⟩
        exact ⟨hserves.closes hready, by rw [hserves.close]; exact hleft, rfl⟩
      · rintro rfl
        cases a with
        | error e => exact abides_pure fun c hc ↦ hc
        | ok applied => exact abides_pure fun c hc ↦ hc
  · exact abides_unlock (fun xs ↦ Account.ended) (abides_pure fun c hc ↦ hc)

/-! ### A task on another schema -/

theorem abides_runPending_other {target : Target δ}
    (hserves : target.Serves S.history S.ready S.schema) (hi : S.schemaOf i ≠ S.schema) (rank : ℕ)
    (left : List Script) :
    Abides (S.terms i) i (Build.outside (runPending target (S.schemaOf i) rank left)) S.Inv
      (fun _ ↦ S.Inv) := by
  induction left generalizing rank with
  | nil => exact abides_pure fun c hc ↦ hc
  | cons s left ih =>
    rw [runPending, outside_perform]
    refine abides_other (R := fun _ ↦ True) hi (fun _ _ ↦ rfl)
      (fun execution ↦ Event.attempt?_of_ne hi s execution.outcome) ?_ fun execution _ ↦ ?_
    · rintro w _ _ hready ⟨⟩
      exact ⟨trivial, rfl, rfl, hserves.ready_execute hready, by rw [hserves.execute]⟩
    dsimp only
    rw [outside_perform]
    refine abides_other (R := fun _ ↦ True) hi (fun _ _ ↦ rfl) (fun _ ↦ rfl) ?_ fun recorded _ ↦ ?_
    · rintro w _ _ hready ⟨⟩
      exact ⟨trivial, rfl, rfl, hserves.ready_record hready,
        hserves.record_of_ne (Ne.symm hi) _ _⟩
    cases execution.outcome with
    | error e => exact abides_pure fun c hc ↦ hc
    | ok u =>
      cases recorded with
      | error e => exact abides_pure fun c hc ↦ hc
      | ok u =>
        dsimp only
        rw [outside_bind]
        refine Abides.bind (ih (rank + 1)) fun a ↦ ?_
        cases a with
        | error e => exact abides_pure fun c hc ↦ hc
        | ok rest => exact abides_pure fun c hc ↦ hc

theorem abides_connection_other {target : Target δ}
    (hserves : target.Serves S.history S.ready S.schema) (hi : S.schemaOf i ≠ S.schema)
    (dir : Path) :
    Abides (S.terms i) i (Build.migrate target dir (S.schemaOf i)) S.Inv (fun _ ↦ S.Inv) := by
  refine abides_other (R := fun _ ↦ True) hi (fun _ _ ↦ rfl) (fun _ ↦ rfl) ?_ fun found _ ↦ ?_
  · rintro w _ _ hready ⟨⟩
    exact ⟨trivial, rfl, rfl, hready, rfl⟩
  cases found with
  | error e => exact abides_pure fun c hc ↦ hc
  | ok scripts =>
    dsimp only
    rw [Migration.migrate, outside_perform]
    refine abides_other (R := fun _ ↦ True) hi (fun _ _ ↦ rfl) (fun _ ↦ rfl) ?_ fun prepared _ ↦ ?_
    · rintro w _ _ hready ⟨⟩
      exact ⟨trivial, rfl, rfl, hserves.ready_prepare hready, by rw [hserves.prepare]⟩
    cases prepared with
    | error e => exact abides_pure fun c hc ↦ hc
    | ok u =>
      dsimp only
      rw [outside_perform]
      refine abides_other (R := fun _ ↦ True) hi (fun _ _ ↦ rfl) (fun _ ↦ rfl) ?_ fun listed _ ↦ ?_
      · rintro w _ _ hready ⟨⟩
        exact ⟨trivial, rfl, rfl, hserves.ready_applied hready, by rw [hserves.applied]⟩
      cases listed with
      | error e => exact abides_pure fun c hc ↦ hc
      | ok rows =>
        dsimp only
        cases History.pending scripts rows with
        | error e => exact abides_pure fun c hc ↦ hc
        | ok ps => exact abides_runPending_other hserves hi _ ps

/-- A task on another schema. -/
theorem abides_migrate_other {b : Backend δ} {handle : DatabaseHandle}
    (hhosts : b.Hosts handle S.history S.ready S.schema) (t : GenerationTask)
    (hi : S.schemaOf i ≠ S.schema) :
    Abides (S.terms i) i (t.migrate b handle (S.schemaOf i)) S.Inv (fun _ ↦ S.Inv) := by
  have hname : (Defaults.databaseService, S.schemaOf i) ≠ (Defaults.databaseService, S.schema) :=
    fun h ↦ hi (congrArg Prod.snd h)
  have hquiet : ¬(Defaults.databaseService = Defaults.databaseService ∧ S.schemaOf i = S.schema) :=
    fun h ↦ hi h.2
  refine abides_other (R := fun _ ↦ True) hi (fun _ _ ↦ if_neg hquiet) (fun _ ↦ rfl) ?_ fun _ _ ↦ ?_
  · intro w u w' hready hw
    split at hw
    · cases hw
    · obtain ⟨-, rfl⟩ := Prod.mk.inj (Option.some.inj hw)
      exact ⟨trivial, rfl, List.count_cons_of_ne hname, hready, rfl⟩
  refine Abides.bind (Q := fun _ ↦ S.Inv) ?_ fun a ↦ ?_
  · refine abides_other (R := fun opened ↦
      ∀ target, opened = .ok target → target.Serves S.history S.ready S.schema)
      hi (fun _ _ ↦ rfl) (fun _ ↦ rfl) ?_ fun opened hopened ↦ ?_
    · rintro w _ _ hready ⟨⟩
      obtain ⟨target, htarget, hserves⟩ := hhosts.connects hready
      refine ⟨fun target' h ↦ ?_, rfl, rfl, hhosts.ready_connect hready,
        by rw [hhosts.history_connect]⟩
      exact Except.ok.inj (htarget.symm.trans h) ▸ hserves
    cases opened with
    | error e => exact abides_pure fun c hc ↦ hc
    | ok target =>
      have hserves := hopened target rfl
      refine Abides.bind (abides_connection_other hserves hi _) fun a ↦ ?_
      refine abides_other (R := fun _ ↦ True) hi (fun _ _ ↦ rfl) (fun _ ↦ rfl) ?_ fun closed _ ↦ ?_
      · rintro w _ _ hready ⟨⟩
        exact ⟨trivial, rfl, rfl, hserves.ready_close hready, by rw [hserves.close]⟩
      cases a with
      | error e => exact abides_pure fun c hc ↦ hc
      | ok applied =>
        cases closed with
        | error e => exact abides_pure fun c hc ↦ hc
        | ok u => exact abides_pure fun c hc ↦ hc
  · refine abides_other (R := fun _ ↦ True) hi (fun _ _ ↦ if_neg hquiet) (fun _ ↦ rfl) ?_
      fun _ _ ↦ abides_pure fun c hc ↦ hc
    rintro w _ _ hready ⟨⟩
    exact ⟨trivial, rfl, List.count_erase_of_ne hname.symm, hready, rfl⟩

/-! ### All tasks -/

/-- Where a task starts. -/
def Start (S : Contest ι δ) (i : ι) (c : Course ι Build.Event (World δ)) : Prop :=
  S.Inv c ∧ (S.schemaOf i = S.schema → S.Idle i c)

/-- Where a task ends with an answer. -/
def Finish (S : Contest ι δ) (i : ι) (a : Except Error (List Applied))
    (c : Course ι Build.Event (World δ)) : Prop :=
  S.Inv c ∧ (S.schemaOf i = S.schema → S.Done i (Account S.pending i a) c)

theorem stable_start (i : ι) : (S.terms i).Stable (S.Start i) := by
  rintro c d hrely ⟨hc, hidle⟩
  exact ⟨hrely.1 hc, fun hi ↦ S.stable_idle i c d hrely (hidle hi)⟩

theorem abides_task {b : Backend δ} {handle : DatabaseHandle}
    (hhosts : b.Hosts handle S.history S.ready S.schema) {t : GenerationTask}
    {scripts : List Script}
    (hscripts : S.schemaOf i = S.schema → Script.discover S.files t.migrationsDir = .ok scripts)
    (hpending : History.pending scripts S.before = .ok S.pending) :
    Abides (S.terms i) i (t.migrate b handle (S.schemaOf i)) (S.Start i) (S.Finish i) := by
  by_cases hi : S.schemaOf i = S.schema
  · rw [hi]
    have htask := abides_migrate hhosts hi (hscripts hi) hpending
    exact (htask.strengthen fun c hc ↦ hc.2 hi).weaken fun a c hc ↦ ⟨hc.1, fun _ ↦ hc⟩
  · refine ((abides_migrate_other hhosts t hi).strengthen fun c hc ↦ hc.1).weaken ?_
    exact fun a c hc ↦ ⟨hc, fun hi' ↦ absurd hi' hi⟩

/-- The tasks keep to the terms of the contest. -/
theorem accord_migrate {b : Backend δ} {handle : DatabaseHandle}
    (hhosts : b.Hosts handle S.history S.ready S.schema) {tasks : ι → GenerationTask}
    {scripts : List Script} (hscripts : ∀ i, S.schemaOf i = S.schema →
      Script.discover S.files (tasks i).migrationsDir = .ok scripts)
    (hpending : History.pending scripts S.before = .ok S.pending) {w : World δ}
    (hstart : S.Inv ⟨[], w⟩) :
    Accord S.terms (fun i ↦ (tasks i).migrate b handle (S.schemaOf i)) w S.Start S.Finish where
  abides i := abides_task hhosts (hscripts i) hpending
  stable := stable_start
  compatible _ _ hij _ _ := S.guarantee_rely hij
  initially _ := ⟨hstart, fun _ ↦ ⟨hstart, fun h ↦ (nomatch h), rfl, fun _ h ↦ (nomatch h)⟩⟩

end Contest

/-- What is true of the migration of a schema at any point of the work of the tasks `ps`, each of
which has its schema, when these scripts were left at the start. -/
structure Orderly {ι δ : Type} [DecidableEq ι] (schemaOf : ι → String) (schema : String)
    (pending : List Script) (ps : ι → Operation δ (Except Error (List Applied)))
    (c : Course ι Build.Event (World δ)) : Prop where
  /-- The scripts are executed in their order. -/
  isPrefix : (executions schema c.events).map (·.2.1) <+: pending
  /-- No version is executed twice, and none after a later one. -/
  ascending : (executions schema c.events).Pairwise fun x y ↦
    x.2.1.version.isBefore y.2.1.version = true
  /-- Of the tasks on the schema one at a time is connected. -/
  exclusive : ∀ i j, schemaOf i = schema → schemaOf j = schema →
    isConnected i c.events = true → isConnected j c.events = true → i = j
  /-- Without a failure, a task that is done has seen all scripts executed, and answers them all or
  none. -/
  success : (∀ x ∈ executions schema c.events, x.2.2 = .ok ()) →
    ∀ i a, schemaOf i = schema → (ps i).answer? = some a →
      (executions schema c.events).map (·.2) = pending.map succeeded ∧
        (a = .ok [] ∨ a = .ok (pending.map appliedOf))
  /-- Without a failure, whoever executes a script answers all of them. -/
  executor : (∀ x ∈ executions schema c.events, x.2.2 = .ok ()) →
    ∀ x ∈ executions schema c.events, ∀ a, (ps x.1).answer? = some a →
      a = .ok (pending.map appliedOf)
  /-- At most one answer lists anything. -/
  unique : ∀ i j x xs y ys, schemaOf i = schema → schemaOf j = schema →
    (ps i).answer? = some (.ok (x :: xs)) → (ps j).answer? = some (.ok (y :: ys)) → i = j
  /-- Nothing is executed after a failure. -/
  last : ∀ i s e, (i, s, .error e) ∈ executions schema c.events →
    ∃ earlier, executions schema c.events = earlier ++ [(i, s, .error e)]
  /-- Whoever executes the script that fails answers its error, -/
  failed : ∀ i s e, (i, s, .error e) ∈ executions schema c.events →
    ∀ a, (ps i).answer? = some a → a = .error (onScript s.path e)
  /-- and all others are refused on account of the failed row. -/
  refused : ∀ i s e, (i, s, .error e) ∈ executions schema c.events →
    ∀ j a, i ≠ j → schemaOf j = schema → (ps j).answer? = some a →
      a = .error (History.failedError s)
  /-- While a task on the schema is not done, one of them has a next step. -/
  advances : ∀ i, schemaOf i = schema → (ps i).answer? = none →
    ∃ j, schemaOf j = schema ∧ ((ps j).advance c.state).isSome = true

/-- **Tasks that share a schema migrate it once.** Any number of tasks migrate, each its schema, and
those on one schema have the same scripts. In whatever order they take their steps, the migration of
that schema is orderly at every point: its scripts run at most once and in order, one task at a time
is connected, and every answer is the one that the executions call for. -/
theorem tasks_migrate_once {ι δ : Type} [DecidableEq ι] {b : Backend δ} {handle : DatabaseHandle}
    {history : δ → String → List HistoryEntry} {ready : δ → Prop} {schema : String}
    (hhosts : b.Hosts handle history ready schema) {tasks : ι → GenerationTask}
    {schemaOf : ι → String} {dir : Path}
    (hdir : ∀ i, schemaOf i = schema → (tasks i).migrationsDir = dir) {w : World δ}
    (hready : ready w.outside) (hlocks : (Defaults.databaseService, schema) ∉ w.locks)
    {scripts pending : List Script} (hscripts : Script.discover w.files dir = .ok scripts)
    (hpending : History.pending scripts (history w.outside schema) = .ok pending)
    {ps : ι → Operation δ (Except Error (List Applied))} {c : Course ι Build.Event (World δ)}
    (hreaches : Reaches (fun i ↦ (tasks i).migrate b handle (schemaOf i)) w ps c) :
    Orderly schemaOf schema pending ps c := by
  let S : Contest ι δ :=
    ⟨history, ready, schemaOf, schema, w.files, history w.outside schema, pending⟩
  have hstart : S.Inv ⟨[], w⟩ := S.inv_start rfl hready hlocks rfl
  have haccord : Accord S.terms (fun i ↦ (tasks i).migrate b handle (schemaOf i)) w S.Start
      S.Finish :=
    S.accord_migrate hhosts (fun i hi ↦ (hdir i hi).symm ▸ hscripts) hpending hstart
  have hc : S.Inv c := haccord.invariant hstart (fun _ _ _ h ↦ h.1) hreaches
  have hdone : ∀ i a, schemaOf i = schema → (ps i).answer? = some a →
      S.Done i (Contest.Account pending i a) c := fun i a hi ha ↦ (haccord.answer hreaches ha).2 hi
  have haccount : ∀ i a, schemaOf i = schema → (ps i).answer? = some a →
      Contest.Account pending i a (executions schema c.events) := fun i a hi ha ↦
    (hdone i a hi ha).2.2
  have hascending : Script.Ascending pending :=
    History.ascending_of_pending (Script.ascending_of_discover hscripts) hpending
  exact {
    isPrefix := hc.isPrefix
    ascending := List.pairwise_map.1 (hascending.sublist hc.isPrefix.sublist)
    exclusive := fun _ _ ↦ hc.eq_of_isConnected
    success := fun hok i a hi ha ↦ (haccount i a hi ha).of_success hok
    executor := fun hok x hx a ha ↦ (haccount x.1 a (hc.executors x hx) ha).eq_of_mem hok hx rfl
    unique := fun i j _ _ _ _ hi hj hx hy ↦ (haccount i _ hi hx).eq_of_cons (haccount j _ hj hy)
    last := fun _ _ _ ↦ hc.exists_earlier
    failed := fun i s e hx a ha ↦ (haccount i a (hc.executors _ hx) ha).of_failure hx
    refused := fun i s e hx j a hij hj ha ↦ (haccount j a hj ha).of_failure_of_ne hij hx
    advances := fun i hi ha ↦ hc.exists_advance (fun j a hj haj ↦ (hdone j a hj haj).2.1)
      (fun j haj ↦ haccord.advances_or_waits hreaches haj) hi ha }

/-- A rehearsal of two tasks on one schema, whose second script fails, and one on another schema
that works at the same time. The first has failed, and the second is refused. -/
theorem tasks_migrate_once_rehearsal :
    let script (name sql : String) : Location × Node :=
      ([RawText.ofText "db", RawText.ofText name], .file (Utf8.encode sql) false)
    let files : FileSystem := ⟨[([RawText.ofText "db"], .directory none),
      script "V1__users.sql" "CREATE TABLE users;",
      script "V2__orders.sql" "CREATE TABEL orders;"], []⟩
    let handle : DatabaseHandle := ⟨"", "", "root", ""⟩
    let w : World Rehearsal := World.start files {
      handleOf := fun _ ↦ handle
      rules := { execute := [("TABEL", .migration none "syntax error")] } }
    let task : GenerationTask := {
      name := "main", configuration := {}, projectDir := ⟨"/work"⟩, outputDir := ⟨"/work/out"⟩,
      workDir := ⟨"/work/target"⟩, migrationsDir := ⟨"db"⟩, useContainer := true,
      allInputsDeclared := false, command := { program := "sh" }, schema := default, hooks := {} }
    let schemaOf (i : ℕ) : String := if i = 2 then "reporting" else "app"
    let start (i : ℕ) := task.migrate Rehearsal.backend handle (schemaOf i)
    let order := [0, 2, 0, 0, 2, 0, 0, 2, 0, 0, 2, 0, 0, 2, 0, 0, 1, 1, 1, 2, 1, 1, 1, 1]
    ∃ scripts r, Script.discover files ⟨"db"⟩ = .ok scripts ∧
      History.pending scripts (w.outside.history "app") = .ok scripts ∧
      turns order start ⟨[], w⟩ = some r ∧ (r.1 0).answer?.isSome = true ∧
      (r.1 1).answer?.isSome = true ∧ Orderly schemaOf "app" scripts r.1 r.2 := by
  intro script files handle w task schemaOf start order
  obtain ⟨scripts, hscripts, hpending⟩ : ∃ scripts, Script.discover files ⟨"db"⟩ = .ok scripts ∧
      History.pending scripts (w.outside.history "app") = .ok scripts := ⟨_, rfl, rfl⟩
  have hturns : (turns order start ⟨[], w⟩).any (fun r ↦
      (r.1 0).answer?.isSome && (r.1 1).answer?.isSome) = true := by
    decide +kernel +zetaReduce
  obtain ⟨r, hr, hdone⟩ := (Option.any_eq_true _ _).1 hturns
  rw [Bool.and_eq_true] at hdone
  refine ⟨scripts, r, hscripts, hpending, hr, hdone.1, hdone.2, ?_⟩
  exact tasks_migrate_once (Rehearsal.backend_hosts handle "app") (fun _ _ ↦ rfl)
    ⟨rfl, rfl, rfl, rfl, rfl⟩ List.not_mem_nil hscripts hpending (Reaches.start.turns hr)

end Migration

end SchemaForge
