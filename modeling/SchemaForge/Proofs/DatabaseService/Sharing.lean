import SchemaForge.Proofs.DatabaseService.Moves

/-!
# Sharing a database

Any number of calls acquire and release one database, step by step and in any order.
`DatabaseService.shared_once` says what holds at every point of every such run: the database is
started once at most and stopped once at most, all who get a handle get that of the one start, all
who fail because of it fail alike, and nobody gets a handle who comes after the flag was raised.

Each call is checked alone, along its program (`DatabaseService.abides_acquire`,
`DatabaseService.abides_release`). Its terms are that it and all others take no steps but those of
`DatabaseService.Moves`.
-/

namespace SchemaForge

namespace DatabaseService

open Program

variable {ι δ : Type}

/-! ### The terms of the calls -/

/-- A step of a party. -/
def MovesBy (i : ι) (c d : Course ι Event (DatabaseService × δ)) : Prop :=
  ∃ e, Moves c.events i c.state.1 e d.state.1 ∧ d.events = c.events ++ [(i, e)]

/-- Something happens that the service does not see. -/
def Elsewhere (c d : Course ι Event (DatabaseService × δ)) : Prop :=
  d.state.1 = c.state.1 ∧ d.events = c.events

/-- All take the steps that there are, or do something elsewhere; a call waits only while the
database is being started. -/
def terms (i : ι) : Terms ι Event (DatabaseService × δ) where
  rely c d := (∃ j, j ≠ i ∧ MovesBy j c d) ∨ Elsewhere c d
  guarantee c d := MovesBy i c d
  wait c := c.state.1.cell = .starting

/-- What stays true when more is done. -/
def Lasting (φ : List (ι × Event) → Prop) : Prop := ∀ events x, φ events → φ (events ++ [x])

theorem Lasting.and {φ ψ : List (ι × Event) → Prop} (hφ : Lasting φ) (hψ : Lasting ψ) :
    Lasting fun events ↦ φ events ∧ ψ events :=
  fun events x h ↦ ⟨hφ events x h.1, hψ events x h.2⟩

/-- Between two steps of a call: what always holds, and what the call knows of the trace. -/
def Between (φ : List (ι × Event) → Prop) (c : Course ι Event (DatabaseService × δ)) : Prop :=
  Inv c.events c.state.1 ∧ φ c.events

theorem stable_between {φ : List (ι × Event) → Prop} (hφ : Lasting φ) (i : ι) :
    (terms (δ := δ) i).Stable (Between φ) := by
  rintro c d (⟨j, -, e, hstep, hevents⟩ | ⟨hservice, hevents⟩) ⟨hc, hknown⟩
  · rw [Between, hevents]
    exact ⟨hc.step hstep, hφ _ _ hknown⟩
  · rw [Between, hservice, hevents]
    exact ⟨hc, hknown⟩

/-- A step that there is keeps the terms and what is known. -/
theorem Between.extend {φ : List (ι × Event) → Prop} (hφ : Lasting φ) {i : ι} {e : Event}
    {c : Course ι Event (DatabaseService × δ)} (hc : Between φ c) {s : DatabaseService} {d : δ}
    (hstep : Moves c.events i c.state.1 e s) :
    (terms i).guarantee c (c.extend i e (s, d)) ∧ Between φ (c.extend i e (s, d)) :=
  ⟨⟨e, hstep, rfl⟩, hc.1.step hstep, hφ _ _ hc.2⟩

/-- The call is starting the database, and the starts have come to what is given. -/
def Starting (i : ι) (φ : List (ι × Event) → Prop) (outcomes : List (Except Error Instance))
    (c : Course ι Event (DatabaseService × δ)) : Prop :=
  Between φ c ∧ IsStarter i c.events ∧ c.state.1.cell = .starting ∧ starts c.events = outcomes

theorem stable_starting {φ : List (ι × Event) → Prop} (hφ : Lasting φ) (i : ι)
    (outcomes : List (Except Error Instance)) :
    (terms (δ := δ) i).Stable (Starting i φ outcomes) := by
  rintro c d hcd ⟨hc, role, hcell, hstarts⟩
  have hd := stable_between hφ i c d hcd hc
  rcases hcd with ⟨j, hji, e, hstep, hevents⟩ | ⟨hservice, hevents⟩
  · obtain ⟨hcell', hstarts'⟩ := hstep.spares_starter hc.1 role hji
    refine ⟨hd, ?_, hcell'.trans hcell, ?_⟩
    · rw [hevents, isStarter_append]
      exact Or.inl role
    · rw [hevents, hstarts', hstarts]
  · rw [Starting, hservice, hevents]
    exact ⟨hd, role, hcell, hstarts⟩

/-- The call is releasing the database, and nothing was stopped so far. -/
def Releasing (i : ι) (φ : List (ι × Event) → Prop)
    (c : Course ι Event (DatabaseService × δ)) : Prop :=
  Between φ c ∧ IsReleaser i c.events ∧ stops c.events = []

theorem stable_releasing {φ : List (ι × Event) → Prop} (hφ : Lasting φ) (i : ι) :
    (terms (δ := δ) i).Stable (Releasing i φ) := by
  rintro c d hcd ⟨hc, role, hstops⟩
  have hd := stable_between hφ i c d hcd hc
  rcases hcd with ⟨j, hji, e, hstep, hevents⟩ | ⟨-, hevents⟩
  · refine ⟨hd, ?_, ?_⟩
    · rw [hevents, isReleaser_append]
      exact Or.inl role
    · rw [hevents, hstep.spares_releaser hc.1 role hji, hstops]
  · rw [Releasing, hevents]
    exact ⟨hd, role, hstops⟩

/-! ### Acquiring -/

/-- The party has looked at the flag before anybody raised it. -/
def LooksInTime (i : ι) (events : List (ι × Event)) : Prop :=
  ∃ before after, events = before ++ (i, .looked false) :: after ∧ ¬Raised before

theorem lasting_looksInTime (i : ι) : Lasting (LooksInTime i) := by
  rintro events x ⟨before, after, rfl, hraised⟩
  exact ⟨before, after ++ [x], by rw [List.append_assoc, List.cons_append], hraised⟩

/-- The outcome is what a start came to. -/
def Known (outcome : Except String DatabaseHandle) (events : List (ι × Event)) : Prop :=
  ∃ o ∈ starts events, outcome = rendered o

theorem lasting_mem_starts (o : Except Error Instance) :
    Lasting fun events : List (ι × Event) ↦ o ∈ starts events := by
  rintro events ⟨i, e⟩ h
  rw [starts_append]
  exact List.mem_append_left _ h

theorem lasting_known (outcome : Except String DatabaseHandle) :
    Lasting (Known (ι := ι) outcome) := by
  rintro events x ⟨o, ho, houtcome⟩
  exact ⟨o, lasting_mem_starts o events x ho, houtcome⟩

/-- What the answer to a call rests on: it was refused, as it found the flag raised, or it came in
time and was given what the start came to. -/
inductive Account (name : String) (i : ι) (events : List (ι × Event)) :
    Except Error DatabaseHandle → Prop
  | refused (looked : (i, .looked true) ∈ events) :
      Account name i events (.error (releasedError name))
  | served {outcome : Except String DatabaseHandle} (inTime : LooksInTime i events)
      (known : Known outcome events) : Account name i events (answer outcome)

/-- The starter starts the database, keeps what runs and publishes what the start came to. -/
theorem abides_start (p : Provisioner δ) {φ : List (ι × Event) → Prop} (hφ : Lasting φ) (i : ι) :
    Abides (terms i) i (start p) (Starting i φ [])
      (fun outcome ↦ Between fun events ↦ φ events ∧ Known outcome events) := by
  refine abides_perform (R := fun o ↦ Starting i φ [o]) ?_ (fun o ↦ stable_starting hφ i [o])
    fun o ↦ ?_
  · rintro c ⟨hc, role, hcell, hstarts⟩
    obtain ⟨hguarantee, hd⟩ := hc.extend hφ (.start role hcell hstarts)
    refine ⟨hguarantee, hd, isStarter_append.2 (Or.inl role), hcell, ?_⟩
    rw [Course.extend_events, starts_append, hstarts]
    rfl
  -- what is published is what the start came to, whether or not there is an instance to keep
  have hpublish : Abides (terms i) i
      (Program.change (fun w ↦ ({ w.1 with cell := .settled (rendered o) }, w.2))
        (Event.published (rendered o)) >>= fun _ ↦ (pure (rendered o) : Operation δ _))
      (Starting i φ [o]) (fun outcome ↦ Between fun events ↦ φ events ∧ Known outcome events) := by
    refine abides_perform
      (R := fun _ ↦ Between fun events ↦ φ events ∧ Known (rendered o) events) ?_
      (fun _ ↦ stable_between (hφ.and (lasting_known _)) i) fun _ ↦ abides_pure fun _ h ↦ h
    rintro c ⟨hc, role, hcell, hstarts⟩
    obtain ⟨hguarantee, hd, hknown⟩ := hc.extend hφ (.publish role hstarts)
    have ho : o ∈ starts c.events := by
      rw [hstarts]
      exact List.mem_cons_self
    exact ⟨hguarantee, hd, hknown, lasting_known _ _ _ ⟨o, ho, rfl⟩⟩
  cases o with
  | error e => exact hpublish
  | ok running =>
    refine abides_perform (R := fun _ ↦ Starting i φ [.ok running]) ?_
      (fun _ ↦ stable_starting hφ i _) fun _ ↦ hpublish
    rintro c ⟨hc, role, hcell, hstarts⟩
    obtain ⟨hguarantee, hd⟩ := hc.extend hφ (.store role hstarts)
    refine ⟨hguarantee, hd, isStarter_append.2 (Or.inl role), hcell, ?_⟩
    rw [Course.extend_events, starts_append, hstarts]
    rfl

/-- What a call knows that has looked at the flag. -/
def Looked (i : ι) (released : Bool) (events : List (ι × Event)) : Prop :=
  if released then (i, .looked true) ∈ events else LooksInTime i events

theorem lasting_looked (i : ι) (released : Bool) : Lasting (Looked i released) := by
  cases released with
  | true => exact fun events x h ↦ List.mem_append_left _ h
  | false => exact lasting_looksInTime i

/-- The flag is down only as long as nobody has raised it. -/
theorem Inv.looked {events : List (ι × Event)} {s : DatabaseService} (h : Inv events s) (i : ι) :
    Looked i s.released (events ++ [(i, .looked s.released)]) := by
  cases hreleased : s.released with
  | true => exact List.mem_append_right _ List.mem_cons_self
  | false =>
    refine ⟨events, [], rfl, fun hraised ↦ ?_⟩
    rw [← h.released, hreleased] at hraised
    cases hraised

/-- A call waits at the cell while the database is being started. -/
theorem cell_of_enter_eq_none {s : DatabaseService} (h : s.enter = none) : s.cell = .starting := by
  unfold enter at h
  split at h <;> simp_all

/-- A call enters an empty cell with the duty to start, and passes one that is settled. -/
theorem eq_of_enter {s s' : DatabaseService} {found : Option (Except String DatabaseHandle)}
    (h : s.enter = some (found, s')) :
    found = none ∧ s.cell = .empty ∧ s' = { s with cell := .starting } ∨
      ∃ outcome, found = some outcome ∧ s.cell = .settled outcome ∧ s' = s := by
  unfold enter at h
  split at h <;> simp_all

/-- What a call knows that has entered the cell: it has to start the database, or it has found what
the start came to. -/
def Entered (i : ι) : Option (Except String DatabaseHandle) →
    Course ι Event (DatabaseService × δ) → Prop
  | none => Starting i (LooksInTime i) []
  | some outcome => Between fun events ↦ LooksInTime i events ∧ Known outcome events

theorem stable_entered (i : ι) (found : Option (Except String DatabaseHandle)) :
    (terms (δ := δ) i).Stable (Entered i found) := by
  cases found with
  | none => exact stable_starting (lasting_looksInTime i) i []
  | some outcome =>
    exact stable_between ((lasting_looksInTime i).and (lasting_known outcome)) i

/-- Whoever enters the cell knows what is to be done. -/
theorem entered_of_enter {i : ι} {c : Course ι Event (DatabaseService × δ)}
    (hc : Between (LooksInTime i) c) {found : Option (Except String DatabaseHandle)}
    {s : DatabaseService} (h : c.state.1.enter = some (found, s)) :
    (terms i).guarantee c (c.extend i (.entered found.isNone) (s, c.state.2)) ∧
      Entered i found (c.extend i (.entered found.isNone) (s, c.state.2)) := by
  have htells := hc.1.cell
  rcases eq_of_enter h with ⟨rfl, hcell, rfl⟩ | ⟨outcome, rfl, hcell, rfl⟩
  · obtain ⟨hguarantee, hd⟩ := hc.extend (lasting_looksInTime i) (.enter hcell)
    rw [hcell] at htells
    refine ⟨hguarantee, hd, isStarter_append.2 (Or.inr ⟨rfl, rfl⟩), rfl, ?_⟩
    rw [Course.extend_events, starts_append, htells.1]
    rfl
  · obtain ⟨hguarantee, hd, inTime⟩ := hc.extend (lasting_looksInTime i) (.pass hcell)
    rw [hcell] at htells
    obtain ⟨o, ho, houtcome⟩ := htells
    have hmem : o ∈ starts c.events := by
      rw [ho]
      exact List.mem_cons_self
    exact ⟨hguarantee, hd, inTime, lasting_known _ _ _ ⟨o, hmem, houtcome⟩⟩

/-- A call that acquires the database ends with an answer that it can account for. -/
theorem abides_acquire (p : Provisioner δ) (name : String) (i : ι) :
    Abides (terms i) i (acquire p name) (Between fun _ ↦ True)
      (fun a ↦ Between (Account name i · a)) := by
  refine abides_perform (R := fun released ↦ Between (Looked i released)) ?_
    (fun released ↦ stable_between (lasting_looked i released) i) fun released ↦ ?_
  · rintro c ⟨hc, -⟩
    exact ⟨⟨_, .look, rfl⟩, hc.step .look, hc.looked i⟩
  cases released with
  | true =>
    refine abides_pure ?_
    rintro c ⟨hc, looked⟩
    exact ⟨hc, .refused looked⟩
  | false =>
    refine abides_step (R := Entered i) ?_ ?_ (stable_entered i) fun found ↦ ?_
    · rintro c - hwait
      exact cell_of_enter_eq_none (Option.map_eq_none_iff.1 hwait)
    · rintro c hc found s hact
      obtain ⟨r, hr, hs⟩ := Option.map_eq_some_iff.1 hact
      cases hs
      exact entered_of_enter hc hr
    · cases found with
      | none =>
        show Abides (terms i) i (start p >>= fun outcome ↦ pure (answer outcome)) _ _
        refine Abides.bind (abides_start p (lasting_looksInTime i) i) fun outcome ↦ abides_pure ?_
        rintro c ⟨hc, inTime, known⟩
        exact ⟨hc, .served inTime known⟩
      | some outcome =>
        refine abides_pure ?_
        rintro c ⟨hc, inTime, known⟩
        exact ⟨hc, .served inTime known⟩

/-! ### Releasing -/

theorem lasting_true : Lasting fun _ : List (ι × Event) ↦ True := fun _ _ _ ↦ trivial

/-- What a call knows that has raised the flag: nothing if it was up before, and that nothing was
stopped otherwise. -/
def Swapped (i : ι) : Bool → Course ι Event (DatabaseService × δ) → Prop
  | true => Between fun _ ↦ True
  | false => Releasing i fun _ ↦ True

theorem stable_swapped (i : ι) (before : Bool) : (terms (δ := δ) i).Stable (Swapped i before) := by
  cases before with
  | true => exact stable_between lasting_true i
  | false => exact stable_releasing lasting_true i

/-- Whoever raises the flag knows what is to be done. -/
theorem swapped_of_between {i : ι} {c : Course ι Event (DatabaseService × δ)}
    (hc : Between (fun _ ↦ True) c) :
    Swapped i c.state.1.released (c.extend i (.swapped c.state.1.released)
      ({ c.state.1 with released := true }, c.state.2)) := by
  obtain ⟨-, hd⟩ := hc.extend (i := i) (d := c.state.2) lasting_true .swap
  cases hreleased : c.state.1.released with
  | true =>
    rw [hreleased] at hd
    exact hd
  | false =>
    rw [hreleased] at hd
    refine ⟨hd, isReleaser_append.2 (Or.inr ⟨rfl, rfl⟩), ?_⟩
    rw [Course.extend_events, stops_append, hc.1.unreleased hreleased]
    rfl

/-- The instance was started. -/
def Runs (running : Option Instance) (events : List (ι × Event)) : Prop :=
  ∀ r, running = some r → .ok r ∈ starts events

theorem lasting_runs (running : Option Instance) : Lasting (Runs (ι := ι) running) :=
  fun events x h r hr ↦ lasting_mem_starts _ events x (h r hr)

/-- A call that releases the database stops it only if it was started and nobody has done so. -/
theorem abides_release (p : Provisioner δ) (i : ι) :
    Abides (terms i) i (release p) (Between fun _ ↦ True) (fun _ ↦ Between fun _ ↦ True) := by
  refine abides_perform (R := Swapped i) ?_ (stable_swapped i) fun before ↦ ?_
  · rintro c hc
    exact ⟨(hc.extend lasting_true .swap).1, swapped_of_between hc⟩
  cases before with
  | true => exact abides_pure fun _ hc ↦ hc
  | false =>
    refine abides_perform (R := fun running ↦ Releasing i (Runs running)) ?_
      (fun running ↦ stable_releasing (lasting_runs running) i) fun running ↦ ?_
    · rintro c ⟨hc, role, hstops⟩
      obtain ⟨hguarantee, hd, -⟩ := hc.extend lasting_true (.take role)
      refine ⟨hguarantee, ⟨hd, lasting_runs _ _ _ hc.1.running⟩,
        isReleaser_append.2 (Or.inl role), ?_⟩
      rw [Course.extend_events, stops_append, hstops]
      rfl
    cases running with
    | none =>
      refine abides_pure ?_
      rintro c ⟨⟨hc, -⟩, -⟩
      exact ⟨hc, trivial⟩
    | some r =>
      refine abides_step (R := fun _ ↦ Between fun _ ↦ True) (fun _ _ h ↦ nomatch h) ?_
        (fun _ ↦ stable_between lasting_true i) fun _ ↦ abides_pure fun _ hc ↦ hc
      rintro c ⟨⟨hc, hruns⟩, role, hstops⟩ outcome s hact
      obtain ⟨rfl, rfl⟩ := Prod.mk.inj (Option.some.inj hact)
      exact Between.extend lasting_true ⟨hc, trivial⟩ (.stop role hstops (hruns r rfl))

/-! ### All calls together -/

/-- A call on a database. -/
inductive Call where
  | acquire
  | release
  deriving DecidableEq

/-- What a call comes to. -/
inductive Reply where
  | acquired (outcome : Except Error DatabaseHandle)
  | released (outcome : Except Error Unit)

/-- The program of a call. -/
def Call.program (p : Provisioner δ) (name : String) : Call → Operation δ Reply
  | .acquire => do return .acquired (← DatabaseService.acquire p name)
  | .release => do return .released (← DatabaseService.release p)

/-- What a call knows in the end. -/
def Replied (name : String) (i : ι) : Reply → List (ι × Event) → Prop
  | .acquired a, events => Account name i events a
  | .released _, _ => True

theorem abides_call (p : Provisioner δ) (name : String) (i : ι) (call : Call) :
    Abides (terms i) i (call.program p name) (Between fun _ ↦ True)
      (fun reply ↦ Between (Replied name i reply)) := by
  cases call with
  | acquire => exact Abides.bind (abides_acquire p name i) fun _ ↦ abides_pure fun _ hc ↦ hc
  | release => exact Abides.bind (abides_release p i) fun _ ↦ abides_pure fun _ hc ↦ hc

/-- The calls fit together, from a new service on. -/
theorem accord [DecidableEq ι] (p : Provisioner δ) (name : String) (d : δ) (calls : ι → Call) :
    Accord terms (fun i ↦ (calls i).program p name) ({ name }, d) (fun _ ↦ Between fun _ ↦ True)
      (fun i reply ↦ Between (Replied name i reply)) where
  abides i := abides_call p name i (calls i)
  stable i := stable_between lasting_true i
  compatible i _ hij _ _ h := Or.inl ⟨i, hij, h⟩
  initially _ := ⟨inv_start name, trivial⟩

/-- What holds of one database at a point of a run of calls: one call at most had to start it and
one at most to stop it, and each did so once at most; whoever has a handle has that of the one
start, and whoever was not refused and has none has the failure of that start; and nobody has a
handle who came after the flag was raised. -/
structure SharedOnce (name : String) (ps : ι → Operation δ Reply)
    (c : Course ι Event (DatabaseService × δ)) : Prop where
  starter : ∀ i j, IsStarter i c.events → IsStarter j c.events → i = j
  length_starts : (starts c.events).length ≤ 1
  releaser : ∀ i j, IsReleaser i c.events → IsReleaser j c.events → i = j
  length_stops : (stops c.events).length ≤ 1
  stopped : ∀ r ∈ stops c.events, .ok r ∈ starts c.events
  served : ∀ i handle, (ps i).answer? = some (.acquired (.ok handle)) →
    ∃ r, starts c.events = [.ok r] ∧ handle = r.handle
  failed : ∀ i e, (ps i).answer? = some (.acquired (.error e)) →
    (i, .looked true) ∈ c.events ∧ e = releasedError name ∨
      ∃ cause, starts c.events = [.error cause] ∧ e = .provisioning cause.message
  handles : ∀ i j handle handle', (ps i).answer? = some (.acquired (.ok handle)) →
    (ps j).answer? = some (.acquired (.ok handle')) → handle = handle'
  failures : ∀ i j e e', (ps i).answer? = some (.acquired (.error e)) →
    (ps j).answer? = some (.acquired (.error e')) → (i, .looked true) ∉ c.events →
    (j, .looked true) ∉ c.events → e.message = e'.message
  late : ∀ i before after, c.events = before ++ after → Raised before →
    (∀ e, (i, e) ∉ before) → ∀ handle, (ps i).answer? ≠ some (.acquired (.ok handle))

section Accounts

variable {name : String} {i : ι} {events : List (ι × Event)}

theorem Known.exists_starts {outcome : Except String DatabaseHandle} (h : Known outcome events)
    (hstarts : (starts events).length ≤ 1) :
    ∃ o, starts events = [o] ∧ outcome = rendered o := by
  obtain ⟨o, ho, houtcome⟩ := h
  obtain ⟨x, hx⟩ := List.length_eq_one_iff.1
    (Nat.le_antisymm hstarts (List.length_pos_of_mem ho))
  rw [hx] at ho
  exact ⟨o, by rw [hx, List.mem_singleton.1 ho], houtcome⟩

/-- A handle is that of the start, for a call that came in time. -/
theorem Account.of_ok {handle : DatabaseHandle} (h : Account name i events (.ok handle))
    (hstarts : (starts events).length ≤ 1) :
    LooksInTime i events ∧ ∃ r, starts events = [.ok r] ∧ handle = r.handle := by
  generalize ha : Except.ok (ε := Error) handle = a at h
  cases h with
  | refused => cases ha
  | served inTime known =>
    obtain ⟨o, ho, rfl⟩ := known.exists_starts hstarts
    cases o with
    | error e => cases ha
    | ok r => exact ⟨inTime, r, ho, Except.ok.inj ha⟩

/-- A failure is the refusal, or that of the start. -/
theorem Account.of_error {e : Error} (h : Account name i events (.error e))
    (hstarts : (starts events).length ≤ 1) :
    (i, .looked true) ∈ events ∧ e = releasedError name ∨
      ∃ cause, starts events = [.error cause] ∧ e = .provisioning cause.message := by
  generalize ha : Except.error (α := DatabaseHandle) e = a at h
  cases h with
  | refused looked => exact Or.inl ⟨looked, Except.error.inj ha⟩
  | served inTime known =>
    obtain ⟨o, ho, rfl⟩ := known.exists_starts hstarts
    cases o with
    | error cause => exact Or.inr ⟨cause, ho, Except.error.inj ha⟩
    | ok r => cases ha

/-- Whoever came in time did something before the flag was raised. -/
theorem LooksInTime.exists_mem (h : LooksInTime i events) {before after : List (ι × Event)}
    (hsplit : events = before ++ after) (hraised : Raised before) : ∃ e, (i, e) ∈ before := by
  obtain ⟨early, late, hearly, hdown⟩ := h
  rcases List.append_eq_append_iff.1 (hsplit.symm.trans hearly) with
    ⟨rest, rfl, -⟩ | ⟨rest, rfl, hrest⟩
  · -- the flag was raised before the look
    obtain ⟨j, b, hj⟩ := hraised
    exact absurd ⟨j, b, List.mem_append_left _ hj⟩ hdown
  · cases rest with
    | nil =>
      rw [List.append_nil] at hraised
      exact absurd hraised hdown
    | cons x rest =>
      obtain rfl := (List.cons.inj hrest).1
      exact ⟨_, List.mem_append_right _ List.mem_cons_self⟩

end Accounts

/-- **A database is started once and stopped once, for all who share it.** At every point of every
run of any number of calls that acquire and release a new service, it was started once at most;
something was stopped once at most, and only what a start came to; all handles that were given are
that of the start; all failures of the start have the same text; and whoever begins to acquire after
the flag was raised is given no handle. -/
theorem shared_once [DecidableEq ι] (p : Provisioner δ) (name : String) (d : δ) (calls : ι → Call)
    {ps : ι → Operation δ Reply} {c : Course ι Event (DatabaseService × δ)}
    (h : Reaches (fun i ↦ (calls i).program p name) ({ name }, d) ps c) : SharedOnce name ps c := by
  have haccord := accord p name d calls
  have hinv : Inv c.events c.state.1 := by
    refine haccord.invariant (I := fun c ↦ Inv c.events c.state.1) (inv_start name) ?_ h
    rintro i c c' ⟨e, hstep, hevents⟩ hc
    rw [hevents]
    exact hc.step hstep
  have haccount (i : ι) (a : Except Error DatabaseHandle)
      (ha : (ps i).answer? = some (.acquired a)) : Account name i c.events a :=
    (haccord.answer h ha).2
  have hserved (i : ι) (handle : DatabaseHandle)
      (ha : (ps i).answer? = some (.acquired (.ok handle))) :=
    ((haccount i _ ha).of_ok hinv.length_starts).2
  have hfailed (i : ι) (e : Error) (ha : (ps i).answer? = some (.acquired (.error e))) :=
    (haccount i _ ha).of_error hinv.length_starts
  refine ⟨hinv.starter, hinv.length_starts, hinv.releaser, hinv.length_stops, hinv.stopped,
    hserved, hfailed, ?_, ?_, ?_⟩
  · intro i j handle handle' hi hj
    obtain ⟨r, hr, rfl⟩ := hserved i handle hi
    obtain ⟨r', hr', rfl⟩ := hserved j handle' hj
    cases (List.cons.inj (hr.symm.trans hr')).1
    rfl
  · intro i j e e' hi hj hilooked hjlooked
    obtain ⟨cause, hcause, rfl⟩ := (hfailed i e hi).resolve_left fun h ↦ hilooked h.1
    obtain ⟨cause', hcause', rfl⟩ := (hfailed j e' hj).resolve_left fun h ↦ hjlooked h.1
    cases (List.cons.inj (hcause.symm.trans hcause')).1
    rfl
  · intro i before after hsplit hraised hbefore handle ha
    obtain ⟨inTime, -⟩ := (haccount i _ ha).of_ok hinv.length_starts
    obtain ⟨e, he⟩ := inTime.exists_mem hsplit hraised
    exact hbefore e he

/-- Five calls: two get the handle of one start although the flag is raised meanwhile, one comes
late, and of two releases the first stops the database. -/
theorem shared_once_rehearsal :
    let handle : DatabaseHandle := ⟨"driver", "url", "root", ""⟩
    let p : Provisioner Nat := {
      start := fun n ↦ (.ok ⟨n, handle⟩, n + 1)
      stop := fun _ n ↦ (.ok (), n) }
    let calls (i : Nat) : Call := if i = 2 ∨ i = 4 then .release else .acquire
    let order := [0, 1, 0, 0, 2, 0, 2, 0, 1, 2, 3, 4]
    ∃ r, turns order (fun i ↦ (calls i).program p "mysql") ⟨[], ({ name := "mysql" }, 0)⟩ = some r ∧
      (r.1 0).answer? = some (.acquired (.ok handle)) ∧
      (r.1 1).answer? = some (.acquired (.ok handle)) ∧
      (r.1 3).answer? = some (.acquired (.error (releasedError "mysql"))) ∧
      stops r.2.events = [⟨0, handle⟩] ∧ SharedOnce "mysql" r.1 r.2 := by
  intro handle p calls order
  obtain ⟨r, hr, hfirst, hsecond, hlate, hstops⟩ : ∃ r,
      turns order (fun i ↦ (calls i).program p "mysql") ⟨[], ({ name := "mysql" }, 0)⟩ = some r ∧
      (r.1 0).answer? = some (.acquired (.ok handle)) ∧
      (r.1 1).answer? = some (.acquired (.ok handle)) ∧
      (r.1 3).answer? = some (.acquired (.error (releasedError "mysql"))) ∧
      stops r.2.events = [⟨0, handle⟩] := ⟨_, rfl, rfl, rfl, rfl, rfl⟩
  refine ⟨r, hr, hfirst, hsecond, hlate, hstops, ?_⟩
  exact shared_once p "mysql" 0 calls (Reaches.start.turns hr)

end DatabaseService

end SchemaForge
