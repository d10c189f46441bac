import Mathlib.Data.List.Induction
import SchemaForge.Proofs.DatabaseService.Sharing
import SchemaForge.Proofs.Program.Trace

/-!
# Which databases are stopped

`DatabaseService.release` stops the instance that it finds in the slot, and the slot is filled by
the call that starts the database, after the start. So it depends on the order of the steps whether
an instance that was started is ever stopped, and after the first release nobody tries again.

`DatabaseService.stopped_iff_storedInTime` has the whole story: when all calls have returned and
one of them was a release, the instances that were stopped are those that were stored before the
slot was emptied. This is every one of them if no call was acquiring the database when the flag was
raised, and in general it is not (`DatabaseService.not_leakFree`).

Two things are needed that `DatabaseService.Moves` does not give at once. What is in the slot is
what the trace says (`DatabaseService.held`), which is read off the steps; and a call that has
returned has gone through to its end, which is read off its program alone
(`DatabaseService.trace_of_acquire`, `DatabaseService.trace_of_release`).
-/

namespace SchemaForge

namespace DatabaseService

open Program

variable {ι δ : Type}

/-! ### The slot -/

/-- What a step leaves in the slot. -/
def Event.keep (slot : Option Instance) : Event → Option Instance
  | .stored running => some running
  | .took _ => none
  | _ => slot

/-- What the slot holds after what has been done. -/
def held (events : List (ι × Event)) : Option Instance :=
  events.foldl (fun slot x ↦ x.2.keep slot) none

@[simp] theorem held_append (events : List (ι × Event)) (i : ι) (e : Event) :
    held (events ++ [(i, e)]) = e.keep (held events) := by
  rw [held, List.foldl_append]
  rfl

/-- Somebody has emptied the slot. -/
def Taken (events : List (ι × Event)) : Prop := ∃ i running, (i, .took running) ∈ events

/-- The instance was put into the slot. -/
def Stored (r : Instance) (events : List (ι × Event)) : Prop := ∃ i, (i, .stored r) ∈ events

/-- What is in the slot was put there. -/
theorem stored_of_held {events : List (ι × Event)} {r : Instance} (h : held events = some r) :
    Stored r events := by
  induction events using List.reverseRecOn with
  | nil => cases h
  | append_singleton events x ih =>
    obtain ⟨i, e⟩ := x
    rw [held_append] at h
    cases e with
    | stored running =>
      obtain rfl := Option.some.inj h
      exact ⟨i, List.mem_append_right _ List.mem_cons_self⟩
    | took running => cases h
    | _ =>
      obtain ⟨j, hj⟩ := ih h
      exact ⟨j, List.mem_append_left _ hj⟩

/-- What was put into the slot is still there, or something that came later, as long as nobody has
emptied it. -/
theorem exists_held {events : List (ι × Event)} {r : Instance} (h : Stored r events)
    (htaken : ¬Taken events) : ∃ r', held events = some r' := by
  induction events using List.reverseRecOn with
  | nil =>
    obtain ⟨_, h⟩ := h
    cases h
  | append_singleton events x ih =>
    obtain ⟨i, e⟩ := x
    have hbefore : ¬Taken events :=
      fun ⟨j, running, hj⟩ ↦ htaken ⟨j, running, List.mem_append_left _ hj⟩
    rw [held_append]
    cases e with
    | stored running => exact ⟨running, rfl⟩
    | took running => exact absurd ⟨i, running, List.mem_append_right _ List.mem_cons_self⟩ htaken
    | _ =>
      obtain ⟨j, hj⟩ := h
      refine ih ⟨j, ?_⟩ hbefore
      rcases List.mem_append.1 hj with hj | hj
      · exact hj
      · cases List.mem_singleton.1 hj

/-! ### Every event has its grounds -/

/-- What must have been done for an event to follow. -/
def Grounded (before : List (ι × Event)) (i : ι) : Event → Prop
  | .looked false => ¬Raised before
  | .swapped true => Raised before
  | .stored running => .ok running ∈ starts before
  | .took running => running = held before ∧ IsReleaser i before
  | _ => True

/-- Each event of the trace had its grounds when it came, and the slot holds what the trace says. -/
structure Ledger (events : List (ι × Event)) (s : DatabaseService) : Prop where
  running : s.running = held events
  grounded : ∀ before i e after, events = before ++ (i, e) :: after → Grounded before i e

theorem ledger_start (name : String) : Ledger ([] : List (ι × Event)) { name } where
  running := rfl
  grounded before _ _ _ h := by cases before <;> cases h

variable {events : List (ι × Event)} {s s' : DatabaseService} {i : ι} {e : Event}

/-- A step has the grounds for its event. -/
theorem Moves.grounded (h : Moves events i s e s') (hinv : Inv events s)
    (hrunning : s.running = held events) : Grounded events i e := by
  cases h with
  | look =>
    cases hreleased : s.released with
    | true => trivial
    | false =>
      intro hraised
      rw [← hinv.released, hreleased] at hraised
      cases hraised
  | swap =>
    cases hreleased : s.released with
    | true => exact hinv.released.1 hreleased
    | false => trivial
  | enter | pass | start | publish | stop => trivial
  | store role started =>
    show _ ∈ starts events
    rw [started]
    exact List.mem_cons_self
  | take role => exact ⟨hrunning, role⟩

/-- **Every step keeps the ledger.** -/
theorem Ledger.step (h : Ledger events s) (hinv : Inv events s) (hstep : Moves events i s e s') :
    Ledger (events ++ [(i, e)]) s' := by
  have hgrounds := hstep.grounded hinv h.running
  refine ⟨?_, fun before j e' after hsplit ↦ ?_⟩
  · rw [held_append, ← h.running]
    cases hstep <;> rfl
  · rcases List.eq_nil_or_concat after with rfl | ⟨rest, x, rfl⟩
    · obtain ⟨rfl, hlast⟩ := List.append_inj' hsplit rfl
      cases hlast
      exact hgrounds
    · rw [List.concat_eq_append, ← List.cons_append, ← List.append_assoc] at hsplit
      obtain ⟨rfl, -⟩ := List.append_inj' hsplit rfl
      exact h.grounded before j e' rest rfl

/-- If the flag was raised, somebody was the first to raise it. -/
theorem Ledger.exists_isReleaser (h : Ledger events s) (hraised : Raised events) :
    ∃ i, IsReleaser i events := by
  replace h := h.grounded
  induction events using List.reverseRecOn with
  | nil =>
    obtain ⟨_, _, hraised⟩ := hraised
    cases hraised
  | append_singleton events x ih =>
    obtain ⟨i, e⟩ := x
    have hbefore : Raised events → ∃ j, IsReleaser j (events ++ [(i, e)]) := by
      intro hraised
      obtain ⟨j, hj⟩ := ih hraised fun before k e' after hsplit ↦
        h before k e' (after ++ [(i, e)]) (by rw [hsplit, List.append_assoc, List.cons_append])
      exact ⟨j, List.mem_append_left _ hj⟩
    rcases raised_append.1 hraised with hraised | ⟨_ | _, rfl⟩
    · exact hbefore hraised
    · exact ⟨i, List.mem_append_right _ List.mem_cons_self⟩
    · exact hbefore (h events i (.swapped true) [] rfl)

/-! ### Calls that have returned -/

/-- What a call that acquires a database has done when it returns. -/
inductive Acquiring : List Event → Prop
  | refused : Acquiring [.looked true]
  | passed : Acquiring [.looked false, .entered false]
  | started (r : Instance) (outcome : Except String DatabaseHandle) :
      Acquiring [.looked false, .entered true, .started (.ok r), .stored r, .published outcome]
  | failed (e : Error) (outcome : Except String DatabaseHandle) :
      Acquiring [.looked false, .entered true, .started (.error e), .published outcome]

/-- What a call that releases a database has done when it returns. -/
inductive ReleasedBy : List Event → Prop
  | late : ReleasedBy [.swapped true]
  | nothing : ReleasedBy [.swapped false, .took none]
  | stopped (r : Instance) (outcome : Except Error Unit) :
      ReleasedBy [.swapped false, .took (some r), .stopped r outcome]

theorem trace_of_start {p : Provisioner δ} {steps : List (Footstep Event (DatabaseService × δ))}
    {a : Except String DatabaseHandle} (h : (start p).Takes steps (done a)) :
    (∃ r, steps.map Footstep.event = [.started (.ok r), .stored r, .published a]) ∨
      ∃ e, steps.map Footstep.event = [.started (.error e), .published a] := by
  obtain ⟨_, started, _, _, -, rfl, hrest⟩ := takes_perform_bind_done.1 h
  cases started with
  | ok r =>
    obtain ⟨_, _, _, _, -, rfl, hpublish⟩ := takes_perform_bind_done.1 hrest
    obtain ⟨_, _, _, _, -, rfl, hend⟩ := takes_perform_bind_done.1 hpublish
    obtain ⟨rfl, hdone⟩ := takes_pure.1 hend
    cases hdone
    exact Or.inl ⟨r, rfl⟩
  | error e =>
    obtain ⟨_, _, _, _, -, rfl, hend⟩ := takes_perform_bind_done.1 hrest
    obtain ⟨rfl, hdone⟩ := takes_pure.1 hend
    cases hdone
    exact Or.inr ⟨e, rfl⟩

theorem trace_of_acquire {p : Provisioner δ} {name : String}
    {steps : List (Footstep Event (DatabaseService × δ))} {a : Except Error DatabaseHandle}
    (h : (acquire p name).Takes steps (done a)) : Acquiring (steps.map Footstep.event) := by
  obtain ⟨_, released, _, _, -, rfl, hlooked⟩ := takes_perform_bind_done.1 h
  cases released with
  | true =>
    obtain ⟨rfl, -⟩ := takes_pure.1 hlooked
    exact .refused
  | false =>
    obtain ⟨_, found, _, _, -, rfl, hentered⟩ := takes_step_bind_done.1 hlooked
    cases found with
    | some outcome =>
      obtain ⟨rfl, -⟩ := takes_pure.1 hentered
      exact .passed
    | none =>
      obtain ⟨outcome, front, back, rfl, hfront, hback⟩ := takes_bind_done.1 hentered
      obtain ⟨rfl, -⟩ := takes_pure.1 hback
      rw [List.append_nil, List.map_cons, List.map_cons]
      rcases trace_of_start hfront with ⟨r, hr⟩ | ⟨e, he⟩
      · rw [hr]
        exact .started r outcome
      · rw [he]
        exact .failed e outcome

theorem trace_of_release {p : Provisioner δ}
    {steps : List (Footstep Event (DatabaseService × δ))} {a : Except Error Unit}
    (h : (release p).Takes steps (done a)) : ReleasedBy (steps.map Footstep.event) := by
  obtain ⟨_, before, _, _, -, rfl, hswapped⟩ := takes_perform_bind_done.1 h
  cases before with
  | true =>
    obtain ⟨rfl, -⟩ := takes_pure.1 hswapped
    exact .late
  | false =>
    obtain ⟨_, running, _, _, -, rfl, htook⟩ := takes_perform_bind_done.1 hswapped
    cases running with
    | none =>
      obtain ⟨rfl, -⟩ := takes_pure.1 htook
      exact .nothing
    | some r =>
      obtain ⟨_, _, -, rfl⟩ := takes_perform_done.1 htook
      exact .stopped r _

/-- What a call has done when it returns. -/
def Call.Trace : Call → List Event → Prop
  | .acquire => Acquiring
  | .release => ReleasedBy

/-- The event is one of a release. -/
def Event.OfRelease : Event → Prop
  | .swapped _ | .took _ | .stopped .. => True
  | _ => False

theorem Acquiring.not_ofRelease {events : List Event} (h : Acquiring events) {e : Event}
    (he : e ∈ events) : ¬e.OfRelease := by
  cases h <;> simp only [List.mem_cons, List.not_mem_nil, or_false] at he <;>
    rcases he with rfl | rfl | rfl | rfl | rfl <;> exact id

theorem ReleasedBy.exists_swapped {events : List Event} (h : ReleasedBy events) :
    ∃ before, .swapped before ∈ events := by
  cases h with
  | late => exact ⟨true, List.mem_cons_self⟩
  | nothing | stopped => exact ⟨false, List.mem_cons_self⟩

/-- Whoever found the flag down empties the slot. -/
theorem ReleasedBy.exists_took {events : List Event} (h : ReleasedBy events)
    (hfirst : .swapped false ∈ events) : ∃ running, .took running ∈ events := by
  cases h with
  | late => simp at hfirst
  | nothing => exact ⟨none, by simp⟩
  | stopped r => exact ⟨some r, by simp⟩

/-- The slot is emptied after the flag was raised, and what was in it is stopped. -/
theorem ReleasedBy.eq_of_took {events front back : List Event} {running : Option Instance}
    (h : ReleasedBy events) (hsplit : events = front ++ .took running :: back) :
    front = [.swapped false] ∧ ∀ r, running = some r → ∃ outcome, .stopped r outcome ∈ back := by
  cases h with
  | late =>
    rcases front with - | ⟨x, - | ⟨y, front⟩⟩ <;> cases hsplit
  | nothing =>
    rcases front with - | ⟨x, - | ⟨y, - | ⟨z, front⟩⟩⟩ <;> cases hsplit
    exact ⟨rfl, nofun⟩
  | stopped r outcome =>
    rcases front with - | ⟨x, - | ⟨y, - | ⟨z, - | ⟨w, front⟩⟩⟩⟩ <;> cases hsplit
    refine ⟨rfl, ?_⟩
    rintro r ⟨⟩
    exact ⟨outcome, List.mem_cons_self⟩

/-- Whoever has stopped an instance found it in the slot. -/
theorem ReleasedBy.took_of_stopped {events : List Event} (h : ReleasedBy events) {r : Instance}
    {outcome : Except Error Unit} (hstop : .stopped r outcome ∈ events) :
    .took (some r) ∈ events := by
  cases h <;> simp_all

/-! ### All calls together -/

theorem mem_starts {events : List (ι × Event)} {o : Except Error Instance} :
    o ∈ starts events ↔ ∃ i, (i, .started o) ∈ events := by
  rw [starts, List.mem_filterMap]
  constructor
  · rintro ⟨⟨i, e⟩, hmem, he⟩
    cases e with
    | started outcome =>
      obtain rfl := Option.some.inj he
      exact ⟨i, hmem⟩
    | _ => cases he
  · rintro ⟨i, hmem⟩
    exact ⟨_, hmem, rfl⟩

theorem mem_stops {events : List (ι × Event)} {r : Instance} :
    r ∈ stops events ↔ ∃ i outcome, (i, .stopped r outcome) ∈ events := by
  rw [stops, List.mem_filterMap]
  constructor
  · rintro ⟨⟨i, e⟩, hmem, he⟩
    cases e with
    | stopped running outcome =>
      obtain rfl := Option.some.inj he
      exact ⟨i, outcome, hmem⟩
    | _ => cases he
  · rintro ⟨i, outcome, hmem⟩
    exact ⟨_, hmem, rfl⟩

/-- The instance was in the slot when it was emptied. -/
def StoredInTime (r : Instance) (events : List (ι × Event)) : Prop :=
  ∃ i running before after, events = before ++ (i, .took running) :: after ∧ Stored r before

/-- No call was acquiring the database when the flag was first raised. -/
def RaisedAtRest (calls : ι → Call) (events : List (ι × Event)) : Prop :=
  ∀ i before after, events = before ++ (i, .swapped false) :: after → ∀ j, calls j = .acquire →
    (∀ e, (j, e) ∉ before) ∨ ∀ e, (j, e) ∉ after

/-- All calls have returned, from what can be said of them together and of each alone. -/
structure Settled [DecidableEq ι] (calls : ι → Call)
    (c : Course ι Event (DatabaseService × δ)) : Prop where
  inv : Inv c.events c.state.1
  ledger : Ledger c.events c.state.1
  trace : ∀ i, (calls i).Trace (own i c.events)

section Settled

variable [DecidableEq ι] {p : Provisioner δ} {name : String} {d : δ} {calls : ι → Call}
  {ps : ι → Operation δ Reply} {c : Course ι Event (DatabaseService × δ)}

theorem settled_of_reaches
    (h : Reaches (fun i ↦ (calls i).program p name) ({ name }, d) ps c)
    (hreturned : ∀ i, (ps i).answer?.isSome = true) : Settled calls c := by
  have haccord := accord p name d calls
  obtain ⟨hinv, hledger⟩ : Inv c.events c.state.1 ∧ Ledger c.events c.state.1 := by
    refine haccord.invariant (I := fun c ↦ Inv c.events c.state.1 ∧ Ledger c.events c.state.1)
      ⟨inv_start name, ledger_start name⟩ ?_ h
    rintro i c c' ⟨e, hstep, hevents⟩ ⟨hinv, hledger⟩
    rw [hevents]
    exact ⟨hinv.step hstep, hledger.step hinv hstep⟩
  refine ⟨hinv, hledger, fun i ↦ ?_⟩
  obtain ⟨steps, hsteps, hevents, -⟩ := h.takes i
  rw [← hevents]
  cases hi : ps i with
  | step act event next =>
    have hreturned := hreturned i
    rw [hi] at hreturned
    cases hreturned
  | done reply =>
    rw [hi] at hsteps
    cases hcall : calls i with
    | acquire =>
      rw [hcall] at hsteps
      obtain ⟨a, front, back, rfl, hfront, hback⟩ := takes_bind_done.1 hsteps
      obtain ⟨rfl, -⟩ := takes_pure.1 hback
      rw [List.append_nil]
      exact trace_of_acquire hfront
    | release =>
      rw [hcall] at hsteps
      obtain ⟨a, front, back, rfl, hfront, hback⟩ := takes_bind_done.1 hsteps
      obtain ⟨rfl, -⟩ := takes_pure.1 hback
      rw [List.append_nil]
      exact trace_of_release hfront

variable (h : Settled calls c)
include h

/-- Only releases do what releases do. -/
theorem Settled.released {i : ι} {e : Event} (hi : (i, e) ∈ c.events) (he : e.OfRelease) :
    calls i = .release ∧ ReleasedBy (own i c.events) := by
  have htrace := h.trace i
  cases hcall : calls i with
  | acquire =>
    rw [hcall] at htrace
    exact absurd he (Acquiring.not_ofRelease htrace (mem_own.2 hi))
  | release =>
    rw [hcall] at htrace
    exact ⟨rfl, htrace⟩

/-- Whoever emptied the slot was the releaser, who has done so once. -/
theorem Settled.of_took {i : ι} {running : Option Instance} {before after : List (ι × Event)}
    (hsplit : c.events = before ++ (i, .took running) :: after) :
    running = held before ∧ IsReleaser i before ∧ ¬Taken before ∧
      ∀ r, running = some r → r ∈ stops c.events := by
  obtain ⟨hrunning, hrole⟩ := h.ledger.grounded before i _ after hsplit
  have hmem (x : ι × Event) (hx : x ∈ before) : x ∈ c.events := by
    rw [hsplit]
    exact List.mem_append_left _ hx
  have hown : own i c.events = own i before ++ .took running :: own i after := by
    rw [hsplit, own_append, own_cons_self]
  obtain ⟨hfront, hback⟩ := (h.released (hmem _ hrole) trivial).2.eq_of_took hown
  refine ⟨hrunning, hrole, ?_, fun r hr ↦ ?_⟩
  · rintro ⟨j, other, hj⟩
    -- whoever did it before was the releaser too, and has only raised the flag so far
    obtain ⟨early, late, hbefore⟩ := List.append_of_mem hj
    obtain ⟨-, hjrole⟩ := h.ledger.grounded early j (.took other)
      (late ++ (i, .took running) :: after)
      (by rw [hsplit, hbefore, List.append_assoc, List.cons_append])
    have hji : j = i := by
      refine h.inv.releaser j i (hmem _ ?_) (hmem _ hrole)
      rw [hbefore]
      exact List.mem_append_left _ hjrole
    rw [hji, ← mem_own, hfront] at hj
    simp at hj
  · obtain ⟨outcome, hstop⟩ := hback r hr
    refine mem_stops.2 ⟨i, outcome, mem_own.1 ?_⟩
    rw [hown]
    exact List.mem_append_right _ (List.mem_cons_of_mem _ hstop)

theorem Settled.eq_of_mem_starts {r r' : Instance} (hr : .ok r ∈ starts c.events)
    (hr' : .ok r' ∈ starts c.events) : r = r' := by
  obtain ⟨o, ho⟩ := List.length_eq_one_iff.1
    (Nat.le_antisymm h.inv.length_starts (List.length_pos_of_mem hr))
  rw [ho, List.mem_singleton] at hr hr'
  exact Except.ok.inj (hr.trans hr'.symm)

theorem Settled.started_of_stored {r : Instance} {before after : List (ι × Event)}
    (hsplit : c.events = before ++ after) (hr : Stored r before) : .ok r ∈ starts c.events := by
  obtain ⟨i, hi⟩ := hr
  obtain ⟨early, late, rfl⟩ := List.append_of_mem hi
  have hstarted : .ok r ∈ starts early :=
    h.ledger.grounded early i (.stored r) (late ++ after)
      (by rw [hsplit, List.append_assoc, List.cons_append])
  obtain ⟨j, hj⟩ := mem_starts.1 hstarted
  refine mem_starts.2 ⟨j, ?_⟩
  rw [hsplit, List.append_assoc]
  exact List.mem_append_left _ hj

/-- What was stopped was in the slot when it was emptied, and what was in it then was stopped. -/
theorem Settled.mem_stops_iff (r : Instance) : r ∈ stops c.events ↔ StoredInTime r c.events := by
  constructor
  · intro hr
    obtain ⟨i, outcome, hstop⟩ := mem_stops.1 hr
    have htook := (h.released hstop trivial).2.took_of_stopped (mem_own.2 hstop)
    obtain ⟨before, after, hsplit⟩ := List.append_of_mem (mem_own.1 htook)
    exact ⟨i, some r, before, after, hsplit, stored_of_held (h.of_took hsplit).1.symm⟩
  · rintro ⟨i, running, before, after, hsplit, hstored⟩
    obtain ⟨hrunning, -, htaken, hstops⟩ := h.of_took hsplit
    obtain ⟨r', hr'⟩ := exists_held hstored htaken
    obtain rfl := h.eq_of_mem_starts (h.started_of_stored hsplit hstored)
      (h.started_of_stored hsplit (stored_of_held hr'))
    exact hstops r (hrunning.trans hr')

/-- Somebody has emptied the slot if there was a release. -/
theorem Settled.exists_took (hrelease : ∃ i, calls i = .release) :
    ∃ i running, (i, .took running) ∈ c.events := by
  obtain ⟨i, hi⟩ := hrelease
  have htrace := h.trace i
  rw [hi] at htrace
  obtain ⟨before, hswapped⟩ := ReleasedBy.exists_swapped htrace
  obtain ⟨j, hj⟩ := h.ledger.exists_isReleaser ⟨i, before, mem_own.1 hswapped⟩
  obtain ⟨running, htook⟩ := (h.released hj trivial).2.exists_took (mem_own.2 hj)
  exact ⟨j, running, mem_own.1 htook⟩

/-- A call that has started the database looked at the flag before and stored the instance after. -/
theorem Settled.of_started {r : Instance} (hr : .ok r ∈ starts c.events) :
    ∃ i, calls i = .acquire ∧ (i, .looked false) ∈ c.events ∧ (i, .stored r) ∈ c.events := by
  obtain ⟨i, hi⟩ := mem_starts.1 hr
  have htrace := h.trace i
  rw [← mem_own] at hi
  cases hcall : calls i with
  | release =>
    rw [hcall] at htrace
    generalize own i c.events = events at hi htrace
    cases htrace <;> simp at hi
  | acquire =>
    rw [hcall] at htrace
    refine ⟨i, hcall, ?_⟩
    rw [← mem_own, ← mem_own]
    generalize own i c.events = events at hi htrace
    cases htrace <;> simp_all

/-- Nothing outlives a release that comes when nobody acquires the database. -/
theorem Settled.mem_stops_of_raisedAtRest (hrelease : ∃ i, calls i = .release)
    (hrest : RaisedAtRest calls c.events) {r : Instance} (hr : .ok r ∈ starts c.events) :
    r ∈ stops c.events := by
  obtain ⟨k, running, htook⟩ := h.exists_took hrelease
  obtain ⟨before, after, hsplit⟩ := List.append_of_mem htook
  obtain ⟨-, hrole, -, -⟩ := h.of_took hsplit
  obtain ⟨early, late, hbefore⟩ := List.append_of_mem hrole
  have hraise : c.events =
      early ++ (k, .swapped false) :: (late ++ (k, .took running) :: after) := by
    rw [hsplit, hbefore, List.append_assoc, List.cons_append]
  obtain ⟨i, hi, hlooked, hstored⟩ := h.of_started hr
  refine (h.mem_stops_iff r).2 ⟨k, running, before, after, hsplit, i, ?_⟩
  rw [hbefore]
  rcases hrest k early _ hraise i hi with hlate | hdone
  · -- a call that begins afterwards finds the flag raised
    rw [hraise] at hlooked
    rcases List.mem_append.1 hlooked with hmem | hmem
    · exact absurd hmem (hlate _)
    · obtain ⟨front, back, hback⟩ := List.append_of_mem hmem
      cases front with
      | nil => cases hback
      | cons x front =>
        obtain ⟨rfl, -⟩ := List.cons.inj hback
        have hdown : ¬Raised (early ++ (k, .swapped false) :: front) :=
          h.ledger.grounded _ i (.looked false) back
            (by rw [hraise, hback, List.append_assoc])
        exact absurd ⟨k, false, List.mem_append_right _ List.mem_cons_self⟩ hdown
  · rw [hraise] at hstored
    rcases List.mem_append.1 hstored with hmem | hmem
    · exact List.mem_append_left _ hmem
    · rcases List.mem_cons.1 hmem with heq | hmem
      · cases heq
      · exact absurd hmem (hdone _)

end Settled

/-- No instance outlives its service: when all calls have returned and one of them was a release,
whatever was started is stopped. -/
def LeakFree [DecidableEq ι] (p : Provisioner δ) (name : String) (d : δ) (calls : ι → Call) :
    Prop :=
  ∀ ps c, Reaches (fun i ↦ (calls i).program p name) ({ name }, d) ps c →
    (∀ i, (ps i).answer?.isSome = true) → (∃ i, calls i = .release) →
    ∀ r, .ok r ∈ starts c.events → r ∈ stops c.events

/-- An instance can slip through: one call has looked at the flag, then another raises it and finds
the slot empty, and only then the first starts the database. -/
theorem not_leakFree :
    let handle : DatabaseHandle := ⟨"driver", "url", "root", ""⟩
    let p : Provisioner Nat := {
      start := fun n ↦ (.ok ⟨n, handle⟩, n + 1)
      stop := fun _ n ↦ (.ok (), n) }
    let calls (i : Fin 2) : Call := if i = 1 then .release else .acquire
    ¬LeakFree p "mysql" 0 calls := by
  intro handle p calls hfree
  obtain ⟨r, hr, hreturned, hstarts, hstops⟩ : ∃ r,
      turns [0, 1, 1, 0, 0, 0, 0] (fun i ↦ (calls i).program p "mysql")
        ⟨[], ({ name := "mysql" }, 0)⟩ = some r ∧
      (∀ i, (r.1 i).answer?.isSome = true) ∧
      starts r.2.events = [.ok ⟨0, handle⟩] ∧ stops r.2.events = [] :=
    ⟨_, rfl, fun | 0 => rfl | 1 => rfl, rfl, rfl⟩
  have hmem : .ok ⟨0, handle⟩ ∈ starts r.2.events := by
    rw [hstarts]
    exact List.mem_cons_self
  have hleft := hfree r.1 r.2 (Reaches.start.turns hr) hreturned ⟨1, rfl⟩ ⟨0, handle⟩ hmem
  rw [hstops] at hleft
  cases hleft

/-- **What is stopped is what was stored in time.** When all calls have returned and one of them was
a release, the instances that were stopped are those that were in the slot when it was emptied. If
no call was acquiring the database when the flag was first raised, these are all that were
started. -/
theorem stopped_iff_storedInTime [DecidableEq ι] (p : Provisioner δ) (name : String) (d : δ)
    (calls : ι → Call) {ps : ι → Operation δ Reply} {c : Course ι Event (DatabaseService × δ)}
    (h : Reaches (fun i ↦ (calls i).program p name) ({ name }, d) ps c)
    (hreturned : ∀ i, (ps i).answer?.isSome = true) (hrelease : ∃ i, calls i = .release) :
    (∀ r, r ∈ stops c.events ↔ StoredInTime r c.events) ∧
      (RaisedAtRest calls c.events → ∀ r, .ok r ∈ starts c.events → r ∈ stops c.events) := by
  have hsettled := settled_of_reaches h hreturned
  exact ⟨hsettled.mem_stops_iff, fun hrest _ ↦ hsettled.mem_stops_of_raisedAtRest hrelease hrest⟩

/-- The flag is raised when nobody acquires the database if none of those calls does anything from
there on. -/
theorem raisedAtRest_of_append {calls : ι → Call} {front back : List (ι × Event)}
    (hfront : ∀ i, ¬IsReleaser i front) (hback : ∀ x ∈ back, calls x.1 = .release) :
    RaisedAtRest calls (front ++ back) := by
  intro i before after hsplit j hj
  have hafter : after ⊆ back := by
    rcases List.append_eq_append_iff.1 hsplit with ⟨rest, rfl, rfl⟩ | ⟨rest, rfl, hrest⟩
    · exact fun x hx ↦ List.mem_append_right _ (List.mem_cons_of_mem _ hx)
    · cases rest with
      | nil =>
        rw [← show _ = back from hrest]
        exact List.subset_cons_self ..
      | cons x rest =>
        obtain ⟨rfl, -⟩ := List.cons.inj hrest
        exact absurd (List.mem_append_right _ List.mem_cons_self) (hfront i)
  refine Or.inr fun e he ↦ ?_
  have hcall := hback _ (hafter he)
  rw [hj] at hcall
  cases hcall

/-- Two calls acquire the database and return, then one releases it. -/
theorem stopped_iff_storedInTime_rehearsal :
    let handle : DatabaseHandle := ⟨"driver", "url", "root", ""⟩
    let p : Provisioner Nat := {
      start := fun n ↦ (.ok ⟨n, handle⟩, n + 1)
      stop := fun _ n ↦ (.ok (), n) }
    let calls (i : Fin 3) : Call := if i = 2 then .release else .acquire
    ∃ r, turns [0, 1, 0, 0, 0, 0, 1, 2, 2, 2] (fun i ↦ (calls i).program p "mysql")
        ⟨[], ({ name := "mysql" }, 0)⟩ = some r ∧
      (∀ i, (r.1 i).answer?.isSome = true) ∧ (∃ i, calls i = .release) ∧
      RaisedAtRest calls r.2.events ∧ .ok ⟨0, handle⟩ ∈ starts r.2.events ∧
      ⟨0, handle⟩ ∈ stops r.2.events ∧ StoredInTime ⟨0, handle⟩ r.2.events := by
  intro handle p calls
  obtain ⟨r, hr, hreturned, hevents, hfront, hback, hstarts⟩ : ∃ r,
      turns [0, 1, 0, 0, 0, 0, 1, 2, 2, 2] (fun i ↦ (calls i).program p "mysql")
        ⟨[], ({ name := "mysql" }, 0)⟩ = some r ∧
      (∀ i, (r.1 i).answer?.isSome = true) ∧
      r.2.events = r.2.events.take 7 ++ r.2.events.drop 7 ∧
      (∀ i, ¬IsReleaser i (r.2.events.take 7)) ∧
      (∀ x ∈ r.2.events.drop 7, calls x.1 = .release) ∧
      starts r.2.events = [.ok ⟨0, handle⟩] := by
    refine ⟨_, rfl, fun | 0 => rfl | 1 => rfl | 2 => rfl, rfl, ?_, ?_, rfl⟩
    · intro i hi
      simp [IsReleaser, Course.extend] at hi
    · intro x hx
      simp only [Course.extend, List.nil_append, List.cons_append, List.drop_succ_cons,
        List.drop_zero, List.mem_cons, List.not_mem_nil, or_false] at hx
      rcases hx with rfl | rfl | rfl <;> rfl
  have hrest : RaisedAtRest calls r.2.events := by
    rw [hevents]
    exact raisedAtRest_of_append hfront hback
  have hstarted : .ok ⟨0, handle⟩ ∈ starts r.2.events := by
    rw [hstarts]
    exact List.mem_cons_self
  obtain ⟨hiff, hall⟩ := stopped_iff_storedInTime p "mysql" 0 calls (Reaches.start.turns hr)
    hreturned ⟨2, rfl⟩
  have hstopped := hall hrest _ hstarted
  exact ⟨r, hr, hreturned, ⟨2, rfl⟩, hrest, hstarted, hstopped, (hiff _).1 hstopped⟩

end DatabaseService

end SchemaForge
