import SchemaForge.Proofs.DatabaseService.Moves
import SchemaForge.Proofs.Program.Trace

/-!
# A database between two calls

Calls that come one after the other find the database idle: nobody is starting it, and what there is
of it follows from what has been done (`DatabaseService.Idle`). An idle database makes nobody wait,
so each call comes to its end, and leaves it idle again (`DatabaseService.Idle.run_acquire`,
`DatabaseService.Idle.run_release`).

While nobody has released it, what runs is what was started. Afterwards that has been stopped, and
there is nothing more to start.
-/

namespace SchemaForge

namespace DatabaseService

open Program

variable {δ : Type}

/-! ### What has been done -/

/-- What a stop failed with, if the event announces that. -/
def Event.failure? : Event → Option Error
  | .stopped _ (.error e) => some e
  | .stopped _ (.ok ()) => none
  | _ => none

/-- The instances that starts have come to. -/
def instances (outcomes : List (Except Error Instance)) : List Instance :=
  outcomes.filterMap Except.toOption

/-- No call is under way on the database, after what has been done to it; `closed` says whether it
was released. -/
structure Idle (events : List Event) (closed : Prop) (s : DatabaseService) : Prop where
  released : s.released = true ↔ closed
  cell : s.cell = .empty ∧ events.filterMap Event.start? = [] ∨
    ∃ outcome, s.cell = .settled (rendered outcome) ∧ events.filterMap Event.start? = [outcome]
  /-- What runs is what was started. -/
  running : ¬closed → s.running.toList = instances (events.filterMap Event.start?)
  unstopped : ¬closed → events.filterMap Event.stop? = []
  /-- What was started is stopped. -/
  stopped : closed → events.filterMap Event.stop? = instances (events.filterMap Event.start?)

theorem idle_start (name : String) : Idle [] False { name } where
  released := ⟨nofun, nofun⟩
  cell := Or.inl ⟨rfl, rfl⟩
  running _ := rfl
  unstopped _ := rfl
  stopped := nofun

variable {events : List Event} {closed : Prop} {s : DatabaseService}

theorem Idle.length_starts (h : Idle events closed s) :
    (events.filterMap Event.start?).length ≤ 1 := by
  rcases h.cell with ⟨-, hstarts⟩ | ⟨outcome, -, hstarts⟩
  · rw [hstarts]
    exact Nat.zero_le 1
  · rw [hstarts]
    exact Nat.le_refl 1

/-- What was stopped is what was started, or nothing. -/
theorem Idle.stops_sublist (h : Idle events closed s) :
    (events.filterMap Event.stop?).Sublist (instances (events.filterMap Event.start?)) := by
  by_cases hclosed : closed
  · exact h.stopped hclosed ▸ List.Sublist.refl _
  · rw [h.unstopped hclosed]
    exact List.nil_sublist _

/-- What starts and stops nothing leaves the database as it is. -/
theorem Idle.append_quiet (h : Idle events closed s) {more : List Event}
    (hstart : more.filterMap Event.start? = []) (hstop : more.filterMap Event.stop? = []) :
    Idle (events ++ more) closed s := by
  have hstarts : (events ++ more).filterMap Event.start? = events.filterMap Event.start? := by
    rw [List.filterMap_append, hstart, List.append_nil]
  have hstops : (events ++ more).filterMap Event.stop? = events.filterMap Event.stop? := by
    rw [List.filterMap_append, hstop, List.append_nil]
  refine ⟨h.released, ?_, fun hc ↦ ?_, fun hc ↦ ?_, fun hc ↦ ?_⟩
  · rw [hstarts]
    exact h.cell
  · rw [hstarts]
    exact h.running hc
  · rw [hstops]
    exact h.unstopped hc
  · rw [hstarts, hstops]
    exact h.stopped hc

/-! ### Acquiring -/

/-- A start keeps what it has come to, and publishes it. -/
theorem run_start (p : Provisioner δ) (s : DatabaseService) (d : δ) :
    ∃ outcome more d', (start p).run (s, d) = some ⟨rendered outcome, .started outcome :: more,
        ({ s with
          cell := .settled (rendered outcome)
          running := outcome.toOption.or s.running }, d')⟩ ∧
      more.filterMap Event.start? = [] ∧ more.filterMap Event.stop? = [] := by
  rw [start, run_perform_bind]
  dsimp only
  generalize p.start d = started
  obtain ⟨outcome, d'⟩ := started
  cases outcome with
  | ok r => exact ⟨.ok r, [.stored r, .published (.ok r.handle)], d', rfl, rfl, rfl⟩
  | error e => exact ⟨.error e, [.published (.error e.message)], d', rfl, rfl, rfl⟩

/-- Whoever finds the cell empty starts the database. -/
theorem run_acquire_empty (p : Provisioner δ) {s : DatabaseService} (hreleased : s.released = false)
    (hcell : s.cell = .empty) (name : String) (d : δ) :
    ∃ outcome more d', (acquire p name).run (s, d) = some ⟨answer (rendered outcome),
        .looked false :: .entered true :: .started outcome :: more,
        ({ s with
          cell := .settled (rendered outcome)
          running := outcome.toOption.or s.running }, d')⟩ ∧
      more.filterMap Event.start? = [] ∧ more.filterMap Event.stop? = [] := by
  obtain ⟨sname, cell, running, released⟩ := s
  obtain rfl : released = false := hreleased
  obtain rfl : cell = .empty := hcell
  obtain ⟨outcome, more, d', hrun, hmore⟩ := run_start p ⟨sname, .starting, running, false⟩ d
  refine ⟨outcome, more, d', ?_, hmore⟩
  show (((start p >>= fun o ↦ pure (answer o)).run (_, d)).map _).map _ = _
  rw [run_bind, hrun]
  exact congrArg some (congrArg (Run.mk _ · _) (congrArg (_ :: _ :: ·) (List.append_nil _)))

/-- A call that acquires an idle database starts it if nobody has, and is refused if it was
released. -/
theorem Idle.run_acquire (h : Idle events closed s) (p : Provisioner δ) (name : String) (d : δ) :
    ∃ r, (acquire p name).run (s, d) = some r ∧ Idle (events ++ r.events) closed r.state.1 ∧
      (closed → r.answer = .error (releasedError name)) := by
  by_cases hclosed : closed
  · have hreleased := h.released.2 hclosed
    obtain ⟨sname, cell, running, released⟩ := s
    obtain rfl : released = true := hreleased
    exact ⟨⟨.error (releasedError name), [.looked true], (_, d)⟩, rfl, h.append_quiet rfl rfl,
      fun _ ↦ rfl⟩
  have hreleased : s.released = false := Bool.eq_false_iff.2 fun hs ↦ hclosed (h.released.1 hs)
  rcases h.cell with ⟨hcell, hstarts⟩ | ⟨outcome, hcell, -⟩
  · obtain ⟨outcome, more, d', hrun, hstart, hstop⟩ := run_acquire_empty p hreleased hcell name d
    have hstarts' : (events ++ .looked false :: .entered true :: .started outcome :: more).filterMap
        Event.start? = [outcome] := by
      rw [List.filterMap_append, hstarts]
      exact congrArg (outcome :: ·) hstart
    have hstops' : (events ++ .looked false :: .entered true :: .started outcome :: more).filterMap
        Event.stop? = [] := by
      rw [List.filterMap_append, h.unstopped hclosed]
      exact hstop
    -- what runs was started, and nothing was
    have hrunning : s.running = none := by
      have hlist := h.running hclosed
      rwa [hstarts, instances, List.filterMap_nil, Option.toList_eq_nil_iff] at hlist
    refine ⟨_, hrun, ?_, fun hc ↦ absurd hc hclosed⟩
    exact {
      released := h.released
      cell := Or.inr ⟨outcome, rfl, hstarts'⟩
      running := fun _ ↦ by
        rw [hstarts', hrunning]
        cases outcome <;> rfl
      unstopped := fun _ ↦ hstops'
      stopped := fun hc ↦ absurd hc hclosed }
  · obtain ⟨sname, cell, running, released⟩ := s
    obtain rfl : released = false := hreleased
    obtain rfl : cell = .settled (rendered outcome) := hcell
    exact ⟨⟨answer (rendered outcome), [.looked false, .entered false], (_, d)⟩, rfl,
      h.append_quiet rfl rfl, fun hc ↦ absurd hc hclosed⟩

/-! ### Releasing -/

/-- The first release stops what runs. -/
theorem Idle.close (h : Idle events closed s) (hopen : ¬closed) {more : List Event}
    (hstart : more.filterMap Event.start? = [])
    (hstop : more.filterMap Event.stop? = s.running.toList) :
    Idle (events ++ more) True { s with running := none, released := true } := by
  have hstarts : (events ++ more).filterMap Event.start? = events.filterMap Event.start? := by
    rw [List.filterMap_append, hstart, List.append_nil]
  refine ⟨⟨fun _ ↦ trivial, fun _ ↦ rfl⟩, ?_, fun hc ↦ absurd trivial hc,
    fun hc ↦ absurd trivial hc, fun _ ↦ ?_⟩
  · rw [hstarts]
    exact h.cell
  · rw [hstarts, List.filterMap_append, h.unstopped hopen, hstop, h.running hopen, List.nil_append]

/-- A call that releases an idle database stops what runs, unless it was released before, and
fails if the stop does. -/
theorem Idle.run_release (h : Idle events closed s) (p : Provisioner δ) (d : δ) :
    ∃ r, (release p).run (s, d) = some r ∧ Idle (events ++ r.events) True r.state.1 ∧
      (∀ e, r.answer = .error e → r.events.filterMap Event.failure? = [e]) ∧
      (r.answer = .ok () → r.events.filterMap Event.failure? = []) := by
  by_cases hclosed : closed
  · have hreleased := h.released.2 hclosed
    obtain rfl : closed = True := eq_true hclosed
    obtain ⟨sname, cell, running, released⟩ := s
    obtain rfl : released = true := hreleased
    exact ⟨⟨.ok (), [.swapped true], (_, d)⟩, rfl, h.append_quiet rfl rfl, nofun, fun _ ↦ rfl⟩
  have hreleased : s.released = false := Bool.eq_false_iff.2 fun hs ↦ hclosed (h.released.1 hs)
  obtain ⟨sname, cell, running, released⟩ := s
  obtain rfl : released = false := hreleased
  cases running with
  | none =>
    exact ⟨⟨.ok (), [.swapped false, .took none], (⟨sname, cell, none, true⟩, d)⟩, rfl,
      h.close hclosed rfl rfl, nofun, fun _ ↦ rfl⟩
  | some running =>
    obtain ⟨outcome, d', hstop⟩ : ∃ outcome d', p.stop running d = (outcome, d') := ⟨_, _, rfl⟩
    have hrun : (release p).run (⟨sname, cell, some running, false⟩, d) =
        some ⟨(p.stop running d).1, [.swapped false, .took running, .stopped running
          (p.stop running d).1], (⟨sname, cell, none, true⟩, (p.stop running d).2)⟩ := rfl
    rw [hstop] at hrun
    refine ⟨_, hrun, h.close hclosed rfl rfl, ?_, ?_⟩
    · rintro e ⟨⟩
      rfl
    · rintro ⟨⟩
      rfl

/-- What was started before the database was released is stopped by the release. -/
theorem Idle.stops_eq (h : Idle events closed s) (hopen : ¬closed) {more : List Event}
    {closed' : Prop} {s' : DatabaseService} (h' : Idle (events ++ more) closed' s')
    (hclosed : closed') {r : Instance} (hstarted : .ok r ∈ events.filterMap Event.start?) :
    more.filterMap Event.stop? = [r] := by
  have hlength := h'.length_starts
  have hstops := h'.stopped hclosed
  rw [List.filterMap_append] at hlength hstops
  rw [List.filterMap_append, h.unstopped hopen, List.nil_append] at hstops
  obtain ⟨outcome, hstarts⟩ : ∃ outcome, events.filterMap Event.start? = [outcome] := by
    rcases h.cell with ⟨-, hstarts⟩ | ⟨outcome, -, hstarts⟩
    · rw [hstarts] at hstarted
      cases hstarted
    · exact ⟨outcome, hstarts⟩
  rw [hstarts] at hstarted hlength hstops
  obtain rfl := List.mem_singleton.1 hstarted
  -- there is no room for another start
  have hmore : more.filterMap Event.start? = [] := by
    rw [List.length_append, List.length_singleton] at hlength
    exact List.length_eq_zero_iff.1 (by omega)
  rw [hstops, hmore]
  rfl

end DatabaseService

end SchemaForge
