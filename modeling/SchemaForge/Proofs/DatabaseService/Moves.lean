import SchemaForge.Build.DatabaseService
import SchemaForge.Proofs.Program.Interference

/-!
# The steps of those who share a database

Any number of parties acquire and release one database. `DatabaseService.Moves` is the list of the
steps that they take, each with the condition under which it is taken, and all that follows is read
off this list: what holds between any two steps (`DatabaseService.Inv`), and what one party knows
that the steps of the others leave true.

## Two roles

The party that finds the cell empty becomes the starter, and the party that finds the flag down
becomes the releaser. Each role is taken once. Nobody but the starter changes a cell that has been
entered or starts anything, and nobody but the releaser stops anything, so either of them works
undisturbed between its own steps.

Which steps have been taken is read off the trace: who has which role, what the starts have come to
(`DatabaseService.starts`) and which instances were stopped (`DatabaseService.stops`).
-/

namespace SchemaForge

namespace DatabaseService

variable {ι : Type}

/-! ### Traces -/

/-- What a start came to, if the event announces one. -/
def Event.start? : Event → Option (Except Error Instance)
  | .started outcome => some outcome
  | _ => none

/-- The instance that was stopped, if the event announces that. -/
def Event.stop? : Event → Option Instance
  | .stopped running _ => some running
  | _ => none

/-- What the starts have come to. -/
def starts (events : List (ι × Event)) : List (Except Error Instance) :=
  events.filterMap fun x ↦ x.2.start?

/-- The instances that were stopped. -/
def stops (events : List (ι × Event)) : List Instance :=
  events.filterMap fun x ↦ x.2.stop?

@[simp] theorem starts_append (events : List (ι × Event)) (i : ι) (e : Event) :
    starts (events ++ [(i, e)]) = starts events ++ e.start?.toList := by
  rw [starts, List.filterMap_append]
  cases h : e.start? <;> simp [starts, h]

@[simp] theorem stops_append (events : List (ι × Event)) (i : ι) (e : Event) :
    stops (events ++ [(i, e)]) = stops events ++ e.stop?.toList := by
  rw [stops, List.filterMap_append]
  cases h : e.stop? <;> simp [stops, h]

/-- The party found the cell empty. -/
def IsStarter (i : ι) (events : List (ι × Event)) : Prop := (i, .entered true) ∈ events

/-- The party found the flag down. -/
def IsReleaser (i : ι) (events : List (ι × Event)) : Prop := (i, .swapped false) ∈ events

/-- Somebody has raised the flag. -/
def Raised (events : List (ι × Event)) : Prop := ∃ i before, (i, .swapped before) ∈ events

theorem isStarter_append {events : List (ι × Event)} {i j : ι} {e : Event} :
    IsStarter j (events ++ [(i, e)]) ↔ IsStarter j events ∨ j = i ∧ e = .entered true := by
  simp [IsStarter, eq_comm]

theorem isReleaser_append {events : List (ι × Event)} {i j : ι} {e : Event} :
    IsReleaser j (events ++ [(i, e)]) ↔ IsReleaser j events ∨ j = i ∧ e = .swapped false := by
  simp [IsReleaser, eq_comm]

theorem raised_append {events : List (ι × Event)} {i : ι} {e : Event} :
    Raised (events ++ [(i, e)]) ↔ Raised events ∨ ∃ before, e = .swapped before := by
  constructor
  · rintro ⟨j, before, h⟩
    rcases List.mem_append.1 h with h | h
    · exact Or.inl ⟨j, before, h⟩
    · exact Or.inr ⟨before, (congrArg Prod.snd (List.mem_singleton.1 h)).symm⟩
  · rintro (⟨j, before, h⟩ | ⟨before, rfl⟩)
    · exact ⟨j, before, List.mem_append_left _ h⟩
    · exact ⟨i, before, List.mem_append_right _ List.mem_cons_self⟩

/-! ### Steps -/

/-- A step of a party after what has been done so far: what it makes of the service, and what it
announces. -/
inductive Moves (events : List (ι × Event)) (i : ι) (s : DatabaseService) :
    Event → DatabaseService → Prop
  | look : Moves events i s (.looked s.released) s
  | enter (h : s.cell = .empty) : Moves events i s (.entered true) { s with cell := .starting }
  | pass {outcome : Except String DatabaseHandle} (h : s.cell = .settled outcome) :
      Moves events i s (.entered false) s
  | start {outcome : Except Error Instance} (role : IsStarter i events) (h : s.cell = .starting)
      (first : starts events = []) : Moves events i s (.started outcome) s
  | store {running : Instance} (role : IsStarter i events)
      (started : starts events = [.ok running]) :
      Moves events i s (.stored running) { s with running := some running }
  | publish {outcome : Except Error Instance} (role : IsStarter i events)
      (started : starts events = [outcome]) :
      Moves events i s (.published (rendered outcome))
        { s with cell := .settled (rendered outcome) }
  | swap : Moves events i s (.swapped s.released) { s with released := true }
  | take (role : IsReleaser i events) :
      Moves events i s (.took s.running) { s with running := none }
  | stop {running : Instance} {outcome : Except Error Unit} (role : IsReleaser i events)
      (first : stops events = []) (started : .ok running ∈ starts events) :
      Moves events i s (.stopped running outcome) s

/-! ### What holds between any two steps -/

/-- What a cell tells of the start. -/
def Tells (events : List (ι × Event)) : Cell → Prop
  | .empty => starts events = [] ∧ ∀ i, ¬IsStarter i events
  | .starting => (starts events).length ≤ 1
  | .settled outcome => ∃ o, starts events = [o] ∧ outcome = rendered o

/-- What holds between any two steps. -/
structure Inv (events : List (ι × Event)) (s : DatabaseService) : Prop where
  cell : Tells events s.cell
  running : ∀ r, s.running = some r → .ok r ∈ starts events
  released : s.released = true ↔ Raised events
  starter : ∀ i j, IsStarter i events → IsStarter j events → i = j
  releaser : ∀ i j, IsReleaser i events → IsReleaser j events → i = j
  length_stops : (stops events).length ≤ 1
  stopped : ∀ r ∈ stops events, .ok r ∈ starts events
  /-- Nothing is stopped before the flag is raised. -/
  unreleased : s.released = false → stops events = []

theorem inv_start (name : String) : Inv ([] : List (ι × Event)) { name } where
  cell := ⟨rfl, fun _ h ↦ nomatch h⟩
  running _ h := nomatch h
  released := ⟨nofun, fun ⟨_, _, h⟩ ↦ nomatch h⟩
  starter _ _ h := nomatch h
  releaser _ _ h := nomatch h
  length_stops := Nat.zero_le 1
  stopped _ h := nomatch h
  unreleased _ := rfl

variable {events : List (ι × Event)} {s s' : DatabaseService} {i j : ι} {e : Event}

theorem Inv.length_starts (h : Inv events s) : (starts events).length ≤ 1 := by
  have hcell := h.cell
  unfold Tells at hcell
  split at hcell
  · rw [hcell.1]
    exact Nat.zero_le 1
  · exact hcell
  · obtain ⟨o, ho, -⟩ := hcell
    rw [ho]
    exact Nat.le_refl 1

/-- A cell tells the same after an event that is neither an entry of the starter nor a start. -/
theorem Tells.append {cell : Cell} (h : Tells events cell) (hstart : e.start? = none)
    (hentered : e ≠ .entered true) : Tells (events ++ [(i, e)]) cell := by
  have hstarts : starts (events ++ [(i, e)]) = starts events := by
    rw [starts_append, hstart, Option.toList_none, List.append_nil]
  have hstarter (j : ι) : IsStarter j (events ++ [(i, e)]) ↔ IsStarter j events := by
    rw [isStarter_append, or_iff_left fun hj ↦ hentered hj.2]
  unfold Tells at h ⊢
  simpa only [hstarts, hstarter] using h

/-- What a step has to do for the invariant to hold after it. -/
theorem Inv.extend (h : Inv events s) (hcell : Tells (events ++ [(i, e)]) s'.cell)
    (hrunning : ∀ r, s'.running = some r → .ok r ∈ starts events)
    (hreleased : s'.released = true ↔ s.released = true ∨ ∃ before, e = .swapped before)
    (hstarter : e = .entered true → ∀ j, ¬IsStarter j events)
    (hreleaser : e = .swapped false → ∀ j, ¬IsReleaser j events)
    (hstop : ∀ r, e.stop? = some r →
      stops events = [] ∧ .ok r ∈ starts events ∧ s.released = true) :
    Inv (events ++ [(i, e)]) s' := by
  have hgrows : starts events ⊆ starts (events ++ [(i, e)]) := by
    rw [starts_append]
    exact List.subset_append_left ..
  refine ⟨hcell, fun r hr ↦ hgrows (hrunning r hr), ?_, ?_, ?_, ?_, ?_, ?_⟩
  · rw [hreleased, raised_append, h.released]
  · intro j k hj hk
    rw [isStarter_append] at hj hk
    rcases hj with hj | ⟨rfl, he⟩
    · rcases hk with hk | ⟨-, he⟩
      · exact h.starter j k hj hk
      · exact absurd hj (hstarter he j)
    · rcases hk with hk | ⟨rfl, -⟩
      · exact absurd hk (hstarter he k)
      · rfl
  · intro j k hj hk
    rw [isReleaser_append] at hj hk
    rcases hj with hj | ⟨rfl, he⟩
    · rcases hk with hk | ⟨-, he⟩
      · exact h.releaser j k hj hk
      · exact absurd hj (hreleaser he j)
    · rcases hk with hk | ⟨rfl, -⟩
      · exact absurd hk (hreleaser he k)
      · rfl
  · rw [stops_append]
    cases hr : e.stop? with
    | none =>
      rw [Option.toList_none, List.append_nil]
      exact h.length_stops
    | some r =>
      rw [(hstop r hr).1]
      exact Nat.le_refl 1
  · rw [stops_append]
    refine List.forall_mem_append.2 ⟨fun r hr ↦ hgrows (h.stopped r hr), fun r hr ↦ ?_⟩
    exact hgrows (hstop r (Option.mem_toList.1 hr)).2.1
  · intro hs'
    have hs : s.released = false := by
      rw [← Bool.not_eq_true] at hs' ⊢
      exact fun hs ↦ hs' (hreleased.2 (Or.inl hs))
    rw [stops_append, h.unreleased hs]
    cases hr : e.stop? with
    | none => rfl
    | some r => exact absurd (hs.symm.trans (hstop r hr).2.2) (by decide)

/-- **Every step keeps the invariant.** -/
theorem Inv.step (h : Inv events s) (hstep : Moves events i s e s') :
    Inv (events ++ [(i, e)]) s' := by
  cases hstep with
  | look =>
    exact h.extend (h.cell.append rfl nofun) h.running (by simp) nofun nofun nofun
  | enter hcell =>
    have htells := h.cell
    rw [hcell] at htells
    refine h.extend ?_ h.running (by simp) (fun _ ↦ htells.2) nofun nofun
    show (starts (events ++ [(i, .entered true)])).length ≤ 1
    rw [starts_append, htells.1]
    exact Nat.zero_le 1
  | pass hcell =>
    exact h.extend (h.cell.append rfl nofun) h.running (by simp) nofun nofun nofun
  | @start outcome role hcell first =>
    refine h.extend ?_ h.running (by simp) nofun nofun nofun
    rw [hcell]
    show (starts (events ++ [(i, .started outcome)])).length ≤ 1
    rw [starts_append, first]
    exact Nat.le_refl 1
  | @store running role started =>
    refine h.extend (h.cell.append rfl nofun) ?_ (by simp) nofun nofun nofun
    rintro r ⟨⟩
    rw [started]
    exact List.mem_cons_self
  | @publish outcome role started =>
    refine h.extend ⟨outcome, ?_, rfl⟩ h.running (by simp) nofun nofun nofun
    rw [starts_append, started]
    rfl
  | swap =>
    refine h.extend (h.cell.append rfl nofun) h.running (by simp) nofun ?_ nofun
    -- a raised flag would have been found
    intro hevent j hj
    have hraised : s.released = true := h.released.2 ⟨j, false, hj⟩
    rw [hraised] at hevent
    cases hevent
  | take role =>
    exact h.extend (h.cell.append rfl nofun) nofun (by simp) nofun nofun nofun
  | @stop running outcome role first started =>
    refine h.extend (h.cell.append rfl nofun) h.running (by simp) nofun nofun ?_
    rintro r ⟨⟩
    exact ⟨first, started, h.released.2 ⟨i, false, role⟩⟩

/-! ### What the steps of others leave true -/

/-- Nobody else changes the cell or starts anything while there is a starter. -/
theorem Moves.spares_starter (hstep : Moves events j s e s') (h : Inv events s)
    (role : IsStarter i events) (hji : j ≠ i) :
    s'.cell = s.cell ∧ starts (events ++ [(j, e)]) = starts events := by
  have hquiet (he : e.start? = none) : starts (events ++ [(j, e)]) = starts events := by
    rw [starts_append, he, Option.toList_none, List.append_nil]
  cases hstep with
  | look | pass | swap | take | stop => exact ⟨rfl, hquiet rfl⟩
  | enter hcell =>
    have htells := h.cell
    rw [hcell] at htells
    exact absurd role (htells.2 i)
  | start other | store other | publish other => exact absurd (h.starter j i other role) hji

/-- Nobody else stops anything while there is a releaser. -/
theorem Moves.spares_releaser (hstep : Moves events j s e s') (h : Inv events s)
    (role : IsReleaser i events) (hji : j ≠ i) : stops (events ++ [(j, e)]) = stops events := by
  have hquiet (he : e.stop? = none) : stops (events ++ [(j, e)]) = stops events := by
    rw [stops_append, he, Option.toList_none, List.append_nil]
  cases hstep with
  | look | enter | pass | start | store | publish | swap | take => exact hquiet rfl
  | stop other => exact absurd (h.releaser j i other role) hji

end DatabaseService

end SchemaForge
