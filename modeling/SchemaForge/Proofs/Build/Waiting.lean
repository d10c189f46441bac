import SchemaForge.Proofs.Build.Moves

/-!
# Where tasks wait, and for whom

A task waits in two places: at the cell of the database while another task starts it, and at the
lock of a schema while another task migrates it (`Build.Busy`). Whoever others wait for there does
not wait itself: starting a database and migrating over a connection are done without waiting. So
nobody waits forever.
-/

namespace SchemaForge

open Program

variable {ι δ : Type}

namespace DatabaseService

theorem waitsAt_start (p : Provisioner δ) : (start p).WaitsAt fun _ ↦ False := by
  refine waitsAt_perform.bind fun started ↦ ?_
  have hpublish : (Program.change
      (fun w : DatabaseService × δ ↦ ({ w.1 with cell := .settled (rendered started) }, w.2))
      (Event.published (rendered started)) >>= fun _ ↦
        (pure (rendered started) : Operation δ _)).WaitsAt fun _ ↦ False :=
    waitsAt_perform.bind fun _ ↦ waitsAt_pure
  cases started with
  | error e => exact hpublish
  | ok running => exact waitsAt_perform.bind fun _ ↦ hpublish

/-- A call waits only at the cell. -/
theorem waitsAt_acquire (p : Provisioner δ) (name : String) :
    (acquire p name).WaitsAt fun w ↦ w.1.cell = .starting := by
  refine waitsAt_perform.bind fun released ↦ ?_
  cases released with
  | true => exact waitsAt_pure
  | false =>
    refine (waitsAt_await fun w hw ↦ cell_of_enter_eq_none (Option.map_eq_none_iff.1 hw)).bind
      fun found ↦ ?_
    cases found with
    | some outcome => exact waitsAt_pure
    | none => exact ((waitsAt_start p).imp fun _ h ↦ h.elim).bind fun _ ↦ waitsAt_pure

/-- Whoever has to start the database can do so. -/
theorem advance_ne_none_of_entered {p : Provisioner δ} {name : String}
    {steps : List (Footstep Event (DatabaseService × δ))} {q : Operation δ _}
    (h : (acquire p name).Takes steps q) (hrunning : q.answer? = none)
    (hentered : .entered true ∈ steps.map Footstep.event) (w : DatabaseService × δ) :
    q.advance w ≠ none := by
  rcases takes_perform_bind.1 h with ⟨rfl, -⟩ | ⟨_, released, _, _, -, rfl, hlooked⟩
  · cases hentered
  cases released with
  | true =>
    obtain ⟨-, rfl⟩ := takes_pure.1 hlooked
    cases hrunning
  | false =>
    rcases takes_step_bind.1 hlooked with ⟨rfl, -⟩ | ⟨_, found, _, _, -, rfl, hrest⟩
    · simp at hentered
    · cases found with
      | some outcome =>
        obtain ⟨-, rfl⟩ := takes_pure.1 hrest
        cases hrunning
      | none => exact ((waitsAt_start p).bind fun _ ↦ waitsAt_pure) _ q hrest hrunning w

theorem Acquiring.published_of_entered {events : List Event} (h : Acquiring events)
    (hentered : .entered true ∈ events) : ∃ outcome, .published outcome ∈ events := by
  cases h with
  | refused | passed => simp at hentered
  | started r outcome | failed e outcome => exact ⟨outcome, by simp⟩

end DatabaseService

namespace Migration

theorem waitsAt_runPending (target : Target δ) (schema : String) (rank : Nat)
    (scripts : List Script) : (runPending target schema rank scripts).WaitsAt fun _ ↦ False := by
  induction scripts generalizing rank with
  | nil => exact waitsAt_pure
  | cons s ss ih =>
    refine waitsAt_perform.bind fun execution ↦ waitsAt_perform.bind fun recorded ↦ ?_
    cases execution.outcome with
    | error e => exact waitsAt_pure
    | ok _ =>
      cases recorded with
      | error e => exact waitsAt_pure
      | ok _ =>
        refine (ih (rank + 1)).bind fun rest ↦ ?_
        cases rest <;> exact waitsAt_pure

theorem waitsAt_migrate (target : Target δ) (schema : String) (scripts : List Script) :
    (migrate target schema scripts).WaitsAt fun _ ↦ False := by
  refine waitsAt_perform.bind fun prepared ↦ ?_
  cases prepared with
  | error e => exact waitsAt_pure
  | ok _ =>
    refine waitsAt_perform.bind fun listed ↦ ?_
    cases listed with
    | error e => exact waitsAt_pure
    | ok history =>
      cases hpending : History.pending scripts history with
      | error e =>
        simp only [hpending]
        exact waitsAt_pure
      | ok pending =>
        simp only [hpending]
        exact waitsAt_runPending target schema _ pending

end Migration

namespace Build

/-- The database is being started, or a schema is being migrated. -/
def Busy (w : World δ) : Prop :=
  (mysql w).cell = .starting ∨ ∃ schema, (Defaults.databaseService, schema) ∈ w.locks

theorem waitsAt_acquire (b : Backend δ) : (acquire b Defaults.databaseService).WaitsAt Busy :=
  waitsAt_perform.bind fun _ ↦
    (DatabaseService.waitsAt_acquire b.toProvisioner _).zoom fun _ h ↦ Or.inl h

theorem waitsAt_lock (schema : String) :
    (lock (δ := δ) Defaults.databaseService schema).WaitsAt Busy := by
  refine waitsAt_await fun w hw ↦ Or.inr ⟨schema, ?_⟩
  split at hw
  · exact List.contains_iff_mem.1 ‹_›
  · cases hw

variable {b : Backend δ} {steps : List (Footstep Event (World δ))}

/-- Whoever has to start the database can do so. -/
theorem advance_ne_none_of_entered {q : Operation δ (Except Error DatabaseHandle)}
    (h : (acquire b Defaults.databaseService).Takes steps q) (hrunning : q.answer? = none)
    {x : Footstep Event (World δ)} (hx : x ∈ steps) {name : String}
    (hentered : x.event = .database name (.entered true)) (w : World δ) : q.advance w ≠ none := by
  rcases takes_perform_bind.1 h with ⟨rfl, -⟩ | ⟨_, _, _, rest, -, rfl, hrest⟩
  · cases hx
  obtain ⟨inner, q', hinner, rfl, rfl, -⟩ := hrest.of_zoom
  rw [answer?_zoom] at hrunning
  rcases List.mem_cons.1 hx with rfl | hx
  · cases hentered
  obtain ⟨y, hy, rfl⟩ := List.mem_map.1 hx
  refine fun hnone ↦ DatabaseService.advance_ne_none_of_entered hinner hrunning ?_ _
    (advance_eq_none_of_zoom hnone)
  exact List.mem_map.2 ⟨y.2, List.mem_map_of_mem hy, (Event.database.inj hentered).2⟩

/-- A task that had to start the database has published what the start came to when it goes on. -/
theorem published_of_acquire {a : Except Error DatabaseHandle}
    (h : (acquire b Defaults.databaseService).Takes steps (done a))
    {x : Footstep Event (World δ)} (hx : x ∈ steps) {name : String}
    (hentered : x.event = .database name (.entered true)) :
    ∃ y ∈ steps, ∃ outcome, y.event = .database Defaults.databaseService (.published outcome) := by
  obtain ⟨_, _, _, rest, -, rfl, hrest⟩ := takes_perform_bind_done.1 h
  obtain ⟨inner, hinner, rfl, -⟩ := hrest.of_zoom_done
  rcases List.mem_cons.1 hx with rfl | hx
  · cases hentered
  obtain ⟨y, hy, rfl⟩ := List.mem_map.1 hx
  obtain ⟨outcome, hpublished⟩ := (DatabaseService.trace_of_acquire hinner).published_of_entered
    (List.mem_map.2 ⟨y.2, List.mem_map_of_mem hy, (Event.database.inj hentered).2⟩)
  rw [List.map_map] at hpublished
  obtain ⟨z, hz, hpublished⟩ := List.mem_map.1 hpublished
  exact ⟨_, List.mem_cons_of_mem _ (List.mem_map_of_mem hz), outcome,
    congrArg (Event.database _) hpublished⟩

end Build

end SchemaForge
