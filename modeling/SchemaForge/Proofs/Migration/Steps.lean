import SchemaForge.Migration.Run
import SchemaForge.Proofs.Migration.Pending
import SchemaForge.Proofs.Program.Trace

/-!
# The steps of a migration

A migration has four kinds of steps: it prepares the schema, lists its history, and then executes
and records scripts of its own. What holds of each kind holds of every step that a migration takes,
in whatever state it finds the database (`always_migrate`).
-/

namespace SchemaForge.Migration

open Program

variable {δ : Type} {target : Target δ} {schema : String} {scripts : List Script}
  {φ : Footstep Event δ → Prop}

theorem always_runPending
    (hexecute : ∀ s ∈ scripts, ∀ d, φ ⟨d, .executed schema s (target.execute schema s d).1.outcome,
      (target.execute schema s d).2⟩)
    (hrecord : ∀ s ∈ scripts, ∀ rank e d, φ ⟨d, .recorded schema (entryOf rank s e)
      (target.record schema (entryOf rank s e) d).1, (target.record schema (entryOf rank s e) d).2⟩)
    (rank : ℕ) : (runPending target schema rank scripts).Always φ := by
  induction scripts generalizing rank with
  | nil => exact always_pure
  | cons s ss ih =>
    obtain ⟨hexecute, hexecutes⟩ := List.forall_mem_cons.1 hexecute
    obtain ⟨hrecord, hrecords⟩ := List.forall_mem_cons.1 hrecord
    refine (always_perform hexecute).bind fun execution ↦
      (always_perform (hrecord rank execution)).bind fun recorded ↦ ?_
    cases execution.outcome with
    | error e => exact always_pure
    | ok u =>
      cases recorded with
      | error e => exact always_pure
      | ok u =>
        exact (ih hexecutes hrecords (rank + 1)).bind fun a ↦ by cases a <;> exact always_pure

theorem always_migrate
    (hprepare : ∀ d, φ ⟨d, .prepared schema (target.prepare schema d).1,
      (target.prepare schema d).2⟩)
    (happlied : ∀ d, φ ⟨d, .listed schema (target.applied schema d).1,
      (target.applied schema d).2⟩)
    (hexecute : ∀ s ∈ scripts, ∀ d, φ ⟨d, .executed schema s (target.execute schema s d).1.outcome,
      (target.execute schema s d).2⟩)
    (hrecord : ∀ s ∈ scripts, ∀ rank e d, φ ⟨d, .recorded schema (entryOf rank s e)
      (target.record schema (entryOf rank s e) d).1,
      (target.record schema (entryOf rank s e) d).2⟩) :
    (migrate target schema scripts).Always φ := by
  refine (always_perform hprepare).bind fun prepared ↦ ?_
  cases prepared with
  | error e => exact always_pure
  | ok u =>
    refine (always_perform happlied).bind fun applied ↦ ?_
    cases applied with
    | error e => exact always_pure
    | ok history =>
      dsimp only
      cases hpending : History.pending scripts history with
      | error e => exact always_pure
      | ok pending =>
        obtain ⟨-, -, -, rfl⟩ := History.pending_eq_ok_iff.1 hpending
        exact always_runPending (fun s hs ↦ hexecute s (List.mem_filter.1 hs).1)
          (fun s hs ↦ hrecord s (List.mem_filter.1 hs).1) _

/-- The entry that an event tells of. -/
def Event.entry? : Event → Option HistoryEntry
  | .recorded _ entry _ => some entry
  | _ => none

/-- What is recorded are entries of the scripts. -/
theorem always_migrate_recorded :
    (migrate target schema scripts).Always fun x ↦
      ∀ entry, x.event.entry? = some entry → ∃ s ∈ scripts, ∃ rank e, entry = entryOf rank s e := by
  refine always_migrate (fun d entry h ↦ by cases h) (fun d entry h ↦ by cases h)
    (fun s hs d entry h ↦ by cases h) fun s hs rank e d entry h ↦ ?_
  exact ⟨s, hs, rank, e, (Option.some.inj h).symm⟩

end SchemaForge.Migration
