import Mathlib.Logic.Function.Basic
import SchemaForge.Proofs.Program.Interference

/-!
# Programs that run alone

`Program.run` answers `none` where a program waits. `Program.Ensures` is total: from its
precondition the program runs to its end, and its answer and the state after it satisfy the
postcondition. Its rules follow the text of a program as those of `Program.Abides` do.
-/

namespace SchemaForge

namespace Program

variable {ε σ τ ζ α β : Type}

/-- Run alone from a state with the precondition, the program comes to its end, with the
postcondition of its answer and the state. -/
def Ensures (p : Program ε σ α) (P : σ → Prop) (Q : α → σ → Prop) : Prop :=
  ∀ s, P s → ∃ r, p.run s = some r ∧ Q r.answer r.state

variable {P : σ → Prop} {Q : α → σ → Prop}

theorem ensures_pure {a : α} (h : ∀ s, P s → Q a s) : Ensures (pure a : Program ε σ α) P Q :=
  fun s hs ↦ ⟨⟨a, [], s⟩, rfl, h s hs⟩

theorem Ensures.strengthen {P' : σ → Prop} {p : Program ε σ α} (h : Ensures p P Q)
    (hP : ∀ s, P' s → P s) : Ensures p P' Q :=
  fun s hs ↦ h s (hP s hs)

theorem Ensures.weaken {Q' : α → σ → Prop} {p : Program ε σ α} (h : Ensures p P Q)
    (hQ : ∀ a s, Q a s → Q' a s) : Ensures p P Q' := by
  intro s hs
  obtain ⟨r, hr, hq⟩ := h s hs
  exact ⟨r, hr, hQ _ _ hq⟩

/-- What a precondition says of no state in particular may be used. -/
theorem Ensures.of_pure {φ : Prop} {p : Program ε σ α} (h : φ → Ensures p P Q) :
    Ensures p (fun s ↦ φ ∧ P s) Q :=
  fun s hs ↦ h hs.1 s hs.2

/-- The rule for a step that never waits. -/
theorem ensures_perform {γ : Type} {act : σ → γ × σ} {event : γ → ε} {next : γ → Program ε σ α}
    (h : ∀ b, Ensures (next b) (fun t ↦ ∃ s, P s ∧ act s = (b, t)) Q) :
    Ensures (perform act event >>= next) P Q := by
  intro s hs
  obtain ⟨r, hr, hq⟩ := h (act s).1 (act s).2 ⟨s, hs, rfl⟩
  refine ⟨{ r with events := event (act s).1 :: r.events }, ?_, hq⟩
  exact congrArg (Option.map _) hr

/-- The rule for a step that may wait, but not here. -/
theorem ensures_await {γ : Type} {act : σ → Option (γ × σ)} {event : γ → ε}
    {next : γ → Program ε σ α} {R : γ → σ → Prop}
    (hact : ∀ s, P s → ∃ b t, act s = some (b, t) ∧ R b t)
    (hnext : ∀ b, Ensures (next b) (R b) Q) : Ensures (await act event >>= next) P Q := by
  intro s hs
  obtain ⟨b, t, hact, hR⟩ := hact s hs
  obtain ⟨r, hr, hq⟩ := hnext b t hR
  refine ⟨{ r with events := event b :: r.events }, ?_, hq⟩
  rw [await, bind_step, run, hact]
  exact congrArg (Option.map _) hr

theorem run_bind (p : Program ε σ α) (f : α → Program ε σ β) (s : σ) :
    (p >>= f).run s = (p.run s).bind fun r ↦
      ((f r.answer).run r.state).map fun q ↦ { q with events := r.events ++ q.events } := by
  induction p generalizing s with
  | done a =>
    show (f a).run s = ((f a).run s).map fun q ↦ q
    rw [Option.map_id']
  | step act event next ih =>
    rw [bind_step, run, run]
    cases act s with
    | none => rfl
    | some r =>
      simp only [ih, Option.map_bind, Option.bind_map]
      congr 1
      funext q
      cases h : (f q.answer).run q.state <;> simp [h]

/-- A run of one program and then another, by its parts. -/
theorem of_run_bind {p : Program ε σ α} {f : α → Program ε σ β} {s : σ} {r : Run ε σ β}
    (h : (p >>= f).run s = some r) :
    ∃ q u, p.run s = some q ∧ (f q.answer).run q.state = some u ∧
      r = { u with events := q.events ++ u.events } := by
  rw [run_bind] at h
  obtain ⟨q, hq, h⟩ := Option.bind_eq_some_iff.1 h
  obtain ⟨u, hu, rfl⟩ := Option.map_eq_some_iff.1 h
  exact ⟨q, u, hq, hu, rfl⟩

/-- The rule for one program and then another. -/
theorem Ensures.bind {p : Program ε σ α} {f : α → Program ε σ β} {R : β → σ → Prop}
    (hp : Ensures p P Q) (hf : ∀ a, Ensures (f a) (Q a) R) : Ensures (p >>= f) P R := by
  intro s hs
  obtain ⟨r, hr, hq⟩ := hp s hs
  obtain ⟨q, hq', hR⟩ := hf r.answer r.state hq
  refine ⟨{ q with events := r.events ++ q.events }, ?_, hR⟩
  rw [run_bind, hr, Option.bind_some, hq']
  rfl

/-- The rule for a program on a part of the state: the rest stays as it was. -/
theorem Ensures.zoom {p : Program ε σ α} (h : Ensures p P Q) (get : τ → σ) (put : σ → τ → τ)
    (name : ε → ζ) (hget : ∀ s t, get (put s t) = s) (hput : ∀ t, put (get t) t = t)
    (hputput : ∀ s s' t, put s' (put s t) = put s' t) :
    ∀ t, P (get t) → ∃ r, (p.zoom get put name).run t = some r ∧ Q r.answer (get r.state) ∧
      r.state = put (get r.state) t := by
  intro t ht
  obtain ⟨r, hr, hq⟩ := h (get t) ht
  clear h ht
  induction p generalizing t r with
  | done a =>
    obtain rfl := Option.some.inj hr
    exact ⟨⟨a, [], t⟩, rfl, hq, (hput t).symm⟩
  | step act event next ih =>
    rw [run] at hr
    rw [Program.zoom, run]
    cases hact : act (get t) with
    | none => rw [hact] at hr; cases hr
    | some b =>
      rw [hact] at hr
      obtain ⟨q, hq', rfl⟩ := Option.map_eq_some_iff.1 hr
      obtain ⟨u, hu, hQ, hstate⟩ := ih b.1 (put b.2 t) q (by rw [hget]; exact hq') hq
      refine ⟨{ u with events := name (event b.1) :: u.events }, ?_, hQ, ?_⟩
      · exact congrArg (Option.map _) hu
      · exact hstate.trans (hputput _ _ _)

end Program

end SchemaForge
