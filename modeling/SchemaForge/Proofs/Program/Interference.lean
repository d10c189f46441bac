import Mathlib.Logic.Function.Basic
import Mathlib.Logic.Relation
import SchemaForge.Program

/-!
# Programs in turn with others

Several parties run their programs on one state, a step at a time and in any order. This module has
the runs of such a pool (`Program.Reaches`) and the one argument that they call for, which reasons
about a single program and takes the steps of all others into account by a relation.

## Terms

Each party works under `Terms`: what it relies on others to do between its own steps, what it
guarantees of its own steps, and when it may wait. `Program.Abides` says that a program keeps its
guarantee from a precondition on and ends in a postcondition, however the others behave within the
terms. It is defined by recursion on the program and has one rule for each way of building one
(`abides_pure`, `abides_step`, `Abides.bind`), so a program is checked along its text and its
continuations never have to be written down.

## What a pool does

If every party abides by its terms, and each relies only on what all others guarantee, then they
are in `Accord`, and in every run every party is where its program says (`Accord.parallel`). What is
wanted of whole runs follows: an answer satisfies its postcondition (`Accord.answer`), and what no
guarantee breaks holds throughout (`Accord.invariant`).

The events of a run are part of what assertions speak about, so who has done what so far needs no
bookkeeping beside the programs.
-/

namespace SchemaForge

/-- What the parties have done so far: every event with the party that announced it, in order, and
the state that they have reached. -/
structure Course (ι ε σ : Type) where
  events : List (ι × ε)
  state : σ

namespace Course

variable {ι ε σ : Type}

/-- One step of a party more. -/
def extend (c : Course ι ε σ) (i : ι) (e : ε) (s : σ) : Course ι ε σ :=
  ⟨c.events ++ [(i, e)], s⟩

@[simp] theorem extend_events (c : Course ι ε σ) (i : ι) (e : ε) (s : σ) :
    (c.extend i e s).events = c.events ++ [(i, e)] := rfl

@[simp] theorem extend_state (c : Course ι ε σ) (i : ι) (e : ε) (s : σ) :
    (c.extend i e s).state = s := rfl

end Course

/-- The terms under which a party works beside others. -/
structure Terms (ι ε σ : Type) where
  /-- What others may do between two steps of the party. -/
  rely : Course ι ε σ → Course ι ε σ → Prop
  /-- What a step of the party does. -/
  guarantee : Course ι ε σ → Course ι ε σ → Prop
  /-- Where the party may have to wait. -/
  wait : Course ι ε σ → Prop

namespace Terms

variable {ι ε σ : Type}

/-- An assertion that the steps of others leave true. -/
def Stable (T : Terms ι ε σ) (P : Course ι ε σ → Prop) : Prop :=
  ∀ c d, T.rely c d → P c → P d

theorem Stable.of_reflTransGen {T : Terms ι ε σ} {P : Course ι ε σ → Prop} (h : T.Stable P)
    {c d : Course ι ε σ} (hcd : Relation.ReflTransGen T.rely c d) (hc : P c) : P d := by
  induction hcd with
  | refl => exact hc
  | tail _ hstep ih => exact h _ _ hstep ih

end Terms

namespace Program

variable {ι ε σ τ ζ α β : Type}

/-! ### The text of a program -/

theorem bind_step {γ : Type} (act : σ → Option (γ × σ)) (event : γ → ε)
    (next : γ → Program ε σ α) (f : α → Program ε σ β) :
    (step act event next >>= f) = step act event fun c ↦ next c >>= f := rfl

theorem zoom_bind (get : τ → σ) (put : σ → τ → τ) (name : ε → ζ) (p : Program ε σ α)
    (f : α → Program ε σ β) :
    (p >>= f).zoom get put name = p.zoom get put name >>= fun a ↦ (f a).zoom get put name := by
  induction p with
  | done a => rfl
  | step act event next ih => exact congrArg (step _ _) (funext fun b ↦ ih b)

/-! ### Working under terms -/

/-- The program keeps its guarantee and waits only where it may, from courses with the precondition
on, and its answers satisfy the postcondition. After each own step others may take theirs. -/
def Abides (T : Terms ι ε σ) (i : ι) :
    Program ε σ α → (Course ι ε σ → Prop) → (α → Course ι ε σ → Prop) → Prop
  | done a, P, Q => ∀ c, P c → Q a c
  | step act event next, P, Q => ∀ c, P c →
      (act c.state = none → T.wait c) ∧
      ∀ b s, act c.state = some (b, s) →
        T.guarantee c (c.extend i (event b) s) ∧
        (next b).Abides T i (Relation.ReflTransGen T.rely (c.extend i (event b) s)) Q

variable {T : Terms ι ε σ} {i : ι} {P P' : Course ι ε σ → Prop} {Q : α → Course ι ε σ → Prop}

theorem abides_pure {a : α} (h : ∀ c, P c → Q a c) :
    Abides T i (pure a : Program ε σ α) P Q := h

theorem Abides.strengthen {p : Program ε σ α} (h : Abides T i p P Q) (hP : ∀ c, P' c → P c) :
    Abides T i p P' Q := by
  cases p with
  | done a => exact fun c hc ↦ h c (hP c hc)
  | step act event next => exact fun c hc ↦ h c (hP c hc)

theorem Abides.weaken {Q' : α → Course ι ε σ → Prop} {p : Program ε σ α} (h : Abides T i p P Q)
    (hQ : ∀ a c, Q a c → Q' a c) : Abides T i p P Q' := by
  induction p generalizing P with
  | done a => exact fun c hc ↦ hQ a c (h c hc)
  | step act event next ih =>
    intro c hc
    obtain ⟨hwait, hstep⟩ := h c hc
    exact ⟨hwait, fun b s hact ↦ ⟨(hstep b s hact).1, ih b (hstep b s hact).2⟩⟩

/-- A precondition holds of some course, so what it says of no course in particular may be used. -/
theorem Abides.of_pure {φ : Prop} {p : Program ε σ α} (h : φ → Abides T i p P Q) :
    Abides T i p (fun c ↦ φ ∧ P c) Q := by
  cases p with
  | done a => exact fun c hc ↦ h hc.1 c hc.2
  | step act event next => exact fun c hc ↦ h hc.1 c hc.2

/-- The rule for a step: its guarantee, and an assertion from which the rest is checked and which
the steps of others leave true. -/
theorem abides_step {γ : Type} {act : σ → Option (γ × σ)} {event : γ → ε}
    {next : γ → Program ε σ α} {R : γ → Course ι ε σ → Prop}
    (hwait : ∀ c, P c → act c.state = none → T.wait c)
    (hstep : ∀ c, P c → ∀ b s, act c.state = some (b, s) →
      T.guarantee c (c.extend i (event b) s) ∧ R b (c.extend i (event b) s))
    (hstable : ∀ b, T.Stable (R b)) (hnext : ∀ b, Abides T i (next b) (R b) Q) :
    Abides T i (step act event next) P Q := by
  intro c hc
  refine ⟨hwait c hc, fun b s hact ↦ ?_⟩
  obtain ⟨hguarantee, hR⟩ := hstep c hc b s hact
  exact ⟨hguarantee, (hnext b).strengthen fun d hd ↦ (hstable b).of_reflTransGen hd hR⟩

/-- The rule for a step that never waits. -/
theorem abides_perform {γ : Type} {act : σ → γ × σ} {event : γ → ε} {next : γ → Program ε σ α}
    {R : γ → Course ι ε σ → Prop}
    (hstep : ∀ c, P c → T.guarantee c (c.extend i (event (act c.state).1) (act c.state).2) ∧
      R (act c.state).1 (c.extend i (event (act c.state).1) (act c.state).2))
    (hstable : ∀ b, T.Stable (R b)) (hnext : ∀ b, Abides T i (next b) (R b) Q) :
    Abides T i (perform act event >>= next) P Q := by
  refine abides_step (fun _ _ h ↦ nomatch h) (fun c hc b s hact ↦ ?_) hstable hnext
  obtain ⟨rfl, rfl⟩ := Prod.mk.inj (Option.some.inj hact)
  exact hstep c hc

/-- The rule for one program and then another. -/
theorem Abides.bind {p : Program ε σ α} {f : α → Program ε σ β} {R : β → Course ι ε σ → Prop}
    (hp : Abides T i p P Q) (hf : ∀ a, Abides T i (f a) (Q a) R) : Abides T i (p >>= f) P R := by
  induction p generalizing P with
  | done a => exact (hf a).strengthen fun c hc ↦ hp c hc
  | step act event next ih =>
    intro c hc
    obtain ⟨hwait, hstep⟩ := hp c hc
    exact ⟨hwait, fun b s hact ↦ ⟨(hstep b s hact).1, ih b (hstep b s hact).2⟩⟩

/-- A step of a program that abides: its guarantee, and the rest abides. -/
theorem Abides.advance {p p' : Program ε σ α} {c : Course ι ε σ} {e : ε} {s : σ}
    (h : Abides T i p P Q) (hc : P c) (hstep : p.advance c.state = some (p', e, s)) :
    T.guarantee c (c.extend i e s) ∧
      Abides T i p' (Relation.ReflTransGen T.rely (c.extend i e s)) Q := by
  cases p with
  | done a => cases hstep
  | step act event next =>
    obtain ⟨⟨b, s'⟩, hact, heq⟩ := Option.map_eq_some_iff.1 hstep
    cases heq
    exact (h c hc).2 b s' hact

/-! ### Runs of a pool -/

section Pool

variable [DecidableEq ι]

/-- What the parties can come to from their programs: what remains of these, and the course. At
each point any party may take its next step, unless it has to wait. -/
inductive Reaches (start : ι → Program ε σ α) (s₀ : σ) :
    (ι → Program ε σ α) → Course ι ε σ → Prop
  | start : Reaches start s₀ start ⟨[], s₀⟩
  | step {ps : ι → Program ε σ α} {c : Course ι ε σ} {i : ι} {p : Program ε σ α} {e : ε} {s : σ}
      (before : Reaches start s₀ ps c) (next : (ps i).advance c.state = some (p, e, s)) :
      Reaches start s₀ (Function.update ps i p) (c.extend i e s)

/-- The pool after the parties have taken steps in the order given; `none` if one of them could
not. -/
def turns : List ι → (ι → Program ε σ α) → Course ι ε σ →
    Option ((ι → Program ε σ α) × Course ι ε σ)
  | [], ps, c => some (ps, c)
  | i :: is, ps, c => ((ps i).advance c.state).bind fun r ↦
      turns is (Function.update ps i r.1) (c.extend i r.2.1 r.2.2)

theorem Reaches.turns {start ps : ι → Program ε σ α} {s₀ : σ} {c : Course ι ε σ}
    (h : Reaches start s₀ ps c) {is : List ι} {r : (ι → Program ε σ α) × Course ι ε σ}
    (hr : turns is ps c = some r) : Reaches start s₀ r.1 r.2 := by
  induction is generalizing ps c with
  | nil =>
    obtain rfl := Option.some.inj hr
    exact h
  | cons i is ih =>
    obtain ⟨⟨p, e, s⟩, hadvance, hrest⟩ := Option.bind_eq_some_iff.1 hr
    exact ih (h.step hadvance) hrest

/-- Parties that abide by terms that fit together: each relies only on what all others guarantee,
and all start where their preconditions hold. -/
structure Accord (T : ι → Terms ι ε σ) (start : ι → Program ε σ α) (s₀ : σ)
    (P : ι → Course ι ε σ → Prop) (Q : ι → α → Course ι ε σ → Prop) : Prop where
  abides : ∀ i, Abides (T i) i (start i) (P i) (Q i)
  stable : ∀ i, (T i).Stable (P i)
  compatible : ∀ i j, i ≠ j → ∀ c d, (T i).guarantee c d → (T j).rely c d
  initially : ∀ i, P i ⟨[], s₀⟩

variable {T : ι → Terms ι ε σ} {start ps : ι → Program ε σ α} {s₀ : σ}
  {P : ι → Course ι ε σ → Prop} {Q : ι → α → Course ι ε σ → Prop} {c : Course ι ε σ}

/-- **In every run each party is where its program says.** The steps of the others keep within what
it relies on, so its assertion is still true when its turn comes. -/
theorem Accord.parallel (h : Accord T start s₀ P Q) (hreaches : Reaches start s₀ ps c) (i : ι) :
    ∃ R : Course ι ε σ → Prop, R c ∧ (T i).Stable R ∧ Abides (T i) i (ps i) R (Q i) := by
  induction hreaches generalizing i with
  | start => exact ⟨P i, h.initially i, h.stable i, h.abides i⟩
  | @step ps c j p e s _ hnext ih =>
    obtain ⟨R, hR, hRstable, hRabides⟩ := ih j
    obtain ⟨hguarantee, hrest⟩ := hRabides.advance hR hnext
    by_cases hij : i = j
    · subst hij
      refine ⟨Relation.ReflTransGen (T i).rely (c.extend i e s), .refl,
        fun _ _ hcd hc ↦ hc.tail hcd, ?_⟩
      rwa [Function.update_self]
    · obtain ⟨R, hR, hRstable, hRabides⟩ := ih i
      refine ⟨R, hRstable _ _ (h.compatible j i (Ne.symm hij) _ _ hguarantee) hR, hRstable, ?_⟩
      rwa [Function.update_of_ne hij]

/-- The answer of a party that is done satisfies its postcondition. -/
theorem Accord.answer (h : Accord T start s₀ P Q) (hreaches : Reaches start s₀ ps c) {i : ι} {a : α}
    (hdone : (ps i).answer? = some a) : Q i a c := by
  obtain ⟨R, hR, -, hRabides⟩ := h.parallel hreaches i
  cases hp : ps i with
  | done b =>
    rw [hp] at hdone hRabides
    obtain rfl := Option.some.inj hdone
    exact hRabides c hR
  | step act event next =>
    rw [hp] at hdone
    cases hdone

/-- A party that is not done takes its next step or waits where it may. -/
theorem Accord.advances_or_waits (h : Accord T start s₀ P Q) (hreaches : Reaches start s₀ ps c)
    {i : ι} (hrunning : (ps i).answer? = none) :
    ((ps i).advance c.state).isSome = true ∨ (T i).wait c := by
  obtain ⟨R, hR, -, hRabides⟩ := h.parallel hreaches i
  cases hp : ps i with
  | done b =>
    rw [hp] at hrunning
    cases hrunning
  | step act event next =>
    rw [hp] at hRabides
    cases hact : act c.state with
    | none => exact Or.inr ((hRabides c hR).1 hact)
    | some r =>
      refine Or.inl ?_
      rw [Program.advance, hact]
      rfl

/-- What no guarantee breaks holds throughout. -/
theorem Accord.invariant (h : Accord T start s₀ P Q) {I : Course ι ε σ → Prop} (hI : I ⟨[], s₀⟩)
    (hkeeps : ∀ i c d, (T i).guarantee c d → I c → I d) (hreaches : Reaches start s₀ ps c) :
    I c := by
  induction hreaches with
  | start => exact hI
  | @step ps c j p e s hbefore hnext ih =>
    obtain ⟨R, hR, -, hRabides⟩ := h.parallel hbefore j
    exact hkeeps j _ _ (hRabides.advance hR hnext).1 ih

end Pool

end Program

end SchemaForge
