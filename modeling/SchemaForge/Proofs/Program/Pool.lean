import Mathlib.Data.DFinsupp.WellFounded
import SchemaForge.Proofs.Program.Trace

/-!
# Pools of programs

What can be said of the runs of a pool whatever its programs do.

* A pool of finitely many programs comes to its end: a program is a well-founded tree, so no pool
  takes steps forever (`Program.wellFounded_goesOn`). If it never gets stuck before all are done, it
  can be brought to its end from every point (`Program.Reaches.exists_completed`).
* Where a program has to wait is read off its text (`Program.WaitsAt`).
* One of the ways to run a pool is to run its programs one at a time (`Program.turns_run`).
* What is known of a program beside others is known of it as a part of a larger one whose state and
  events it sees a part of (`Program.Abides.zoom`).
-/

namespace SchemaForge

namespace Program

variable {ι ε σ τ ζ α β γ : Type}

/-! ### Where a program waits -/

/-- The program waits only in such states. -/
def WaitsAt (W : σ → Prop) (p : Program ε σ α) : Prop :=
  ∀ steps q, p.Takes steps q → q.answer? = none → ∀ s, q.advance s = none → W s

variable {W : σ → Prop} {p : Program ε σ α}

theorem WaitsAt.imp {V : σ → Prop} (h : p.WaitsAt V) (himp : ∀ s, V s → W s) : p.WaitsAt W :=
  fun steps q hq hrunning s hs ↦ himp s (h steps q hq hrunning s hs)

theorem waitsAt_pure {a : α} : (pure a : Program ε σ α).WaitsAt W := by
  intro steps q h hrunning
  obtain ⟨-, rfl⟩ := takes_pure.1 h
  cases hrunning

theorem waitsAt_await {act : σ → Option (γ × σ)} {event : γ → ε} (h : ∀ s, act s = none → W s) :
    (await act event).WaitsAt W := by
  intro steps q hq hrunning s hs
  rcases takes_step.1 hq with ⟨-, rfl⟩ | ⟨_, _, _, _, -, -, hrest⟩
  · exact h s (Option.map_eq_none_iff.1 hs)
  · obtain ⟨-, rfl⟩ := takes_done.1 hrest
    cases hrunning

theorem waitsAt_perform {act : σ → γ × σ} {event : γ → ε} : (perform act event).WaitsAt W := by
  show (await (fun s ↦ some (act s)) event).WaitsAt W
  exact waitsAt_await fun _ h ↦ nomatch h

/-- What a program waits for, it waits for with whatever comes after it. -/
theorem advance_eq_none_of_bind {f : α → Program ε σ β} (hrunning : p.answer? = none) {s : σ}
    (h : (p >>= f).advance s = none) : p.advance s = none := by
  cases p with
  | done a => cases hrunning
  | step act event next =>
    rw [bind_step] at h
    exact Option.map_eq_none_iff.2 (Option.map_eq_none_iff.1 h)

/-- What a program on a part of the state waits for, it waits for on the part alone. -/
theorem advance_eq_none_of_zoom {get : τ → σ} {put : σ → τ → τ} {name : ε → ζ} {t : τ}
    (h : (p.zoom get put name).advance t = none) : p.advance (get t) = none := by
  cases p with
  | done a => rfl
  | step act event next =>
    exact Option.map_eq_none_iff.2 (Option.map_eq_none_iff.1 (Option.map_eq_none_iff.1 h))

theorem answer?_zoom (get : τ → σ) (put : σ → τ → τ) (name : ε → ζ) :
    (p.zoom get put name).answer? = p.answer? := by
  cases p <;> rfl

theorem WaitsAt.bind {f : α → Program ε σ β} (hp : p.WaitsAt W) (hf : ∀ a, (f a).WaitsAt W) :
    (p >>= f).WaitsAt W := by
  intro steps q h hrunning s hs
  rcases takes_bind.1 h with ⟨p', hp', hrunning', rfl⟩ | ⟨a, front, back, rfl, -, hback⟩
  · exact hp steps p' hp' hrunning' s (advance_eq_none_of_bind hrunning' hs)
  · exact hf a back q hback hrunning s hs

theorem WaitsAt.zoom {V : τ → Prop} {get : τ → σ} {put : σ → τ → τ} {name : ε → ζ}
    (hp : p.WaitsAt W) (himp : ∀ t, W (get t) → V t) : (p.zoom get put name).WaitsAt V := by
  intro steps q h hrunning t ht
  obtain ⟨inner, q', hinner, rfl, -, -⟩ := h.of_zoom
  rw [answer?_zoom] at hrunning
  exact himp t (hp _ q' hinner hrunning (get t) (advance_eq_none_of_zoom ht))

/-- A program that never waits runs to its end, and what all its steps keep holds then. -/
theorem WaitsAt.ensures {P : σ → Prop} (h : p.WaitsAt fun _ ↦ False)
    (hkeeps : p.Always fun x ↦ P x.before → P x.after) : Ensures p P fun _ ↦ P := by
  induction p with
  | done a => exact ensures_pure fun _ hs ↦ hs
  | step act event next ih =>
    intro s hs
    cases hact : act s with
    | none => exact (h [] _ .refl rfl s (Option.map_eq_none_iff.2 hact)).elim
    | some b =>
      obtain ⟨hstep, hnext⟩ := hkeeps.of_step hact
      obtain ⟨r, hr, hP⟩ := ih b.1 (fun steps q hq ↦ h _ q (.step hact hq)) hnext b.2 (hstep hs)
      refine ⟨{ r with events := event b.1 :: r.events }, ?_, hP⟩
      rw [run, hact]
      exact congrArg (Option.map _) hr

/-! ### Coming to an end -/

/-- What remains of a program after its next step. -/
def Remains (q p : Program ε σ α) : Prop := ∃ s e s', p.advance s = some (q, e, s')

theorem wellFounded_remains : WellFounded (Remains : Program ε σ α → Program ε σ α → Prop) := by
  refine ⟨fun p ↦ ?_⟩
  induction p with
  | done a =>
    refine ⟨_, fun q ⟨s, e, s', h⟩ ↦ ?_⟩
    cases h
  | step act event next ih =>
    refine ⟨_, fun q ⟨s, e, s', h⟩ ↦ ?_⟩
    obtain ⟨⟨b, t⟩, -, heq⟩ := Option.map_eq_some_iff.1 h
    cases heq
    exact ih b

section Pool

variable [DecidableEq ι]

/-- One step of a pool. -/
def GoesOn (after before : (ι → Program ε σ α) × Course ι ε σ) : Prop :=
  ∃ i p e s, (before.1 i).advance before.2.state = some (p, e, s) ∧
    after = (Function.update before.1 i p, before.2.extend i e s)

/-- **No pool takes steps forever.** -/
theorem wellFounded_goesOn [Finite ι] :
    WellFounded (GoesOn : (ι → Program ε σ α) × Course ι ε σ → _ → Prop) := by
  have hlex : WellFounded
      (Pi.Lex WellOrderingRel fun {_ : ι} ↦ (Remains : Program ε σ α → _ → Prop)) :=
    Pi.Lex.wellFounded WellOrderingRel fun _ ↦ wellFounded_remains
  refine Subrelation.wf ?_ (InvImage.wf Prod.fst hlex)
  rintro after before ⟨i, p, e, s, hnext, rfl⟩
  refine ⟨i, fun j hj ↦ Function.update_of_ne (ne_of_irrefl hj) _ _, ?_⟩
  show Remains (Function.update before.1 i p i) (before.1 i)
  rw [Function.update_self]
  exact ⟨_, e, s, hnext⟩

/-- **A pool that never gets stuck can be brought to its end** from every point of every run. -/
theorem Reaches.exists_completed [Finite ι] {start : ι → Program ε σ α} {s₀ : σ}
    (hlive : ∀ ps c, Reaches start s₀ ps c → (∃ i, (ps i).answer? = none) →
      ∃ i, ((ps i).advance c.state).isSome = true)
    {ps : ι → Program ε σ α} {c : Course ι ε σ} (h : Reaches start s₀ ps c) :
    ∃ is r, Program.turns is ps c = some r ∧ ∀ i, (r.1 i).answer?.isSome = true := by
  suffices hall : ∀ x : (ι → Program ε σ α) × Course ι ε σ, Reaches start s₀ x.1 x.2 →
      ∃ is r, Program.turns is x.1 x.2 = some r ∧ ∀ i, (r.1 i).answer?.isSome = true from
    hall (ps, c) h
  have hwf : WellFounded (GoesOn : (ι → Program ε σ α) × Course ι ε σ → _ → Prop) :=
    wellFounded_goesOn
  intro x
  induction x using hwf.induction with
  | h x ih =>
    intro h
    by_cases hdone : ∀ i, (x.1 i).answer?.isSome = true
    · exact ⟨[], x, rfl, hdone⟩
    obtain ⟨j, hj⟩ := not_forall.1 hdone
    obtain ⟨i, hi⟩ := hlive x.1 x.2 h ⟨j, Option.not_isSome_iff_eq_none.1 hj⟩
    obtain ⟨⟨p, e, s⟩, hnext⟩ := Option.isSome_iff_exists.1 hi
    obtain ⟨is, r, hr, hreturned⟩ := ih _ ⟨i, p, e, s, hnext, rfl⟩ (h.step hnext)
    refine ⟨i :: is, r, ?_, hreturned⟩
    rw [Program.turns, hnext]
    exact hr

/-! ### One at a time -/

/-- A party may run the front of its program to its end while the others wait. -/
theorem turns_run {p : Program ε σ β} {f : β → Program ε σ α} {ps : ι → Program ε σ α}
    {c : Course ι ε σ} {i : ι} (hi : ps i = p >>= f) {r : Run ε σ β} (hr : p.run c.state = some r) :
    turns (List.replicate r.events.length i) ps c =
      some (Function.update ps i (f r.answer), ⟨c.events ++ r.events.map (i, ·), r.state⟩) := by
  induction p generalizing ps c r with
  | done a =>
    obtain rfl := Option.some.inj hr
    have hps : Function.update ps i (f a) = ps := by
      rw [show f a = ps i from hi.symm, Function.update_eq_self]
    simp only [List.length_nil, List.replicate_zero, turns, hps, List.map_nil, List.append_nil]
  | step act event next ih =>
    rw [run] at hr
    cases hact : act c.state with
    | none =>
      rw [hact] at hr
      cases hr
    | some b =>
      rw [hact] at hr
      obtain ⟨q, hq, rfl⟩ := Option.map_eq_some_iff.1 hr
      have hnext : (ps i).advance c.state = some (next b.1 >>= f, event b.1, b.2) := by
        rw [hi, bind_step, advance, hact]
        rfl
      rw [List.length_cons, List.replicate_succ, turns, hnext, Option.bind_some,
        ih b.1 (Function.update_self ..) hq, Function.update_idem]
      simp only [Course.extend_events, List.append_assoc, List.singleton_append, List.map_cons]

theorem turns_append (is js : List ι) (ps : ι → Program ε σ α) (c : Course ι ε σ) :
    turns (is ++ js) ps c = (turns is ps c).bind fun r ↦ turns js r.1 r.2 := by
  induction is generalizing ps c with
  | nil => rfl
  | cons i is ih =>
    rw [List.cons_append, turns, turns]
    cases (ps i).advance c.state with
    | none => rfl
    | some r => exact ih _ _

/-- Parties may run the fronts of their programs one after the other. -/
theorem exists_turns_mapM {front : ι → Program ε σ β} {rest : ι → β → Program ε σ α} {is : List ι}
    (his : is.Nodup) {ps : ι → Program ε σ α} {c : Course ι ε σ}
    (hps : ∀ i ∈ is, ps i = front i >>= rest i) {r : Run ε σ (List β)}
    (hr : (is.mapM front).run c.state = some r) :
    ∃ order ps' c', turns order ps c = some (ps', c') ∧ c'.state = r.state ∧
      c'.events.map Prod.snd = c.events.map Prod.snd ++ r.events ∧
      List.Forall₂ (fun i a ↦ ps' i = rest i a) is r.answer ∧ ∀ j ∉ is, ps' j = ps j := by
  induction is generalizing ps c r with
  | nil =>
    obtain rfl := Option.some.inj hr
    exact ⟨[], ps, c, rfl, rfl, (List.append_nil _).symm, .nil, fun _ _ ↦ rfl⟩
  | cons i is ih =>
    obtain ⟨hi, his⟩ := List.nodup_cons.1 his
    obtain ⟨q, v, hq, hv, rfl⟩ := run_mapM_cons hr
    have hblock := turns_run (hps i List.mem_cons_self) hq
    have hps' : ∀ j ∈ is, Function.update ps i (rest i q.answer) j = front j >>= rest j := by
      intro j hj
      rw [Function.update_of_ne (ne_of_mem_of_not_mem hj hi)]
      exact hps j (List.mem_cons_of_mem _ hj)
    obtain ⟨order, ps', c', hturns, hstate, hevents, hanswers, hothers⟩ :=
      ih his hps' (c := ⟨c.events ++ q.events.map (i, ·), q.state⟩) hv
    refine ⟨List.replicate q.events.length i ++ order, ps', c', ?_, hstate, ?_,
      .cons ?_ hanswers, fun j hj ↦ ?_⟩
    · rw [turns_append, hblock]
      exact hturns
    · rw [hevents, List.map_append, List.map_map, List.append_assoc]
      exact congrArg (_ ++ ·) (congrArg (· ++ _) (List.map_id' _))
    · rw [hothers i hi, Function.update_self]
    · obtain ⟨hji, hj⟩ := not_or.1 (fun h ↦ hj (List.mem_cons.2 h))
      rw [hothers j hj, Function.update_of_ne hji]

end Pool

/-! ### A part of the state -/

/-- **What is known of a program beside others is known of it in a larger pool.** The program sees a
part of the state and of the events. The others, as far as it sees them, keep within its terms, and
its own steps do what is asked of the whole. -/
theorem Abides.zoom {T : Terms ι ε σ} {U : Terms ι ζ τ} {i : ι} {get : τ → σ} {put : σ → τ → τ}
    {name : ε → ζ} (view : Course ι ζ τ → Course ι ε σ) (I : Course ι ζ τ → Prop)
    (hstate : ∀ c, (view c).state = get c.state)
    (hrely : ∀ c d, I c → U.rely c d → I d ∧ Relation.ReflTransGen T.rely (view c) (view d))
    (hwait : ∀ c, I c → T.wait (view c) → U.wait c)
    (hstep : ∀ c e s, I c → T.guarantee (view c) ((view c).extend i e s) →
      U.guarantee c (c.extend i (name e) (put s c.state)) ∧
      I (c.extend i (name e) (put s c.state)) ∧
      view (c.extend i (name e) (put s c.state)) = (view c).extend i e s)
    {p : Program ε σ α} {P : Course ι ε σ → Prop} {Q : α → Course ι ε σ → Prop}
    (h : Abides T i p P Q) :
    Abides U i (p.zoom get put name) (fun c ↦ I c ∧ P (view c)) (fun a c ↦ I c ∧ Q a (view c)) := by
  induction p generalizing P with
  | done a => exact fun c hc ↦ ⟨hc.1, h (view c) hc.2⟩
  | step act event next ih =>
    rintro c ⟨hI, hP⟩
    obtain ⟨hstuck, hgo⟩ := h (view c) hP
    rw [hstate] at hstuck hgo
    refine ⟨fun hnone ↦ hwait c hI (hstuck (Option.map_eq_none_iff.1 hnone)), fun b t hact ↦ ?_⟩
    obtain ⟨⟨b', s⟩, hinner, heq⟩ := Option.map_eq_some_iff.1 hact
    cases heq
    obtain ⟨hguarantee, hnext⟩ := hgo b' s hinner
    obtain ⟨hwhole, hI', hview⟩ := hstep c (event b') s hI hguarantee
    refine ⟨hwhole, (ih b' hnext).strengthen fun d hd ↦ ?_⟩
    rw [← hview]
    induction hd with
    | refl => exact ⟨hI', .refl⟩
    | tail _ hrelied hd =>
      obtain ⟨hI'', hseen⟩ := hrely _ _ hd.1 hrelied
      exact ⟨hI'', hd.2.trans hseen⟩

/-- A program all of whose steps keep the terms and an assertion that others leave true. -/
theorem abides_of_always {T : Terms ι ε σ} {i : ι} {I : Course ι ε σ → Prop}
    {φ : Footstep ε σ → Prop} {p : Program ε σ α} (hstable : T.Stable I) (hwait : ∀ c, T.wait c)
    (hstep : ∀ c e s, I c → φ ⟨c.state, e, s⟩ →
      T.guarantee c (c.extend i e s) ∧ I (c.extend i e s)) (h : p.Always φ) :
    Abides T i p I fun _ ↦ I := by
  induction p with
  | done a => exact fun c hc ↦ hc
  | step act event next ih =>
    refine fun c hc ↦ ⟨fun _ ↦ hwait c, fun b s hact ↦ ?_⟩
    obtain ⟨hφ, hnext⟩ := h.of_step hact
    obtain ⟨hguarantee, hI⟩ := hstep c (event b) s hc hφ
    exact ⟨hguarantee, (ih b hnext).strengthen fun d hd ↦ hstable.of_reflTransGen hd hI⟩

end Program

end SchemaForge
