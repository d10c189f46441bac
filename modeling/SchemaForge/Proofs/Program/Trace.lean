import SchemaForge.Proofs.Program.Alone

/-!
# The steps of one program among others

Between two steps of a program others may do anything to the state. `Program.Takes` is what can be
said of the program alone: the steps that it takes, each from whatever state it finds, and what
remains of it. A run of the program alone (`takes_of_run`) and its part in a run of many
(`Reaches.takes`) are both of this kind, so what holds of every sequence of steps holds however the
program is run.

The sequences of a program follow its text: those of `p >>= f` are those of `p`, and once `p` is
done, those of `f` after them (`takes_bind`).
-/

namespace SchemaForge

/-- A step that was taken: the state that it found, what it announced, and the state it left. -/
structure Footstep (ε σ : Type) where
  before : σ
  event : ε
  after : σ

/-- A step on a part of a state as a step on the whole. -/
def Footstep.zoom {ε σ τ ζ : Type} (put : σ → τ → τ) (name : ε → ζ) (x : τ × Footstep ε σ) :
    Footstep ζ τ :=
  ⟨x.1, name x.2.event, put x.2.after x.1⟩

namespace Program

variable {ι ε σ τ ζ α β γ : Type}

/-- The program may take the steps, one after the other, and come to what is given. -/
inductive Takes : Program ε σ α → List (Footstep ε σ) → Program ε σ α → Prop
  | refl {p : Program ε σ α} : Takes p [] p
  | step {γ : Type} {act : σ → Option (γ × σ)} {event : γ → ε} {next : γ → Program ε σ α} {b : γ}
      {s s' : σ} {steps : List (Footstep ε σ)} {q : Program ε σ α} (h : act s = some (b, s'))
      (rest : Takes (next b) steps q) :
      Takes (step act event next) (⟨s, event b, s'⟩ :: steps) q

variable {p q : Program ε σ α} {steps : List (Footstep ε σ)}

/-! ### Along the text of a program -/

instance : LawfulMonad (Program ε σ) :=
  LawfulMonad.mk' (Program ε σ)
    (fun p ↦ by
      induction p with
      | done a => rfl
      | step act event next ih => exact congrArg (Program.step act event) (funext ih))
    (fun _ _ ↦ rfl)
    (fun p f g ↦ by
      induction p with
      | done a => rfl
      | step act event next ih => exact congrArg (Program.step act event) (funext ih))

theorem takes_done {a : α} : (done a : Program ε σ α).Takes steps q ↔ steps = [] ∧ q = done a := by
  constructor
  · rintro ⟨⟩
    exact ⟨rfl, rfl⟩
  · rintro ⟨rfl, rfl⟩
    exact .refl

theorem takes_pure {a : α} : (pure a : Program ε σ α).Takes steps q ↔ steps = [] ∧ q = done a :=
  takes_done

theorem takes_step {act : σ → Option (γ × σ)} {event : γ → ε} {next : γ → Program ε σ α} :
    (Program.step act event next).Takes steps q ↔
      steps = [] ∧ q = Program.step act event next ∨
      ∃ s b s' rest, act s = some (b, s') ∧ steps = ⟨s, event b, s'⟩ :: rest ∧
        (next b).Takes rest q := by
  constructor
  · intro h
    cases h with
    | refl => exact Or.inl ⟨rfl, rfl⟩
    | @step _ _ _ _ b s s' rest _ hact hrest => exact Or.inr ⟨s, b, s', rest, hact, rfl, hrest⟩
  · rintro (⟨rfl, rfl⟩ | ⟨s, b, s', rest, hact, rfl, hrest⟩)
    · exact .refl
    · exact .step hact hrest

/-- The steps of a program and then of another: so far those of the first alone, or all of them and
those of the second. -/
theorem takes_bind {f : α → Program ε σ β} {q : Program ε σ β} :
    (p >>= f).Takes steps q ↔
      (∃ p', p.Takes steps p' ∧ p'.answer? = none ∧ q = p' >>= f) ∨
      ∃ a front back, steps = front ++ back ∧ p.Takes front (done a) ∧ (f a).Takes back q := by
  constructor
  · intro h
    induction p generalizing steps with
    | done a => exact Or.inr ⟨a, [], steps, rfl, .refl, h⟩
    | step act event next ih =>
      rw [bind_step, takes_step] at h
      rcases h with ⟨rfl, rfl⟩ | ⟨s, b, s', rest, hact, rfl, hrest⟩
      · exact Or.inl ⟨_, .refl, rfl, rfl⟩
      · rcases ih b hrest with ⟨p', hp', hrunning, rfl⟩ | ⟨a, front, back, rfl, hfront, hback⟩
        · exact Or.inl ⟨p', .step hact hp', hrunning, rfl⟩
        · exact Or.inr ⟨a, _ :: front, back, rfl, .step hact hfront, hback⟩
  · rintro (⟨p', hp', -, rfl⟩ | ⟨a, front, back, rfl, hfront, hback⟩)
    · induction hp' with
      | refl => exact .refl
      | step hact _ ih => exact .step hact ih
    · generalize hd : (done a : Program ε σ α) = d at hfront
      induction hfront with
      | refl =>
        subst hd
        exact hback
      | step hact _ ih => exact .step hact (ih hd)

theorem answer?_bind_of_eq_none {f : α → Program ε σ β} (h : p.answer? = none) :
    (p >>= f).answer? = none := by
  cases p with
  | done a => cases h
  | step act event next => rfl

/-- All steps of a program and then of another that have come to an answer. -/
theorem takes_bind_done {f : α → Program ε σ β} {b : β} :
    (p >>= f).Takes steps (done b) ↔
      ∃ a front back, steps = front ++ back ∧ p.Takes front (done a) ∧
        (f a).Takes back (done b) := by
  rw [takes_bind, or_iff_right]
  rintro ⟨p', -, hrunning, hdone⟩
  have hbind := answer?_bind_of_eq_none (f := f) hrunning
  rw [← hdone] at hbind
  cases hbind

/-- The steps of a program that begins with one of its own. -/
theorem takes_step_bind {act : σ → Option (γ × σ)} {event : γ → ε} {next : γ → Program ε σ α} :
    (await act event >>= next).Takes steps q ↔
      steps = [] ∧ q = (await act event >>= next) ∨
      ∃ s b s' rest, act s = some (b, s') ∧ steps = ⟨s, event b, s'⟩ :: rest ∧
        (next b).Takes rest q :=
  takes_step

/-- The steps of a program that begins with one that never waits. -/
theorem takes_perform_bind {act : σ → γ × σ} {event : γ → ε} {next : γ → Program ε σ α} :
    (perform act event >>= next).Takes steps q ↔
      steps = [] ∧ q = (perform act event >>= next) ∨
      ∃ s b s' rest, act s = (b, s') ∧ steps = ⟨s, event b, s'⟩ :: rest ∧
        (next b).Takes rest q := by
  rw [show (perform act event >>= next) = (await (fun s ↦ some (act s)) event >>= next) from rfl,
    takes_step_bind]
  simp only [Option.some.injEq]

theorem takes_step_bind_done {act : σ → Option (γ × σ)} {event : γ → ε} {next : γ → Program ε σ α}
    {a : α} :
    (await act event >>= next).Takes steps (done a) ↔
      ∃ s b s' rest, act s = some (b, s') ∧ steps = ⟨s, event b, s'⟩ :: rest ∧
        (next b).Takes rest (done a) := by
  rw [takes_step_bind, or_iff_right]
  exact fun h ↦ nomatch h.2

theorem takes_perform_bind_done {act : σ → γ × σ} {event : γ → ε} {next : γ → Program ε σ α}
    {a : α} :
    (perform act event >>= next).Takes steps (done a) ↔
      ∃ s b s' rest, act s = (b, s') ∧ steps = ⟨s, event b, s'⟩ :: rest ∧
        (next b).Takes rest (done a) := by
  rw [takes_perform_bind, or_iff_right]
  exact fun h ↦ nomatch h.2

theorem takes_perform_done {act : σ → γ × σ} {event : γ → ε} {a : γ} :
    (perform act event).Takes steps (done a) ↔
      ∃ s s', act s = (a, s') ∧ steps = [⟨s, event a, s'⟩] := by
  rw [show perform act event = (perform act event >>= pure) from rfl, takes_perform_bind_done]
  constructor
  · rintro ⟨s, b, s', rest, hact, rfl, hrest⟩
    obtain ⟨rfl, hdone⟩ := takes_pure.1 hrest
    cases hdone
    exact ⟨s, s', hact, rfl⟩
  · rintro ⟨s, s', hact, rfl⟩
    exact ⟨s, a, s', [], hact, rfl, .refl⟩

/-- The steps of a program on a part of the state are those of the program, seen on the whole. -/
theorem Takes.of_zoom {get : τ → σ} {put : σ → τ → τ} {name : ε → ζ}
    {steps : List (Footstep ζ τ)} {q : Program ζ τ α}
    (h : (p.zoom get put name).Takes steps q) :
    ∃ (inner : List (τ × Footstep ε σ)) (q' : Program ε σ α), p.Takes (inner.map Prod.snd) q' ∧
      q = q'.zoom get put name ∧ steps = inner.map (Footstep.zoom put name) ∧
      ∀ x ∈ inner, x.2.before = get x.1 := by
  induction p generalizing steps with
  | done a =>
    obtain ⟨rfl, rfl⟩ := takes_done.1 h
    exact ⟨[], done a, .refl, rfl, rfl, List.forall_mem_nil _⟩
  | step act event next ih =>
    rw [Program.zoom, takes_step] at h
    rcases h with ⟨rfl, rfl⟩ | ⟨t, b, t', rest, hact, rfl, hrest⟩
    · exact ⟨[], _, .refl, rfl, rfl, List.forall_mem_nil _⟩
    · obtain ⟨⟨b', s'⟩, hinner, heq⟩ := Option.map_eq_some_iff.1 hact
      cases heq
      obtain ⟨inner, q', htakes, rfl, rfl, hbefore⟩ := ih _ hrest
      exact ⟨(t, ⟨get t, event b', s'⟩) :: inner, q', .step hinner htakes, rfl, rfl,
        List.forall_mem_cons.2 ⟨rfl, hbefore⟩⟩

/-- All steps of a program on a part of the state that has come to an answer. -/
theorem Takes.of_zoom_done {get : τ → σ} {put : σ → τ → τ} {name : ε → ζ}
    {steps : List (Footstep ζ τ)} {a : α} (h : (p.zoom get put name).Takes steps (done a)) :
    ∃ inner : List (τ × Footstep ε σ), p.Takes (inner.map Prod.snd) (done a) ∧
      steps = inner.map (Footstep.zoom put name) ∧ ∀ x ∈ inner, x.2.before = get x.1 := by
  obtain ⟨inner, q', hinner, hq, hsteps, hbefore⟩ := h.of_zoom
  cases q' with
  | done a' =>
    cases hq
    exact ⟨inner, hinner, hsteps, hbefore⟩
  | step act event next => cases hq

/-! ### What every step does -/

/-- Every step that the program can take is as given. -/
def Always (φ : Footstep ε σ → Prop) (p : Program ε σ α) : Prop :=
  ∀ steps q, p.Takes steps q → ∀ x ∈ steps, φ x

variable {φ ψ : Footstep ε σ → Prop}

theorem Always.imp (h : p.Always φ) (himp : ∀ x, φ x → ψ x) : p.Always ψ :=
  fun steps q hq x hx ↦ himp x (h steps q hq x hx)

theorem always_pure {a : α} : (pure a : Program ε σ α).Always φ := by
  intro steps q h x hx
  rw [(takes_pure.1 h).1] at hx
  cases hx

theorem always_step {act : σ → Option (γ × σ)} {event : γ → ε} {next : γ → Program ε σ α}
    (hstep : ∀ s b s', act s = some (b, s') → φ ⟨s, event b, s'⟩)
    (hnext : ∀ b, (next b).Always φ) : (Program.step act event next).Always φ := by
  intro steps q h x hx
  rcases takes_step.1 h with ⟨rfl, -⟩ | ⟨s, b, s', rest, hact, rfl, hrest⟩
  · cases hx
  · rcases List.mem_cons.1 hx with rfl | hx
    · exact hstep s b s' hact
    · exact hnext b rest q hrest x hx

theorem Always.of_step {act : σ → Option (γ × σ)} {event : γ → ε} {next : γ → Program ε σ α}
    (h : (Program.step act event next).Always φ) {s s' : σ} {b : γ} (hact : act s = some (b, s')) :
    φ ⟨s, event b, s'⟩ ∧ (next b).Always φ := by
  refine ⟨h _ _ (.step hact .refl) _ List.mem_cons_self, fun steps q hq x hx ↦ ?_⟩
  exact h _ q (.step hact hq) x (List.mem_cons_of_mem _ hx)

theorem always_perform {act : σ → γ × σ} {event : γ → ε}
    (h : ∀ s, φ ⟨s, event (act s).1, (act s).2⟩) : (perform act event).Always φ := by
  refine always_step (fun s b s' hact ↦ ?_) fun b ↦ always_pure
  obtain ⟨rfl, rfl⟩ := Prod.mk.inj (Option.some.inj hact)
  exact h s

theorem Always.bind {f : α → Program ε σ β} (hp : p.Always φ) (hf : ∀ a, (f a).Always φ) :
    (p >>= f).Always φ := by
  intro steps q h x hx
  rcases takes_bind.1 h with ⟨p', hp', -, -⟩ | ⟨a, front, back, rfl, hfront, hback⟩
  · exact hp steps p' hp' x hx
  · rcases List.mem_append.1 hx with hx | hx
    · exact hp front _ hfront x hx
    · exact hf a back q hback x hx

theorem Always.zoom {get : τ → σ} {put : σ → τ → τ} {name : ε → ζ} {χ : Footstep ζ τ → Prop}
    (hp : p.Always φ) (h : ∀ t e s, φ ⟨get t, e, s⟩ → χ ⟨t, name e, put s t⟩) :
    (p.zoom get put name).Always χ := by
  intro steps q hq x hx
  obtain ⟨inner, q', hinner, -, rfl, hbefore⟩ := hq.of_zoom
  obtain ⟨⟨t, y⟩, hy, rfl⟩ := List.mem_map.1 hx
  refine h t y.event y.after ?_
  rw [← hbefore _ hy]
  exact hp _ q' hinner y (List.mem_map.2 ⟨_, hy, rfl⟩)

/-! ### Running alone -/

/-- The steps lead from one state to another, each from where the one before has left off. -/
def Leads : σ → List (Footstep ε σ) → σ → Prop
  | s, [], t => t = s
  | s, x :: xs, t => x.before = s ∧ Leads x.after xs t

/-- The steps of a run alone. -/
theorem takes_of_run {s : σ} {r : Run ε σ α} (h : p.run s = some r) :
    ∃ steps, p.Takes steps (done r.answer) ∧ steps.map Footstep.event = r.events ∧
      Leads s steps r.state := by
  induction p generalizing s r with
  | done a =>
    obtain rfl := Option.some.inj h
    exact ⟨[], .refl, rfl, rfl⟩
  | step act event next ih =>
    rw [run] at h
    cases hact : act s with
    | none =>
      rw [hact] at h
      cases h
    | some b =>
      rw [hact] at h
      obtain ⟨q, hq, rfl⟩ := Option.map_eq_some_iff.1 h
      obtain ⟨steps, hsteps, hevents, hleads⟩ := ih b.1 hq
      exact ⟨_ :: steps, .step hact hsteps, congrArg (_ :: ·) hevents, rfl, hleads⟩

/-- Steps that lead from one state to another, up to the end of the program, are its run alone. -/
theorem run_of_takes {s t : σ} {a : α} (h : p.Takes steps (done a)) (hleads : Leads s steps t) :
    p.run s = some ⟨a, steps.map Footstep.event, t⟩ := by
  generalize hq : (done a : Program ε σ α) = q at h
  induction h generalizing s with
  | refl =>
    subst hq
    obtain rfl : t = s := hleads
    rfl
  | step hact _ ih =>
    obtain ⟨rfl, hleads⟩ := hleads
    rw [run, hact]
    dsimp only
    rw [ih hleads hq]
    rfl

theorem Leads.exists_of_append {s u : σ} {front back : List (Footstep ε σ)}
    (h : Leads s (front ++ back) u) : ∃ m, Leads s front m ∧ Leads m back u := by
  induction front generalizing s with
  | nil => exact ⟨s, rfl, h⟩
  | cons x front ih =>
    obtain ⟨m, hfront, hback⟩ := ih h.2
    exact ⟨m, ⟨h.1, hfront⟩, hback⟩

/-- What no step changes is the same in the end. -/
theorem Leads.eq_of_forall {κ : Type} {get : σ → κ} {s t : σ} (h : Leads s steps t)
    (hkeeps : ∀ x ∈ steps, get x.after = get x.before) : get t = get s := by
  induction steps generalizing s with
  | nil => exact congrArg get h
  | cons x xs ih =>
    obtain ⟨rfl, hrest⟩ := h
    rw [List.forall_mem_cons] at hkeeps
    rw [ih hrest hkeeps.2, hkeeps.1]

/-- What each step changes by its event is in the end what all events make of it. -/
theorem Leads.eq_foldl {κ : Type} {get : σ → κ} {f : κ → ε → κ} {s t : σ} (h : Leads s steps t)
    (hsteps : ∀ x ∈ steps, get x.after = f (get x.before) x.event) :
    get t = (steps.map Footstep.event).foldl f (get s) := by
  induction steps generalizing s with
  | nil => exact congrArg get h
  | cons x xs ih =>
    obtain ⟨rfl, hrest⟩ := h
    rw [List.forall_mem_cons] at hsteps
    rw [ih hrest hsteps.2, hsteps.1, List.map_cons, List.foldl_cons]

/-- What each step keeps, and what follows from it of each step. -/
theorem Leads.forall_of_forall {J : σ → Prop} {φ : Footstep ε σ → Prop} {s t : σ}
    (h : Leads s steps t) (hs : J s)
    (hsteps : ∀ x ∈ steps, J x.before → J x.after ∧ φ x) : J t ∧ ∀ x ∈ steps, φ x := by
  induction steps generalizing s with
  | nil =>
    obtain rfl := h
    exact ⟨hs, List.forall_mem_nil φ⟩
  | cons x xs ih =>
    obtain ⟨rfl, hrest⟩ := h
    obtain ⟨hx, hxs⟩ := List.forall_mem_cons.1 hsteps
    obtain ⟨hafter, hφ⟩ := hx hs
    obtain ⟨hend, hall⟩ := ih hrest hafter hxs
    exact ⟨hend, List.forall_mem_cons.2 ⟨hφ, hall⟩⟩

/-- A run that begins with a step that never waits. -/
theorem run_perform_bind (act : σ → γ × σ) (event : γ → ε) (next : γ → Program ε σ α) (s : σ) :
    (perform act event >>= next).run s = ((next (act s).1).run (act s).2).map fun r ↦
      { r with events := event (act s).1 :: r.events } := rfl

/-- A run of programs one after the other. -/
theorem run_mapM_cons {f : ι → Program ε σ α} {i : ι} {is : List ι} {s : σ}
    {r : Run ε σ (List α)} (h : ((i :: is).mapM f).run s = some r) :
    ∃ q v, (f i).run s = some q ∧ (is.mapM f).run q.state = some v ∧
      r = ⟨q.answer :: v.answer, q.events ++ v.events, v.state⟩ := by
  rw [List.mapM_cons] at h
  obtain ⟨q, u, hq, hu, rfl⟩ := of_run_bind h
  obtain ⟨v, _, hv, hend, rfl⟩ := of_run_bind hu
  obtain rfl := Option.some.inj hend
  exact ⟨q, v, hq, hv, congrArg (Run.mk _ · _) (congrArg (_ ++ ·) (List.append_nil _))⟩

/-- The rule for programs one after the other. -/
theorem ensures_mapM {f : ι → Program ε σ α} {P : σ → Prop} {xs : List ι}
    (h : ∀ x ∈ xs, Ensures (f x) P fun _ ↦ P) : Ensures (xs.mapM f) P fun _ ↦ P := by
  induction xs with
  | nil => exact ensures_pure fun _ hs ↦ hs
  | cons x xs ih =>
    rw [List.mapM_cons]
    obtain ⟨hx, hxs⟩ := List.forall_mem_cons.1 h
    exact hx.bind fun _ ↦ (ih hxs).bind fun _ ↦ ensures_pure fun _ hs ↦ hs

/-- A run on a part of the state, if the part is found again as it was left. -/
theorem run_zoom {get : τ → σ} {put : σ → τ → τ} {name : ε → ζ} {I : τ → Prop} {J : σ → Prop}
    (hput : ∀ s t, I t → J s → I (put s t) ∧ get (put s t) = s)
    (hp : p.Always fun x ↦ J x.before → J x.after) {t : τ} (ht : I t) (hJ : J (get t))
    {r : Run ε σ α} (hr : p.run (get t) = some r) :
    ∃ t', (p.zoom get put name).run t = some ⟨r.answer, r.events.map name, t'⟩ ∧ I t' ∧
      get t' = r.state := by
  induction p generalizing t r with
  | done a =>
    obtain rfl := Option.some.inj hr
    exact ⟨t, rfl, ht, rfl⟩
  | step act event next ih =>
    rw [run] at hr
    cases hact : act (get t) with
    | none =>
      rw [hact] at hr
      cases hr
    | some b =>
      rw [hact] at hr
      obtain ⟨q, hq, rfl⟩ := Option.map_eq_some_iff.1 hr
      obtain ⟨hstep, hnext⟩ := hp.of_step hact
      have hJ' : J b.2 := hstep hJ
      obtain ⟨hI, hget⟩ := hput b.2 t ht hJ'
      obtain ⟨t', hrun, hend⟩ := ih b.1 hnext hI (hget.symm ▸ hJ') (hget.symm ▸ hq)
      refine ⟨t', ?_, hend⟩
      rw [zoom, run, hact, Option.map_some]
      exact congrArg (Option.map _) hrun

/-! ### Running among others -/

theorem Takes.advance (h : p.Takes steps q) {s s' : σ} {q' : Program ε σ α} {e : ε}
    (hnext : q.advance s = some (q', e, s')) : p.Takes (steps ++ [⟨s, e, s'⟩]) q' := by
  induction h with
  | @refl q =>
    cases q with
    | done a => cases hnext
    | step act event next =>
      obtain ⟨⟨b, t⟩, hact, heq⟩ := Option.map_eq_some_iff.1 hnext
      cases heq
      exact .step hact .refl
  | step hact _ ih => exact .step hact (ih hnext)

section Pool

variable [DecidableEq ι]

/-- What a party has announced. -/
def own (i : ι) (events : List (ι × ε)) : List ε :=
  events.filterMap fun x ↦ if x.1 = i then some x.2 else none

theorem mem_own {i : ι} {e : ε} {events : List (ι × ε)} : e ∈ own i events ↔ (i, e) ∈ events := by
  simp [own, List.mem_filterMap, ← and_assoc]

@[simp] theorem own_append (i : ι) (front back : List (ι × ε)) :
    own i (front ++ back) = own i front ++ own i back :=
  List.filterMap_append

@[simp] theorem own_cons_self (i : ι) (e : ε) (events : List (ι × ε)) :
    own i ((i, e) :: events) = e :: own i events :=
  List.filterMap_cons_some (if_pos rfl)

theorem own_cons_of_ne {i j : ι} (h : j ≠ i) (e : ε) (events : List (ι × ε)) :
    own i ((j, e) :: events) = own i events :=
  List.filterMap_cons_none (if_neg h)

/-- What a party has done so far are steps of its program, each from a state that the pool had come
to by then. -/
theorem Reaches.takes {start ps : ι → Program ε σ α} {s₀ : σ} {c : Course ι ε σ}
    (h : Reaches start s₀ ps c) (i : ι) :
    ∃ steps, (start i).Takes steps (ps i) ∧ steps.map Footstep.event = own i c.events ∧
      ∀ x ∈ steps, ∃ ps' c' after, Reaches start s₀ ps' c' ∧ c'.state = x.before ∧
        c.events = c'.events ++ (i, x.event) :: after := by
  induction h with
  | start => exact ⟨[], .refl, rfl, List.forall_mem_nil _⟩
  | @step ps c j p e s hbefore hnext ih =>
    obtain ⟨steps, hsteps, hevents, hhistory⟩ := ih
    have hlonger : ∀ x ∈ steps, ∃ ps' c' after, Reaches start s₀ ps' c' ∧ c'.state = x.before ∧
        (c.extend j e s).events = c'.events ++ (i, x.event) :: after := by
      intro x hx
      obtain ⟨ps', c', after, hreaches, hstate, hsplit⟩ := hhistory x hx
      refine ⟨ps', c', after ++ [(j, e)], hreaches, hstate, ?_⟩
      rw [Course.extend_events, hsplit, List.append_assoc, List.cons_append]
    rw [Course.extend_events, own_append]
    by_cases hji : j = i
    · subst hji
      rw [Function.update_self, own_cons_self]
      refine ⟨_, hsteps.advance hnext, by rw [List.map_append, hevents]; rfl, ?_⟩
      refine List.forall_mem_append.2 ⟨hlonger, List.forall_mem_singleton.2 ?_⟩
      exact ⟨ps, c, [], hbefore, rfl, rfl⟩
    · rw [Function.update_of_ne (Ne.symm hji), own_cons_of_ne hji]
      exact ⟨steps, hsteps, by rw [hevents]; exact (List.append_nil _).symm, hlonger⟩

end Pool

end Program

end SchemaForge
