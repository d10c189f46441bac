import SchemaForge.Proofs.Program.Pool

/-!
# Parties with shares of their own

Parties that work on one state, a step at a time and in any order, do not notice each other if each
has a share of the state for itself (`Shares`): no step of a party changes the share of another, and
what it does to its own depends on that alone. Then the order of the steps makes no difference. Each
program comes to one answer and leaves one share behind (`Program.Settled`), whatever the others do
in between (`Program.Reaches.settles`).

A step may announce or hand on what depends on more, such as the time it took, as long as that does
not count in the end. So `Program.Settled` is about a family of programs, which all come to the
same.
-/

namespace SchemaForge

/-- What each party owns of a state, and what holds of the state at all times. -/
structure Shares (ι σ ν : Type) where
  sound : σ → Prop
  share : ι → σ → ν

/-- What a step of a party does to the shares of the others: nothing. -/
structure Shares.Keeps {ι σ ν : Type} (S : Shares ι σ ν) (i : ι) (s t : σ) : Prop where
  sound : S.sound t
  others : ∀ j, j ≠ i → S.share j t = S.share j s

namespace Program

variable {ι ε σ ν κ α β γ χ : Type} {S : Shares ι σ ν} {i : ι} {v w : ν}

/-- From its share on, the program of a party comes to the answer and leaves the share given,
whatever the rest of the state is, and never touches the shares of others. -/
def Settles (S : Shares ι σ ν) (i : ι) : Program ε σ α → ν → α → ν → Prop
  | done a, v, b, w => a = b ∧ v = w
  | step act _ next, v, b, w => ∀ s c t, S.sound s → S.share i s = v → act s = some (c, t) →
      S.Keeps i s t ∧ (next c).Settles S i (S.share i t) b w

/-- From a share on, all programs of a family come to one answer and leave one share, and of these
the postcondition holds. -/
def Settled (S : Shares ι σ ν) (i : ι) (p : κ → Program ε σ α) (v : ν) (Q : α → ν → Prop) : Prop :=
  ∃ a w, Q a w ∧ ∀ k, (p k).Settles S i v a w

/-! ### Along the text of a program -/

theorem Settles.bind {p : Program ε σ α} {f : α → Program ε σ β} {a : α} {b : β} {u : ν}
    (hp : p.Settles S i v a w) (hf : (f a).Settles S i w b u) : (p >>= f).Settles S i v b u := by
  induction p generalizing v with
  | done a' =>
    obtain ⟨rfl, rfl⟩ := hp
    exact hf
  | step act event next ih =>
    intro s c t hs hv hact
    obtain ⟨hkeeps, hnext⟩ := hp s c t hs hv hact
    exact ⟨hkeeps, ih c hnext⟩

/-- A step with one answer that leaves all shares as they are. -/
theorem settles_still {act : σ → Option (γ × σ)} {event : γ → ε} {next : γ → Program ε σ α} {a : α}
    (hstep : ∀ s c t, S.sound s → S.share i s = v → act s = some (c, t) →
      S.sound t ∧ (∀ j, S.share j t = S.share j s) ∧ (next c).Settles S i v a w) :
    (step act event next).Settles S i v a w := by
  intro s c t hs hv hact
  obtain ⟨hsound, hshares, hnext⟩ := hstep s c t hs hv hact
  refine ⟨⟨hsound, fun j _ ↦ hshares j⟩, ?_⟩
  rw [hshares i, hv]
  exact hnext

variable {Q : α → ν → Prop}

theorem settled_pure {a : α} (h : Q a v) : Settled S i (fun _ : κ ↦ (pure a : Program ε σ α)) v Q :=
  ⟨a, v, h, fun _ ↦ ⟨rfl, rfl⟩⟩

theorem Settles.settled {p : Program ε σ α} {a : α} (h : p.Settles S i v a w) (hQ : Q a w) :
    Settled S i (fun _ : κ ↦ p) v Q :=
  ⟨a, w, hQ, fun _ ↦ h⟩

theorem Settled.comp {κ' : Type} {p : κ → Program ε σ α} (h : Settled S i p v Q) (f : κ' → κ) :
    Settled S i (fun k ↦ p (f k)) v Q := by
  obtain ⟨a, w, hQ, h⟩ := h
  exact ⟨a, w, hQ, fun k ↦ h (f k)⟩

theorem Settled.congr {p : Program ε σ α} (h : Settled S i (fun _ : Unit ↦ p) v Q)
    {q : κ → Program ε σ α} (hq : ∀ k, q k = p) : Settled S i q v Q := by
  rw [show q = fun _ ↦ p from funext hq]
  exact h.comp fun _ ↦ ()

theorem Settled.bind {R : β → ν → Prop} {p : κ → Program ε σ α} {f : κ → α → Program ε σ β}
    (hp : Settled S i p v Q) (hf : ∀ a w, Q a w → Settled S i (fun k ↦ f k a) w R) :
    Settled S i (fun k ↦ p k >>= f k) v R := by
  obtain ⟨a, w, hQ, hp⟩ := hp
  obtain ⟨b, u, hR, hf⟩ := hf a w hQ
  exact ⟨b, u, hR, fun k ↦ (hp k).bind (hf k)⟩

/-- The rule for a step: it leaves the shares of others, what it makes of its own is the same
whenever the step is taken, and so is what counts of its answer. -/
theorem settled_step {act : κ → σ → Option (γ × σ)} {event : κ → γ → ε}
    {next : κ → γ → Program ε σ α} (kind : γ → χ) (hQ : ∃ a w, Q a w)
    (hkeeps : ∀ k s c t, S.sound s → S.share i s = v → act k s = some (c, t) → S.Keeps i s t)
    (hsame : ∀ k s c t k' s' c' t', S.sound s → S.share i s = v → act k s = some (c, t) →
      S.sound s' → S.share i s' = v → act k' s' = some (c', t') →
        kind c' = kind c ∧ S.share i t' = S.share i t)
    (hnext : ∀ k s c t, S.sound s → S.share i s = v → act k s = some (c, t) →
      Settled S i (fun j : κ × {c' // kind c' = kind c} ↦ next j.1 j.2) (S.share i t) Q) :
    Settled S i (fun k ↦ step (act k) (event k) (next k)) v Q := by
  by_cases htaken : ∃ k s c t, S.sound s ∧ S.share i s = v ∧ act k s = some (c, t)
  · obtain ⟨k, s, c, t, hs, hv, hact⟩ := htaken
    obtain ⟨a, w, hQ, hsettles⟩ := hnext k s c t hs hv hact
    refine ⟨a, w, hQ, fun k' s' c' t' hs' hv' hact' ↦ ⟨hkeeps k' s' c' t' hs' hv' hact', ?_⟩⟩
    obtain ⟨hkind, hshare⟩ := hsame k s c t k' s' c' t' hs hv hact hs' hv' hact'
    rw [hshare]
    exact hsettles (k', ⟨c', hkind⟩)
  · -- the step is never taken, so anything can be said of what comes after it
    obtain ⟨a, w, hQ⟩ := hQ
    exact ⟨a, w, hQ, fun k s c t hs hv hact ↦ (htaken ⟨k, s, c, t, hs, hv, hact⟩).elim⟩

/-- The rule for a step that never waits. -/
theorem settled_perform {act : κ → σ → γ × σ} {event : κ → γ → ε} {next : κ → γ → Program ε σ α}
    (kind : γ → χ) (hQ : ∃ a w, Q a w)
    (hkeeps : ∀ k s, S.sound s → S.share i s = v → S.Keeps i s (act k s).2)
    (hsame : ∀ k s k' s', S.sound s → S.share i s = v → S.sound s' → S.share i s' = v →
      kind (act k' s').1 = kind (act k s).1 ∧ S.share i (act k' s').2 = S.share i (act k s).2)
    (hnext : ∀ k s, S.sound s → S.share i s = v →
      Settled S i (fun j : κ × {c // kind c = kind (act k s).1} ↦ next j.1 j.2)
        (S.share i (act k s).2) Q) :
    Settled S i (fun k ↦ perform (act k) (event k) >>= next k) v Q := by
  have hacts {k s c t} (hact : some (act k s) = some (c, t)) : c = (act k s).1 ∧ t = (act k s).2 :=
    Prod.mk.inj (Option.some.inj hact).symm
  refine settled_step kind hQ (fun k s c t hs hv hact ↦ ?_) ?_ fun k s c t hs hv hact ↦ ?_
  · rw [(hacts hact).2]
    exact hkeeps k s hs hv
  · intro k s c t k' s' c' t' hs hv hact hs' hv' hact'
    obtain ⟨rfl, rfl⟩ := hacts hact
    obtain ⟨rfl, rfl⟩ := hacts hact'
    exact hsame k s k' s' hs hv hs' hv'
  · obtain ⟨rfl, rfl⟩ := hacts hact
    exact hnext k s hs hv

/-- What comes after a step all of whose answer counts. -/
theorem Settled.exact {next : κ → γ → Program ε σ α} {x : γ}
    (h : Settled S i (fun k ↦ next k x) v Q) :
    Settled S i (fun k : κ × {c // id c = id x} ↦ next k.1 k.2) v Q := by
  obtain ⟨a, w, hQ, h⟩ := h
  refine ⟨a, w, hQ, fun ⟨k, c, hc⟩ ↦ ?_⟩
  obtain rfl : c = x := hc
  exact h k

/-- The rule for a step that only looks, and sees the same whenever it does. -/
theorem settled_look {read : σ → γ} {event : γ → ε} {next : γ → Program ε σ α}
    (hQ : ∃ a w, Q a w)
    (hread : ∀ s s', S.sound s → S.share i s = v → S.sound s' → S.share i s' = v → read s' = read s)
    (hnext : ∀ s, S.sound s → S.share i s = v → Settled S i (fun _ : κ ↦ next (read s)) v Q) :
    Settled S i (fun _ : κ ↦ look read event >>= next) v Q :=
  settled_perform id hQ (fun _ _ hs _ ↦ ⟨hs, fun _ _ ↦ rfl⟩)
    (fun _ s _ s' hs hv hs' hv' ↦ ⟨hread s s' hs hv hs' hv', hv'.trans hv.symm⟩)
    fun _ s hs hv ↦ by
      show Settled S i _ (S.share i s) Q
      rw [hv]
      exact (hnext s hs hv).exact

/-! ### In a pool -/

section Pool

variable [DecidableEq ι] {start ps : ι → Program ε σ α} {s₀ : σ} {c : Course ι ε σ} {a : ι → α}
  {u : ι → ν}

/-- **Parties with shares of their own come to the same in every order.** At every point of every
run, each is on its way to the answer and to the share that it would come to with any others. -/
theorem Reaches.settles (hsound : S.sound s₀)
    (hstart : ∀ i, (start i).Settles S i (S.share i s₀) (a i) (u i))
    (h : Reaches start s₀ ps c) :
    S.sound c.state ∧ ∀ i, (ps i).Settles S i (S.share i c.state) (a i) (u i) := by
  induction h with
  | start => exact ⟨hsound, hstart⟩
  | @step ps c j p e s _ hnext ih =>
    obtain ⟨hsound, hsettles⟩ := ih
    obtain ⟨hkeeps, hrest⟩ : S.Keeps j c.state s ∧ p.Settles S j (S.share j s) (a j) (u j) := by
      have hj := hsettles j
      cases hp : ps j with
      | done b =>
        rw [hp] at hnext
        cases hnext
      | step act event next =>
        rw [hp] at hnext hj
        obtain ⟨⟨b, t⟩, hact, heq⟩ := Option.map_eq_some_iff.1 hnext
        cases heq
        exact hj _ b _ hsound rfl hact
    refine ⟨hkeeps.sound, fun i ↦ ?_⟩
    by_cases hij : i = j
    · subst hij
      rw [Function.update_self]
      exact hrest
    · rw [Function.update_of_ne hij, Course.extend_state, hkeeps.others i hij]
      exact hsettles i

/-- What a party that is done has come to. -/
theorem Reaches.settled (hsound : S.sound s₀)
    (hstart : ∀ i, (start i).Settles S i (S.share i s₀) (a i) (u i))
    (h : Reaches start s₀ ps c) {b : α} (hdone : (ps i).answer? = some b) :
    b = a i ∧ S.share i c.state = u i := by
  have hi := (h.settles hsound hstart).2 i
  cases hp : ps i with
  | done b' =>
    rw [hp] at hdone hi
    obtain rfl := Option.some.inj hdone
    exact hi
  | step act event next =>
    rw [hp] at hdone
    cases hdone

end Pool

end Program

end SchemaForge
