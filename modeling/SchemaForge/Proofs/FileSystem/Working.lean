import SchemaForge.Proofs.FileSystem.Beside

/-!
# Work at one place

Whoever works at a place (`FileSystem.WorksAt`) changes what is there and below, and lets the tree
grow on the way to it. Several who work at places apart from each other do not notice each other:
from what the tree was at first, it has only grown on the ways to their places
(`FileSystem.Around`), the branch of each is as it has left it itself, and whatever is apart from
all these places is as it was.
-/

namespace SchemaForge

namespace FileSystem

/-- Neither place is in the other. -/
def Apart (a b : Location) : Prop := ¬a <+: b ∧ ¬b <+: a

instance (a b : Location) : Decidable (Apart a b) :=
  inferInstanceAs (Decidable (¬a <+: b ∧ ¬b <+: a))

/-- What is done at a place: the way to it may grow, and nothing else changes outside of it. -/
structure WorksAt (place : Location) (fs fs' : FileSystem) : Prop where
  elsewhere : ∀ keep : Location → Bool, (∀ q, keep q = true → Apart q place) →
    fs'.only keep = fs.only keep
  grown : ∀ q, ¬place <+: q → Grown fs fs' q
  regular : fs'.Regular place

variable {fs fs' fs'' fs₀ : FileSystem} {place other q : Location}

theorem Apart.symm {a b : Location} (h : Apart a b) : Apart b a := ⟨h.2, h.1⟩

instance : Std.Symm Apart := ⟨fun _ _ ↦ Apart.symm⟩

/-- What is in one of two places apart from each other is apart from the other. -/
theorem Apart.of_isPrefix {a b : Location} (h : Apart a b) (hq : a <+: q) : Apart q b :=
  ⟨fun hqb ↦ h.1 (hq.trans hqb), fun hbq ↦
    (List.prefix_or_prefix_of_prefix hq hbq).elim h.1 h.2⟩

theorem Grown.node?_of_some (h : Grown fs fs' q) {node : Node} (hq : fs.node? q = some node) :
    fs'.node? q = some node := by
  rcases h with heq | ⟨hnone, -⟩
  · rw [heq, hq]
  · rw [hq] at hnone
    cases hnone

theorem Grown.trans (h : Grown fs fs' q) (h' : Grown fs' fs'' q)
    (habove : Grown fs' fs'' q.dropLast) : Grown fs fs'' q := by
  rcases h with heq | ⟨hnone, hplain, hopen⟩
  · rcases h' with heq' | ⟨hnone', hplain', hopen'⟩
    · exact Or.inl (heq'.trans heq)
    · exact Or.inr ⟨heq ▸ hnone', hplain', hopen'⟩
  · rw [refusalAt_eq_none_iff] at hopen
    exact Or.inr ⟨hnone, h'.node?_of_some hplain,
      refusalAt_eq_none_iff.2 (habove.node?_of_some hopen)⟩

/-- A way stays regular if it only grows. -/
theorem regular_of_grown (hregular : fs.Regular place) (h : ∀ q, q <+: place → Grown fs fs' q) :
    fs'.Regular place := by
  refine ⟨fun q hq target ↦ ?_, fun q hq hne hnode ↦ ?_⟩
  · rcases h q hq with heq | ⟨-, hplain, -⟩
    · rw [heq]
      exact hregular.linkless q hq target
    · rw [hplain]
      exact nofun
  · rcases h q hq with heq | ⟨-, -, hopen⟩
    · rw [heq] at hnode
      obtain ⟨refusal, hdirectory⟩ := isDirectoryAt_iff.1 (hregular.rooted q hq hne hnode)
      exact isDirectoryAt_iff.2 ⟨refusal,
        (h _ ((List.dropLast_prefix q).trans hq)).node?_of_some hdirectory⟩
    · exact isDirectoryAt_iff.2 ⟨none, refusalAt_eq_none_iff.1 hopen⟩

theorem WorksAt.trans (h : WorksAt place fs fs') (h' : WorksAt place fs' fs'') :
    WorksAt place fs fs'' where
  elsewhere keep hkeep := (h'.elsewhere keep hkeep).trans (h.elsewhere keep hkeep)
  grown q hq := (h.grown q hq).trans (h'.grown q hq)
    (h'.grown _ fun hbelow ↦ hq (hbelow.trans (List.dropLast_prefix q)))
  regular := h'.regular

theorem Grows.worksAt (h : Grows place fs fs') (hregular : fs.Regular place) :
    WorksAt place fs fs' where
  elsewhere keep hkeep := h.elsewhere keep fun q hq ↦ (hkeep q hq).1
  grown q _ := h.grown q
  regular := h.regular hregular

/-- Changes below a place. -/
theorem worksAt_of_below (hregular : fs.Regular place)
    (h : fs'.only (fun q ↦ !isBelow place q) = fs.only fun q ↦ !isBelow place q) :
    WorksAt place fs fs' := by
  have hnode (q) (hq : ¬(place <+: q ∧ q ≠ place)) : fs'.node? q = fs.node? q := by
    refine node?_eq_of_only h ?_
    rw [Bool.not_eq_true', ← Bool.not_eq_true, isBelow_iff]
    exact hq
  refine ⟨fun keep hkeep ↦ only_eq_of_imp (fun q hq ↦ ?_) h,
    fun q hq ↦ Or.inl (hnode q fun hbelow ↦ hq hbelow.1),
    regular_of_grown hregular fun q hq ↦ Or.inl (hnode q fun hbelow ↦ ?_)⟩
  · rw [Bool.not_eq_true', ← Bool.not_eq_true, isBelow_iff]
    exact fun hbelow ↦ (hkeep q hq).2 hbelow.1
  · exact hbelow.2 (hq.eq_of_length (Nat.le_antisymm hq.length_le hbelow.1.length_le))

/-- A file put at a place in a directory. -/
theorem worksAt_put {node : Node} (hregular : fs.Regular place) (hne : place ≠ [])
    (hdirectory : fs.isDirectoryAt place.dropLast = true) (hnode : ∀ target, node ≠ .link target) :
    WorksAt place fs (fs.put place node) := by
  have hother {q} (hq : q ≠ place) : (fs.put place node).node? q = fs.node? q :=
    node?_put_of_ne fs hq node
  have hlast {q : Location} (hq : q <+: place) (hself : q ≠ []) : q.dropLast ≠ place := by
    intro heq
    have hlength := hq.length_le
    rw [← heq, List.length_dropLast] at hlength
    exact hself (List.length_eq_zero_iff.1 (by omega))
  refine ⟨fun keep hkeep ↦ only_put_of_not (Bool.eq_false_iff.2 fun h ↦
    (hkeep place h).1 List.prefix_rfl) _, fun q hq ↦ Or.inl (hother ?_),
    fun q hq target ↦ ?_, fun q hq hself hpresent ↦ ?_⟩
  · rintro rfl
    exact hq List.prefix_rfl
  · by_cases heq : q = place
    · rw [heq, node?_put_self fs hne]
      exact fun h ↦ hnode target (Option.some.inj h)
    · rw [hother heq]
      exact hregular.linkless q hq target
  · rw [isDirectoryAt_eq (hother (hlast hq hself))]
    by_cases heq : q = place
    · rw [heq]
      exact hdirectory
    · rw [hother heq] at hpresent
      exact hregular.rooted q hq hself hpresent

/-! ### At a place apart -/

theorem WorksAt.branch_of_apart (h : WorksAt place fs fs') (hapart : Apart other place) :
    fs'.branch other = fs.branch other :=
  h.elsewhere _ fun _ hq ↦ hapart.of_isPrefix (List.isPrefixOf_iff_prefix.1 hq)

theorem WorksAt.regular_of_apart (h : WorksAt place fs fs') (hapart : Apart other place)
    (hregular : fs.Regular other) : fs'.Regular other :=
  regular_of_grown hregular fun _ hq ↦ h.grown _ fun hplace ↦ hapart.2 (hplace.trans hq)

/-- A place that is apart from all the places where others work. -/
def clear (places : List Location) (q : Location) : Bool :=
  places.all fun place ↦ !place.isPrefixOf q && !q.isPrefixOf place

theorem clear_iff {places : List Location} :
    clear places q = true ↔ ∀ place ∈ places, Apart q place := by
  rw [clear, List.all_eq_true]
  refine forall₂_congr fun place _ ↦ ?_
  rw [Bool.and_eq_true, Bool.not_eq_true', Bool.not_eq_true', ← Bool.not_eq_true,
    ← Bool.not_eq_true, List.isPrefixOf_iff_prefix, List.isPrefixOf_iff_prefix]
  exact and_comm

/-- A tree on which work was done at some places apart from each other. -/
structure Around (places : List Location) (fs₀ fs : FileSystem) : Prop where
  still : fs.only (clear places) = fs₀.only (clear places)
  grown : ∀ place ∈ places, ∀ q, q <+: place → q ≠ place → Grown fs₀ fs q
  regular : ∀ place ∈ places, fs.Regular place

variable {places : List Location}

theorem Around.refl (hregular : ∀ place, fs.Regular place) : Around places fs fs :=
  ⟨rfl, fun _ _ _ _ _ ↦ Or.inl rfl, fun place _ ↦ hregular place⟩

theorem prefix_antisymm {a b : Location} (h : a <+: b) (h' : b <+: a) : a = b :=
  h.eq_of_length (Nat.le_antisymm h.length_le h'.length_le)

/-- **Work at one of the places leaves the tree as the others expect it.** -/
theorem Around.step (h : Around places fs₀ fs) (hplace : place ∈ places)
    (hapart : ∀ other ∈ places, other ≠ place → Apart other place)
    (hwork : WorksAt place fs fs') : Around places fs₀ fs' := by
  refine ⟨?_, fun other hother q hq hne ↦ ?_, fun other hother ↦ ?_⟩
  · exact (hwork.elsewhere _ fun q hq ↦ clear_iff.1 hq place hplace).trans h.still
  · have hout {r} (hr : r <+: q) : ¬place <+: r := by
      intro hin
      by_cases heq : other = place
      · subst heq
        exact hne (prefix_antisymm hq (hin.trans hr))
      · exact (hapart other hother heq).2 ((hin.trans hr).trans hq)
    exact (h.grown other hother q hq hne).trans (hwork.grown q (hout List.prefix_rfl))
      (hwork.grown _ (hout (List.dropLast_prefix q)))
  · by_cases heq : other = place
    · rw [heq]
      exact hwork.regular
    · exact hwork.regular_of_apart (hapart other hother heq) (h.regular other hother)

theorem Around.beside (h : Around places fs₀ fs) (hplace : place ∈ places)
    (hbranch : fs.branch place = fs₀.branch place) : Beside place fs₀ fs :=
  ⟨h.grown place hplace, hbranch⟩

/-! ### Away from all places -/

theorem Around.branch_of_clear (h : Around places fs₀ fs)
    (hclear : ∀ place ∈ places, Apart q place) : fs.branch q = fs₀.branch q :=
  only_eq_of_imp (fun _ hr ↦ clear_iff.2 fun place hplace ↦
    (hclear place hplace).of_isPrefix (List.isPrefixOf_iff_prefix.1 hr)) h.still

/-- The way to a place apart has only grown. -/
theorem Around.grown_of_clear (h : Around places fs₀ fs)
    (hclear : ∀ place ∈ places, Apart q place) {r : Location} (hr : r <+: q) : Grown fs₀ fs r := by
  by_cases hway : ∃ place ∈ places, r <+: place
  · obtain ⟨place, hplace, hbelow⟩ := hway
    refine h.grown place hplace r hbelow fun heq ↦ (hclear place hplace).2 (heq ▸ hr)
  · refine Or.inl (node?_eq_of_only h.still (clear_iff.2 fun place hplace ↦ ⟨fun hbelow ↦ ?_,
      fun hbelow ↦ (hclear place hplace).2 (hbelow.trans hr)⟩))
    exact hway ⟨place, hplace, hbelow⟩

theorem Around.beside_of_clear (h : Around places fs₀ fs)
    (hclear : ∀ place ∈ places, Apart q place) : Beside q fs₀ fs :=
  ⟨fun _ hr _ ↦ h.grown_of_clear hclear hr, h.branch_of_clear hclear⟩

end FileSystem

end SchemaForge
