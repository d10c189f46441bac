import SchemaForge.Proofs.Migration.VersionOrder

/-!
# What the check of a history lets through

`History.pending` makes three checks and filters the scripts. `pending_eq_ok_iff` says so once, as
four facts about the history, and everything else is read off it.

The check of the order looks at the *first* missing script and the *latest* recorded version only.
That this is enough (`isBefore_of_mem_pending`) takes the ascending order of the scripts, which
puts the first missing one before all others, and that of versions, in which the latest recorded
one is after all others.
-/

namespace SchemaForge

namespace History

/-! ### The three checks -/

theorem checkSuccess_eq_ok_iff {history : List HistoryEntry} :
    checkSuccess history = .ok () ↔ ∀ h ∈ history, h.success = true := by
  rw [checkSuccess]
  split
  · rename_i hnone
    simpa using hnone
  · rename_i h hsome
    refine ⟨(nomatch ·), fun hall ↦ ?_⟩
    have hfailed := List.find?_some hsome
    rw [hall h (List.mem_of_find?_eq_some hsome)] at hfailed
    cases hfailed

theorem checkEntry_eq_ok_iff {scripts : List Script} {h : HistoryEntry} :
    checkEntry scripts h = .ok () ↔
      ∀ s, scripts.find? (·.version == h.version) = some s → s.checksum = h.checksum := by
  rw [checkEntry]
  split
  · rename_i hnone
    simp [hnone]
  · rename_i s hsome
    simp [hsome]

theorem forM_eq_ok_iff {α ε : Type} {f : α → Except ε Unit} {as : List α} :
    as.forM f = .ok () ↔ ∀ a ∈ as, f a = .ok () := by
  induction as with
  | nil => simp [pure, Except.pure]
  | cons a as ih =>
    rw [List.forM, List.forall_mem_cons, ← ih]
    cases hfa : f a with
    | error e => simp [bind, Except.bind]
    | ok u => simp [bind, Except.bind]

/-- The checks that the history passes, and the scripts that are left. -/
theorem pending_eq_ok_iff {scripts ps : List Script} {history : List HistoryEntry} :
    pending scripts history = .ok ps ↔
      (∀ h ∈ history, h.success = true) ∧ (∀ h ∈ history, checkEntry scripts h = .ok ()) ∧
      checkOrder history ps = .ok () ∧ scripts.filter (fun s ↦ !holds history s.version) = ps := by
  rw [pending, ← checkSuccess_eq_ok_iff, ← forM_eq_ok_iff]
  cases checkSuccess history with
  | error e => simp [bind, Except.bind]
  | ok u =>
    cases history.forM (checkEntry scripts) with
    | error e => simp [bind, Except.bind]
    | ok u =>
      constructor
      · intro h
        simp only [bind, Except.bind] at h
        split at h
        · cases h
        · rename_i horder
          obtain rfl := Except.ok.inj h
          exact ⟨rfl, rfl, horder, rfl⟩
      · rintro ⟨-, -, horder, rfl⟩
        simp [bind, Except.bind, horder, pure, Except.pure]

/-! ### The latest version and the next rank -/

theorem latest?_step (history : List HistoryEntry) (w : Version) :
    ∃ v, history.foldl (fun v h ↦
        match v with
        | none => some h.version
        | some w => some (if h.version.isBefore w then w else h.version)) (some w) = some v ∧
      (v = w ∨ ∃ h ∈ history, h.version = v) ∧ ¬v.isBefore w = true ∧
      ∀ h ∈ history, ¬v.isBefore h.version = true := by
  induction history generalizing w with
  | nil => exact ⟨w, rfl, Or.inl rfl, Version.isBefore_irrefl w, by simp⟩
  | cons h rest ih =>
    -- the later of `w` and the version of `h`
    obtain ⟨v, hv, hmem, hmax, hall⟩ := ih (if h.version.isBefore w then w else h.version)
    refine ⟨v, hv, ?_⟩
    by_cases hw : h.version.isBefore w = true
    · rw [if_pos hw] at hmem hmax
      refine ⟨?_, hmax, ?_⟩
      · rcases hmem with rfl | ⟨x, hx, rfl⟩
        · exact Or.inl rfl
        · exact Or.inr ⟨x, List.mem_cons_of_mem h hx, rfl⟩
      · refine List.forall_mem_cons.2 ⟨fun hvh ↦ hmax (Version.isBefore_trans hvh hw), hall⟩
    · rw [if_neg hw] at hmem hmax
      refine ⟨?_, ?_, List.forall_mem_cons.2 ⟨hmax, hall⟩⟩
      · rcases hmem with rfl | ⟨x, hx, rfl⟩
        · exact Or.inr ⟨h, List.mem_cons_self, rfl⟩
        · exact Or.inr ⟨x, List.mem_cons_of_mem h hx, rfl⟩
      · rcases Version.eq_or_isBefore_of_not_isBefore hw with heq | hlt
        · exact heq ▸ hmax
        · exact fun hvw ↦ hmax (Version.isBefore_trans hvw hlt)

/-- The latest version is in the history, and before no version of it. -/
theorem exists_latest? {history : List HistoryEntry} (hne : history ≠ []) :
    ∃ h ∈ history, latest? history = some h.version ∧
      ∀ x ∈ history, ¬h.version.isBefore x.version = true := by
  cases history with
  | nil => exact absurd rfl hne
  | cons h rest =>
    obtain ⟨v, hv, hmem, hmax, hall⟩ := latest?_step rest h.version
    rcases hmem with rfl | ⟨x, hx, rfl⟩
    · exact ⟨h, List.mem_cons_self, hv, List.forall_mem_cons.2 ⟨hmax, hall⟩⟩
    · exact ⟨x, List.mem_cons_of_mem h hx, hv, List.forall_mem_cons.2 ⟨hmax, hall⟩⟩

theorem foldl_max_rank {history : List HistoryEntry} {k : ℕ}
    (h : history.map (·.rank) = List.range' (k + 1) history.length) :
    history.foldl (fun n h ↦ max n h.rank) k = k + history.length := by
  induction history generalizing k with
  | nil => rfl
  | cons x xs ih =>
    rw [List.map_cons, List.length_cons, List.range'_succ] at h
    obtain ⟨hrank, hrest⟩ := List.cons.inj h
    rw [List.foldl_cons, hrank, max_eq_right (by omega), ih hrest, List.length_cons]
    omega

/-- Where the ranks are those from one on, the next one continues them. -/
theorem nextRank_eq {history : List HistoryEntry}
    (h : history.map (·.rank) = List.range' 1 history.length) :
    nextRank history = history.length + 1 := by
  rw [nextRank, foldl_max_rank h, Nat.zero_add]

/-- The next rank is one more than the largest. -/
theorem nextRank_eq_max? (history : List HistoryEntry) :
    nextRank history = (history.map (·.rank)).max?.getD 0 + 1 := by
  cases history with
  | nil => rfl
  | cons h rest =>
    rw [nextRank, List.foldl_cons, Nat.zero_max, List.map_cons, List.max?_cons', Option.getD_some,
      List.foldl_map]

theorem rank_lt_nextRank {history : List HistoryEntry} {h : HistoryEntry} (hh : h ∈ history) :
    h.rank < nextRank history := by
  rw [nextRank_eq_max?, Nat.lt_succ_iff]
  exact List.le_max?_getD_of_mem (List.mem_map_of_mem hh)

/-- Ranks are numbers of 32 bits. There are as many left for new rows, and one to go on from. -/
def HasRoom (history : List HistoryEntry) (n : ℕ) : Prop := nextRank history + n < UInt32.size

instance (history : List HistoryEntry) (n : ℕ) : Decidable (HasRoom history n) :=
  inferInstanceAs (Decidable (nextRank history + n < UInt32.size))

/-! ### The scripts that are left -/

theorem ascending_of_pending {scripts ps : List Script} {history : List HistoryEntry}
    (hscripts : Script.Ascending scripts) (h : pending scripts history = .ok ps) :
    Script.Ascending ps := by
  obtain ⟨-, -, -, rfl⟩ := pending_eq_ok_iff.1 h
  exact List.Pairwise.filter _ hscripts

theorem not_holds_of_mem_pending {scripts ps : List Script} {history : List HistoryEntry}
    (h : pending scripts history = .ok ps) {s : Script} (hs : s ∈ ps) :
    ∀ x ∈ history, x.version ≠ s.version := by
  obtain ⟨-, -, -, rfl⟩ := pending_eq_ok_iff.1 h
  have hmissing := (List.mem_filter.1 hs).2
  intro x hx heq
  rw [holds, Bool.not_eq_true', List.any_eq_false] at hmissing
  exact hmissing x hx (beq_iff_eq.2 heq)

/-- A script that is left comes after everything that is recorded. -/
theorem isBefore_of_mem_pending {scripts ps : List Script} {history : List HistoryEntry}
    (hscripts : Script.Ascending scripts) (h : pending scripts history = .ok ps)
    {x : HistoryEntry} (hx : x ∈ history) {s : Script} (hs : s ∈ ps) :
    x.version.isBefore s.version = true := by
  obtain ⟨-, -, horder, -⟩ := pending_eq_ok_iff.1 h
  have hps := ascending_of_pending hscripts h
  obtain ⟨latest, hmem, hlatest, hmax⟩ := exists_latest? (List.ne_nil_of_mem hx)
  cases ps with
  | nil => cases hs
  | cons first rest =>
    simp only [checkOrder, hlatest] at horder
    split at horder
    · cases horder
    · rename_i hnot
      have hlt : latest.version.isBefore first.version = true := by
        rcases Version.eq_or_isBefore_of_not_isBefore hnot with heq | hlt
        · exact absurd heq.symm (not_holds_of_mem_pending h List.mem_cons_self latest hmem)
        · exact hlt
      have hx_first : x.version.isBefore first.version = true := by
        rcases Version.eq_or_isBefore_of_not_isBefore (hmax x hx) with heq | hlt'
        · exact heq ▸ hlt
        · exact Version.isBefore_trans hlt' hlt
      rcases List.mem_cons.1 hs with rfl | hs
      · exact hx_first
      · exact Version.isBefore_trans hx_first ((List.pairwise_cons.1 hps).1 s hs)

end History

end SchemaForge
