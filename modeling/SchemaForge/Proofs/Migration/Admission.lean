import SchemaForge.Proofs.Migration.Progress

/-!
# When a history lets scripts run

`History.pending` answers an error or the scripts that are left. This module says what either answer
means, without the checks that lead to it. A history *admits* scripts (`History.Admits`) if nothing
in it has failed, none of its scripts has changed since, and none was passed over: a script that is
not recorded does not come before the latest version that is.

`pending_succeeds_iff_admits` has both halves, that the check succeeds exactly on these histories,
and what it leaves then.

## Why one comparison is enough

The check of the order compares one script with one version, the first that is left with the latest
that is recorded.

* That no later script is older than the latest version comes from the order of the *scripts*
  (`checkOrder_eq_ok_iff_of_ascending`).
* That no recorded version is newer than the latest comes from the order of *versions*, which is
  total (`latest?_eq_some_iff`); the rows themselves may stand in any order.
-/

namespace SchemaForge.History

variable {history : List HistoryEntry} {scripts ps : List Script} {v : Version}

/-! ### The latest version -/

/-- A version of the history that comes before no other. -/
structure IsLatest (history : List HistoryEntry) (v : Version) : Prop where
  recorded : ∃ h ∈ history, h.version = v
  last : ∀ h ∈ history, ¬v.isBefore h.version = true

theorem latest?_eq_some_iff : latest? history = some v ↔ IsLatest history v := by
  constructor
  · intro hv
    have hne : history ≠ [] := by
      rintro rfl
      cases hv
    obtain ⟨h, hmem, hlatest, hmax⟩ := exists_latest? hne
    obtain rfl : h.version = v := Option.some.inj (hlatest.symm.trans hv)
    exact ⟨⟨h, hmem, rfl⟩, hmax⟩
  · rintro ⟨⟨x, hx, rfl⟩, hlast⟩
    obtain ⟨h, hmem, hlatest, hmax⟩ := exists_latest? (List.ne_nil_of_mem hx)
    -- neither of the two comes before the other
    rcases Version.eq_or_isBefore_of_not_isBefore (hlast h hmem) with heq | hbefore
    · rw [hlatest, heq]
    · exact absurd hbefore (hmax x hx)

/-! ### The scripts that are missing -/

/-- The scripts whose versions are not in the history. -/
def missing (history : List HistoryEntry) (scripts : List Script) : List Script :=
  scripts.filter fun s ↦ !holds history s.version

theorem not_holds_iff : (!holds history v) = true ↔ ∀ h ∈ history, h.version ≠ v := by
  rw [Bool.not_eq_true', holds, List.any_eq_false]
  simp

theorem mem_missing {s : Script} :
    s ∈ missing history scripts ↔ s ∈ scripts ∧ ∀ h ∈ history, h.version ≠ s.version := by
  rw [missing, List.mem_filter, not_holds_iff]

theorem missing_append (history : List HistoryEntry) (scripts ps : List Script) :
    missing history (scripts ++ ps) = missing history scripts ++ missing history ps :=
  List.filter_append scripts ps

theorem ascending_missing (hscripts : Script.Ascending scripts) :
    Script.Ascending (missing history scripts) :=
  List.Pairwise.filter _ hscripts

/-! ### The checks on ascending scripts -/

/-- Of ascending scripts the one that is found by its version is the only one. -/
theorem checkEntry_eq_ok_iff_of_ascending (hscripts : Script.Ascending scripts)
    {h : HistoryEntry} : checkEntry scripts h = .ok () ↔
      ∀ s ∈ scripts, s.version = h.version → s.checksum = h.checksum := by
  rw [checkEntry_eq_ok_iff]
  constructor
  · intro hfound s hs hversion
    have hsome : (scripts.find? (·.version == h.version)).isSome = true :=
      List.find?_isSome.2 ⟨s, hs, beq_iff_eq.2 hversion⟩
    obtain ⟨t, ht⟩ := Option.isSome_iff_exists.1 hsome
    have hsame : t.version = h.version := by simpa using List.find?_some ht
    obtain rfl : s = t := hscripts.eq_of_version_eq hs (List.mem_of_find?_eq_some ht)
      (hversion.trans hsame.symm)
    exact hfound s ht
  · intro hall s hs
    have hsame : s.version = h.version := by simpa using List.find?_some hs
    exact hall s (List.mem_of_find?_eq_some hs) hsame

/-- Of ascending scripts it is enough to compare the first with the latest version. -/
theorem checkOrder_eq_ok_iff_of_ascending (hps : Script.Ascending ps) :
    checkOrder history ps = .ok () ↔
      ∀ v, IsLatest history v → ∀ s ∈ ps, ¬s.version.isBefore v = true := by
  constructor
  · intro hcheck v hv s hs hbefore
    rcases ps with - | ⟨first, rest⟩
    · cases hs
    have hfirst : first.version.isBefore v = true := by
      rcases List.mem_cons.1 hs with rfl | hs
      · exact hbefore
      · exact Version.isBefore_trans ((List.pairwise_cons.1 hps).1 s hs) hbefore
    simp [checkOrder, latest?_eq_some_iff.2 hv, hfirst] at hcheck
  · intro hall
    rcases hlatest : latest? history with - | v
    · simp [checkOrder, hlatest]
    · rcases ps with - | ⟨first, rest⟩
      · simp [checkOrder, hlatest]
      · have hfirst := hall v (latest?_eq_some_iff.1 hlatest) first List.mem_cons_self
        simp [checkOrder, hlatest, hfirst]

/-! ### Admission -/

/-- The history lets scripts run. -/
structure Admits (history : List HistoryEntry) (scripts : List Script) : Prop where
  /-- Nothing has failed. -/
  success : ∀ h ∈ history, h.success = true
  /-- No script has changed since it was recorded. -/
  checksum : ∀ h ∈ history, ∀ s ∈ scripts, s.version = h.version → s.checksum = h.checksum
  /-- No script was passed over. -/
  order : ∀ v, IsLatest history v → ∀ s ∈ scripts, (∀ h ∈ history, h.version ≠ s.version) →
    ¬s.version.isBefore v = true

theorem pending_eq_ok_iff_admits (hscripts : Script.Ascending scripts) :
    pending scripts history = .ok ps ↔ Admits history scripts ∧ missing history scripts = ps := by
  rw [pending_eq_ok_iff]
  constructor
  · rintro ⟨hsuccess, hentries, horder, rfl⟩
    have hnewer := (checkOrder_eq_ok_iff_of_ascending (ascending_missing hscripts)).1 horder
    refine ⟨⟨hsuccess, fun h hh ↦ ?_, fun v hv s hs hnone ↦ ?_⟩, rfl⟩
    · exact (checkEntry_eq_ok_iff_of_ascending hscripts).1 (hentries h hh)
    · exact hnewer v hv s (mem_missing.2 ⟨hs, hnone⟩)
  · rintro ⟨⟨hsuccess, hchecksum, horder⟩, rfl⟩
    refine ⟨hsuccess, fun h hh ↦ ?_, ?_, rfl⟩
    · exact (checkEntry_eq_ok_iff_of_ascending hscripts).2 (hchecksum h hh)
    · rw [checkOrder_eq_ok_iff_of_ascending (ascending_missing hscripts)]
      intro v hv s hs
      obtain ⟨hmem, hnone⟩ := mem_missing.1 hs
      exact horder v hv s hmem hnone

/-- **When a history lets scripts run, and which.** On ascending scripts, whatever the rows and
their order, the check succeeds exactly if the history admits the scripts. What it leaves then are
the scripts whose versions are not in the history, in ascending order, and every one of them is
newer than all that is recorded. -/
theorem pending_succeeds_iff_admits (hscripts : Script.Ascending scripts)
    (history : List HistoryEntry) :
    ((∃ ps, pending scripts history = .ok ps) ↔ Admits history scripts) ∧
    ∀ ps, pending scripts history = .ok ps →
      (∀ s, s ∈ ps ↔ s ∈ scripts ∧ ∀ h ∈ history, h.version ≠ s.version) ∧
      Script.Ascending ps ∧ ∀ s ∈ ps, ∀ h ∈ history, h.version.isBefore s.version = true := by
  refine ⟨⟨?_, fun hadmits ↦ ?_⟩, fun ps hps ↦ ⟨fun s ↦ ?_, ?_, fun s hs h hh ↦ ?_⟩⟩
  · rintro ⟨ps, hps⟩
    exact ((pending_eq_ok_iff_admits hscripts).1 hps).1
  · exact ⟨_, (pending_eq_ok_iff_admits hscripts).2 ⟨hadmits, rfl⟩⟩
  · rw [← ((pending_eq_ok_iff_admits hscripts).1 hps).2, mem_missing]
  · exact ascending_of_pending hscripts hps
  · exact isBefore_of_mem_pending hscripts hps hh hs

/-- A history whose rows are out of order, and which has a version of which there is no script any
more: of the versions 1, 2 and 10 the last is left. -/
theorem pending_succeeds_iff_admits_unordered :
    let script (segments : List ℕ) (checksum : String) : Script :=
      ⟨.ofSegments segments, "", ⟨""⟩, "", checksum, ""⟩
    let row (rank : ℕ) (segments : List ℕ) (checksum : String) : HistoryEntry :=
      ⟨rank, .ofSegments segments, "", "", checksum, 0, true⟩
    let scripts := [script [1] "a", script [2, 0] "b", script [10] "c"]
    let history := [row 7 [2] "b", row 3 [1, 0, 0] "a", row 9 [1, 5] "gone"]
    Script.Ascending scripts ∧ pending scripts history = .ok [script [10] "c"] ∧
      Admits history scripts ∧
      ∀ h ∈ history, h.version.isBefore (script [10] "c").version = true := by
  intro script row scripts history
  have hscripts : Script.Ascending scripts := by
    simp only [Script.Ascending, scripts]
    decide
  have hpending : pending scripts history = .ok [script [10] "c"] := by rfl
  obtain ⟨hadmits, hleft⟩ := pending_succeeds_iff_admits hscripts history
  exact ⟨hscripts, hpending, hadmits.1 ⟨_, hpending⟩,
    (hleft _ hpending).2.2 _ List.mem_cons_self⟩

end SchemaForge.History
