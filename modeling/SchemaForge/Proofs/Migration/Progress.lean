import Mathlib.Data.List.Forall2
import SchemaForge.Migration.Run
import SchemaForge.Proofs.Migration.Pending

/-!
# How far the scripts of a schema have come

The scripts that a history lets through are run in their order, up to the first that fails.
`Migration.Progress` is the form that the list of attempts has at any time, and `Migration.Settled`
relates it to the history at a time at which nobody is migrating: nothing has been run yet, or all
scripts have been run and recorded, or one has failed and stands recorded as failed.

These are the only three situations, and in each of them the check of the history has one answer
(`History.pending_append_seals`, `History.pending_append_failed`): all scripts, none, or the refusal
on account of the failed row. That is why a second migration never runs anything again.
-/

namespace SchemaForge

/-! ### The check of a history that has grown -/

/-- Two scripts of one version in an ascending list are the same. -/
theorem Script.Ascending.eq_of_version_eq {scripts : List Script} (h : Script.Ascending scripts)
    {s t : Script} (hs : s ∈ scripts) (ht : t ∈ scripts) (heq : s.version = t.version) : s = t := by
  induction scripts with
  | nil => cases hs
  | cons u us ih =>
    obtain ⟨hfirst, hrest⟩ := List.pairwise_cons.1 h
    rcases List.mem_cons.1 hs with hsu | hsus <;> rcases List.mem_cons.1 ht with htu | htus
    · rw [hsu, htu]
    · rw [hsu] at heq
      exact absurd heq (Version.ne_of_isBefore (hfirst t htus))
    · rw [htu] at heq
      exact absurd heq.symm (Version.ne_of_isBefore (hfirst s hsus))
    · exact ih hrest hsus htus

namespace History

/-- The row records a success of the script. -/
structure Seals (s : Script) (h : HistoryEntry) : Prop where
  version : h.version = s.version
  checksum : h.checksum = s.checksum
  success : h.success = true

theorem seals_entryOf (rank : ℕ) {s : Script} {e : Migration.Execution} (h : e.outcome = .ok ()) :
    Seals s (Migration.entryOf rank s e) :=
  ⟨rfl, rfl, by rw [Migration.entryOf, h]; rfl⟩

/-- Each row records one of the scripts. -/
theorem exists_of_mem_rows {ps : List Script} {rows : List HistoryEntry}
    (h : List.Forall₂ Seals ps rows) {x : HistoryEntry} (hx : x ∈ rows) : ∃ s ∈ ps, Seals s x := by
  induction h with
  | nil => cases hx
  | @cons s y ps rows hsy _ ih =>
    rcases List.mem_cons.1 hx with rfl | hx
    · exact ⟨s, List.mem_cons_self, hsy⟩
    · obtain ⟨t, ht, htx⟩ := ih hx
      exact ⟨t, List.mem_cons_of_mem s ht, htx⟩

/-- Each script is recorded by one of the rows. -/
theorem exists_of_mem_scripts {ps : List Script} {rows : List HistoryEntry}
    (h : List.Forall₂ Seals ps rows) {s : Script} (hs : s ∈ ps) : ∃ x ∈ rows, Seals s x := by
  induction h with
  | nil => cases hs
  | @cons t y ps rows hty _ ih =>
    rcases List.mem_cons.1 hs with rfl | hs
    · exact ⟨y, List.mem_cons_self, hty⟩
    · obtain ⟨x, hx, hsx⟩ := ih hs
      exact ⟨x, List.mem_cons_of_mem y hx, hsx⟩

/-- The refusal of a history in which the script stands as failed. -/
def failedError (s : Script) : Error :=
  .migration none ("history contains failed migration " ++ s.version.toText ++ " (" ++
    s.fileName ++ "); repair the schema before migrating again")

/-- Once every script that was left is recorded, none is left. -/
theorem pending_append_seals {scripts ps : List Script} {before rows : List HistoryEntry}
    (hscripts : Script.Ascending scripts) (h : pending scripts before = .ok ps)
    (hrows : List.Forall₂ Seals ps rows) : pending scripts (before ++ rows) = .ok [] := by
  obtain ⟨hsuccess, hentries, -, rfl⟩ := pending_eq_ok_iff.1 h
  refine pending_eq_ok_iff.2 ⟨?_, ?_, ?_, ?_⟩
  · refine List.forall_mem_append.2 ⟨hsuccess, fun x hx ↦ ?_⟩
    obtain ⟨s, -, hsx⟩ := exists_of_mem_rows hrows hx
    exact hsx.success
  · refine List.forall_mem_append.2 ⟨hentries, fun x hx ↦ checkEntry_eq_ok_iff.2 fun t ht ↦ ?_⟩
    -- the script that is found for the row is the one that it records
    obtain ⟨s, hs, hsx⟩ := exists_of_mem_rows hrows hx
    have hversion : t.version = s.version := by
      have hfound := List.find?_some (p := fun t : Script ↦ t.version == x.version) ht
      rw [← hsx.version]
      exact beq_iff_eq.1 hfound
    rw [hscripts.eq_of_version_eq (List.mem_of_find?_eq_some ht) (List.mem_filter.1 hs).1 hversion]
    exact hsx.checksum.symm
  · cases hlatest : latest? (before ++ rows) <;> simp [checkOrder, hlatest]
  · refine List.filter_eq_nil_iff.2 fun s hs hmissing ↦ ?_
    rw [Bool.not_eq_true', holds, List.any_append, Bool.or_eq_false_iff] at hmissing
    obtain ⟨hold, hnew⟩ := hmissing
    have hleft : s ∈ scripts.filter (fun s ↦ !holds before s.version) :=
      List.mem_filter.2 ⟨hs, by rw [holds, hold]; rfl⟩
    obtain ⟨x, hx, hsx⟩ := exists_of_mem_scripts hrows hleft
    exact List.any_eq_false.1 hnew x hx (beq_iff_eq.2 hsx.version)

/-- A failed row ends the check, and the first one is named. -/
theorem pending_append_failed {scripts : List Script} {before : List HistoryEntry} {s : Script}
    {x : HistoryEntry} (hbefore : ∀ h ∈ before, h.success = true) (hx : x.success = false)
    (hversion : x.version = s.version) (hfile : x.fileName = s.fileName) :
    pending scripts (before ++ [x]) = .error (failedError s) := by
  have hfind : (before ++ [x]).find? (!·.success) = some x := by
    rw [List.find?_append, List.find?_eq_none.2 (by simpa using hbefore), Option.none_or]
    simp [hx]
  rw [pending, checkSuccess, hfind]
  simp only [hversion, hfile]
  rfl

end History

namespace Migration

/-! ### The attempts so far -/

/-- A script with what came of it. -/
abbrev Attempt := Script × Except Error Unit

/-- A script that was run with success. -/
def succeeded (s : Script) : Attempt := (s, .ok ())

/-- The attempts at scripts in their order, up to the first that fails. -/
inductive Progress (ps : List Script) : List Attempt → Prop
  | ran {done rest : List Script} (split : ps = done ++ rest) : Progress ps (done.map succeeded)
  | failed {done rest : List Script} {s : Script} {e : Error} (split : ps = done ++ s :: rest) :
      Progress ps (done.map succeeded ++ [(s, .error e)])

/-- The next script is run, with success or not. -/
theorem Progress.attempted {ps done rest : List Script} {s : Script}
    (split : ps = done ++ s :: rest) (outcome : Except Error Unit) :
    Progress ps (done.map succeeded ++ [(s, outcome)]) := by
  cases outcome with
  | error e => exact .failed split
  | ok u =>
    have hran : (done ++ [s]).map succeeded = done.map succeeded ++ [(s, .ok u)] := by
      rw [List.map_append]
      rfl
    rw [← hran]
    exact .ran (split.trans (List.append_cons ..))

theorem map_fst_succeeded (ps : List Script) : (ps.map succeeded).map Prod.fst = ps := by
  rw [List.map_map]
  exact List.map_id ps

theorem Progress.isPrefix {ps : List Script} {xs : List Attempt} (h : Progress ps xs) :
    xs.map Prod.fst <+: ps := by
  cases h with
  | @ran done rest split =>
    rw [map_fst_succeeded, split]
    exact List.prefix_append done rest
  | @failed done rest s e split =>
    rw [List.map_append, map_fst_succeeded, split]
    exact ⟨rest, List.append_assoc _ _ _⟩

/-- A failure is the last attempt. -/
theorem Progress.eq_append_of_error {ps : List Script} {xs ys zs : List Attempt} {s : Script}
    {e : Error} (h : Progress ps xs) (hxs : xs = ys ++ (s, .error e) :: zs) :
    zs = [] ∧ ∃ done rest, ys = done.map succeeded ∧ ps = done ++ s :: rest := by
  cases h with
  | @ran done rest split =>
    have hmem : (s, Except.error e) ∈ done.map succeeded := by
      rw [hxs]
      simp
    obtain ⟨t, -, ht⟩ := List.mem_map.1 hmem
    cases ht
  | @failed done rest t e' split =>
    rcases List.append_eq_append_iff.1 hxs with ⟨us, hys, htail⟩ | ⟨us, hdone, htail⟩
    · cases us with
      | nil =>
        obtain ⟨hs, rfl⟩ := List.cons.inj htail
        cases hs
        rw [List.append_nil] at hys
        exact ⟨rfl, done, rest, hys, split⟩
      | cons u us =>
        obtain ⟨-, hnil⟩ := List.cons.inj htail
        exact absurd hnil.symm (by simp)
    · cases us with
      | nil =>
        obtain ⟨hs, hzs⟩ := List.cons.inj htail
        cases hs
        rw [List.append_nil] at hdone
        exact ⟨hzs, done, rest, hdone.symm, split⟩
      | cons u us =>
        -- the failure would be among those that succeeded
        obtain ⟨rfl, -⟩ := List.cons.inj htail
        have hmem : (s, Except.error e) ∈ done.map succeeded := by
          rw [hdone]
          simp
        obtain ⟨t, -, ht⟩ := List.mem_map.1 hmem
        cases ht

/-- Attempts that have come to an end, by running all scripts or by a failure. -/
def Ended (ps : List Script) (xs : List Attempt) : Prop :=
  xs = ps.map succeeded ∨ ∃ x ∈ xs, ∃ e, x.2 = .error e

/-- After the end there are no more attempts. -/
theorem Progress.eq_of_ended {ps : List Script} {xs ys : List Attempt} (h : Progress ps ys)
    (hpre : xs <+: ys) (hended : Ended ps xs) : ys = xs := by
  obtain ⟨zs, rfl⟩ := hpre
  rcases hended with rfl | ⟨⟨s, o⟩, hmem, e, ho⟩
  · have hlength := h.isPrefix.length_le
    simp only [List.map_append, map_fst_succeeded, List.length_append, List.length_map] at hlength
    rw [List.eq_nil_of_length_eq_zero (by omega : zs.length = 0), List.append_nil]
  · simp only at ho
    subst ho
    obtain ⟨us, vs, rfl⟩ := List.append_of_mem hmem
    have hsplit : us ++ (s, .error e) :: vs ++ zs = us ++ (s, .error e) :: (vs ++ zs) := by
      rw [List.append_assoc, List.cons_append]
    obtain ⟨hnil, -⟩ := h.eq_append_of_error hsplit
    rw [(List.append_eq_nil_iff.1 hnil).2, List.append_nil]

/-! ### Between migrations -/

/-- The attempts and the history while nobody is migrating the schema. -/
inductive Settled (before : List HistoryEntry) (ps : List Script) :
    List Attempt → List HistoryEntry → Prop
  | untouched : Settled before ps [] before
  | complete {rows : List HistoryEntry} (seals : List.Forall₂ History.Seals ps rows) :
      Settled before ps (ps.map succeeded) (before ++ rows)
  | failed {done rest : List Script} {s : Script} {e : Error} {rows : List HistoryEntry}
      {x : HistoryEntry} (split : ps = done ++ s :: rest)
      (seals : List.Forall₂ History.Seals done rows) (success : x.success = false)
      (version : x.version = s.version) (fileName : x.fileName = s.fileName) :
      Settled before ps (done.map succeeded ++ [(s, .error e)]) (before ++ rows ++ [x])

/-- What the check of the history answers between migrations. -/
theorem Settled.pending {scripts ps : List Script} {before history : List HistoryEntry}
    {xs : List Attempt} (hscripts : Script.Ascending scripts)
    (h : History.pending scripts before = .ok ps) (hsettled : Settled before ps xs history) :
    (xs = [] ∧ history = before ∧ History.pending scripts history = .ok ps) ∨
    (xs = ps.map succeeded ∧ History.pending scripts history = .ok []) ∨
    ∃ done rest s e, ps = done ++ s :: rest ∧ xs = done.map succeeded ++ [(s, .error e)] ∧
      History.pending scripts history = .error (History.failedError s) := by
  cases hsettled with
  | untouched => exact Or.inl ⟨rfl, rfl, h⟩
  | complete seals => exact Or.inr (Or.inl ⟨rfl, History.pending_append_seals hscripts h seals⟩)
  | @failed done rest s e rows x split seals success version fileName =>
    refine Or.inr (Or.inr ⟨done, rest, s, e, split, rfl, ?_⟩)
    refine History.pending_append_failed ?_ success version fileName
    refine List.forall_mem_append.2 ⟨(History.pending_eq_ok_iff.1 h).1, fun y hy ↦ ?_⟩
    obtain ⟨t, -, hty⟩ := History.exists_of_mem_rows seals hy
    exact hty.success

end Migration

end SchemaForge
