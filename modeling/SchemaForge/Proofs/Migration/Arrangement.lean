import Mathlib.Data.List.Chain
import Mathlib.Data.List.Forall2
import Mathlib.Data.List.Perm.Subperm
import SchemaForge.Proofs.Migration.Progress

/-!
# Scripts as they are found

A directory holds its scripts in no particular order (`Script.found`), and `Script.arrange` puts
them into the order of their versions. It succeeds exactly if no version occurs twice, and then
there is only one list that it can come to: the same scripts in ascending order
(`Script.arrange_eq_ok_iff`). So nothing depends on the order in which the scripts were found.

If a directory gains scripts that are all newer than those it has, the arranged scripts gain a tail
(`Script.Gains.exists_isPrefix`).
-/

namespace SchemaForge.Script

variable {scripts : List Script}

/-! ### The order of versions -/

theorem insert_perm (s : Script) (scripts : List Script) :
    (insert s scripts).Perm (s :: scripts) := by
  induction scripts with
  | nil => exact .refl _
  | cons t ts ih =>
    rw [insert]
    split
    · exact (ih.cons t).trans (.swap s t ts)
    · exact .refl _

theorem sort_perm (scripts : List Script) : (sort scripts).Perm scripts := by
  induction scripts with
  | nil => exact .refl _
  | cons s ss ih => exact (insert_perm s (sort ss)).trans (ih.cons s)

theorem Ascending.sorted (h : Ascending scripts) : Sorted scripts :=
  List.Pairwise.imp Version.not_isBefore_of_isBefore h

theorem Ascending.nodup (h : Ascending scripts) : scripts.Nodup :=
  List.Pairwise.imp (fun hst heq ↦ Version.ne_of_isBefore hst (congrArg version heq)) h

/-- Of given scripts there is only one ascending list. -/
theorem Ascending.eq_of_perm (h : Ascending scripts) {others : List Script} (hothers : Sorted others)
    (hperm : others.Perm scripts) : others = scripts := by
  refine hperm.eq_of_pairwise (fun s t hs ht hst hts ↦ ?_) hothers h.sorted
  refine h.eq_of_version_eq (hperm.subset hs) ht ?_
  rcases Version.eq_or_isBefore_of_not_isBefore hst with heq | hbefore
  · exact heq.symm
  · exact absurd hbefore hts

theorem duplicate?_eq_none_of_ascending (h : Ascending scripts) : duplicate? scripts = none := by
  induction scripts with
  | nil => rfl
  | cons s rest ih =>
    cases rest with
    | nil => rfl
    | cons t ts =>
      obtain ⟨hfirst, hrest⟩ := List.pairwise_cons.1 h
      have hne : ¬(s.version == t.version) = true := fun heq ↦
        Version.ne_of_isBefore (hfirst t List.mem_cons_self) (beq_iff_eq.1 heq)
      rw [duplicate?, if_neg hne]
      exact ih hrest

/-- **What arranging comes to.** -/
theorem arrange_eq_ok_iff {found : List Script} :
    arrange found = .ok scripts ↔ Ascending scripts ∧ scripts.Perm found := by
  constructor
  · intro h
    refine ⟨ascending_of_arrange h, ?_⟩
    rw [arrange] at h
    split at h
    · cases h
    · obtain rfl := Except.ok.inj h
      exact sort_perm found
  · rintro ⟨hascending, hperm⟩
    have hsort : sort found = scripts :=
      hascending.eq_of_perm (sorted_sort found) ((sort_perm found).trans hperm.symm)
    rw [arrange, hsort, duplicate?_eq_none_of_ascending hascending]

/-! ### The scripts of a directory -/

/-- The scripts of a directory as they are found. -/
def found (fs : FileSystem) (dir : Path) : Except Error (List Script) :=
  if !fs.isDirectory dir then .ok []
  else
    match fs.list dir with
    | .error e => .error (.file dir e)
    | .ok (_, names) => ofEntries fs dir names

theorem discover_eq_bind (fs : FileSystem) (dir : Path) :
    discover fs dir = (found fs dir).bind arrange := by
  rw [discover, found]
  split
  · rfl
  · cases fs.list dir <;> rfl

/-- There are the same scripts and possibly others, all of which are newer. -/
structure Gains (before after : List Script) : Prop where
  subperm : before.Subperm after
  newer : ∀ s ∈ after, s ∉ before → ∀ t ∈ before, t.version.isBefore s.version = true

/-- What comes first of the arranged scripts are those that were there before. -/
theorem Gains.exists_isPrefix {before after : List Script} (h : Gains before after)
    (hafter : arrange after = .ok scripts) :
    ∃ older, arrange before = .ok older ∧ older <+: scripts := by
  obtain ⟨hascending, hperm⟩ := arrange_eq_ok_iff.1 hafter
  have hnodup : before.Nodup := by
    obtain ⟨others, hothers, hsublist⟩ := h.subperm.trans hperm.symm.subperm
    exact hothers.nodup_iff.1 (hascending.nodup.sublist hsublist)
  -- the older scripts and the newer ones, each in their order
  let older := scripts.filter (· ∈ before)
  let newer := scripts.filter (fun s ↦ !decide (s ∈ before))
  have holder : Ascending older := List.Pairwise.filter _ hascending
  have hsplit : older ++ newer = scripts := by
    refine hascending.eq_of_perm (Ascending.sorted ?_) (List.filter_append_perm _ scripts)
    refine List.pairwise_append.2 ⟨holder, List.Pairwise.filter _ hascending, fun t ht s hs ↦ ?_⟩
    obtain ⟨-, ht⟩ := List.mem_filter.1 ht
    obtain ⟨hmem, hs⟩ := List.mem_filter.1 hs
    exact h.newer s (hperm.subset hmem) (by simpa using hs) t (by simpa using ht)
  refine ⟨older, arrange_eq_ok_iff.2 ⟨holder, ?_⟩, newer, hsplit⟩
  refine (List.perm_ext_iff_of_nodup holder.nodup hnodup).2 fun s ↦ ?_
  rw [List.mem_filter, decide_eq_true_eq, and_iff_right_iff_imp]
  exact fun hs ↦ hperm.symm.subset (h.subperm.subset hs)

/-- Directories each of which gains scripts come to a chain of prefixes. -/
theorem exists_prefixes {founds : List (List Script)} {last : List Script}
    (hlast : arrange last = .ok scripts) (hchain : (founds ++ [last]).IsChain Gains) :
    ∃ stages, List.Forall₂ (fun found stage ↦ arrange found = .ok stage) founds stages ∧
      (stages ++ [scripts]).IsChain (· <+: ·) := by
  induction founds with
  | nil => exact ⟨[], .nil, .singleton _⟩
  | cons found founds ih =>
    obtain ⟨stages, hstages, hprefixes⟩ := ih hchain.tail
    cases hstages with
    | nil =>
      obtain ⟨first, hfirst, hstart⟩ := (List.isChain_cons_cons.1 hchain).1.exists_isPrefix hlast
      exact ⟨[first], .cons hfirst .nil, .cons_cons hstart hprefixes⟩
    | cons hnext hstages =>
      obtain ⟨first, hfirst, hstart⟩ := (List.isChain_cons_cons.1 hchain).1.exists_isPrefix hnext
      exact ⟨first :: _, .cons hfirst (.cons hnext hstages), .cons_cons hstart hprefixes⟩

end SchemaForge.Script
