import Mathlib.Data.List.Infix
import SchemaForge.Proofs.OutputDirectory.Cleaning

/-!
# When the check of an output directory protects the project

`OutputDirectory.checkSafe` compares two paths without looking at files. It forgets how far a
relative path climbs, and it takes a relative path and an absolute one for different directories.
The paths that it accepts can therefore lead to one directory, or from above to the other.

`OutputDirectory.Apart` is the exact condition under which an accepted output directory never holds
the project, whatever the working directory is: for two absolute paths there is none, an absolute
output directory protects no relative project, and in the other cases the names of the output
directory must not fit into those of the project at any place that the climbing allows. Under it,
cleaning leaves the project where it is.
-/

namespace SchemaForge

namespace OutputDirectory

/-! ### The check by names -/

theorem name_injective : Function.Injective Component.name := fun _ _ h ↦ Component.name.inj h

theorem map_name_prefix_iff {a b : List FileName} :
    a.map Component.name <+: b.map Component.name ↔ a <+: b :=
  List.prefix_map_iff_of_injective name_injective

theorem not_isPrefix_map_name {a : List Component} {b : List FileName} :
    ¬Component.root :: a <+: b.map Component.name := by
  intro h
  cases b with
  | nil => exact absurd (List.prefix_nil.1 h) (List.cons_ne_nil _ _)
  | cons s b => cases (List.cons_prefix_cons.1 h).1

theorem map_name_isPrefix_root_cons_iff {a : List FileName} {b : List Component} :
    a.map Component.name <+: Component.root :: b ↔ a = [] := by
  cases a with
  | nil => exact ⟨fun _ ↦ rfl, fun _ ↦ List.nil_prefix⟩
  | cons s a =>
    refine ⟨fun h ↦ ?_, fun h ↦ absurd h (List.cons_ne_nil s a)⟩
    cases (List.cons_prefix_cons.1 h).1

theorem checkSafe_eq_ok_iff {output project : Path} :
    checkSafe output project = .ok () ↔
      output.normalize ≠ [] ∧ ¬output.normalize <+: project.normalize := by
  rw [checkSafe, holdsProject]
  split
  · rename_i hholds
    rw [Bool.or_eq_true, List.isEmpty_iff, List.isPrefixOf_iff_prefix] at hholds
    refine ⟨(nomatch ·), fun ⟨hne, hpre⟩ ↦ ?_⟩
    exact (hholds.elim hne hpre).elim
  · rename_i hapart
    rw [Bool.or_eq_true, List.isEmpty_iff, List.isPrefixOf_iff_prefix] at hapart
    exact ⟨fun _ ↦ not_or.1 hapart, fun _ ↦ rfl⟩

/-- What the check comes to: it compares the names, of paths that are both absolute or both not,
and refuses a relative output directory without any. -/
theorem checkSafe_iff_names {output project : Path} :
    checkSafe output project = .ok () ↔
      (output.isAbsolute = false → output.names ≠ []) ∧
      (output.isAbsolute = project.isAbsolute → ¬output.names <+: project.names) := by
  rw [checkSafe_eq_ok_iff, Path.normalize_eq, Path.normalize_eq]
  cases output.isAbsolute <;> cases project.isAbsolute
  case false.false => simp [map_name_prefix_iff]
  case false.true => simp [map_name_isPrefix_root_cons_iff]
  case true.false => simp [not_isPrefix_map_name]
  case true.true => simp [map_name_prefix_iff]

/-! ### All working directories -/

section Climbing

variable {α : Type} {d e : List α} {u v : ℕ}

theorem exists_take_append {l : List α} (h : u ≤ v) :
    ∃ m : List α, m.length ≤ v - u ∧ l.take u ++ m = l.take v := by
  obtain ⟨m, hm⟩ : l.take u <+: l.take v := List.take_prefix_take_left h
  have hlength := congrArg List.length hm
  rw [List.length_append, List.length_take, List.length_take] at hlength
  exact ⟨m, by omega, hm⟩

/-- Climbing past the names that stand last leaves the others, -/
theorem take_length_sub (l : List α) (x : α) :
    (l ++ List.replicate u x).take ((l ++ List.replicate u x).length - u) = l := by
  rw [List.length_append, List.length_replicate, Nat.add_sub_cancel, List.take_left]

/-- and climbing past all names leaves none. -/
theorem take_length_sub_eq_nil {l : List α} (h : l.length ≤ u) : l.take (l.length - u) = [] := by
  rw [Nat.sub_eq_zero_of_le h, List.take_zero]

/-- Two paths that climb from one directory: the first holds the second for some directory exactly
if its names fit after some of those that only the first has climbed past, or the other way
around. -/
theorem exists_climb_prefix_iff (x : α) :
    (∃ l : List α, l.take (l.length - u) ++ d <+: l.take (l.length - v) ++ e) ↔
      (∃ j ≤ v - u, d <+: e.drop j) ∨ ∃ j ≤ u - v, d.drop j <+: e := by
  have hlength (j k : ℕ) (names : List α) :
      (names.take j ++ List.replicate k x).length ≤ j + k := by
    rw [List.length_append, List.length_replicate, List.length_take]
    omega
  constructor
  · rintro ⟨l, h⟩
    rcases Nat.le_total (l.length - u) (l.length - v) with hle | hle
    · -- the second starts further down, by the names `m`
      obtain ⟨m, hm, htake⟩ := exists_take_append (l := l) hle
      rw [← htake, List.append_assoc, List.prefix_append_right_inj] at h
      refine Or.inr ⟨m.length, by omega, ?_⟩
      have hdrop := h.drop m.length
      rwa [List.drop_left] at hdrop
    · obtain ⟨m, hm, htake⟩ := exists_take_append (l := l) hle
      rw [← htake, List.append_assoc, List.prefix_append_right_inj] at h
      refine Or.inl ⟨m.length, by omega, ?_⟩
      have hdrop := h.drop m.length
      rwa [List.drop_left] at hdrop
  · rintro (⟨j, hj, h⟩ | ⟨j, hj, h⟩)
    · rcases Nat.lt_or_ge v u with hlt | hle
      · obtain rfl : j = 0 := by omega
        exact ⟨[], by simpa using h⟩
      -- a directory with the names that `e` has in front, and as many more as the first climbs
      refine ⟨e.take j ++ List.replicate u x, ?_⟩
      rw [take_length_sub, take_length_sub_eq_nil ((hlength j u e).trans (by omega)),
        List.nil_append]
      obtain ⟨t, ht⟩ := h
      exact ⟨t, by rw [List.append_assoc, ht, List.take_append_drop]⟩
    · rcases Nat.lt_or_ge u v with hlt | hle
      · obtain rfl : j = 0 := by omega
        exact ⟨[], by simpa using h⟩
      refine ⟨d.take j ++ List.replicate v x, ?_⟩
      rw [take_length_sub, take_length_sub_eq_nil ((hlength j v d).trans (by omega)),
        List.nil_append]
      obtain ⟨t, ht⟩ := h
      exact ⟨t, by rw [← ht, ← List.append_assoc, List.take_append_drop]⟩

/-- A relative path holds an absolute one for some directory exactly if its names are among those
of the other, in a row. -/
theorem exists_climb_prefix_absolute_iff (x : α) :
    (∃ l : List α, l.take (l.length - u) ++ d <+: e) ↔ d <:+: e := by
  constructor
  · rintro ⟨l, t, ht⟩
    exact ⟨l.take (l.length - u), t, ht⟩
  · rintro ⟨s, t, hst⟩
    refine ⟨s ++ List.replicate u x, t, ?_⟩
    rw [List.length_append, List.length_replicate, Nat.add_sub_cancel, List.take_left, hst]

theorem exists_absolute_prefix_climb (x : α) :
    ∃ l : List α, d <+: l.take (l.length - v) ++ e := by
  refine ⟨d ++ List.replicate v x, ?_⟩
  rw [List.length_append, List.length_replicate, Nat.add_sub_cancel, List.take_left]
  exact List.prefix_append d e

end Climbing

/-- An output directory that holds a project for no working directory, once the check has accepted
it. -/
def Apart (output project : Path) : Prop :=
  if output.isAbsolute then project.isAbsolute = true
  else if project.isAbsolute then ¬output.names <:+: project.names
  else (∀ j ≤ project.climb - output.climb, ¬output.names <+: project.names.drop j) ∧
    ∀ j ≤ output.climb - project.climb, ¬output.names.drop j <+: project.names

/-- An accepted output directory holds the project for no working directory exactly if the two are
apart. -/
theorem forall_place_iff {output project : Path} (h : checkSafe output project = .ok ()) :
    (∀ cwd, ¬output.place cwd <+: project.place cwd) ↔ Apart output project := by
  obtain ⟨-, hnames⟩ := checkSafe_iff_names.1 h
  -- any name serves to fill up a working directory
  have x : FileName := "a"
  rw [← not_exists, Apart]
  cases ho : output.isAbsolute <;> cases hp : project.isAbsolute
  case false.false =>
    rw [if_neg Bool.false_ne_true, if_neg Bool.false_ne_true]
    simp only [Path.place_of_not_isAbsolute ho, Path.place_of_not_isAbsolute hp]
    rw [exists_climb_prefix_iff x, not_or, not_exists, not_exists]
    simp only [not_and]
  case false.true =>
    rw [if_neg Bool.false_ne_true, if_pos rfl]
    simp only [Path.place_of_not_isAbsolute ho, Path.place_of_isAbsolute hp]
    rw [exists_climb_prefix_absolute_iff x]
  case true.false =>
    rw [if_pos rfl]
    simp only [Path.place_of_isAbsolute ho, Path.place_of_not_isAbsolute hp]
    exact ⟨fun hnot ↦ (hnot (exists_absolute_prefix_climb x)).elim, (nomatch ·)⟩
  case true.true =>
    rw [if_pos rfl]
    simp only [Path.place_of_isAbsolute ho, Path.place_of_isAbsolute hp]
    refine ⟨fun _ ↦ trivial, fun _ ⟨cwd, hpre⟩ ↦ hnames (ho.trans hp.symm) hpre⟩

/-- **An accepted output directory protects the project exactly if the two are apart.** Then it
holds the project for no working directory; on a tree without links it does not lead to a place at
or above that of the project, and cleaning it keeps the project and everything above. -/
theorem checkSafe_protects_iff {output project : Path} (h : checkSafe output project = .ok ()) :
    ((∀ cwd, ¬output.place cwd <+: project.place cwd) ↔ Apart output project) ∧
    (Apart output project → ∀ fs : FileSystem, fs.Linkless →
      (∀ o p, fs.resolve .target output = .ok o → fs.resolve .target project = .ok p → ¬o <+: p) ∧
      ∀ q node, q <+: project.place fs.workingDirectory → fs.node? q = some node →
        (clean fs output).2.node? q = some node) := by
  have hiff := forall_place_iff h
  refine ⟨hiff, fun hapart fs hfs ↦ ?_⟩
  have hplace := hiff.2 hapart fs.workingDirectory
  refine ⟨fun o p ho hp hpre ↦ ?_, fun q node hq hnode ↦ ?_⟩
  · rw [FileSystem.resolve_eq_place hfs ho, FileSystem.resolve_eq_place hfs hp] at hpre
    exact hplace hpre
  · exact node?_clean hfs (fun hpre ↦ hplace (hpre.trans hq)) hnode

/-- A directory inside the project is accepted, and protects it. -/
theorem checkSafe_protects_inner :
    checkSafe ⟨"/work/app/target/gen"⟩ ⟨"/work/app"⟩ = .ok () ∧
    Apart ⟨"/work/app/target/gen"⟩ ⟨"/work/app"⟩ ∧
    (∀ cwd, ¬Path.place ⟨"/work/app/target/gen"⟩ cwd <+: Path.place ⟨"/work/app"⟩ cwd) ∧
    ∀ fs : FileSystem, fs.Linkless → ∀ q node,
      q <+: Path.place ⟨"/work/app"⟩ fs.workingDirectory → fs.node? q = some node →
        (clean fs ⟨"/work/app/target/gen"⟩).2.node? q = some node := by
  have haccepted : checkSafe ⟨"/work/app/target/gen"⟩ ⟨"/work/app"⟩ = .ok () := by decide
  obtain ⟨hiff, hclean⟩ := checkSafe_protects_iff haccepted
  have hapart : Apart ⟨"/work/app/target/gen"⟩ ⟨"/work/app"⟩ := rfl
  exact ⟨haccepted, hapart, hiff.2 hapart, fun fs hfs ↦ (hclean hapart fs hfs).2⟩

/-- The root is accepted for the project in the working directory, holds it wherever that is, and
cleaning the root removes it. -/
theorem checkSafe_accepts_root :
    let fs : FileSystem := ⟨[([RawText.ofText "work"], .directory none)], [RawText.ofText "work"]⟩
    checkSafe ⟨"/"⟩ ⟨"."⟩ = .ok () ∧
    Path.place ⟨"/"⟩ fs.workingDirectory <+: Path.place ⟨"."⟩ fs.workingDirectory ∧
    fs.node? (Path.place ⟨"."⟩ fs.workingDirectory) = some (.directory none) ∧
    (clean fs ⟨"/"⟩).2.node? (Path.place ⟨"."⟩ fs.workingDirectory) = none := by
  decide +kernel

end OutputDirectory

end SchemaForge
