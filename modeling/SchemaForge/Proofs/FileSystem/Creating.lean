import SchemaForge.Proofs.FileSystem.Common
import SchemaForge.Proofs.Path.Direct

/-!
# Creating directories on any tree

Whatever links are on the way, creating a directory with all that are missing above it takes nothing
away and adds nothing but plain directories, each at a place to which the path leads once some of
its steps are gone (`FileSystem.Made`, `FileSystem.made_makeDirectories`). This holds for creating
that fails part of the way too.
-/

namespace SchemaForge

namespace FileSystem

variable {fs fs' fs'' : FileSystem} {purpose : Purpose} {slash : Bool} {fuel links : ℕ}
  {loc q d : Location} {name : FileName} {steps : List Component} {p dir : Path}

/-! ### A free name that is taken -/

/-- A walk to a free name leads to the directory that is put there. -/
theorem walk_of_free (h : Within fs fs')
    (hnode : ∃ refusal, fs'.node? (d ++ [name]) = some (.directory refusal))
    (hwalk : fs.walk .entry slash fuel links loc steps = .ok (.free d name)) :
    fs'.walk .target slash (fuel + 1) links loc steps = .ok (.taken (d ++ [name])) := by
  induction fuel generalizing slash links loc steps with
  | zero => cases hwalk
  | succ fuel ih =>
    cases steps with
    | nil => cases hwalk
    | cons step rest =>
      cases step with
      | root | current | parent => exact ih hwalk
      | name s =>
        obtain ⟨hname, honward⟩ := walk_name_eq_ok_iff.1 hwalk
        refine walk_name_eq_ok_iff.2 ⟨hname.of_ne_writing nofun, ?_⟩
        cases honward with
        | free _ hrest hplace =>
          cases hplace
          obtain ⟨refusal, hdirectory⟩ := hnode
          exact .directory refusal hdirectory (hrest ▸ rfl)
        | directory refusal hdirectory hwalk =>
          exact .directory refusal (h.node hdirectory) (ih hwalk)
        | link target fewer hlink _ hlinks hempty hwalk =>
          exact .link target fewer (h.node hlink) (fun _ ↦ nofun) hlinks hempty (ih hwalk)
        | entry _ _ _ _ hplace | leaf _ _ _ _ _ hplace => cases hplace

/-- A path that leads to a free name leads to the directory that is put there. -/
theorem resolve_of_free (h : Within fs fs')
    (hnode : ∃ refusal, fs'.node? (d ++ [name]) = some (.directory refusal))
    (hlocate : fs.locate .entry p = .ok (.free d name)) :
    fs'.resolve .target p = .ok (d ++ [name]) := by
  obtain ⟨fuel, hfuel, hfuel'⟩ : ∃ fuel, fs.stepBudget p.steps ≤ fuel ∧
      fs'.stepBudget p.steps ≤ fuel + 1 :=
    ⟨max (fs.stepBudget p.steps) (fs'.stepBudget p.steps), by omega, by omega⟩
  rw [resolve_eq_ok_iff, locate_eq_walk_of_le hlocate hfuel', h.workingDirectory]
  have hvalid := hlocate
  rw [locate_eq_walk_of_le hvalid hfuel] at hlocate
  exact walk_of_free h hnode hlocate

/-! ### What was made -/

/-- What was there is there, and what was added are plain directories to which front parts of the
path lead. -/
structure Made (dir : Path) (fs fs' : FileSystem) : Prop where
  workingDirectory : fs'.workingDirectory = fs.workingDirectory
  node : ∀ q, fs'.node? q = fs.node? q ∨
    (fs.node? q = none ∧ fs'.node? q = some (.directory none)) ∧
      ∃ p : Path, p.steps <+: dir.steps ∧ fs'.resolve .target p = .ok q
  nested : fs.Nested → fs'.Nested

namespace Made

theorem refl : Made dir fs fs := ⟨rfl, fun _ ↦ Or.inl rfl, id⟩

theorem within (h : Made dir fs fs') : Within fs fs' := by
  refine ⟨h.workingDirectory, fun {q node} hq ↦ ?_⟩
  rcases h.node q with heq | ⟨⟨hnone, -⟩, -⟩
  · rw [heq, hq]
  · rw [hnone] at hq
    cases hq

theorem trans (h : Made dir fs fs') (h' : Made dir fs' fs'') : Made dir fs fs'' := by
  refine ⟨h'.workingDirectory.trans h.workingDirectory, fun q ↦ ?_, h'.nested ∘ h.nested⟩
  rcases h.node q with heq | ⟨⟨hnone, hplain⟩, p, hp, hresolve⟩
  · rw [← heq]
    exact h'.node q
  · exact Or.inr ⟨⟨hnone, h'.within.node hplain⟩, p, hp, h'.within.resolve hresolve⟩

end Made

theorem within_put (hfree : fs.node? q = none) (node : Node) : Within fs (fs.put q node) := by
  refine ⟨rfl, fun {r _} hr ↦ ?_⟩
  have hne : r ≠ q := by
    rintro rfl
    rw [hfree] at hr
    cases hr
  rwa [node?_put_of_ne fs hne]

/-- What is put in a directory lies in one. -/
theorem Nested.put (h : fs.Nested) (hfree : fs.node? (d ++ [name]) = none)
    (hdirectory : fs.isDirectoryAt d = true) (node : Node) :
    (fs.put (d ++ [name]) node).Nested := by
  intro loc last hnode
  refine (within_put hfree node).isDirectoryAt ?_
  by_cases heq : loc ++ [last] = d ++ [name]
  · rwa [(List.append_inj' heq rfl).1]
  · rw [node?_put_of_ne fs heq] at hnode
    exact h loc last hnode

theorem made_makeDirectory (hsteps : p.steps <+: dir.steps) (fs : FileSystem) :
    Made dir fs (fs.makeDirectory p).2 := by
  rw [makeDirectory]
  split
  · exact .refl
  · exact .refl
  · rename_i d name hlocate
    rw [create]
    split
    · exact .refl
    · rename_i hrefusal
      have hfree := node?_of_locate_free hlocate
      have hne : d ++ [name] ≠ [] := by simp
      have hself := node?_put_self fs hne (.directory none)
      refine ⟨rfl, fun q ↦ ?_, fun h ↦ h.put hfree (isDirectoryAt_of_refusalAt hrefusal) _⟩
      · by_cases heq : q = d ++ [name]
        · have hresolve := resolve_of_free (within_put hfree _) ⟨none, hself⟩ hlocate
          rw [heq]
          exact Or.inr ⟨⟨hfree, hself⟩, p, hsteps, hresolve⟩
        · exact Or.inl (node?_put_of_ne fs heq _)

theorem made_makeEach {ps : List Path} (hsteps : ∀ p ∈ ps, p.steps <+: dir.steps)
    (fs : FileSystem) : Made dir fs (fs.makeEach ps).2 := by
  induction ps generalizing fs with
  | nil => exact .refl
  | cons p ps ih =>
    obtain ⟨hp, hps⟩ := List.forall_mem_cons.1 hsteps
    have hfirst := made_makeDirectory hp fs
    rw [makeEach]
    split
    · rename_i fs' hmake
      rw [hmake] at hfirst
      exact hfirst.trans (ih hps fs')
    · rename_i e fs' hmake
      rw [hmake] at hfirst
      split
      · exact hfirst.trans (ih hps fs')
      · exact hfirst

theorem made_makeFrom {missing : List Path} (hmissing : ∀ p ∈ missing, p.steps <+: dir.steps)
    (fuel : ℕ) (hp : p.steps <+: dir.steps) (fs : FileSystem) :
    Made dir fs (fs.makeFrom missing fuel p).2 := by
  induction fuel generalizing fs missing p with
  | zero => exact made_makeEach hmissing fs
  | succ fuel ih =>
    have hfirst := made_makeDirectory hp fs
    rw [makeFrom]
    split
    · exact made_makeEach hmissing fs
    · split
      · rename_i fs' hmake
        rw [hmake] at hfirst
        exact hfirst.trans (made_makeEach hmissing fs')
      · rename_i e fs' hmake
        rw [hmake] at hfirst
        split
        · split
          · rename_i above habove
            have hsteps := (Path.steps_isPrefix_of_parent? habove).trans hp
            exact hfirst.trans (ih (List.forall_mem_cons.2 ⟨hp, hmissing⟩) hsteps fs')
          · exact hfirst
        · split
          · exact hfirst.trans (made_makeEach hmissing fs')
          · exact hfirst

/-- **Creating a directory only adds plain directories on the way of its path.** -/
theorem made_makeDirectories (fs : FileSystem) (dir : Path) :
    Made dir fs (fs.makeDirectories dir).2 :=
  made_makeFrom (List.forall_mem_nil _) _ List.prefix_rfl fs

end FileSystem

end SchemaForge
