import SchemaForge.Proofs.Path.Below

/-!
# Which output directories are accepted

For absolute paths `OutputDirectory.checkSafe` reads the two texts as the file tree would: it
refuses an output directory exactly if the place of the project is that of the output directory or
below it (`OutputDirectory.checkSafe_eq_of_isAbsolute`), where a `..` at the root stays there
(`Path.place`). Places are compared name by name, so a name that another one starts with is a
different name.

The check is monotone in both directories: what lies below an accepted output directory is accepted
too, and a refused one is refused for all that lies below the project.
-/

namespace SchemaForge

namespace OutputDirectory

variable {output project : Path}

/-- The refusal names both directories as they were given. -/
theorem checkSafe_eq (output project : Path) :
    checkSafe output project = .ok () ∨
      checkSafe output project = .error (.invariant ("output directory " ++ output.shown ++
        " contains the project directory " ++ project.shown)) := by
  rw [checkSafe]
  split
  · exact Or.inr rfl
  · exact Or.inl rfl

/-- For absolute paths the check compares places. -/
theorem checkSafe_iff_place (houtput : output.isAbsolute = true)
    (hproject : project.isAbsolute = true) (cwd : Location) :
    checkSafe output project = .ok () ↔ ¬output.place cwd <+: project.place cwd := by
  have hne : output.normalize ≠ [] := by
    rw [Path.normalize_of_isAbsolute houtput]
    exact List.cons_ne_nil _ _
  rw [checkSafe_eq_ok_iff, Path.place_prefix_iff houtput hproject, and_iff_right hne]

/-- What lies below an accepted output directory is accepted for all that does not lie below the
project. -/
theorem checkSafe_mono {output' project' : Path} {cwd : Location}
    (houtput : output.isAbsolute = true) (hproject : project.isAbsolute = true)
    (houtput' : output'.isAbsolute = true) (hproject' : project'.isAbsolute = true)
    (hbelow : output.place cwd <+: output'.place cwd)
    (habove : project'.place cwd <+: project.place cwd)
    (h : checkSafe output project = .ok ()) : checkSafe output' project' = .ok () := by
  rw [checkSafe_iff_place houtput hproject cwd] at h
  rw [checkSafe_iff_place houtput' hproject' cwd]
  exact fun hpre ↦ h (hbelow.trans (hpre.trans habove))

/-! ### Paths seen from one directory -/

/-- A relative path that does not climb leads to the directory from which it is seen, or below. -/
theorem place_prefix_place_join {q : Path} (hq : q.isAbsolute = false) (hclimb : q.climb = 0)
    (dir : Path) (cwd : Location) : dir.place cwd <+: (dir / q).place cwd := by
  rw [Path.place_join, Path.place_of_not_isAbsolute hq, hclimb, Nat.sub_zero, List.take_length]
  exact List.prefix_append _ _

/-- An absolute directory is refused for itself and for what lies below. -/
theorem checkSafe_join_ne_ok {dir q : Path} (hdir : dir.isAbsolute = true)
    (hq : q.isAbsolute = false) (hclimb : q.climb = 0) : checkSafe dir (dir / q) ≠ .ok () := by
  rw [Ne, checkSafe_iff_place hdir (Path.isAbsolute_join_of_left hdir q) [], not_not]
  exact place_prefix_place_join hq hclimb dir []

/-- Two entries of an absolute directory are accepted for each other, even if the name of one of
them starts with that of the other. -/
theorem checkSafe_join_join {dir s t : Path} (hdir : dir.isAbsolute = true) (hs : s.Plain)
    (ht : t.Plain) (hne : s.text ≠ t.text) : checkSafe (dir / s) (dir / t) = .ok () := by
  have hleft := Path.isAbsolute_join_of_left hdir s
  have hright := Path.isAbsolute_join_of_left hdir t
  rw [checkSafe_iff_place hleft hright [], Path.place_prefix_iff hleft hright,
    Path.normalize_prefix_iff hleft hright, Path.names_join hdir, Path.names_join hdir,
    hs.namesFrom_prefix_iff ht]
  exact hne

/-- **An absolute output directory is accepted for an absolute project exactly if its place is no
prefix of the project's**, and is refused by a text that names both otherwise. So no directory is
accepted for what it holds, and each of its entries is for every other one. -/
theorem checkSafe_eq_of_isAbsolute (houtput : output.isAbsolute = true)
    (hproject : project.isAbsolute = true) (cwd : Location) :
    (checkSafe output project = .ok () ↔ ¬output.place cwd <+: project.place cwd) ∧
    (checkSafe output project ≠ .ok () → checkSafe output project =
      .error (.invariant ("output directory " ++ output.shown ++ " contains the project directory " ++
        project.shown))) ∧
    (∀ q : Path, q.isAbsolute = false → q.climb = 0 →
      checkSafe output (output / q) ≠ .ok ()) ∧
    ∀ s t : Path, s.Plain → t.Plain → s.text ≠ t.text →
      checkSafe (output / s) (output / t) = .ok () :=
  ⟨checkSafe_iff_place houtput hproject cwd, (checkSafe_eq output project).resolve_left,
    fun _ hq hclimb ↦ checkSafe_join_ne_ok houtput hq hclimb,
    fun _ _ hs ht hne ↦ checkSafe_join_join houtput hs ht hne⟩

/-- A directory beside the project is accepted although its name starts with the project's, and a
path above the root that comes back to the project is refused. -/
theorem checkSafe_beside_project :
    checkSafe ⟨"/work//app/../app-old/."⟩ ⟨"/work/app"⟩ = .ok () ∧
    checkSafe ⟨"/../../work/./app//"⟩ ⟨"/work/app"⟩ ≠ .ok () := by
  obtain ⟨hbeside, -⟩ :=
    @checkSafe_eq_of_isAbsolute ⟨"/work//app/../app-old/."⟩ ⟨"/work/app"⟩ rfl rfl []
  obtain ⟨hsame, -⟩ :=
    @checkSafe_eq_of_isAbsolute ⟨"/../../work/./app//"⟩ ⟨"/work/app"⟩ rfl rfl []
  exact ⟨hbeside.2 (by decide), fun haccepted ↦ hsame.1 haccepted (by decide)⟩

end OutputDirectory

end SchemaForge
