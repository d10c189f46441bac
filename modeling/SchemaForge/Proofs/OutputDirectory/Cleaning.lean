import SchemaForge.OutputDirectory
import SchemaForge.Proofs.Path.Place
import SchemaForge.Proofs.Table

/-!
# What cleaning leaves alone

Cleaning first creates the directory where it is missing, which adds nodes and takes none away
(`FileSystem.Extends`). Then it removes what is below the directory (`FileSystem.Thinned`), which is
found anew for each entry. On a tree without links the directory is where its path says every time,
so nothing goes that is not below that place (`node?_clean`).
-/

namespace SchemaForge

namespace FileSystem

/-! ### A change at one place -/

theorem node?_erase_of_ne (fs : FileSystem) {loc q : Location} (hne : q ≠ loc) :
    (fs.erase loc).node? q = fs.node? q := by
  rw [node?, node?, erase, find?_filter_of_ne hne]

theorem node?_put_of_ne (fs : FileSystem) {loc q : Location} (hne : q ≠ loc) (node : Node) :
    (fs.put loc node).node? q = fs.node? q := by
  rw [node?, node?, put, find?_replace_of_ne hne]

theorem node?_put_self (fs : FileSystem) {loc : Location} (hloc : loc ≠ []) (node : Node) :
    (fs.put loc node).node? loc = some node := by
  rw [node?, put, if_neg (by simpa using hloc), find?_replace_self]
  rfl

/-! ### Creating directories -/

/-- A tree with more in it. -/
structure Extends (fs fs' : FileSystem) : Prop where
  workingDirectory : fs'.workingDirectory = fs.workingDirectory
  linkless : fs'.Linkless
  node : ∀ {loc node}, fs.node? loc = some node → fs'.node? loc = some node

theorem Extends.refl {fs : FileSystem} (h : fs.Linkless) : Extends fs fs := ⟨rfl, h, id⟩

theorem Extends.trans {fs fs' fs'' : FileSystem} (h : Extends fs fs') (h' : Extends fs' fs'') :
    Extends fs fs'' :=
  ⟨h'.workingDirectory.trans h.workingDirectory, h'.linkless, fun hnode ↦ h'.node (h.node hnode)⟩

theorem extends_makeDirectory {fs : FileSystem} (h : fs.Linkless) (p : Path) :
    Extends fs (fs.makeDirectory p).2 := by
  rw [makeDirectory]
  split
  · exact .refl h
  · exact .refl h
  · rename_i dir name hlocate
    obtain ⟨hplace, hfree⟩ := locate_eq h hlocate
    rw [← hplace] at hfree
    rw [create]
    split
    · exact .refl h
    · -- the name was free, so nothing is replaced
      have hne : dir ++ [name] ≠ [] := by simp
      refine ⟨rfl, fun loc target hloc ↦ ?_, fun {loc node} hnode ↦ ?_⟩
      · by_cases heq : loc = dir ++ [name]
        · rw [heq, node?_put_self fs hne] at hloc
          cases hloc
        · rw [node?_put_of_ne fs heq] at hloc
          exact h loc target hloc
      · have heq : loc ≠ dir ++ [name] := by
          rintro rfl
          cases hfree.symm.trans hnode
        rw [node?_put_of_ne fs heq]
        exact hnode

theorem extends_makeEach {fs : FileSystem} (h : fs.Linkless) (ps : List Path) :
    Extends fs (fs.makeEach ps).2 := by
  induction ps generalizing fs with
  | nil => exact .refl h
  | cons p ps ih =>
    have hfirst := extends_makeDirectory h p
    rw [makeEach]
    split
    · rename_i fs' hmake
      rw [hmake] at hfirst
      exact hfirst.trans (ih hfirst.linkless)
    · rename_i e fs' hmake
      rw [hmake] at hfirst
      split
      · exact hfirst.trans (ih hfirst.linkless)
      · exact hfirst

theorem extends_makeFrom {fs : FileSystem} (h : fs.Linkless) (missing : List Path) (fuel : ℕ)
    (p : Path) : Extends fs (fs.makeFrom missing fuel p).2 := by
  induction fuel generalizing fs missing p with
  | zero => exact extends_makeEach h missing
  | succ fuel ih =>
    have hfirst := extends_makeDirectory h p
    rw [makeFrom]
    split
    · exact extends_makeEach h missing
    · split
      · rename_i fs' hmake
        rw [hmake] at hfirst
        exact hfirst.trans (extends_makeEach hfirst.linkless missing)
      · rename_i e fs' hmake
        rw [hmake] at hfirst
        split
        · split
          · exact hfirst.trans (ih hfirst.linkless _ _)
          · exact hfirst
        · split
          · exact hfirst.trans (extends_makeEach hfirst.linkless missing)
          · exact hfirst

/-! ### Removing what is below a place -/

/-- A tree in which some of what is below a place is gone. -/
structure Thinned (place : Location) (fs fs' : FileSystem) : Prop where
  workingDirectory : fs'.workingDirectory = fs.workingDirectory
  node : ∀ q, fs'.node? q = fs.node? q ∨ (place <+: q ∧ q ≠ place) ∧ fs'.node? q = none

namespace Thinned

variable {place q : Location} {fs fs' fs'' : FileSystem}

theorem refl : Thinned place fs fs := ⟨rfl, fun _ ↦ Or.inl rfl⟩

theorem trans (h : Thinned place fs fs') (h' : Thinned place fs' fs'') : Thinned place fs fs'' := by
  refine ⟨h'.workingDirectory.trans h.workingDirectory, fun q ↦ ?_⟩
  rcases h'.node q with heq | hgone
  · rw [heq]
    exact h.node q
  · exact Or.inr hgone

theorem node?_of_not (h : Thinned place fs fs') (hq : ¬(place <+: q ∧ q ≠ place)) :
    fs'.node? q = fs.node? q :=
  (h.node q).resolve_right fun hgone ↦ hq hgone.1

theorem node?_of_some (h : Thinned place fs fs') {node : Node} (hq : fs'.node? q = some node) :
    fs.node? q = some node := by
  rcases h.node q with heq | ⟨-, hnone⟩
  · rw [← heq, hq]
  · rw [hnone] at hq
    cases hq

theorem linkless (h : Thinned place fs fs') (hfs : fs.Linkless) : fs'.Linkless :=
  fun loc target hlink ↦ hfs loc target (h.node?_of_some hlink)

end Thinned

theorem node?_erase_self (fs : FileSystem) {loc : Location} (hne : loc ≠ []) :
    (fs.erase loc).node? loc = none := by
  rw [node?, if_neg (by simpa using hne), erase, Option.map_eq_none_iff, List.find?_eq_none]
  intro n hn
  simpa using (List.mem_filter.1 hn).2

theorem thinned_removeAt {place loc : Location} (hloc : place <+: loc ∧ loc ≠ place)
    (fs : FileSystem) : Thinned place fs (fs.removeAt loc).2 := by
  rw [removeAt]
  split
  · exact .refl
  · refine ⟨rfl, fun q ↦ ?_⟩
    by_cases heq : q = loc
    · have hne : loc ≠ [] := by
        rintro rfl
        exact hloc.2 (List.prefix_nil.1 hloc.1).symm
      rw [heq]
      exact Or.inr ⟨hloc, node?_erase_self fs hne⟩
    · exact Or.inl (node?_erase_of_ne fs heq)

theorem thinned_removeEach {place : Location} {locs : List Location}
    (hlocs : ∀ loc ∈ locs, place <+: loc ∧ loc ≠ place) (fs : FileSystem) :
    Thinned place fs (fs.removeEach locs).2 := by
  induction locs generalizing fs with
  | nil => exact .refl
  | cons loc locs ih =>
    obtain ⟨hloc, hlocs⟩ := List.forall_mem_cons.1 hlocs
    have hfirst := thinned_removeAt hloc fs
    rw [removeEach]
    rcases hremove : fs.removeAt loc with ⟨_ | _, fs'⟩
    · rw [hremove] at hfirst
      exact hfirst
    · rw [hremove] at hfirst
      exact hfirst.trans (ih hlocs fs')

/-- What is below an entry of a directory is below the directory. -/
theorem below_of_mem_below {place q : Location} {name : FileName} {fs : FileSystem}
    (hq : q ∈ fs.below (place ++ [name])) : place <+: q ∧ q ≠ place := by
  have hbelow := (List.mem_filter.1 (List.mem_mergeSort.1 hq)).2
  rw [isBelow, Bool.and_eq_true, decide_eq_true_iff, List.isPrefixOf_iff_prefix] at hbelow
  refine ⟨(List.prefix_append ..).trans hbelow.1, ?_⟩
  rintro rfl
  have hlength := hbelow.2
  rw [List.length_append] at hlength
  omega

theorem below_concat (place : Location) (name : FileName) :
    place <+: place ++ [name] ∧ place ++ [name] ≠ place :=
  ⟨List.prefix_append .., by simp⟩

/-! ### Listing a directory -/

theorem list_eq_ok_iff {fs : FileSystem} {p : Path} {loc : Location} {names : List FileName} :
    fs.list p = .ok (loc, names) ↔
      fs.resolve .target p = .ok loc ∧ fs.isDirectoryAt loc = true ∧ names = fs.entries loc := by
  rw [list]
  constructor
  · intro h
    split at h
    · cases h
    · rename_i loc' hresolve
      split at h
      · rename_i hdirectory
        cases h
        exact ⟨hresolve, hdirectory, rfl⟩
      · cases h
  · rintro ⟨hresolve, hdirectory, rfl⟩
    simp only [hresolve, hdirectory, if_true]

end FileSystem

namespace OutputDirectory

open FileSystem

variable {fs : FileSystem} {dir : Path} {place q : Location}

/-- An entry is found in the directory that the path leads to, if the path with its name is not too
long. -/
theorem entryAt_eq_ok_iff {name : FileName} {loc : Location} : entryAt fs dir name = .ok loc ↔
    ¬maxPathLength < (dir / ⟨""⟩).text.bytes.length + name.bytes.length ∧
      ∃ parent, fs.resolve .target dir = .ok parent ∧ fs.isDirectoryAt parent = true ∧
        name ∈ fs.entries parent ∧ loc = parent ++ [name] := by
  rw [entryAt]
  constructor
  · intro h
    split at h
    · cases h
    · rename_i hshort
      split at h
      · cases h
      · rename_i parent names hlist
        obtain ⟨hresolve, hdirectory, rfl⟩ := list_eq_ok_iff.1 hlist
        split at h
        · rename_i hmem
          exact ⟨hshort, parent, hresolve, hdirectory, hmem, (Except.ok.inj h).symm⟩
        · cases h
  · rintro ⟨hshort, parent, hresolve, hdirectory, hmem, rfl⟩
    rw [if_neg hshort, list_eq_ok_iff.2 ⟨hresolve, hdirectory, rfl⟩]
    dsimp only
    rw [if_pos hmem]

/-- As long as the path leads to one place, an entry is removed there. -/
theorem thinned_removeEntry
    (hplace : ∀ fs', Thinned place fs fs' → ∀ loc, fs'.resolve .target dir = .ok loc → loc = place)
    (name : FileName) : Thinned place fs (removeEntry fs dir name).2 := by
  rw [removeEntry]
  split
  · exact .refl
  · rename_i loc hentry
    obtain ⟨-, parent, hresolve, -, -, rfl⟩ := entryAt_eq_ok_iff.1 hentry
    obtain rfl := hplace fs .refl parent hresolve
    have hbelow := thinned_removeEach (fun q (hq : q ∈ fs.below (parent ++ [name])) ↦
      below_of_mem_below hq) fs
    split
    · rename_i e fs' hremove
      rw [hremove] at hbelow
      exact hbelow
    · rename_i fs' hremove
      rw [hremove] at hbelow
      split
      · split <;> exact hbelow
      · rename_i loc' hentry'
        obtain ⟨-, parent', hresolve', -, -, rfl⟩ := entryAt_eq_ok_iff.1 hentry'
        obtain rfl := hplace fs' hbelow parent' hresolve'
        exact hbelow.trans (thinned_removeAt (below_concat _ _) fs')

theorem thinned_removeEntries
    (hplace : ∀ fs', Thinned place fs fs' → ∀ loc, fs'.resolve .target dir = .ok loc → loc = place)
    (names : List FileName) : Thinned place fs (removeEntries fs dir names).2 := by
  induction names generalizing fs with
  | nil => exact .refl
  | cons name names ih =>
    have hfirst := thinned_removeEntry hplace name
    rw [removeEntries]
    split
    · rename_i fs' hremove
      rw [hremove] at hfirst
      exact hfirst.trans (ih fun fs'' h ↦ hplace fs'' (hfirst.trans h))
    · rename_i e fs' hremove
      rw [hremove] at hfirst
      exact hfirst

/-- On a tree without links, cleaning keeps what is not below the place of the directory. -/
theorem node?_clean {fs : FileSystem} (h : fs.Linkless) {dir : Path} {q : Location} {node : Node}
    (hq : ¬dir.place fs.workingDirectory <+: q) (hnode : fs.node? q = some node) :
    (clean fs dir).2.node? q = some node := by
  have hmake := extends_makeFrom h [] (dir.text.bytes.length + 1) dir
  rw [clean]
  split
  · rename_i e fs' hdirs
    rw [makeDirectories] at hdirs
    rw [hdirs] at hmake
    exact hmake.node hnode
  · rename_i fs' hdirs
    rw [makeDirectories] at hdirs
    rw [hdirs] at hmake
    split
    · exact hmake.node hnode
    · rename_i loc names hlist
      have hthinned : Thinned (dir.place fs.workingDirectory) fs' (removeEntries fs' dir names).2 := by
        refine thinned_removeEntries (fun fs'' hthinned loc hresolve ↦ ?_) names
        rw [resolve_eq_place (hthinned.linkless hmake.linkless) hresolve,
          hthinned.workingDirectory, hmake.workingDirectory]
      rw [hthinned.node?_of_not fun hbelow ↦ hq hbelow.1]
      exact hmake.node hnode

end OutputDirectory

end SchemaForge
