import SchemaForge.FileSystem.System
import SchemaForge.Proofs.FileSystem.Creating
import SchemaForge.Proofs.FileSystem.Reading

/-!
# What cleaning comes to on any tree

Links may lead anywhere and the path of the directory through any of them. Cleaning creates what is
missing on the way of the path (`FileSystem.Made`) and then only takes away what is below the place
to which the path leads (`FileSystem.Thinned`), whether it succeeds or not.

If it succeeds, then the path may have gone through what was removed. It leads to the directory
afterwards exactly if it does so without anything below that (`FileSystem.Straight`), and then the
directory is empty and cleaning it once more changes nothing (`OutputDirectory.clean_spec`). If it
does not, then cleaning has removed the way to the directory itself, and cleaning once more can even
empty another one (`OutputDirectory.clean_elsewhere`).
-/

namespace SchemaForge

namespace FileSystem

variable {fs fs' : FileSystem} {place loc q l : Location} {p dir : Path} {names : List FileName}
  {name : FileName}

/-! ### Nothing below a place -/

/-- The tree without what is below a place. -/
def cleared (fs : FileSystem) (place : Location) : FileSystem := fs.only fun q ↦ !isBelow place q

/-- The path leads to the place, and needs nothing below it for that. -/
def Straight (fs : FileSystem) (dir : Path) (place : Location) : Prop :=
  (fs.cleared place).resolve .target dir = .ok place

instance (fs : FileSystem) (dir : Path) (place : Location) : Decidable (fs.Straight dir place) :=
  inferInstanceAs (Decidable ((fs.cleared place).resolve .target dir = .ok place))

theorem node?_only_of_not {keep : Location → Bool} (hne : q ≠ []) (h : keep q = false) :
    (fs.only keep).node? q = none := by
  rw [node?, if_neg (by simpa using hne), Option.map_eq_none_iff, List.find?_eq_none]
  intro n hn heq
  have hkeep := (List.mem_filter.1 hn).2
  rw [beq_iff_eq.1 heq, h] at hkeep
  cases hkeep

theorem thinned_cleared (fs : FileSystem) (place : Location) :
    Thinned place fs (fs.cleared place) := by
  refine ⟨rfl, fun q ↦ ?_⟩
  cases hbelow : isBelow place q with
  | false => exact Or.inl (node?_only (by rw [hbelow]; rfl))
  | true =>
    have hq := isBelow_iff.1 hbelow
    have hne : q ≠ [] := by
      rintro rfl
      exact hq.2 (List.prefix_nil.1 hq.1).symm
    exact Or.inr ⟨hq, node?_only_of_not hne (by rw [hbelow]; rfl)⟩

theorem node?_cleared_of_below (hq : place <+: q ∧ q ≠ place) :
    (fs.cleared place).node? q = none := by
  have hne : q ≠ [] := by
    rintro rfl
    exact hq.2 (List.prefix_nil.1 hq.1).symm
  exact node?_only_of_not hne (by rw [isBelow_iff.2 hq]; rfl)

/-- Nothing of a thinned tree is missing but what is below the place. -/
theorem Thinned.within_cleared (h : Thinned place fs fs') : Within (fs.cleared place) fs' := by
  have hcleared := thinned_cleared fs place
  refine ⟨h.workingDirectory.trans hcleared.workingDirectory.symm, fun {q node} hq ↦ ?_⟩
  rw [h.node?_of_not fun hbelow ↦ ?_]
  · exact hcleared.node?_of_some hq
  · rw [node?_cleared_of_below hbelow] at hq
    cases hq

theorem Thinned.isDirectoryAt (h : Thinned place fs fs') (hplace : fs.isDirectoryAt place = true) :
    fs'.isDirectoryAt place = true := by
  rwa [isDirectoryAt_eq (h.node?_of_not fun hself ↦ hself.2 rfl)]

theorem Thinned.mono (h : Thinned q fs fs') (hq : place <+: q) : Thinned place fs fs' := by
  refine ⟨h.workingDirectory, fun r ↦ (h.node r).imp_right fun ⟨hr, hgone⟩ ↦
    ⟨⟨hq.trans hr.1, ?_⟩, hgone⟩⟩
  rintro rfl
  exact hr.2 (prefix_antisymm hq hr.1)

/-- A thinned tree without anything below the place is cleared. -/
theorem Thinned.within_of_none (h : Thinned place fs fs')
    (hnone : ∀ q, place <+: q ∧ q ≠ place → fs'.node? q = none) :
    Within fs' (fs.cleared place) := by
  have hcleared := thinned_cleared fs place
  refine ⟨hcleared.workingDirectory.trans h.workingDirectory.symm, fun {q node} hq ↦ ?_⟩
  rw [hcleared.node?_of_not fun hbelow ↦ ?_]
  · exact h.node?_of_some hq
  · rw [hnone q hbelow] at hq
    cases hq

theorem Straight.resolve (h : fs.Straight dir place) : fs.resolve .target dir = .ok place :=
  (thinned_cleared fs place).within.resolve h

/-- Whatever is gone below the place, the way of the path stays straight. -/
theorem Straight.thinned (h : fs.Straight dir place) (hthinned : Thinned place fs fs') :
    fs'.Straight dir place :=
  (hthinned.trans (thinned_cleared fs' place)).within_cleared.resolve h

theorem Nested.cleared_closed (h : fs.Nested) (place loc : Location) (name : FileName)
    (hnode : (fs.cleared place).node? (loc ++ [name]) ≠ none) :
    (fs.cleared place).node? loc ≠ none := by
  have hcleared := thinned_cleared fs place
  by_cases hloc : place <+: loc ∧ loc ≠ place
  · refine absurd (node?_cleared_of_below ⟨hloc.1.trans (List.prefix_append ..), ?_⟩) hnode
    rintro rfl
    exact not_concat_prefix hloc.1
  · obtain ⟨node, hnode⟩ := Option.ne_none_iff_exists'.1 hnode
    rw [hcleared.node?_of_not hloc]
    refine node?_ne_none_of_isDirectoryAt (h loc name ?_)
    rw [hcleared.node?_of_some hnode]
    exact nofun

/-- **On a straight way nothing is created below the place.** -/
theorem Made.node?_of_straight (h : Made dir fs fs') (hfs : fs.Rooted)
    (hstraight : fs'.Straight dir place) (hq : place <+: q ∧ q ≠ place) :
    fs'.node? q = fs.node? q := by
  refine (h.node q).resolve_right fun ⟨⟨hnone, _⟩, p, hsteps, hresolve⟩ ↦ ?_
  have hcleared := (thinned_cleared fs' place).within
  by_cases heq : p.steps = dir.steps
  · exact hq.2 (resolve_of_steps_eq heq hresolve hstraight.resolve)
  · -- the path needs what was created
    obtain ⟨m, hm⟩ := exists_resolve_of_prefix hsteps heq (resolve_eq_ok_iff.1 hresolve) hstraight
    obtain rfl : m = q := Except.ok.inj ((hcleared.resolve hm).symm.trans hresolve)
    rcases node?_of_resolve ((h.nested hfs.nested).cleared_closed place) hm with hnode | habove
    · exact hnode (node?_cleared_of_below hq)
    · rw [hcleared.workingDirectory.symm.trans h.workingDirectory] at habove
      exact hfs.node?_of_isPrefix habove hnone

/-- A path that never turns back is straight, if there are no links on its way. -/
theorem straight_of_forward (hp : p.Forward) (hregular : fs.Regular (p.place fs.workingDirectory))
    (h : fs.resolve .target p = .ok place) : fs.Straight p place := by
  obtain rfl := eq_place_of_resolve hp hregular h
  have hcleared := thinned_cleared fs (p.place fs.workingDirectory)
  have hnode (q) (hq : q <+: p.place fs.workingDirectory) :
      (fs.cleared (p.place fs.workingDirectory)).node? q = fs.node? q :=
    hcleared.node?_of_not fun hbelow ↦ hbelow.2 (prefix_antisymm hq hbelow.1)
  have hregular' : (fs.cleared (p.place fs.workingDirectory)).Regular
      (p.place (fs.cleared (p.place fs.workingDirectory)).workingDirectory) :=
    regular_of_grown hregular fun q hq ↦ Or.inl (hnode q hq)
  rw [resolve_eq, locate_eq_follow_way hp hregular] at h
  rw [Straight, resolve_eq, locate_eq_follow_way hp hregular', ← h, hcleared.workingDirectory,
    follow_congr fun q hq ↦ hnode q (hp.place_eq _ ▸ hq)]

/-! ### Entries -/

theorem mem_entries_iff : name ∈ fs.entries loc ↔ fs.node? (loc ++ [name]) ≠ none := by
  refine ⟨node?_of_mem_entries, fun h ↦ ?_⟩
  obtain ⟨node, hnode⟩ := Option.ne_none_iff_exists'.1 h
  exact List.mem_filterMap.2 ⟨_, mem_nodes_of_node? (by simp) hnode, nameBelow?_eq_some_iff.2 rfl⟩

theorem entries_eq_nil (h : ∀ q, place <+: q ∧ q ≠ place → fs.node? q = none) :
    fs.entries place = [] :=
  List.eq_nil_iff_forall_not_mem.2 fun _ hname ↦
    mem_entries_iff.1 hname (h _ (below_concat place _))

/-- What is below a place is at or below one of its entries. -/
theorem Nested.exists_entry (h : fs.Nested) (hq : place <+: q ∧ q ≠ place)
    (hnode : fs.node? q ≠ none) : ∃ name ∈ fs.entries place, place ++ [name] <+: q := by
  obtain ⟨⟨rest, rfl⟩, hne⟩ := hq
  cases rest with
  | nil => exact absurd (List.append_nil place) hne
  | cons name rest =>
    have hentry : place ++ [name] <+: place ++ name :: rest := ⟨rest, by simp⟩
    refine ⟨name, mem_entries_iff.2 ?_, hentry⟩
    by_cases hself : place ++ name :: rest = place ++ [name]
    · rwa [hself] at hnode
    · exact node?_ne_none_of_isDirectoryAt (h.isDirectoryAt hnode hentry hself)

/-! ### Removing -/

theorem node?_of_removeAt (h : fs.removeAt loc = (.ok (), fs')) (hne : loc ≠ []) :
    fs'.node? loc = none := by
  rw [removeAt] at h
  split at h
  · cases h
  · obtain ⟨-, rfl⟩ := Prod.mk.inj h
    exact node?_erase_self fs hne

/-- What was removed is gone. -/
theorem node?_of_removeEach {locs : List Location} (h : fs.removeEach locs = (.ok (), fs'))
    (hlocs : ∀ loc ∈ locs, place <+: loc ∧ loc ≠ place) (hq : q ∈ locs) : fs'.node? q = none := by
  induction locs generalizing fs with
  | nil => cases hq
  | cons loc locs ih =>
    obtain ⟨hloc, hrest⟩ := List.forall_mem_cons.1 hlocs
    rw [removeEach] at h
    split at h
    · rename_i fs₁ hremove
      rcases List.mem_cons.1 hq with rfl | hmem
      · have hne : q ≠ [] := by
          rintro rfl
          exact hloc.2 (List.prefix_nil.1 hloc.1).symm
        have hthinned := thinned_removeEach hrest fs₁
        rw [h] at hthinned
        rcases hthinned.node q with heq | hgone
        · rw [heq, node?_of_removeAt hremove hne]
        · exact hgone.2
      · exact ih h hrest hmem
    · cases h

theorem mem_below_iff :
    q ∈ fs.below place ↔ q ∈ fs.nodes.map Prod.fst ∧ place <+: q ∧ q ≠ place := by
  rw [below, List.mem_mergeSort, List.mem_filter, isBelow_iff]

/-- Nothing is left below a place once all that was there was removed. -/
theorem node?_of_removeEach_below (h : fs.removeEach (fs.below place) = (.ok (), fs'))
    (hq : place <+: q ∧ q ≠ place) : fs'.node? q = none := by
  have hlocs (loc) (hloc : loc ∈ fs.below place) := (mem_below_iff.1 hloc).2
  have hthinned := thinned_removeEach hlocs fs
  rw [h] at hthinned
  by_contra hsome
  obtain ⟨node, hnode⟩ := Option.ne_none_iff_exists'.1 hsome
  have hne : q ≠ [] := by
    rintro rfl
    exact hq.2 (List.prefix_nil.1 hq.1).symm
  have hmem : q ∈ fs.nodes.map Prod.fst :=
    List.mem_map.2 ⟨_, mem_nodes_of_node? hne (hthinned.node?_of_some hnode), rfl⟩
  exact hsome (node?_of_removeEach h hlocs (mem_below_iff.2 ⟨hmem, hq⟩))

/-! ### A directory that is there -/

/-- What a path leads to through all links, or the link at its end, is there as an entry. -/
theorem exists_walk_entry {slash : Bool} {fuel links : ℕ} {steps : List Component}
    (h : fs.walk .target slash fuel links loc steps = .ok (.taken l)) :
    ∃ m, fs.walk .entry slash fuel links loc steps = .ok (.taken m) := by
  induction fuel generalizing slash links loc steps with
  | zero => cases h
  | succ fuel ih =>
    cases steps with
    | nil => exact ⟨loc, rfl⟩
    | cons step rest =>
      cases step with
      | root | current | parent => exact ih h
      | name s =>
        obtain ⟨hname, honward⟩ := walk_name_eq_ok_iff.1 h
        have hentry : Permits .entry slash s rest := hname.of_ne_writing nofun
        cases honward with
        | free _ _ hplace => cases hplace
        | entry _ _ _ hpurpose => cases hpurpose
        | directory refusal hnode hwalk =>
          obtain ⟨m, hm⟩ := ih hwalk
          exact ⟨m, walk_name_eq_ok_iff.2 ⟨hentry, .directory refusal hnode hm⟩⟩
        | link target fewer hnode _ hlinks hempty hwalk =>
          by_cases hrest : rest = []
          · -- a link at the end is the entry itself
            exact ⟨_, walk_name_eq_ok_iff.2 ⟨hentry, .entry target hnode hrest rfl rfl⟩⟩
          · obtain ⟨m, hm⟩ := ih hwalk
            exact ⟨m, walk_name_eq_ok_iff.2
              ⟨hentry, .link target fewer hnode (absurd · hrest) hlinks hempty hm⟩⟩
        | leaf node hnode hleaf hrest hslash =>
          exact ⟨_, walk_name_eq_ok_iff.2 ⟨hentry, .leaf node hnode hleaf hrest hslash rfl⟩⟩

theorem exists_resolve_of_isDirectory (h : fs.isDirectory p = true) :
    ∃ loc, fs.resolve .target p = .ok loc := by
  rw [isDirectory, stat] at h
  cases hresolve : fs.resolve .target p with
  | error e =>
    rw [hresolve] at h
    cases h
  | ok loc => exact ⟨loc, rfl⟩

/-- Nothing is to be created for a directory that is there. -/
theorem makeDirectories_of_isDirectory (h : fs.isDirectory p = true) :
    fs.makeDirectories p = (.ok (), fs) := by
  obtain ⟨loc, hresolve⟩ := exists_resolve_of_isDirectory h
  rw [resolve_eq_ok_iff] at hresolve
  have hvalid := locate_eq_walk hresolve fs .entry
  rw [locate_eq_walk hresolve] at hresolve
  obtain ⟨m, hm⟩ := exists_walk_entry hresolve
  rw [hm] at hvalid
  have hmake : fs.makeDirectory p = (.error .alreadyExists, fs) := by
    rw [makeDirectory, hvalid]
  rw [makeDirectories, makeFrom]
  split
  · rfl
  · rw [hmake]
    simp only [h, if_true]
    rfl

theorem isDirectory_eq_of_resolve (h : fs.resolve .target p = .ok loc) :
    fs.isDirectory p = fs.isDirectoryAt loc := by
  rw [isDirectory, stat, h, isDirectoryAt]
  dsimp only
  cases fs.node? loc with
  | none => rfl
  | some node => cases node <;> rfl

end FileSystem

namespace OutputDirectory

open FileSystem

variable {fs fs' : FileSystem} {dir : Path} {place loc q : Location} {name : FileName}
  {names : List FileName}

/-- Without the way to it, nothing would be removed: as long as the path leads to a place in the
end, it does so all along. -/
theorem eq_of_thinned (hresolve : fs.resolve .target dir = .ok place) :
    ∀ fs', Thinned place fs fs' → ∀ loc, fs'.resolve .target dir = .ok loc → loc = place :=
  fun _ hthinned _ h ↦ Except.ok.inj ((hthinned.within.resolve h).symm.trans hresolve)

/-- Below an entry that was removed nothing is left. -/
theorem node?_below_of_removeEntry (h : removeEntry fs dir name = (.ok (), fs'))
    (hplace : ∀ loc, fs.resolve .target dir = .ok loc → loc = place)
    (hq : place ++ [name] <+: q ∧ q ≠ place ++ [name]) : fs'.node? q = none := by
  rw [removeEntry] at h
  split at h
  · cases h
  rename_i loc hentry
  obtain ⟨-, parent, hparent, -, -, rfl⟩ := entryAt_eq_ok_iff.1 hentry
  obtain rfl := hplace parent hparent
  split at h
  · cases h
  rename_i fs₁ hremove
  have hnone := node?_of_removeEach_below hremove hq
  split at h
  · split at h
    · obtain ⟨-, rfl⟩ := Prod.mk.inj h
      exact hnone
    · cases h
  · rename_i hentry'
    obtain ⟨-, parent', -, -, -, rfl⟩ := entryAt_eq_ok_iff.1 hentry'
    have hlast := thinned_removeAt (below_concat parent' name) fs₁
    rw [h] at hlast
    rcases hlast.node q with hsame | hgone
    · rw [hsame, hnone]
    · exact hgone.2

/-- An entry was removed with all below it, if the path still leads to the directory. -/
theorem node?_of_removeEntry (h : removeEntry fs dir name = (.ok (), fs'))
    (hbefore : fs.resolve .target dir = .ok place) (hafter : fs'.resolve .target dir = .ok place)
    (hq : place ++ [name] <+: q) : fs'.node? q = none := by
  by_cases hself : q = place ++ [name]
  swap
  · refine node?_below_of_removeEntry h (fun loc hloc ↦ ?_) ⟨hq, hself⟩
    exact Except.ok.inj (hloc.symm.trans hbefore)
  rw [removeEntry] at h
  split at h
  · cases h
  rename_i loc hentry
  obtain ⟨hshort, parent, hparent, hdirectory, hmem, rfl⟩ := entryAt_eq_ok_iff.1 hentry
  obtain rfl : parent = place := Except.ok.inj (hparent.symm.trans hbefore)
  have hbelow := thinned_removeEach (fun q (hq : q ∈ fs.below (parent ++ [name])) ↦
    (mem_below_iff.1 hq).2) fs
  split at h
  · cases h
  rename_i fs₁ hremove
  rw [hremove] at hbelow
  have hentry₁ (hresolve : fs₁.resolve .target dir = .ok parent) :
      entryAt fs₁ dir name = .ok (parent ++ [name]) := by
    refine entryAt_eq_ok_iff.2 ⟨hshort, parent, hresolve, ?_, ?_, rfl⟩
    · rwa [isDirectoryAt_eq (hbelow.node?_of_not fun hself ↦ not_concat_prefix hself.1)]
    · rw [mem_entries_iff, hbelow.node?_of_not fun hself ↦ hself.2 rfl]
      exact mem_entries_iff.1 hmem
  split at h
  · -- the path leads nowhere only if it does not do so in the end either
    rename_i e hentry'
    split at h
    · obtain ⟨-, rfl⟩ := Prod.mk.inj h
      rw [hentry₁ hafter] at hentry'
      cases hentry'
    · cases h
  · rename_i loc' hentry'
    obtain ⟨-, parent', hparent', -, -, rfl⟩ := entryAt_eq_ok_iff.1 hentry'
    obtain rfl : parent' = parent :=
      Except.ok.inj ((hbelow.within.resolve hparent').symm.trans hbefore)
    rw [hself]
    exact node?_of_removeAt h (by simp)

/-- Below entries that were removed nothing is left. -/
theorem node?_below_of_removeEntries (h : removeEntries fs dir names = (.ok (), fs'))
    (hplace : ∀ fs', Thinned place fs fs' → ∀ loc, fs'.resolve .target dir = .ok loc → loc = place)
    (hname : name ∈ names) (hq : place ++ [name] <+: q ∧ q ≠ place ++ [name]) :
    fs'.node? q = none := by
  induction names generalizing fs with
  | nil => cases hname
  | cons first names ih =>
    have hfirst := thinned_removeEntry hplace first
    rw [removeEntries] at h
    split at h
    · rename_i fs₁ hremove
      rw [hremove] at hfirst
      have hplace₁ (fs'') (hthinned : Thinned place fs₁ fs'') :=
        hplace fs'' (hfirst.trans hthinned)
      rcases List.mem_cons.1 hname with rfl | hname
      · have hrest := thinned_removeEntries hplace₁ names
        rw [h] at hrest
        rcases hrest.node q with hsame | hgone
        · rw [hsame]
          exact node?_below_of_removeEntry hremove (hplace fs .refl) hq
        · exact hgone.2
      · exact ih h hplace₁ hname
    · cases h

/-- All entries were removed with all below them, if the path still leads to the directory. -/
theorem node?_of_removeEntries (h : removeEntries fs dir names = (.ok (), fs'))
    (hbefore : fs.resolve .target dir = .ok place) (hafter : fs'.resolve .target dir = .ok place)
    (hname : name ∈ names) (hq : place ++ [name] <+: q) : fs'.node? q = none := by
  induction names generalizing fs with
  | nil => cases hname
  | cons first names ih =>
    have hplace := eq_of_thinned hbefore
    have hfirst := thinned_removeEntry hplace first
    rw [removeEntries] at h
    split at h
    · rename_i fs₁ hremove
      rw [hremove] at hfirst
      have hrest := thinned_removeEntries
        (fun fs'' hthinned ↦ hplace fs'' (hfirst.trans hthinned)) names
      rw [h] at hrest
      have hbetween := hrest.within.resolve hafter
      rcases List.mem_cons.1 hname with rfl | hname
      · rcases hrest.node q with hsame | hgone
        · rw [hsame]
          exact node?_of_removeEntry hremove hbefore hbetween hq
        · exact hgone.2
      · exact ih h hbetween hname
    · cases h

theorem thinned_of_removeEntries (hresolve : fs.resolve .target dir = .ok place)
    (h : removeEntries fs dir names = (.ok (), fs')) : Thinned place fs fs' := by
  have hthinned := thinned_removeEntries (eq_of_thinned hresolve) names
  rwa [h] at hthinned

/-- Whatever becomes of the path, all that is left lies in a directory once the entries were
removed. -/
theorem nested_of_removeEntries (hfs : fs.Nested) (hresolve : fs.resolve .target dir = .ok place)
    (h : removeEntries fs dir (fs.entries place) = (.ok (), fs')) : fs'.Nested := by
  have hthinned := thinned_of_removeEntries hresolve h
  intro loc name hnode
  obtain ⟨node, hsome⟩ := Option.ne_none_iff_exists'.1 hnode
  have hdirectory : fs.isDirectoryAt loc = true := by
    refine hfs loc name ?_
    rw [hthinned.node?_of_some hsome]
    exact nofun
  by_cases hloc : place <+: loc ∧ loc ≠ place
  · -- what was in an entry is gone
    obtain ⟨entry, hentry, hinside⟩ :=
      hfs.exists_entry hloc (node?_ne_none_of_isDirectoryAt hdirectory)
    refine absurd (node?_below_of_removeEntries h (eq_of_thinned hresolve) hentry
      ⟨hinside.trans (List.prefix_append ..), fun heq ↦ hloc.2 ?_⟩) hnode
    exact (List.append_inj' heq rfl).1
  · rwa [isDirectoryAt_eq (hthinned.node?_of_not hloc)]

/-! ### Cleaning -/

/-- What cleaning does: the directory cannot be created or listed, or its entries are removed. -/
theorem clean_cases (fs : FileSystem) (dir : Path) :
    (∃ e, clean fs dir = (.error (.file dir e), (fs.makeDirectories dir).2)) ∨
    ∃ place, (fs.makeDirectories dir).2.resolve .target dir = .ok place ∧
      (fs.makeDirectories dir).2.isDirectoryAt place = true ∧
      clean fs dir = removeEntries (fs.makeDirectories dir).2 dir
        ((fs.makeDirectories dir).2.entries place) := by
  rw [clean]
  rcases hmake : fs.makeDirectories dir with ⟨e | _, made⟩
  · exact Or.inl ⟨e, rfl⟩
  · dsimp only
    cases hlist : made.list dir with
    | error e => exact Or.inl ⟨e, rfl⟩
    | ok listed =>
      obtain ⟨place, names⟩ := listed
      obtain ⟨hresolve, hdirectory, rfl⟩ := list_eq_ok_iff.1 hlist
      exact Or.inr ⟨place, hresolve, hdirectory, rfl⟩

/-- If cleaning succeeds, then the directory was there and its entries were removed. -/
theorem exists_removeEntries_of_clean (h : clean fs dir = (.ok (), fs')) :
    let made := (fs.makeDirectories dir).2
    ∃ place, made.resolve .target dir = .ok place ∧ made.isDirectoryAt place = true ∧
      removeEntries made dir (made.entries place) = (.ok (), fs') := by
  rcases clean_cases fs dir with ⟨e, hfail⟩ | ⟨place, hresolve, hdirectory, hremove⟩
  · rw [h] at hfail
    cases hfail
  · exact ⟨place, hresolve, hdirectory, hremove.symm.trans h⟩

/-- A directory that is there and empty is left alone. -/
theorem clean_of_empty (hresolve : fs.resolve .target dir = .ok place)
    (hdirectory : fs.isDirectoryAt place = true) (hempty : fs.entries place = []) :
    clean fs dir = (.ok (), fs) := by
  have hthere : fs.isDirectory dir = true := by
    rw [isDirectory_eq_of_resolve hresolve, hdirectory]
  rw [clean, makeDirectories_of_isDirectory hthere]
  dsimp only
  rw [list_eq_ok_iff.2 ⟨hresolve, hdirectory, rfl⟩]
  dsimp only
  rw [hempty]
  rfl

/-- **Once the entries of a directory were removed, its path leads to it exactly if it does so
without them, and then nothing is left below it.** -/
theorem removeEntries_spec (hfs : fs.Nested) (hresolve : fs.resolve .target dir = .ok place)
    (h : removeEntries fs dir (fs.entries place) = (.ok (), fs')) :
    (∀ loc, fs'.resolve .target dir = .ok loc ↔ loc = place ∧ fs.Straight dir place) ∧
    (fs.Straight dir place → ∀ q, place <+: q ∧ q ≠ place → fs'.node? q = none) := by
  have hthinned := thinned_of_removeEntries hresolve h
  have hnone (hafter : fs'.resolve .target dir = .ok place) (q) (hq : place <+: q ∧ q ≠ place) :
      fs'.node? q = none := by
    by_contra hsome
    obtain ⟨node, hnode⟩ := Option.ne_none_iff_exists'.1 hsome
    have hbefore : fs.node? q ≠ none := by
      rw [hthinned.node?_of_some hnode]
      exact nofun
    -- it was there before, so it is at or below one of the entries that were removed
    obtain ⟨name, hname, hentry⟩ := hfs.exists_entry hq hbefore
    exact hsome (node?_of_removeEntries h hresolve hafter hname hentry)
  refine ⟨fun loc ↦ ⟨fun hloc ↦ ?_, fun ⟨heq, hstraight⟩ ↦ ?_⟩, fun hstraight ↦ ?_⟩
  · obtain rfl : loc = place := eq_of_thinned hresolve _ hthinned loc hloc
    exact ⟨rfl, (hthinned.within_of_none (hnone hloc)).resolve hloc⟩
  · rw [heq]
    exact (hstraight.thinned hthinned).resolve
  · exact hnone (hstraight.thinned hthinned).resolve

/-- **Cleaning creates what is missing on the way of the path and takes away what is below the
directory, and nothing else**, also when it fails. If it succeeds, the directory is there afterwards
exactly if its path needs nothing of what was below it. Then nothing was added there, the directory
is empty, and cleaning it again changes nothing. -/
theorem clean_spec (hfs : fs.Rooted) (dir : Path) :
    let made := (fs.makeDirectories dir).2
    let after := (clean fs dir).2
    Made dir fs made ∧
      ((∃ e, clean fs dir = (.error (.file dir e), made)) ∨
      ∃ place, made.resolve .target dir = .ok place ∧ made.isDirectoryAt place = true ∧
        Thinned place made after ∧
        (made.Straight dir place → ∀ q, place <+: q ∧ q ≠ place → made.node? q = fs.node? q) ∧
        ((clean fs dir).1 = .ok () →
          (after.isDirectory dir = true ↔ made.Straight dir place) ∧
          (made.Straight dir place → after.list dir = .ok (place, []) ∧
            (∀ q, place <+: q ∧ q ≠ place → after.node? q = none) ∧
            clean after dir = (.ok (), after)))) := by
  intro made after
  have hmade : Made dir fs made := made_makeDirectories fs dir
  refine ⟨hmade, (clean_cases fs dir).imp_right fun ⟨place, hresolve, hdirectory, hclean⟩ ↦ ?_⟩
  have hthinned : Thinned place made after := by
    have h := thinned_removeEntries (eq_of_thinned hresolve) (made.entries place)
    rwa [← hclean] at h
  refine ⟨place, hresolve, hdirectory, hthinned,
    fun hstraight q hq ↦ hmade.node?_of_straight hfs hstraight hq, fun hok ↦ ?_⟩
  have hremoved : removeEntries made dir (made.entries place) = (.ok (), after) :=
    hclean.symm.trans (Prod.ext hok rfl)
  obtain ⟨hleads, hnone⟩ := removeEntries_spec (hmade.nested hfs.nested) hresolve hremoved
  have hdirectory' : after.isDirectoryAt place = true := by
    exact hthinned.isDirectoryAt hdirectory
  refine ⟨⟨fun hthere ↦ ?_, fun hstraight ↦ ?_⟩, fun hstraight ↦ ?_⟩
  · obtain ⟨loc, hloc⟩ := exists_resolve_of_isDirectory hthere
    exact ((hleads loc).1 hloc).2
  · rw [isDirectory_eq_of_resolve ((hleads place).2 ⟨rfl, hstraight⟩), hdirectory']
  · have hafter := (hleads place).2 ⟨rfl, hstraight⟩
    have hempty := entries_eq_nil (hnone hstraight)
    exact ⟨list_eq_ok_iff.2 ⟨hafter, hdirectory', hempty.symm⟩, hnone hstraight,
      clean_of_empty hafter hdirectory' hempty⟩

/-- A directory with a link in it, reached through one that is missing: the file that the link leads
to is kept, and the directory is empty from then on. -/
theorem clean_spec_linked :
    let fs : FileSystem := ⟨[
      (placeOf ["keep"], .directory none), (placeOf ["keep", "data"], .file [1] false),
      (placeOf ["out"], .directory none), (placeOf ["out", "link"], .link ⟨"../keep"⟩)], []⟩
    let dir : Path := ⟨"/gen/../out"⟩
    fs.Rooted ∧ (clean fs dir).1 = .ok () ∧
    (fs.makeDirectories dir).2.Straight dir (placeOf ["out"]) ∧
    (clean fs dir).2.list dir = .ok (placeOf ["out"], []) ∧
    (clean fs dir).2.node? (placeOf ["keep", "data"]) = some (.file [1] false) ∧
    clean (clean fs dir).2 dir = (.ok (), (clean fs dir).2) := by
  intro fs dir
  have hfs : fs.Rooted := ⟨nested_of_forall_nodes (by decide +kernel), rfl⟩
  have hok : (clean fs dir).1 = .ok () := by decide +kernel
  have hstraight : (fs.makeDirectories dir).2.Straight dir (placeOf ["out"]) := by decide +kernel
  obtain ⟨hmade, ⟨e, hfail⟩ | ⟨place, hresolve, -, hthinned, -, hclean⟩⟩ := clean_spec hfs dir
  · rw [hfail] at hok
    cases hok
  · obtain rfl : place = placeOf ["out"] := Except.ok.inj (hresolve.symm.trans hstraight.resolve)
    obtain ⟨hlist, -, hagain⟩ := (hclean hok).2 hstraight
    have hkept : (fs.makeDirectories dir).2.node? (placeOf ["keep", "data"]) =
        some (.file [1] false) := by decide +kernel
    refine ⟨hfs, hok, hstraight, hlist, ?_, hagain⟩
    rw [hthinned.node?_of_not (by decide +kernel), hkept]

/-- A directory that is reached through a link in itself. Cleaning removes the link. Cleaning again
creates a directory in its place, which leads elsewhere, and empties what is there. -/
theorem clean_elsewhere :
    let fs : FileSystem := ⟨[
      (placeOf ["e"], .directory none), (placeOf ["e", "x"], .directory none),
      (placeOf ["e", "x", "a"], .link ⟨"../y/z/w"⟩), (placeOf ["e", "y"], .directory none),
      (placeOf ["e", "y", "z"], .directory none), (placeOf ["e", "y", "z", "w"], .directory none),
      (placeOf ["x"], .directory none), (placeOf ["x", "keep.txt"], .file [49] false)], []⟩
    let dir : Path := ⟨"/e/x/a/../../../x"⟩
    let once := (clean fs dir).2
    let twice := (clean once dir).2
    (clean fs dir).1 = .ok () ∧ fs.isDirectory dir = true ∧ once.isDirectory dir = false ∧
    (clean once dir).1 = .ok () ∧ once.node? (placeOf ["x", "keep.txt"]) = some (.file [49] false) ∧
    twice.node? (placeOf ["x", "keep.txt"]) = none := by
  decide +kernel

end OutputDirectory

end SchemaForge
