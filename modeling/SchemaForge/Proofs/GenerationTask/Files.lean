import SchemaForge.Document
import SchemaForge.Proofs.OutputDirectory.Emptying

/-!
# The files of a task

A task cleans its output directory and writes its document. Either is work at the place of its path
(`OutputDirectory.worksAt_clean`, `Document.worksAt_write`), and comes to the same on trees that are
beside each other there (`OutputDirectory.clean_beside`, `Document.write_beside`).
-/

namespace SchemaForge

open FileSystem

variable {fs fs' fs₀ : FileSystem}

namespace OutputDirectory

variable {place : Location} {dir : Path}

/-- Removes an entry of the directory at a place, however the path of the directory is followed. -/
def removeEntryAt (fs : FileSystem) (dir : Path) (place : Location) (name : FileName) :
    Outcome Unit :=
  if maxPathLength < (dir / ⟨""⟩).text.bytes.length + name.bytes.length then
    (.error .nameTooLong, fs)
  else if name ∈ fs.entries place then fs.removeTree (place ++ [name])
  else (.error .notFound, fs)

/-- Removes entries of the directory at a place, up to the first that cannot be removed. -/
def removeEntriesAt (fs : FileSystem) (dir : Path) (place : Location) :
    List FileName → Except Error Unit × FileSystem
  | [] => (.ok (), fs)
  | name :: names =>
    match removeEntryAt fs dir place name with
    | (.ok (), fs') => removeEntriesAt fs' dir place names
    | (.error e, fs') => (.error (.file (dir / ⟨name⟩) e), fs')

theorem removeTree_eq (fs : FileSystem) (loc : Location) :
    fs.removeTree loc = match fs.removeEach (fs.below loc) with
      | (.ok (), fs') => fs'.removeAt loc
      | (.error e, fs') => (.error e, fs') := by
  rw [removeTree]
  generalize fs.below loc = locs
  induction locs generalizing fs with
  | nil =>
    rw [List.nil_append, removeEach]
    dsimp only [removeEach]
    rcases fs.removeAt loc with ⟨_ | _, _⟩ <;> rfl
  | cons first locs ih =>
    rw [List.cons_append, removeEach, removeEach]
    rcases fs.removeAt first with ⟨_ | _, fs'⟩
    · rfl
    · exact ih fs'

theorem below_of_mem_removed {name : FileName} {q : Location}
    (hq : q ∈ fs.below (place ++ [name]) ++ [place ++ [name]]) : place <+: q ∧ q ≠ place := by
  have hbelow := (prefix_of_mem_removed List.prefix_rfl hq).2
  refine ⟨(List.prefix_append ..).trans hbelow, ?_⟩
  rintro rfl
  exact not_concat_prefix hbelow

theorem thinned_removeEntryAt (fs : FileSystem) (dir : Path) (place : Location) (name : FileName) :
    Thinned place fs (removeEntryAt fs dir place name).2 := by
  rw [removeEntryAt]
  split
  · exact .refl
  split
  · exact thinned_removeEach (fun q hq ↦ below_of_mem_removed hq) fs
  · exact .refl

theorem entryAt_of_straight (hstraight : fs.Straight dir place)
    (hdirectory : fs.isDirectoryAt place = true) {name : FileName}
    (hshort : ¬maxPathLength < (dir / ⟨""⟩).text.bytes.length + name.bytes.length) :
    entryAt fs dir name =
      if name ∈ fs.entries place then .ok (place ++ [name]) else .error .notFound := by
  rw [entryAt, if_neg hshort, list_eq_ok_iff.2 ⟨hstraight.resolve, hdirectory, rfl⟩]

/-- An entry of a directory that is reached straight is removed at its place. -/
theorem removeEntry_of_straight (hstraight : fs.Straight dir place)
    (hdirectory : fs.isDirectoryAt place = true) (name : FileName) :
    removeEntry fs dir name = removeEntryAt fs dir place name := by
  rw [removeEntry, removeEntryAt]
  by_cases hlong : maxPathLength < (dir / ⟨""⟩).text.bytes.length + name.bytes.length
  · rw [entryAt, if_pos hlong, if_pos hlong]
  rw [entryAt_of_straight hstraight hdirectory hlong, if_neg hlong]
  by_cases hmem : name ∈ fs.entries place
  · rw [if_pos hmem, if_pos hmem, removeTree_eq]
    dsimp only
    have hbelow := thinned_removeEach (fun q (hq : q ∈ fs.below (place ++ [name])) ↦
      (mem_below_iff.1 hq).2) fs
    rcases hremove : fs.removeEach (fs.below (place ++ [name])) with ⟨_ | _, fs'⟩
    · rfl
    · rw [hremove] at hbelow
      have hthinned : Thinned place fs fs' := hbelow.mono (List.prefix_append ..)
      have hself : fs'.node? (place ++ [name]) = fs.node? (place ++ [name]) :=
        hbelow.node?_of_not fun hself ↦ hself.2 rfl
      have hmem' : name ∈ fs'.entries place := by
        rw [mem_entries_iff, hself]
        exact mem_entries_iff.1 hmem
      dsimp only
      rw [entryAt_of_straight (hstraight.thinned hthinned) (hthinned.isDirectoryAt hdirectory) hlong,
        if_pos hmem']
  · rw [if_neg hmem, if_neg hmem]

theorem removeEntries_of_straight (hstraight : fs.Straight dir place)
    (hdirectory : fs.isDirectoryAt place = true) (names : List FileName) :
    removeEntries fs dir names = removeEntriesAt fs dir place names := by
  induction names generalizing fs with
  | nil => rfl
  | cons name names ih =>
    have hthinned := thinned_removeEntryAt fs dir place name
    rw [removeEntries, removeEntriesAt, removeEntry_of_straight hstraight hdirectory]
    rcases hremove : removeEntryAt fs dir place name with ⟨_ | _, fs'⟩
    · rfl
    · rw [hremove] at hthinned
      exact ih (hstraight.thinned hthinned) (hthinned.isDirectoryAt hdirectory)

theorem removeEntryAt_branch (fs : FileSystem) (dir : Path) (place : Location) (name : FileName) :
    removeEntryAt (fs.branch place) dir place name =
      ((removeEntryAt fs dir place name).1, (removeEntryAt fs dir place name).2.branch place) := by
  rw [removeEntryAt, removeEntryAt, entries_branch List.prefix_rfl, removeTree_branch List.prefix_rfl]
  split
  · rfl
  split <;> rfl

theorem removeEntriesAt_branch (fs : FileSystem) (dir : Path) (place : Location)
    (names : List FileName) :
    removeEntriesAt (fs.branch place) dir place names =
      ((removeEntriesAt fs dir place names).1,
        (removeEntriesAt fs dir place names).2.branch place) := by
  induction names generalizing fs with
  | nil => rfl
  | cons name names ih =>
    rw [removeEntriesAt, removeEntriesAt, removeEntryAt_branch]
    rcases removeEntryAt fs dir place name with ⟨_ | _, fs'⟩
    · rfl
    · exact ih fs'

/-- Only what is below the directory is removed. -/
theorem only_removeEntriesAt {keep : Location → Bool}
    (hkeep : ∀ q, keep q = true → ¬(place <+: q ∧ q ≠ place)) (names : List FileName) :
    (removeEntriesAt fs dir place names).2.only keep = fs.only keep := by
  induction names generalizing fs with
  | nil => rfl
  | cons name names ih =>
    have hfirst : (removeEntryAt fs dir place name).2.only keep = fs.only keep := by
      rw [removeEntryAt]
      split
      · rfl
      split
      · exact only_removeEach fun q hq ↦ Bool.eq_false_iff.2 fun h ↦
          hkeep q h (below_of_mem_removed hq)
      · rfl
    rw [removeEntriesAt]
    rcases hremove : removeEntryAt fs dir place name with ⟨_ | _, fs'⟩
    · rw [hremove] at hfirst
      exact hfirst
    · rw [hremove] at hfirst
      exact ih.trans hfirst

/-- Cleaning creates the directory and removes what is below it. -/
theorem clean_eq (hdir : dir.Direct) (hne : dir.place [] ≠ [])
    (hregular : fs.Regular (dir.place [])) :
    clean fs dir = match fs.makeDirectories dir with
      | (.error e, fs') => (.error (.file dir e), fs')
      | (.ok (), fs') => removeEntriesAt fs' dir (dir.place []) (fs'.entries (dir.place [])) := by
  have htarget : Purpose.target ≠ .writing := by decide
  have hgrows := grows_makeDirectories hdir hregular
  rw [clean]
  rcases hmake : fs.makeDirectories dir with ⟨e | _, fs'⟩
  · rfl
  · rw [hmake] at hgrows
    have hway := obstacle?_of_makeDirectories hdir hregular hmake
    have hfault := fault?_of_makeDirectories hdir hmake
    have hdirectory : fs'.isDirectoryAt (dir.place []) = true := by
      obtain ⟨loc, name, hplace⟩ := exists_concat hne
      rw [hplace] at hway ⊢
      exact isDirectoryAt_of_obstacle? hway
    have hregular' : fs'.Regular (dir.place []) := hgrows.regular hregular
    have hresolve : fs'.resolve .target dir = .ok (dir.place []) := by
      rw [resolve, locate_eq_follow hdir hregular', hfault, follow_of_obstacle?_eq_none htarget hway]
      rfl
    have hstraight : fs'.Straight dir (dir.place []) := by
      refine straight_of_forward hdir.forward ?_ hresolve
      rwa [hdir.place_eq, ← hdir.place_eq []]
    dsimp only
    rw [list_eq_ok_iff.2 ⟨hresolve, hdirectory, rfl⟩]
    exact removeEntries_of_straight hstraight hdirectory _

/-- **Cleaning is the same on trees beside each other.** -/
theorem clean_beside (hdir : dir.Direct) (hne : dir.place [] ≠ [])
    (hregular : fs.Regular (dir.place [])) (hregular₀ : fs₀.Regular (dir.place []))
    (h : Beside (dir.place []) fs₀ fs) :
    (clean fs dir).1 = (clean fs₀ dir).1 ∧
      (clean fs dir).2.branch (dir.place []) = (clean fs₀ dir).2.branch (dir.place []) := by
  obtain ⟨hanswer, hbranch⟩ := makeDirectories_beside hdir hne hregular hregular₀ h
  rw [clean_eq hdir hne hregular, clean_eq hdir hne hregular₀]
  generalize fs.makeDirectories dir = r at hanswer hbranch ⊢
  generalize fs₀.makeDirectories dir = r₀ at hanswer hbranch ⊢
  obtain ⟨e | _, fs₁⟩ := r <;> obtain ⟨e₀ | _, fs₂⟩ := r₀
  · cases hanswer
    exact ⟨rfl, hbranch⟩
  · cases hanswer
  · cases hanswer
  · have hentries : fs₁.entries (dir.place []) = fs₂.entries (dir.place []) := by
      rw [← entries_branch List.prefix_rfl, hbranch, entries_branch List.prefix_rfl]
    have hremove := removeEntriesAt_branch fs₁ dir (dir.place []) (fs₂.entries (dir.place []))
    dsimp only at hbranch ⊢
    rw [hbranch, removeEntriesAt_branch] at hremove
    obtain ⟨hremoved, hleft⟩ := Prod.mk.inj hremove
    rw [hentries]
    exact ⟨hremoved.symm, hleft.symm⟩

/-- Cleaning is work at the place of the directory. -/
theorem worksAt_clean (hdir : dir.Direct) (hne : dir.place [] ≠ [])
    (hregular : fs.Regular (dir.place [])) : WorksAt (dir.place []) fs (clean fs dir).2 := by
  have hgrows := grows_makeDirectories hdir hregular
  rw [clean_eq hdir hne hregular]
  rcases hmake : fs.makeDirectories dir with ⟨e | _, fs'⟩
  · rw [hmake] at hgrows
    exact hgrows.worksAt hregular
  · rw [hmake] at hgrows
    refine (hgrows.worksAt hregular).trans (worksAt_of_below (hgrows.regular hregular) ?_)
    refine only_removeEntriesAt (fun q hq ↦ ?_) _
    rw [Bool.not_eq_true', ← Bool.not_eq_true, isBelow_iff] at hq
    exact hq

end OutputDirectory

namespace Document

variable {path : Path} {loc : Location} {name : FileName}

theorem worksAt_writeBytes (h : fs.Leads path loc name) (hway : fs.obstacle? [] loc = none)
    (hdirectory : fs.isDirectoryAt loc = true) (content : Bytes) :
    WorksAt (loc ++ [name]) fs (fs.writeBytes path content).2 := by
  have hnone : WorksAt (loc ++ [name]) fs fs := Grows.refl.worksAt h.regular
  have hput (executable : Bool) :
      WorksAt (loc ++ [name]) fs (fs.put (loc ++ [name]) (.file content executable)) :=
    worksAt_put h.regular (by simp) (by rwa [List.dropLast_concat]) fun _ ↦ nofun
  rw [writeBytes, locate_eq_follow h.direct (h.place ▸ h.regular), h.fault, h.place, follow_concat,
    hway, List.nil_append]
  dsimp only
  rcases follow_single fs .writing path.endsInSlash path.endsInDot loc name with
    ⟨e, hfollow⟩ | hfollow | hfollow <;> rw [hfollow]
  · exact hnone
  · dsimp only
    rw [create]
    split
    · exact hnone
    · exact hput false
  · dsimp only
    split
    · exact hput _
    all_goals exact hnone

/-- The directory that a document is written to, once it is there. -/
theorem isDirectoryAt_of_way (hway : fs.obstacle? [] loc = none) : fs.isDirectoryAt loc = true := by
  by_cases hne : loc = []
  · rw [hne]
    rfl
  · obtain ⟨init, name, rfl⟩ := exists_concat hne
    exact isDirectoryAt_of_obstacle? hway

/-- Writing a document creates the directories above it and then writes the file. -/
theorem place_eq {dir : Path} (hparent : path.parent? = some dir) (text : String) :
    place fs path text = match fs.makeDirectories dir with
      | (.error e, fs') => (.error (.file dir e), fs')
      | (.ok (), fs') =>
        match fs'.writeBytes path (Utf8.encode text) with
        | (.ok (), fs'') => (.ok (), fs'')
        | (.error e, fs'') => (.error (.file path e), fs'') := by
  rcases hmade : fs.makeDirectories dir with ⟨e | made, fs'⟩
  · simp only [place, hparent, hmade]
  · rcases hwritten : fs'.writeBytes path (Utf8.encode text) with ⟨e | written, fs''⟩ <;>
      simp only [place, hparent, hmade, hwritten]

theorem writeBytes_of_fault? {e : IoFault} (hfault : path.fault? = some e) (content : Bytes) :
    fs.writeBytes path content = (.error e, fs) := by
  rw [writeBytes, locate_of_fault? hfault]

/-- Writing a document is work at its place. -/
theorem worksAt_place (hpath : path.Direct) (hne : path.place [] ≠ [])
    (hregular : fs.Regular (path.place [])) (text : String) :
    WorksAt (path.place []) fs (place fs path text).2 := by
  obtain ⟨loc, name, hplace⟩ := exists_concat hne
  obtain ⟨dir, hparent, hdir, hdirplace, -, -⟩ := hpath.exists_parent hne
  rw [hplace, List.dropLast_concat] at hdirplace
  rw [hplace] at hregular ⊢
  have hregular' : fs.Regular (dir.place []) := hregular.of_isPrefix (hdirplace ▸ List.prefix_append ..)
  have hgrows := grows_makeDirectories hdir hregular'
  rw [place_eq hparent]
  rcases hmake : fs.makeDirectories dir with ⟨e | _, fs'⟩
  all_goals
    rw [hmake, hdirplace] at hgrows
    have hgrows := hgrows.mono (List.prefix_append loc [name])
    have hworks := hgrows.worksAt hregular
  · exact hworks
  · dsimp only
    refine hworks.trans ?_
    have hway := obstacle?_of_makeDirectories hdir hregular' hmake
    rw [hdirplace] at hway
    have hwrite : WorksAt (loc ++ [name]) fs' (fs'.writeBytes path (Utf8.encode text)).2 := by
      cases hfault : path.fault? with
      | some e =>
        rw [writeBytes_of_fault? hfault]
        exact Grows.refl.worksAt hworks.regular
      | none =>
        exact worksAt_writeBytes ⟨hpath, hfault, hplace, hworks.regular⟩ hway
          (isDirectoryAt_of_way hway) _
    rcases hwritten : fs'.writeBytes path (Utf8.encode text) with ⟨_ | _, fs''⟩ <;>
    · rw [hwritten] at hwrite
      exact hwrite

/-- **Writing a document is the same on trees beside each other.** -/
theorem place_beside (hpath : path.Direct) (hne : path.place [] ≠ [])
    (hregular : fs.Regular (path.place [])) (hregular₀ : fs₀.Regular (path.place []))
    (h : Beside (path.place []) fs₀ fs) (text : String) :
    (place fs path text).1 = (place fs₀ path text).1 ∧
      (place fs path text).2.branch (path.place []) =
        (place fs₀ path text).2.branch (path.place []) := by
  obtain ⟨loc, name, hplace⟩ := exists_concat hne
  obtain ⟨dir, hparent, hdir, hdirplace, hends, hfault'⟩ := hpath.exists_parent hne
  rw [hplace, List.dropLast_concat] at hdirplace
  rw [hplace] at hregular hregular₀ h ⊢
  have habove : dir.place [] <+: loc ++ [name] := hdirplace ▸ List.prefix_append ..
  obtain ⟨hanswer, hrefusal⟩ := makeDirectories_of_grown hdir (hregular.of_isPrefix habove)
    (hregular₀.of_isPrefix habove) (fun hne ↦ (hends hne).2) fun q hq ↦
      h.grown q (hq.trans habove) fun heq ↦ not_concat_prefix (heq ▸ hdirplace ▸ hq)
  have hgrows := grows_makeDirectories hdir (hregular.of_isPrefix habove)
  have hgrows₀ := grows_makeDirectories hdir (hregular₀.of_isPrefix habove)
  rw [place_eq hparent, place_eq hparent]
  have hway {fs fs' : FileSystem} (hregular : fs.Regular (loc ++ [name]))
      (hmake : fs.makeDirectories dir = (.ok (), fs')) : fs'.obstacle? [] loc = none :=
    hdirplace ▸ obstacle?_of_makeDirectories hdir (hregular.of_isPrefix habove) hmake
  rcases hmake : fs.makeDirectories dir with ⟨e | _, fs₁⟩ <;>
    rcases hmake₀ : fs₀.makeDirectories dir with ⟨e₀ | _, fs₂⟩
  all_goals
    rw [hmake, hmake₀] at hanswer hrefusal
    rw [hmake, hdirplace] at hgrows
    rw [hmake₀, hdirplace] at hgrows₀
    have hbranch : fs₁.branch (loc ++ [name]) = fs₂.branch (loc ++ [name]) :=
      ((hgrows.branch not_concat_prefix).trans h.branch).trans
        (hgrows₀.branch not_concat_prefix).symm
  · cases hanswer
    exact ⟨rfl, hbranch⟩
  · cases hanswer
  · cases hanswer
  · dsimp only
    have hwritten : (fs₁.writeBytes path (Utf8.encode text)).1 =
          (fs₂.writeBytes path (Utf8.encode text)).1 ∧
        (fs₁.writeBytes path (Utf8.encode text)).2.branch (loc ++ [name]) =
          (fs₂.writeBytes path (Utf8.encode text)).2.branch (loc ++ [name]) := by
      cases hfault : path.fault? with
      | some e =>
        rw [writeBytes_of_fault? hfault, writeBytes_of_fault? hfault]
        exact ⟨rfl, hbranch⟩
      | none =>
        exact writeBytes_beside ⟨hpath, hfault, hplace, hgrows.regular hregular⟩
          ⟨hpath, hfault, hplace, hgrows₀.regular hregular₀⟩ (hway hregular hmake)
          (hway hregular₀ hmake₀) (hdirplace ▸ hrefusal rfl) hbranch _
    obtain ⟨hsame, hbranch⟩ := hwritten
    generalize fs₁.writeBytes path (Utf8.encode text) = r at hsame hbranch ⊢
    generalize fs₂.writeBytes path (Utf8.encode text) = r₀ at hsame hbranch ⊢
    obtain ⟨e | _, fs₃⟩ := r <;> obtain ⟨e₀ | _, fs₄⟩ := r₀ <;> cases hsame <;> exact ⟨rfl, hbranch⟩

/-- The schema of a document can be read beside others: it is bundled, or in a file apart. -/
def Reads (fs₀ fs : FileSystem) (source : SchemaSource) : Prop :=
  ∀ p, source = .file p →
    p.Forward ∧ Short p.way ∧ Beside (p.place fs₀.workingDirectory) fs₀ fs

theorem check_beside {source : SchemaSource} (hplain : fs₀.IsPlain) (h : Reads fs₀ fs source)
    (v : Validator) (c : Configuration) : check v fs c source = check v fs₀ c source := by
  have hload : source.load fs = source.load fs₀ := by
    cases source with
    | bundled id => rfl
    | file p =>
      obtain ⟨hp, hshort, hbeside⟩ := h p rfl
      rw [SchemaSource.load, SchemaSource.load,
        readText_beside hbeside hp (hplain.regular _) hshort]
  rw [check, check, SchemaSource.report, SchemaSource.report, hload]

theorem worksAt_write (hpath : path.Direct) (hne : path.place [] ≠ [])
    (hregular : fs.Regular (path.place [])) (v : Validator) (c : Configuration)
    (source : SchemaSource) : WorksAt (path.place []) fs (write v fs c source path).2 := by
  rw [write]
  cases check v fs c source with
  | error e => exact Grows.refl.worksAt hregular
  | ok text => exact worksAt_place hpath hne hregular text

theorem write_beside {source : SchemaSource} (hplain : fs₀.IsPlain) (hsource : Reads fs₀ fs source)
    (hpath : path.Direct) (hne : path.place [] ≠ []) (hregular : fs.Regular (path.place []))
    (h : Beside (path.place []) fs₀ fs) (v : Validator) (c : Configuration) :
    (write v fs c source path).1 = (write v fs₀ c source path).1 ∧
      (write v fs c source path).2.branch (path.place []) =
        (write v fs₀ c source path).2.branch (path.place []) := by
  rw [write, write, check_beside hplain hsource]
  cases check v fs₀ c source with
  | error e => exact ⟨rfl, h.branch⟩
  | ok text => exact place_beside hpath hne hregular (hplain.regular _) h text

end Document

end SchemaForge
