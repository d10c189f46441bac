import SchemaForge.Proofs.Document.ReadBack
import SchemaForge.Proofs.OutputDirectory.Emptying

/-!
# A document beside an emptied directory

Placing a document creates the directories above it and writes it. This takes nothing away, and what
is new is no link and lies where front parts of its path lead (`FileSystem.Placed`).

So the path of the document decides what becomes of a directory that was emptied just before: it is
still there and empty exactly if its own path is straight and that of the document does not enter it
(`OutputDirectory.list_placed_iff`). Without links, for paths that never turn back, this means that
the place of the document is not below that of the directory
(`OutputDirectory.list_placed_iff_of_linkless`).
-/

namespace SchemaForge

namespace FileSystem

variable {fs fs' fs'' : FileSystem} {p path dir : Path} {place q : Location}

/-! ### What was placed -/

/-- Everything is still there, up to the contents of files, and what was added are no links but lies
where front parts of the path lead. -/
structure Placed (path : Path) (fs fs' : FileSystem) : Prop where
  covers : Covers fs fs'
  nested : fs.Nested → fs'.Nested
  node : ∀ q, fs'.node? q = fs.node? q ∨
    (∃ node, fs'.node? q = some node ∧ node.isLink = false) ∧
      ∃ p : Path, p.steps <+: path.steps ∧ fs'.resolve .target p = .ok q

namespace Placed

theorem refl : Placed path fs fs := ⟨Within.refl.covers, id, fun _ ↦ Or.inl rfl⟩

theorem trans (h : Placed path fs fs') (h' : Placed path fs' fs'') : Placed path fs fs'' := by
  refine ⟨h.covers.trans h'.covers, h'.nested ∘ h.nested, fun q ↦ ?_⟩
  rcases h'.node q with heq | hnew
  · rw [heq]
    refine (h.node q).imp_right fun ⟨hnode, p, hp, hresolve⟩ ↦ ⟨hnode, p, hp, ?_⟩
    exact h'.covers.resolve hresolve
  · exact Or.inr hnew

theorem linkless (h : Placed path fs fs') (hlinks : fs.Linkless) : fs'.Linkless := by
  intro q target hq
  rcases h.node q with heq | ⟨⟨node, hnode, hlink⟩, -⟩
  · exact hlinks q target (heq.symm.trans hq)
  · obtain rfl := Option.some.inj (hnode.symm.trans hq)
    cases hlink

end Placed

theorem Made.placed (h : Made dir fs fs') (hsteps : dir.steps <+: path.steps) :
    Placed path fs fs' := by
  refine ⟨h.within.covers, h.nested, fun q ↦ (h.node q).imp_right ?_⟩
  rintro ⟨⟨-, hplain⟩, p, hp, hresolve⟩
  exact ⟨⟨_, hplain, rfl⟩, p, hp.trans hsteps, hresolve⟩

theorem Writable.placed {place : Place} (h : Writable fs path place) (content : Bytes)
    (executable : Bool) : Placed path fs (fs.put place.location (.file content executable)) := by
  have hself := node?_put_self fs h.ne_nil (.file content executable)
  -- where there was something, it was a leaf as the file is
  have hcovers : Covers fs (fs.put place.location (.file content executable)) := by
    refine ⟨rfl, fun {q m} hm ↦ ?_⟩
    by_cases heq : q = place.location
    · subst heq
      exact ⟨_, hself, Or.inr ⟨h.leaf m hm, rfl⟩⟩
    · exact ⟨m, by rw [node?_put_of_ne fs heq, hm], .refl⟩
  refine ⟨hcovers, fun hnested loc name hnode ↦ hcovers.isDirectoryAt ?_, fun q ↦ ?_⟩
  · by_cases heq : loc ++ [name] = place.location
    · by_cases hfree : fs.node? place.location = none
      · have hdirectory := h.directory hfree
        rwa [← heq, List.dropLast_concat] at hdirectory
      · exact hnested loc name (heq ▸ hfree)
    · rw [node?_put_of_ne fs heq] at hnode
      exact hnested loc name hnode
  · by_cases heq : q = place.location
    · subst heq
      exact Or.inr ⟨⟨_, hself, rfl⟩, path, List.prefix_rfl, h.resolve_put content executable⟩
    · exact Or.inl (node?_put_of_ne fs heq _)

theorem placed_writeBytes {content : Bytes} (h : fs.writeBytes path content = (.ok (), fs')) :
    Placed path fs fs' := by
  rcases writeBytes_cases h with ⟨place, executable, hplace, -, rfl⟩ | ⟨rfl, -⟩
  · exact hplace.placed content executable
  · exact .refl

/-- What was written is there. -/
theorem exists_leaf_of_writeBytes {content : Bytes}
    (h : fs.writeBytes path content = (.ok (), fs')) :
    ∃ q node, fs'.resolve .target path = .ok q ∧ fs'.node? q = some node ∧ node.isLeaf = true := by
  obtain ⟨q, node, hresolve, hnode, hfills, -⟩ := exists_fills_of_writeBytes h
  exact ⟨q, node, hresolve, hnode, hfills.isLeaf⟩

end FileSystem

namespace Document

open FileSystem

variable {v : Validator} {fs fs' : FileSystem} {c : Configuration} {source : SchemaSource}
  {path : Path} {text : String}

/-- **Placing a document takes nothing away and adds nothing elsewhere.** -/
theorem placed_place (h : place fs path text = (.ok (), fs')) : Placed path fs fs' := by
  obtain ⟨fs₁, rfl | ⟨dir, hdir, rfl⟩, hwritten⟩ := exists_writeBytes_of_place h
  · exact placed_writeBytes hwritten
  · have hmade := made_makeDirectories fs dir
    exact (hmade.placed (Path.steps_isPrefix_of_parent? hdir)).trans (placed_writeBytes hwritten)

theorem placed_write (h : write v fs c source path = (.ok (), fs')) : Placed path fs fs' := by
  obtain ⟨text, -, hplace⟩ := check_of_write h
  exact placed_place hplace

theorem exists_leaf_of_write (h : write v fs c source path = (.ok (), fs')) :
    ∃ q node, fs'.resolve .target path = .ok q ∧ fs'.node? q = some node ∧ node.isLeaf = true := by
  obtain ⟨text, -, hplace⟩ := check_of_write h
  obtain ⟨fs₁, -, hwritten⟩ := exists_writeBytes_of_place hplace
  exact exists_leaf_of_writeBytes hwritten

end Document

/-! ### An emptied directory -/

namespace FileSystem

/-- Some front part of the path leads to something below the place. -/
def Enters (fs : FileSystem) (path : Path) (place : Location) : Prop :=
  ∃ (p : Path) (q : Location), p.steps <+: path.steps ∧ fs.resolve .target p = .ok q ∧
    fs.node? q ≠ none ∧ place <+: q ∧ q ≠ place

variable {fs : FileSystem} {path : Path} {place : Location}

theorem regular_of_linkless (h : fs.Nested) (hlinks : fs.Linkless) (place : Location) :
    fs.Regular place := by
  refine ⟨fun q _ target ↦ hlinks q target, fun q _ hne hnode ↦ ?_⟩
  obtain ⟨init, name, rfl⟩ := (List.eq_nil_or_concat q).resolve_left hne
  rw [List.concat_eq_append] at hnode ⊢
  rw [List.dropLast_concat]
  exact h init name hnode

/-- Without links, a path that never turns back enters only what is above the place to which it
leads. -/
theorem enters_iff_of_linkless {q : Location} (hlinks : fs.Linkless) (hpath : path.Forward)
    (hresolve : fs.resolve .target path = .ok q) (hnode : fs.node? q ≠ none) :
    fs.Enters path place ↔ place <+: q ∧ q ≠ place := by
  refine ⟨?_, fun hq ↦ ⟨path, q, List.prefix_rfl, hresolve, hnode, hq⟩⟩
  rintro ⟨p, r, hsteps, hp, -, hbelow, hne⟩
  obtain rfl := resolve_eq_place hlinks hresolve
  obtain rfl := resolve_eq_place hlinks hp
  have htext : p.text ≠ "" := by
    intro htext
    rw [resolve_eq_ok_iff, locate, htext] at hp
    split at hp <;> cases hp
  have habove := hpath.place_isPrefix hsteps htext fs.workingDirectory
  refine ⟨hbelow.trans habove, ?_⟩
  rintro rfl
  exact hne (prefix_antisymm habove hbelow)

end FileSystem

namespace OutputDirectory

open FileSystem

variable {fs cleaned files : FileSystem} {dir path : Path}

/-- **A directory that was emptied before a document was placed is there and empty exactly if the
path of the directory is straight and that of the document does not enter it.** -/
theorem list_placed_iff (hfs : fs.Nested) (hclean : clean fs dir = (.ok (), cleaned))
    (hplaced : Placed path cleaned files) :
    let made := (fs.makeDirectories dir).2
    ∃ place, made.resolve .target dir = .ok place ∧
      (files.list dir = .ok (place, []) ↔ made.Straight dir place ∧ ¬files.Enters path place) := by
  intro made
  have hnested : made.Nested := (made_makeDirectories fs dir).nested hfs
  obtain ⟨place, hresolve, hdirectory, hremove⟩ := exists_removeEntries_of_clean hclean
  have hthinned := thinned_of_removeEntries hresolve hremove
  have hfiles := hplaced.nested (nested_of_removeEntries hnested hresolve hremove)
  obtain ⟨hleads, hnone⟩ := removeEntries_spec hnested hresolve hremove
  refine ⟨place, hresolve, fun hlist ↦ ?_, fun ⟨hstraight, henters⟩ ↦ ?_⟩
  · obtain ⟨hresolve', -, hentries⟩ := list_eq_ok_iff.1 hlist
    have hbelow (q) (hq : place <+: q ∧ q ≠ place) : files.node? q = none := by
      by_contra hnode
      obtain ⟨name, hname, -⟩ := hfiles.exists_entry hq hnode
      rw [← hentries] at hname
      cases hname
    refine ⟨?_, fun ⟨p, q, _, _, hnode, hq⟩ ↦ hnode (hbelow q hq)⟩
    -- what the path needs is there both before anything was removed and in the end
    have hcleared := thinned_cleared made place
    have hmeet : Meet made files (made.cleared place) := by
      intro q m n hm hn
      have hq : ¬(place <+: q ∧ q ≠ place) := by
        intro hq
        rw [hbelow q hq] at hn
        cases hn
      obtain ⟨k, hk, halike⟩ := hplaced.covers.node ((hthinned.node?_of_not hq).trans hm)
      obtain rfl := Option.some.inj (hk.symm.trans hn)
      exact ⟨halike, m, (hcleared.node?_of_not hq).trans hm, .refl⟩
    have hdirectory := hplaced.covers.workingDirectory.trans hthinned.workingDirectory
    exact (resolve_common hmeet hdirectory hcleared.workingDirectory hresolve hresolve').2
  · have hafter := hplaced.covers.resolve ((hleads place).2 ⟨rfl, hstraight⟩)
    have hthere := hplaced.covers.isDirectoryAt (hthinned.isDirectoryAt hdirectory)
    refine list_eq_ok_iff.2 ⟨hafter, hthere, (entries_eq_nil fun q hq ↦ ?_).symm⟩
    by_contra hnode
    rcases hplaced.node q with heq | ⟨-, p, hsteps, hp⟩
    · exact hnode (heq.trans (hnone hstraight q hq))
    · exact henters ⟨p, q, hsteps, hp, hnode, hq⟩

/-- **Without links, a directory that was emptied before a document was written is there and empty
exactly if the document is not in it**, if both paths never turn back. The document is never in the
place of the directory. -/
theorem list_placed_iff_of_linkless {v : Validator} {c : Configuration} {source : SchemaSource}
    (hfs : fs.Nested) (hlinks : fs.Linkless) (hdir : dir.Forward) (hpath : path.Forward)
    (hclean : clean fs dir = (.ok (), cleaned))
    (hwrite : Document.write v cleaned c source path = (.ok (), files)) :
    path.place fs.workingDirectory ≠ dir.place fs.workingDirectory ∧
      (files.list dir = .ok (dir.place fs.workingDirectory, []) ↔
        ¬dir.place fs.workingDirectory <+: path.place fs.workingDirectory) := by
  have hplaced := Document.placed_write hwrite
  have hmade := made_makeDirectories fs dir
  have hlinks₁ := (hmade.placed List.prefix_rfl).linkless hlinks
  obtain ⟨place, hresolve, hiff⟩ := list_placed_iff hfs hclean hplaced
  obtain ⟨place', hresolve', hdirectory, hremove⟩ := exists_removeEntries_of_clean hclean
  obtain rfl : place' = place := Except.ok.inj (hresolve'.symm.trans hresolve)
  have hthinned := thinned_of_removeEntries hresolve hremove
  have hfiles : files.Linkless :=
    hplaced.linkless fun q target hq ↦ hlinks₁ q target (hthinned.node?_of_some hq)
  have hworking : files.workingDirectory = fs.workingDirectory :=
    hplaced.covers.workingDirectory.trans (hthinned.workingDirectory.trans hmade.workingDirectory)
  have hplace := resolve_eq_place hlinks₁ hresolve
  rw [hmade.workingDirectory] at hplace
  have hregular := regular_of_linkless (hmade.nested hfs) hlinks₁
  have hstraight := straight_of_forward hdir (hregular _) hresolve
  obtain ⟨q, node, hq, hnode, hleaf⟩ := Document.exists_leaf_of_write hwrite
  have hdocument := resolve_eq_place hfiles hq
  rw [hworking] at hdocument
  -- the document is no directory
  have hne : q ≠ place' := by
    rintro rfl
    have hthere := hplaced.covers.isDirectoryAt (hthinned.isDirectoryAt hdirectory)
    rw [isDirectoryAt, hnode] at hthere
    cases node with
    | directory | link => cases hleaf
    | file | device => cases hthere
  have henters : files.Enters path place' ↔ place' <+: q := by
    have hthere := Option.ne_none_iff_exists'.2 ⟨node, hnode⟩
    rw [enters_iff_of_linkless hfiles hpath hq hthere, and_iff_left hne]
  rw [← hplace, ← hdocument, hiff, and_iff_right hstraight, henters]
  exact ⟨hne, Iff.rfl⟩

end OutputDirectory

end SchemaForge
