import Mathlib.Data.List.Nodup
import Mathlib.Data.List.Perm.Basic
import SchemaForge.Proofs.FileSystem.Written
import SchemaForge.Proofs.Path.Join
import SchemaForge.Proofs.Table

/-!
# The order in which a tree is listed

A tree lists its nodes in some order, and a directory its entries in the same one. A system
enumerates a directory in whatever order it likes. So two trees with the same nodes in different
orders are one tree, as it is enumerated at two times (`FileSystem.Reorders`).

Whatever a path is followed for, it leads to the same (`Reorders.locate_eq`): the tree is only asked
what is at a place, and there is one node at each (`FileSystem.Distinct`). A directory has the same
entries (`Reorders.exists_list`), and they can be enumerated in every order (`exists_reorders`).
-/

namespace SchemaForge.FileSystem

variable {fs fs' : FileSystem} {loc : Location} {p : Path}

/-- There is one node at each place. -/
def Distinct (fs : FileSystem) : Prop :=
  (fs.nodes.map Prod.fst).Nodup

instance (fs : FileSystem) : Decidable fs.Distinct :=
  inferInstanceAs (Decidable (List.Nodup _))

/-- The same tree, with its nodes in an order of their own. -/
structure Reorders (fs fs' : FileSystem) : Prop where
  perm : fs'.nodes.Perm fs.nodes
  workingDirectory : fs'.workingDirectory = fs.workingDirectory

/-! ### Trees with one node at each place -/

theorem Distinct.nodup_entries (h : fs.Distinct) (dir : Location) : (fs.entries dir).Nodup := by
  have hentries : fs.entries dir = (fs.nodes.map Prod.fst).filterMap (nameBelow? dir) := by
    rw [List.filterMap_map]
    rfl
  rw [hentries]
  refine List.Nodup.filterMap (fun loc loc' name hname hname' ↦ ?_) h
  rw [nameBelow?_eq_some_iff.1 hname, nameBelow?_eq_some_iff.1 hname']

/-! ### Following a path -/

instance : RightCommutative longestTarget where
  right_comm n x y := by
    simp only [longestTarget]
    split <;> split <;> omega

namespace Reorders

variable (h : fs.Reorders fs') (hfs : fs.Distinct)

include h

theorem stepBudget_eq (steps : List Component) : fs'.stepBudget steps = fs.stepBudget steps := by
  show steps.length + (maxLinks + 1) * (fs'.nodes.foldl longestTarget 0 + 1) + 1 =
    steps.length + (maxLinks + 1) * (fs.nodes.foldl longestTarget 0 + 1) + 1
  rw [h.perm.foldl_eq]

theorem entries_perm (dir : Location) : (fs'.entries dir).Perm (fs.entries dir) :=
  h.perm.filterMap _

include hfs

theorem node?_eq (loc : Location) : fs'.node? loc = fs.node? loc := by
  rw [node?, node?, find?_perm hfs h.perm loc]

theorem locate_eq (purpose : Purpose) (p : Path) : fs'.locate purpose p = fs.locate purpose p := by
  rw [locate, locate, h.stepBudget_eq, h.workingDirectory]
  simp only [walk_congr (h.node?_eq hfs)]

theorem resolve_eq (purpose : Purpose) (p : Path) :
    fs'.resolve purpose p = fs.resolve purpose p := by
  rw [resolve, resolve, h.locate_eq hfs]

theorem stat_eq (p : Path) : fs'.stat p = fs.stat p := by
  rw [stat, stat, h.resolve_eq hfs]
  simp only [h.node?_eq hfs]

theorem isDirectory_eq (p : Path) : fs'.isDirectory p = fs.isDirectory p := by
  rw [isDirectory, isDirectory, h.stat_eq hfs]

theorem isFile_eq (p : Path) : fs'.isFile p = fs.isFile p := by
  rw [isFile, isFile, h.stat_eq hfs]

theorem readText_eq (p : Path) : fs'.readText p = fs.readText p := by
  rw [readText, readText, readBytes, readBytes, h.stat_eq hfs]

theorem isDirectoryAt_eq (loc : Location) : fs'.isDirectoryAt loc = fs.isDirectoryAt loc := by
  rw [isDirectoryAt, isDirectoryAt, h.node?_eq hfs]

end Reorders

/-! ### Listing a directory -/

/-- What can be listed are the directories. -/
theorem isDirectory_iff_exists_list :
    fs.isDirectory p = true ↔ ∃ loc names, fs.list p = .ok (loc, names) := by
  simp only [list_eq_ok_iff, isDirectory, stat]
  constructor
  · intro h
    cases hresolve : fs.resolve .target p with
    | error e =>
      rw [hresolve] at h
      cases h
    | ok loc =>
      refine ⟨loc, _, rfl, ?_, rfl⟩
      simp only [hresolve] at h
      rw [isDirectoryAt]
      cases hnode : fs.node? loc with
      | none =>
        rw [hnode] at h
        cases h
      | some node =>
        rw [hnode] at h
        cases node with
        | directory refusal => rfl
        | _ => cases h
  · rintro ⟨loc, names, hresolve, hdirectory, -⟩
    rw [isDirectoryAt] at hdirectory
    simp only [hresolve]
    split at hdirectory
    · rename_i hnode
      rw [hnode]
    · cases hdirectory

/-- A directory is listed with the same entries. -/
theorem Reorders.exists_list (h : fs.Reorders fs') (hfs : fs.Distinct) {names : List FileName}
    (hlist : fs.list p = .ok (loc, names)) :
    ∃ names', fs'.list p = .ok (loc, names') ∧ names'.Perm names := by
  obtain ⟨hresolve, hdirectory, rfl⟩ := list_eq_ok_iff.1 hlist
  refine ⟨fs'.entries loc, list_eq_ok_iff.2 ⟨?_, ?_, rfl⟩, h.entries_perm loc⟩
  · rw [h.resolve_eq hfs, hresolve]
  · rw [h.isDirectoryAt_eq hfs, hdirectory]

/-- An order of what is found in a list is that of some order of the list. -/
theorem exists_perm_filterMap {α β : Type} {f : α → Option β} {ys : List β} {xs : List α}
    (h : ys.Perm (xs.filterMap f)) : ∃ xs' : List α, xs'.Perm xs ∧ xs'.filterMap f = ys := by
  induction ys generalizing xs with
  | nil => exact ⟨xs, .rfl, h.nil_eq.symm⟩
  | cons y ys ih =>
    obtain ⟨x, hx, hy⟩ := List.mem_filterMap.1 (h.subset List.mem_cons_self)
    obtain ⟨front, back, rfl⟩ := List.append_of_mem hx
    have hrest : ys.Perm ((front ++ back).filterMap f) := by
      rw [List.filterMap_append, List.filterMap_cons_some hy] at h
      rw [List.filterMap_append]
      exact (h.trans List.perm_middle).cons_inv
    obtain ⟨xs', hperm, hxs'⟩ := ih hrest
    refine ⟨x :: xs', (hperm.cons x).trans List.perm_middle.symm, ?_⟩
    rw [List.filterMap_cons_some hy, hxs']

/-- **A directory can be enumerated in every order of its entries.** -/
theorem exists_reorders (hfs : fs.Distinct) {names order : List FileName}
    (hlist : fs.list p = .ok (loc, names)) (horder : order.Perm names) :
    ∃ fs', fs.Reorders fs' ∧ fs'.list p = .ok (loc, order) := by
  obtain ⟨hresolve, hdirectory, rfl⟩ := list_eq_ok_iff.1 hlist
  obtain ⟨nodes, hperm, hentries⟩ := exists_perm_filterMap horder
  have h : fs.Reorders ⟨nodes, fs.workingDirectory⟩ := ⟨hperm, rfl⟩
  refine ⟨_, h, list_eq_ok_iff.2 ⟨?_, ?_, hentries.symm⟩⟩
  · rw [h.resolve_eq hfs, hresolve]
  · rw [h.isDirectoryAt_eq hfs, hdirectory]

end SchemaForge.FileSystem
