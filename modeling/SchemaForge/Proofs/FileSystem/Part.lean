import SchemaForge.FileSystem.Operations
import SchemaForge.Proofs.OutputDirectory.Cleaning

/-!
# Parts of a tree

`FileSystem.only` is a tree with only some of its places, and `FileSystem.branch` what is at a place
and below it. Two trees with the same part are the same as far as that part goes, the order of their
nodes included, so operations that stay within a part can be compared on it.
-/

namespace SchemaForge

namespace FileSystem

/-- The tree with the places to keep only. -/
def only (fs : FileSystem) (keep : Location → Bool) : FileSystem :=
  { fs with nodes := fs.nodes.filter fun n ↦ keep n.1 }

/-- What is at a place and below it. -/
def branch (fs : FileSystem) (top : Location) : FileSystem := fs.only fun loc ↦ top.isPrefixOf loc

variable {fs fs' : FileSystem} {keep keep' : Location → Bool} {loc q top : Location} {node : Node}

theorem node?_only (h : keep loc = true) : (fs.only keep).node? loc = fs.node? loc := by
  rw [node?, node?, only, List.find?_filter]
  congr 3
  funext x
  by_cases hx : x.1 = loc
  · simp [hx, h]
  · simp [hx]

theorem only_only (h : ∀ loc, keep loc = true → keep' loc = true) :
    (fs.only keep').only keep = fs.only keep := by
  rw [only, only, only, List.filter_filter]
  congr 2
  funext x
  cases hx : keep x.1 with
  | false => rfl
  | true => rw [h _ hx]; rfl

/-- Trees with a part in common have its parts in common. -/
theorem only_eq_of_imp (h : ∀ loc, keep loc = true → keep' loc = true)
    (heq : fs'.only keep' = fs.only keep') : fs'.only keep = fs.only keep := by
  rw [← only_only h, heq, only_only h]

/-- Trees with a part in common have the same at each of its places. -/
theorem node?_eq_of_only (heq : fs'.only keep = fs.only keep) (h : keep loc = true) :
    fs'.node? loc = fs.node? loc := by
  rw [← node?_only h, heq, node?_only h]

theorem workingDirectory_eq_of_only (heq : fs'.only keep = fs.only keep) :
    fs'.workingDirectory = fs.workingDirectory := by
  have h := congrArg FileSystem.workingDirectory heq
  exact h

theorem refusalAt_eq (h : fs'.node? loc = fs.node? loc) : fs'.refusalAt loc = fs.refusalAt loc := by
  rw [refusalAt, refusalAt, h]

theorem isDirectoryAt_eq (h : fs'.node? loc = fs.node? loc) :
    fs'.isDirectoryAt loc = fs.isDirectoryAt loc := by
  rw [isDirectoryAt, isDirectoryAt, h]

/-! ### Changes inside and outside of a part -/

theorem only_put_of_not (h : keep loc = false) (node : Node) :
    (fs.put loc node).only keep = fs.only keep := by
  rw [only, only, put, List.filter_cons_of_neg (by simp [h]), List.filter_filter]
  congr 2
  funext x
  by_cases hx : x.1 = loc
  · simp [hx, h]
  · simp [hx]

theorem only_put (h : keep loc = true) (node : Node) :
    (fs.put loc node).only keep = (fs.only keep).put loc node := by
  rw [only, only, put, put, List.filter_cons_of_pos (by simp [h]), List.filter_filter,
    List.filter_filter]
  congr 3
  funext x
  exact Bool.and_comm ..

theorem only_erase_of_not (h : keep loc = false) : (fs.erase loc).only keep = fs.only keep := by
  rw [only, only, erase, List.filter_filter]
  congr 2
  funext x
  by_cases hx : x.1 = loc
  · simp [hx, h]
  · simp [hx]

theorem only_erase : (fs.erase loc).only keep = (fs.only keep).erase loc := by
  rw [only, only, erase, erase, List.filter_filter, List.filter_filter]
  congr 2
  funext x
  exact Bool.and_comm ..

/-! ### Branches -/

theorem node?_branch (h : top <+: loc) : (fs.branch top).node? loc = fs.node? loc :=
  node?_only (List.isPrefixOf_iff_prefix.2 h)

theorem node?_eq_of_branch (heq : fs'.branch top = fs.branch top) (h : top <+: loc) :
    fs'.node? loc = fs.node? loc :=
  node?_eq_of_only heq (List.isPrefixOf_iff_prefix.2 h)

theorem branch_put (h : top <+: loc) (node : Node) :
    (fs.put loc node).branch top = (fs.branch top).put loc node :=
  only_put (List.isPrefixOf_iff_prefix.2 h) node

theorem branch_erase : (fs.erase loc).branch top = (fs.branch top).erase loc := only_erase

/-- The places right below another are it with one name more. -/
theorem nameBelow?_eq_some_iff {dir : Location} {name : FileName} :
    nameBelow? dir loc = some name ↔ loc = dir ++ [name] := by
  rw [nameBelow?]
  constructor
  · intro h
    split at h
    · rename_i hprefix
      obtain ⟨rest, rfl⟩ := List.isPrefixOf_iff_prefix.1 hprefix
      rw [List.drop_left] at h
      split at h
      · rw [Option.some.inj h]
      · cases h
    · cases h
  · rintro rfl
    rw [if_pos (List.isPrefixOf_iff_prefix.2 (List.prefix_append dir [name])), List.drop_left]

/-- The names in a directory are those in the branch that it is in. -/
theorem entries_branch (h : top <+: loc) : (fs.branch top).entries loc = fs.entries loc := by
  rw [entries, entries, branch, only, List.filterMap_filter]
  congr 1
  funext x
  split
  · rfl
  · rename_i hx
    rw [nameBelow?, if_neg]
    exact fun hbelow ↦ hx (List.isPrefixOf_iff_prefix.2
      (h.trans (List.isPrefixOf_iff_prefix.1 hbelow)))

theorem isBelow_iff : isBelow top loc = true ↔ top <+: loc ∧ loc ≠ top := by
  rw [isBelow, Bool.and_eq_true, decide_eq_true_iff, List.isPrefixOf_iff_prefix]
  refine and_congr_right fun h ↦ ⟨fun hlt heq ↦ ?_, fun hne ↦ ?_⟩
  · rw [heq] at hlt
    exact Nat.lt_irrefl _ hlt
  · exact Nat.lt_of_le_of_ne h.length_le fun hlen ↦ hne (h.eq_of_length hlen).symm

theorem below_branch (h : top <+: loc) : (fs.branch top).below loc = fs.below loc := by
  rw [below, below, branch, only, List.filter_map, List.filter_map, List.filter_filter]
  congr 3
  funext x
  show (isBelow loc x.1 && top.isPrefixOf x.1) = isBelow loc x.1
  cases hx : isBelow loc x.1 with
  | false => rfl
  | true => exact List.isPrefixOf_iff_prefix.2 (h.trans (isBelow_iff.1 hx).1)

end FileSystem

end SchemaForge
