import Mathlib.Data.Nat.Notation
import SchemaForge.FileSystem.Resolution

/-!
# Following a path, step by step

A path whose text can be followed at all (`Path.fault?`) is followed by its steps. The tree is asked
for something only where these go on with a name, and what is there decides how they go on. There
are five ways for them to come to a place (`FileSystem.Onward`), and no others
(`FileSystem.walk_name_eq_ok_iff`). What is proved of all paths that lead somewhere is by induction
on the steps that they may take, and at a name by these five.
-/

namespace SchemaForge

/-- Whether a path ends at the node, with nothing behind it and no way on through it. -/
def Node.isLeaf : Node → Bool
  | .file .. => true
  | .device _ => true
  | .directory _ => false
  | .link _ => false

/-- Why a text cannot be followed on any tree. -/
def Path.fault? (p : Path) : Option IoFault :=
  if p.text.hasNul then some .nulInPath
  else if p.text == "" then some .notFound
  else if FileSystem.maxPathLength < p.text.bytes.length then some .nameTooLong
  else none

namespace FileSystem

variable {fs : FileSystem} {purpose : Purpose} {slash : Bool} {fuel links : ℕ} {loc : Location}
  {s : FileName} {rest : List Component} {place : Place}

theorem locate_eq_match (fs : FileSystem) (purpose : Purpose) (p : Path) :
    fs.locate purpose p = match p.fault? with
      | some e => .error e
      | none => fs.walk purpose p.endsInSlash (fs.stepBudget p.steps) maxLinks fs.workingDirectory
          p.steps := by
  rw [locate, Path.fault?]
  split
  · rfl
  split
  · rfl
  split
  · rfl
  · rfl

/-! ### At a name -/

/-- How a walk that comes to `place` goes on at the name `s`. -/
inductive Onward (fs : FileSystem) (purpose : Purpose) (slash : Bool) (fuel links : ℕ)
    (loc : Location) (s : FileName) (rest : List Component) (place : Place) : Prop
  | free (hnode : fs.node? (loc ++ [s]) = none) (hrest : rest = [])
      (hplace : place = .free loc s)
  | directory (refusal : Option IoFault)
      (hnode : fs.node? (loc ++ [s]) = some (.directory refusal))
      (hwalk : fs.walk purpose slash fuel links (loc ++ [s]) rest = .ok place)
  /-- A link is asked for, not what it leads to. -/
  | entry (target : Path) (hnode : fs.node? (loc ++ [s]) = some (.link target))
      (hrest : rest = []) (hpurpose : purpose = .entry)
      (hplace : place = .taken (loc ++ [s]))
  | link (target : Path) (fewer : ℕ)
      (hnode : fs.node? (loc ++ [s]) = some (.link target))
      (hthrough : rest = [] → purpose ≠ .entry) (hlinks : links = fewer + 1)
      (hempty : target.text ≠ "")
      (hwalk : fs.walk purpose (slash || rest.isEmpty && target.endsInSlash) fuel fewer loc
        (target.steps ++ rest) = .ok place)
  | leaf (node : Node) (hnode : fs.node? (loc ++ [s]) = some node)
      (hleaf : node.isLeaf = true) (hrest : rest = []) (hslash : slash = false)
      (hplace : place = .taken (loc ++ [s]))

/-- What is asked of the name itself: that a directory can hold it, and that it is not written to
with a slash behind it. -/
def Permits (purpose : Purpose) (slash : Bool) (s : FileName) (rest : List Component) : Prop :=
  ¬(rest.isEmpty && slash && purpose == .writing) = true ∧
    ¬maxNameLength < s.bytes.length

theorem Permits.of_ne_writing {slash' : Bool} {purpose' : Purpose} {rest' : List Component}
    (h : Permits purpose slash s rest) (hpurpose : purpose' ≠ .writing) :
    Permits purpose' slash' s rest' := by
  refine ⟨fun hwriting ↦ hpurpose ?_, h.2⟩
  rw [Bool.and_eq_true] at hwriting
  exact beq_iff_eq.1 hwriting.2

theorem Permits.slash_eq_false (h : Permits .writing slash s rest) (hrest : rest = []) :
    slash = false := by
  subst hrest
  cases slash with
  | false => rfl
  | true => exact absurd rfl h.1

theorem onward_of_walk
    (h : fs.walk purpose slash (fuel + 1) links loc (.name s :: rest) = .ok place) :
    Permits purpose slash s rest ∧ Onward fs purpose slash fuel links loc s rest place := by
  rw [walk] at h
  split at h
  · cases h
  rename_i hslash
  split at h
  · cases h
  rename_i hshort
  refine ⟨⟨hslash, hshort⟩, ?_⟩
  split at h
  · rename_i hnode
    split at h
    · rename_i hrest
      exact .free hnode (List.isEmpty_iff.1 hrest) (Except.ok.inj h).symm
    · cases h
  · rename_i refusal hnode
    exact .directory refusal hnode h
  · rename_i target hnode
    split at h
    · rename_i hentry
      rw [Bool.and_eq_true, List.isEmpty_iff, beq_iff_eq] at hentry
      exact .entry target hnode hentry.1 hentry.2 (Except.ok.inj h).symm
    · rename_i hthrough
      rw [Bool.and_eq_true, List.isEmpty_iff, beq_iff_eq, not_and] at hthrough
      cases links with
      | zero => cases h
      | succ fewer =>
        dsimp only at h
        split at h
        · cases h
        · rename_i hempty
          exact .link target fewer hnode hthrough rfl (mt beq_iff_eq.2 hempty) h
  · rename_i node hdirectory hlink hnode
    have hleaf : node.isLeaf = true := by
      cases node with
      | file | device => rfl
      | directory refusal => exact absurd rfl (hdirectory refusal)
      | link target => exact absurd rfl (hlink target)
    split at h
    · rename_i hlast
      rw [Bool.and_eq_true, List.isEmpty_iff, Bool.not_eq_true'] at hlast
      exact .leaf node hnode hleaf hlast.1 hlast.2 (Except.ok.inj h).symm
    · cases h

theorem walk_of_onward (hname : Permits purpose slash s rest)
    (h : Onward fs purpose slash fuel links loc s rest place) :
    fs.walk purpose slash (fuel + 1) links loc (.name s :: rest) = .ok place := by
  rw [walk, if_neg hname.1, if_neg hname.2]
  cases h with
  | free hnode hrest hplace => simp only [hnode, hrest, hplace, List.isEmpty_nil, if_true]
  | directory refusal hnode hwalk => simp only [hnode, hwalk]
  | entry target hnode hrest hpurpose hplace =>
    simp only [hnode, hrest, hpurpose, hplace]
    rfl
  | link target fewer hnode hthrough hlinks hempty hwalk =>
    have hlast : ¬(rest.isEmpty && purpose == .entry) = true := by
      rwa [Bool.and_eq_true, List.isEmpty_iff, beq_iff_eq, not_and]
    simp only [hnode, if_neg hlast, hlinks, if_neg (mt beq_iff_eq.1 hempty), hwalk]
  | leaf node hnode hleaf hrest hslash hplace =>
    cases node with
    | directory | link => cases hleaf
    | file | device => simp only [hnode, hrest, hslash, hplace]; rfl

/-- **A walk comes to a place in one of five ways.** -/
theorem walk_name_eq_ok_iff :
    fs.walk purpose slash (fuel + 1) links loc (.name s :: rest) = .ok place ↔
      Permits purpose slash s rest ∧ Onward fs purpose slash fuel links loc s rest place :=
  ⟨onward_of_walk, fun h ↦ walk_of_onward h.1 h.2⟩

/-! ### By what is there -/

theorem onward_iff_of_directory {refusal : Option IoFault}
    (hnode : fs.node? (loc ++ [s]) = some (.directory refusal)) :
    Onward fs purpose slash fuel links loc s rest place ↔
      fs.walk purpose slash fuel links (loc ++ [s]) rest = .ok place := by
  refine ⟨fun h ↦ ?_, .directory refusal hnode⟩
  cases h with
  | directory _ _ hwalk => exact hwalk
  | free hother | entry _ hother | link _ _ hother => cases hnode.symm.trans hother
  | leaf _ hother hleaf =>
    cases hnode.symm.trans hother
    cases hleaf

theorem onward_iff_of_link {target : Path}
    (hnode : fs.node? (loc ++ [s]) = some (.link target)) :
    Onward fs purpose slash fuel links loc s rest place ↔
      (rest = [] ∧ purpose = .entry ∧ place = .taken (loc ++ [s])) ∨
      (rest = [] → purpose ≠ .entry) ∧ ∃ fewer, links = fewer + 1 ∧ target.text ≠ "" ∧
        fs.walk purpose (slash || rest.isEmpty && target.endsInSlash) fuel fewer loc
          (target.steps ++ rest) = .ok place := by
  constructor
  · intro h
    cases h with
    | entry _ _ hrest hpurpose hplace => exact Or.inl ⟨hrest, hpurpose, hplace⟩
    | link _ fewer hother hthrough hlinks hempty hwalk =>
      cases hnode.symm.trans hother
      exact Or.inr ⟨hthrough, fewer, hlinks, hempty, hwalk⟩
    | free hother | directory _ hother => cases hnode.symm.trans hother
    | leaf _ hother hleaf =>
      cases hnode.symm.trans hother
      cases hleaf
  · rintro (⟨hrest, hpurpose, hplace⟩ | ⟨hthrough, fewer, hlinks, hempty, hwalk⟩)
    · exact .entry target hnode hrest hpurpose hplace
    · exact .link target fewer hnode hthrough hlinks hempty hwalk

theorem onward_iff_of_isLeaf {node : Node}
    (hnode : fs.node? (loc ++ [s]) = some node) (hleaf : node.isLeaf = true) :
    Onward fs purpose slash fuel links loc s rest place ↔
      rest = [] ∧ slash = false ∧ place = .taken (loc ++ [s]) := by
  constructor
  · intro h
    cases h with
    | leaf _ _ _ hrest hslash hplace => exact ⟨hrest, hslash, hplace⟩
    | free hother => cases hnode.symm.trans hother
    | directory _ hother | entry _ hother | link _ _ hother =>
      cases hnode.symm.trans hother
      cases hleaf
  · rintro ⟨hrest, hslash, hplace⟩
    exact .leaf node hnode hleaf hrest hslash hplace

end FileSystem

end SchemaForge
