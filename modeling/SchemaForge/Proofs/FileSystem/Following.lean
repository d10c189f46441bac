import Mathlib.Data.List.Induction
import SchemaForge.Proofs.FileSystem.Part
import SchemaForge.Proofs.Path.Direct

/-!
# Going down a tree

A direct path is followed name by name, as long as no link comes in between
(`FileSystem.locate_eq_follow`). What can stop it on the way are the names before the last one
(`FileSystem.obstacle?`); the last name is a matter of what the path is followed for.
-/

namespace SchemaForge

namespace FileSystem

/-- The way to a place is without links, and what is on it is in a directory. -/
structure Regular (fs : FileSystem) (place : Location) : Prop where
  linkless : ∀ q, q <+: place → ∀ target, fs.node? q ≠ some (.link target)
  rooted : ∀ q, q <+: place → q ≠ [] → fs.node? q ≠ none → fs.isDirectoryAt q.dropLast = true

theorem Regular.of_isPrefix {fs : FileSystem} {place q : Location} (h : fs.Regular place)
    (hq : q <+: place) : fs.Regular q :=
  ⟨fun r hr ↦ h.linkless r (hr.trans hq), fun r hr ↦ h.rooted r (hr.trans hq)⟩

/-- Following names from a directory. A slash or a dot may stand behind the last of them. -/
def follow (fs : FileSystem) (purpose : Purpose) (slash dot : Bool) :
    Location → List FileName → Except IoFault Place
  | loc, [] => .ok (.taken loc)
  | loc, name :: rest =>
    let last := rest.isEmpty && !dot
    if last && slash && purpose == .writing then .error .isDirectory
    else if maxNameLength < name.bytes.length then .error .nameTooLong
    else
      match fs.node? (loc ++ [name]) with
      | none => if last then .ok (.free loc name) else .error .notFound
      | some (.directory _) => follow fs purpose slash dot (loc ++ [name]) rest
      | some _ => if last && !slash then .ok (.taken (loc ++ [name])) else .error .notDirectory

/-- What keeps names from leading down from a directory to a directory. -/
def obstacle? (fs : FileSystem) : Location → List FileName → Option IoFault
  | _, [] => none
  | loc, name :: rest =>
    if maxNameLength < name.bytes.length then some .nameTooLong
    else
      match fs.node? (loc ++ [name]) with
      | none => some .notFound
      | some (.directory _) => obstacle? fs (loc ++ [name]) rest
      | some _ => some .notDirectory

variable {fs : FileSystem} {purpose : Purpose} {slash dot : Bool} {loc : Location} {p : Path}

/-- Before the last name, only obstacles matter. -/
theorem follow_concat (loc : Location) (names : List FileName) (name : FileName) :
    fs.follow purpose slash dot loc (names ++ [name]) =
      match fs.obstacle? loc names with
      | some e => .error e
      | none => fs.follow purpose slash dot (loc ++ names) [name] := by
  induction names generalizing loc with
  | nil =>
    rw [List.append_nil]
    rfl
  | cons n names ih =>
    have hlast : (names ++ [name]).isEmpty = false := by simp
    rw [List.cons_append, follow, obstacle?]
    simp only [hlast, Bool.false_and, Bool.false_eq_true, if_false]
    split
    · rfl
    · cases fs.node? (loc ++ [n]) with
      | none => rfl
      | some node =>
        cases node with
        | directory refusal =>
          dsimp only
          rw [ih, List.append_assoc, List.singleton_append]
        | file | link | device => rfl

theorem obstacle?_concat (loc : Location) (names : List FileName) (name : FileName) :
    fs.obstacle? loc (names ++ [name]) =
      match fs.obstacle? loc names with
      | some e => some e
      | none => fs.obstacle? (loc ++ names) [name] := by
  induction names generalizing loc with
  | nil =>
    rw [List.append_nil]
    rfl
  | cons n names ih =>
    rw [List.cons_append, obstacle?, obstacle?]
    split
    · rfl
    · cases fs.node? (loc ++ [n]) with
      | none => rfl
      | some node =>
        cases node with
        | directory refusal =>
          dsimp only
          rw [ih, List.append_assoc, List.singleton_append]
        | file | link | device => rfl

/-- Without an obstacle, names lead to a directory, whatever they are followed for but writing. -/
theorem follow_of_obstacle?_eq_none {names : List FileName} (hpurpose : purpose ≠ .writing)
    (h : fs.obstacle? loc names = none) :
    fs.follow purpose slash dot loc names = .ok (.taken (loc ++ names)) := by
  induction names generalizing loc with
  | nil =>
    rw [List.append_nil]
    rfl
  | cons name names ih =>
    rw [obstacle?] at h
    split at h
    · cases h
    · rename_i hshort
      have hwriting : (purpose == .writing) = false := beq_false_of_ne hpurpose
      rw [follow, hwriting, Bool.and_false, if_neg Bool.false_ne_true, if_neg hshort]
      split at h
      · cases h
      · exact (ih h).trans (by rw [List.append_assoc, List.singleton_append])
      · cases h

theorem isDirectoryAt_of_obstacle? {names : List FileName} {name : FileName}
    (h : fs.obstacle? loc (names ++ [name]) = none) :
    fs.isDirectoryAt (loc ++ (names ++ [name])) = true := by
  rw [obstacle?_concat] at h
  cases hway : fs.obstacle? loc names with
  | some e =>
    rw [hway] at h
    cases h
  | none =>
    rw [hway] at h
    dsimp only at h
    rw [obstacle?] at h
    rw [← List.append_assoc, isDirectoryAt]
    split at h
    · cases h
    · split at h
      · cases h
      · rename_i hnode
        rw [hnode]
      · cases h

/-- Where everything is there, nothing is missing. -/
theorem obstacle?_ne_notFound {names : List FileName}
    (h : ∀ q, loc <+: q → q <+: loc ++ names → fs.node? q ≠ none) :
    fs.obstacle? loc names ≠ some .notFound := by
  induction names generalizing loc with
  | nil => exact nofun
  | cons name names ih =>
    have hentry : loc ++ [name] <+: loc ++ name :: names := ⟨names, by simp⟩
    rw [obstacle?]
    split
    · exact nofun
    · split
      · rename_i hnode
        exact absurd hnode (h _ (List.prefix_append ..) hentry)
      · refine ih fun q hq hq' ↦ h q ((List.prefix_append ..).trans hq) ?_
        rwa [List.append_assoc, List.singleton_append] at hq'
      · exact nofun

/-- On a regular way, whatever is there has everything above it. -/
theorem Regular.node?_ne_none {place q : Location} (h : fs.Regular place)
    (hplace : fs.node? place ≠ none) (hq : q <+: place) : fs.node? q ≠ none := by
  induction place using List.reverseRecOn with
  | nil =>
    rw [List.prefix_nil.1 hq]
    exact hplace
  | append_singleton init name ih =>
    rcases List.prefix_concat_iff.1 hq with rfl | hq
    · exact hplace
    · refine ih (h.of_isPrefix (List.prefix_append ..)) (fun hnone ↦ ?_) hq
      have hdirectory := h.rooted _ List.prefix_rfl (by simp) hplace
      rw [List.dropLast_concat, isDirectoryAt, hnone] at hdirectory
      cases hdirectory

/-- Steps without a turn have a name among them or end in a dot. -/
theorem names_or_dot {c : Component} {cs : List Component} (hroot : Component.root ∉ c :: cs)
    (hparent : Component.parent ∉ c :: cs) :
    ((Path.namesOf (c :: cs)).isEmpty && !((c :: cs).getLast? == some .current)) = false := by
  rw [Bool.and_eq_false_imp, Bool.not_eq_false', List.isEmpty_iff, beq_iff_eq]
  intro hnames
  rw [List.getLast?_eq_some_getLast (List.cons_ne_nil c cs)]
  have hmem := List.getLast_mem (List.cons_ne_nil c cs)
  have hname := List.filterMap_eq_nil_iff.1 hnames _ hmem
  generalize (c :: cs).getLast (List.cons_ne_nil c cs) = d at hmem hname
  cases d with
  | root => exact absurd hmem hroot
  | parent => exact absurd hmem hparent
  | current => rfl
  | name s => cases hname

/-- Steps without a turn are followed as their names, if the fuel suffices for them and there are no
links on the way. -/
theorem walk_eq_follow {cs : List Component} (hroot : Component.root ∉ cs)
    (hparent : Component.parent ∉ cs)
    (hlinkless : ∀ q, loc <+: q → q <+: loc ++ Path.namesOf cs →
      ∀ target, fs.node? q ≠ some (.link target))
    {fuel : ℕ} (hfuel : cs.length < fuel) (links : ℕ) :
    fs.walk purpose slash fuel links loc cs =
      fs.follow purpose slash (cs.getLast? == some .current) loc (Path.namesOf cs) := by
  induction cs generalizing loc fuel with
  | nil =>
    obtain ⟨fuel, rfl⟩ := Nat.exists_eq_succ_of_ne_zero (Nat.ne_zero_of_lt hfuel)
    rfl
  | cons c cs ih =>
    obtain ⟨fuel, rfl⟩ := Nat.exists_eq_succ_of_ne_zero (Nat.ne_zero_of_lt hfuel)
    rw [List.mem_cons, not_or] at hroot hparent
    rw [List.length_cons, Nat.succ_lt_succ_iff] at hfuel
    cases c with
    | root => exact absurd rfl hroot.1
    | parent => exact absurd rfl hparent.1
    | current =>
      rw [walk, ih hroot.2 hparent.2 hlinkless hfuel]
      cases cs with
      | nil => rfl
      | cons c cs => rfl
    | name s =>
      have hnames : Path.namesOf (.name s :: cs) = s :: Path.namesOf cs := rfl
      have hentry : loc ++ [s] <+: loc ++ Path.namesOf (.name s :: cs) :=
        ⟨Path.namesOf cs, List.append_assoc ..⟩
      -- what stands behind the name shows in the names and the dot
      have hlast : cs.isEmpty =
          ((Path.namesOf cs).isEmpty && !((.name s :: cs).getLast? == some .current)) := by
        cases cs with
        | nil => rfl
        | cons c cs => exact (names_or_dot hroot.2 hparent.2).symm
      have hrest : fs.walk purpose slash fuel links (loc ++ [s]) cs =
          fs.follow purpose slash ((.name s :: cs).getLast? == some .current)
            (loc ++ [s]) (Path.namesOf cs) := by
        rw [ih hroot.2 hparent.2 (fun q hq hq' ↦ hlinkless q ((List.prefix_append ..).trans hq)
          (by rwa [hnames, List.append_cons])) hfuel]
        cases cs with
        | nil => rfl
        | cons c cs => rfl
      rw [walk, hnames, follow, hrest, ← hlast]
      split
      · rfl
      · split
        · rfl
        · cases hnode : fs.node? (loc ++ [s]) with
          | none => rfl
          | some node =>
            cases node with
            | link target => exact absurd hnode (hlinkless _ (List.prefix_append ..) hentry target)
            | directory | file | device => rfl

/-- A path that no tree can follow. -/
theorem locate_of_fault? {e : IoFault} (hfault : p.fault? = some e) :
    fs.locate purpose p = .error e := by
  rw [locate_eq_match, hfault]

/-- A path that never turns back is followed as its names, if there are no links on the way. -/
theorem locate_eq_follow_way (hp : p.Forward) (hregular : fs.Regular (p.place fs.workingDirectory))
    (purpose : Purpose) :
    fs.locate purpose p = match p.fault? with
      | some e => .error e
      | none => fs.follow purpose p.endsInSlash p.endsInDot (p.origin fs.workingDirectory) p.way := by
  rw [hp.place_eq] at hregular
  have hpieces {fuel : ℕ} (hfuel : (Path.piecesOf p.text.bytes).length < fuel) :
      fs.walk purpose p.endsInSlash fuel maxLinks (p.origin fs.workingDirectory)
          (Path.piecesOf p.text.bytes) =
        fs.follow purpose p.endsInSlash
          ((Path.piecesOf p.text.bytes).getLast? == some .current)
          (p.origin fs.workingDirectory) p.way :=
    walk_eq_follow (Path.root_notMem_piecesOf _) hp.parent_notMem_piecesOf
      (fun q _ hq ↦ hregular.linkless q hq) hfuel maxLinks
  have hwalk {fuel : ℕ} (hfuel : p.steps.length < fuel) :
      fs.walk purpose p.endsInSlash fuel maxLinks fs.workingDirectory p.steps =
        fs.follow purpose p.endsInSlash p.endsInDot (p.origin fs.workingDirectory) p.way := by
    rw [Path.steps] at hfuel
    rw [Path.endsInDot, Path.steps]
    rw [Path.origin] at hpieces ⊢
    split at hfuel
    · rename_i habsolute
      rw [if_pos habsolute] at hpieces ⊢
      obtain ⟨fuel, rfl⟩ := Nat.exists_eq_succ_of_ne_zero (Nat.ne_zero_of_lt hfuel)
      rw [if_pos habsolute, walk, hpieces (Nat.succ_lt_succ_iff.1 hfuel)]
      cases Path.piecesOf p.text.bytes <;> rfl
    · rename_i hrelative
      rw [if_neg hrelative] at hpieces ⊢
      rw [if_neg hrelative]
      exact hpieces hfuel
  have hbudget : p.steps.length < fs.stepBudget p.steps :=
    Nat.lt_succ_of_le (Nat.le_add_right ..)
  cases hfault : p.fault? with
  | some e => simp only [locate_eq_match, hfault]
  | none => simp only [locate_eq_match, hfault, hwalk hbudget]

/-- A direct path is followed from the root. -/
theorem locate_eq_follow (hp : p.Direct) (hregular : fs.Regular (p.place [])) (purpose : Purpose) :
    fs.locate purpose p = match p.fault? with
      | some e => .error e
      | none => fs.follow purpose p.endsInSlash p.endsInDot [] (p.place []) := by
  rw [hp.place_eq] at hregular ⊢
  rw [locate_eq_follow_way hp.forward (by rwa [hp.place_eq]), hp.origin_eq]

/-- A direct path leads to a directory if nothing is in its way. -/
theorem isDirectory_eq (hp : p.Direct) (hfault : p.fault? = none)
    (hregular : fs.Regular (p.place [])) :
    fs.isDirectory p = (fs.obstacle? [] (p.place [])).isNone := by
  rw [isDirectory, stat, resolve, locate_eq_follow hp hregular, hfault]
  dsimp only
  rcases List.eq_nil_or_concat (p.place []) with hplace | ⟨init, name, hplace⟩
  · rw [hplace]
    rfl
  rw [List.concat_eq_append] at hplace
  rw [hplace, follow_concat, obstacle?_concat]
  cases fs.obstacle? [] init with
  | some e => rfl
  | none =>
    dsimp only
    have hwriting : (Purpose.target == Purpose.writing) = false := rfl
    rw [List.nil_append, follow, obstacle?, hwriting, Bool.and_false, if_neg Bool.false_ne_true]
    by_cases hlong : maxNameLength < name.bytes.length
    · rw [if_pos hlong, if_pos hlong]
      rfl
    · rw [if_neg hlong, if_neg hlong]
      cases hnode : fs.node? (init ++ [name]) with
      | none => cases p.endsInDot <;> rfl
      | some node =>
        cases node with
        | directory refusal => simp [follow, obstacle?, hnode]
        | file | device | link =>
          cases p.endsInDot <;> cases p.endsInSlash <;> simp [hnode]

end FileSystem

end SchemaForge
