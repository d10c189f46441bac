import SchemaForge.Proofs.FileSystem.Making

/-!
# The same branch on two trees

Two trees are beside each other at a place (`FileSystem.Beside`) if they have the same there and
below, and the one has grown on the way to it: others have created directories there that are
missing in the other. An operation at the place answers the same on both and leaves the same branch
behind, so it does not matter to it what others have done meanwhile.
-/

namespace SchemaForge

namespace FileSystem

/-- The branch is the same, and on the way to it `fs` has at most grown. -/
structure Beside (place : Location) (fs₀ fs : FileSystem) : Prop where
  grown : ∀ q, q <+: place → q ≠ place → Grown fs₀ fs q
  branch : fs.branch place = fs₀.branch place

variable {fs fs' fs₀ : FileSystem} {place loc q : Location} {name : FileName} {p : Path}

theorem Grown.put (h : Grown fs₀ fs q) {r : Location} (hne : q ≠ r) (hr : r ≠ []) :
    Grown fs₀ (fs.put r (.directory none)) q := by
  rcases h with heq | ⟨hnone, hplain, hrefusal⟩
  · exact Or.inl ((node?_put_of_ne fs hne _).trans heq)
  · refine Or.inr ⟨hnone, (node?_put_of_ne fs hne _).trans hplain, ?_⟩
    rw [refusalAt_eq_none_iff] at hrefusal ⊢
    by_cases hparent : q.dropLast = r
    · rw [hparent, node?_put_self fs hr]
    · rwa [node?_put_of_ne fs hparent]

theorem Grown.put_left (h : Grown fs₀ fs q) {r : Location} (hne : q ≠ r) (node : Node) :
    Grown (fs₀.put r node) fs q := by
  rw [Grown, node?_put_of_ne fs₀ hne]
  exact h

/-- **Whoever creates the directories on a way, what comes of it is the same.** -/
theorem makeWay_of_grown {names : List FileName}
    (hgrown : ∀ q, loc <+: q → q ≠ loc → q <+: loc ++ names → Grown fs₀ fs q)
    (hrefusal : fs.refusalAt loc = fs₀.refusalAt loc) :
    (fs.makeWay loc names).1 = (fs₀.makeWay loc names).1 ∧
      ((fs.makeWay loc names).1 = .ok () → (fs.makeWay loc names).2.refusalAt (loc ++ names) =
        (fs₀.makeWay loc names).2.refusalAt (loc ++ names)) := by
  induction names generalizing fs fs₀ loc with
  | nil =>
    rw [List.append_nil]
    exact ⟨rfl, fun _ ↦ hrefusal⟩
  | cons name names ih =>
    have hne : loc ++ [name] ≠ [] := by simp
    have hentry : loc ++ [name] <+: loc ++ name :: names := ⟨names, by simp⟩
    have hdeeper (q) (hq : loc ++ [name] <+: q) (hself : q ≠ loc ++ [name])
        (hq' : q <+: loc ++ [name] ++ names) : Grown fs₀ fs q := by
      refine hgrown q ((List.prefix_append ..).trans hq) (fun heq ↦ ?_) (by simpa using hq')
      have hlength := hq.length_le
      rw [heq, List.length_append, List.length_singleton] at hlength
      omega
    have happend : loc ++ name :: names = loc ++ [name] ++ names := by simp
    rw [makeWay, makeWay, happend]
    by_cases hlong : maxNameLength < name.bytes.length
    · rw [if_pos hlong, if_pos hlong]
      exact ⟨rfl, fun hok ↦ by cases hok⟩
    rw [if_neg hlong, if_neg hlong]
    rcases hgrown _ (List.prefix_append ..) (by simp) hentry with heq | ⟨hnone, hplain, hopen⟩
    · rw [heq]
      cases hnode : fs₀.node? (loc ++ [name]) with
      | none =>
        dsimp only
        rw [create, create, hrefusal]
        cases fs₀.refusalAt loc with
        | some e => exact ⟨rfl, fun hok ↦ by cases hok⟩
        | none =>
          refine ih (fun q hq hself hq' ↦ ?_) ?_
          · exact ((hdeeper q hq hself hq').put hself hne).put_left hself _
          · exact refusalAt_eq ((node?_put_self fs hne _).trans (node?_put_self fs₀ hne _).symm)
      | some node =>
        cases node with
        | directory refusal => exact ih hdeeper (refusalAt_eq heq)
        | file | link | device => exact ⟨rfl, fun hok ↦ by cases hok⟩
    · -- somebody else has created the directory
      rw [List.dropLast_concat] at hopen
      rw [hplain, hnone]
      dsimp only
      rw [create, ← hrefusal, hopen]
      refine ih (fun q hq hself hq' ↦ (hdeeper q hq hself hq').put_left hself _) ?_
      exact refusalAt_eq (hplain.trans (node?_put_self fs₀ hne _).symm)

theorem Grown.of_grows {fs₁ fs₂ : FileSystem} (h : Grown fs₀ fs q) (h₀ : Grows place fs₀ fs₂)
    (h' : Grows place fs fs₁) (hq : ¬q <+: place) : Grown fs₂ fs₁ q := by
  rw [Grown, h₀.node?_of_not hq, h'.node?_of_not hq]
  refine h.imp_right fun ⟨hnone, hplain, hopen⟩ ↦ ⟨hnone, hplain, ?_⟩
  rw [refusalAt_eq_none_iff] at hopen ⊢
  exact h'.node?_of_some hopen

theorem makeWay_alike (hgrown : ∀ q, q <+: loc → Grown fs₀ fs q) :
    (fs.makeWay [] loc).1 = (fs₀.makeWay [] loc).1 ∧
      ((fs.makeWay [] loc).1 = .ok () →
        (fs.makeWay [] loc).2.refusalAt loc = (fs₀.makeWay [] loc).2.refusalAt loc) :=
  makeWay_of_grown (fun q _ _ hq ↦ hgrown q hq) rfl

theorem Grows.obstacle?_eq_none {names : List FileName} (h : Grows place fs fs')
    (hway : fs.obstacle? loc names = none) : fs'.obstacle? loc names = none := by
  induction names generalizing loc with
  | nil => rfl
  | cons name names ih =>
    rw [obstacle?] at hway ⊢
    split at hway
    · cases hway
    · rename_i hshort
      rw [if_neg hshort]
      split at hway
      · cases hway
      · rename_i hnode
        rw [h.node?_of_some hnode]
        exact ih hway
      · cases hway

theorem Grows.branch (h : Grows q fs fs') (hq : ¬place <+: q) :
    fs'.branch place = fs.branch place :=
  h.elsewhere _ fun _ hr hr' ↦ hq ((List.isPrefixOf_iff_prefix.1 hr).trans hr')

theorem not_concat_prefix : ¬loc ++ [name] <+: loc := fun h ↦ by
  have hlength := h.length_le
  rw [List.length_append, List.length_singleton] at hlength
  omega

theorem grows_settle (fs : FileSystem) (slash dot : Bool) (loc : Location) (name : FileName) :
    Grows (loc ++ [name]) fs (fs.settle slash dot loc name).2 := by
  rw [settle]
  split
  · exact .refl
  · split
    · rename_i hnode
      split
      · exact .refl
      · exact grows_create hnode
    · exact .refl
    · exact .refl

/-- A directory made sure of is there. -/
theorem obstacle?_of_settle {slash dot : Bool}
    (h : fs.settle slash dot loc name = (.ok (), fs')) : fs'.obstacle? loc [name] = none := by
  rw [settle] at h
  rw [obstacle?]
  split at h
  · cases h
  · rename_i hshort
    rw [if_neg hshort]
    split at h
    · split at h
      · cases h
      · rw [create] at h
        split at h
        · cases h
        · obtain ⟨-, rfl⟩ := Prod.mk.inj h
          rw [node?_put_self fs (by simp)]
          rfl
    · rename_i hnode
      obtain ⟨-, rfl⟩ := Prod.mk.inj h
      rw [hnode]
      rfl
    · cases h

theorem create_beside (hrefusal : fs.refusalAt loc = fs₀.refusalAt loc)
    (hbranch : fs.branch (loc ++ [name]) = fs₀.branch (loc ++ [name])) (node : Node) :
    (fs.create loc name node).1 = (fs₀.create loc name node).1 ∧
      (fs.create loc name node).2.branch (loc ++ [name]) =
        (fs₀.create loc name node).2.branch (loc ++ [name]) := by
  rw [create, create, hrefusal]
  cases fs₀.refusalAt loc with
  | some e => exact ⟨rfl, hbranch⟩
  | none => exact ⟨rfl, by
      rw [branch_put List.prefix_rfl, branch_put List.prefix_rfl, hbranch]⟩

theorem settle_beside (hrefusal : fs.refusalAt loc = fs₀.refusalAt loc)
    (hbranch : fs.branch (loc ++ [name]) = fs₀.branch (loc ++ [name])) (slash dot : Bool) :
    (fs.settle slash dot loc name).1 = (fs₀.settle slash dot loc name).1 ∧
      (fs.settle slash dot loc name).2.branch (loc ++ [name]) =
        (fs₀.settle slash dot loc name).2.branch (loc ++ [name]) := by
  rw [settle, settle, node?_eq_of_branch hbranch List.prefix_rfl]
  split
  · exact ⟨rfl, hbranch⟩
  · split
    · split
      · exact ⟨rfl, hbranch⟩
      · exact create_beside hrefusal hbranch _
    · exact ⟨rfl, hbranch⟩
    · exact ⟨rfl, hbranch⟩

theorem settle_of_grown {slash : Bool} (hgrown : Grown fs₀ fs (loc ++ [name]))
    (hrefusal : fs.refusalAt loc = fs₀.refusalAt loc) :
    (fs.settle slash false loc name).1 = (fs₀.settle slash false loc name).1 ∧
      ((fs.settle slash false loc name).1 = .ok () →
        (fs.settle slash false loc name).2.refusalAt (loc ++ [name]) =
          (fs₀.settle slash false loc name).2.refusalAt (loc ++ [name])) := by
  have hne : loc ++ [name] ≠ [] := by simp
  rw [settle, settle]
  by_cases hlong : maxNameLength < name.bytes.length
  · rw [if_pos hlong, if_pos hlong]
    exact ⟨rfl, fun hok ↦ by cases hok⟩
  rw [if_neg hlong, if_neg hlong]
  rcases hgrown with heq | ⟨hnone, hplain, hopen⟩
  · rw [heq]
    cases hnode : fs₀.node? (loc ++ [name]) with
    | none =>
      dsimp only
      rw [if_neg Bool.false_ne_true, if_neg Bool.false_ne_true, create, create, hrefusal]
      cases fs₀.refusalAt loc with
      | some e => exact ⟨rfl, fun hok ↦ by cases hok⟩
      | none => exact ⟨rfl, fun _ ↦ refusalAt_eq
          ((node?_put_self fs hne _).trans (node?_put_self fs₀ hne _).symm)⟩
    | some node =>
      cases node with
      | directory refusal => exact ⟨rfl, fun _ ↦ refusalAt_eq heq⟩
      | file | link | device => exact ⟨rfl, fun hok ↦ by cases hok⟩
  · rw [List.dropLast_concat] at hopen
    rw [hplain, hnone]
    dsimp only
    rw [if_neg Bool.false_ne_true, create, ← hrefusal, hopen]
    exact ⟨rfl, fun _ ↦ refusalAt_eq (hplain.trans (node?_put_self fs₀ hne _).symm)⟩

theorem exists_concat (hne : place ≠ []) : ∃ loc name, place = loc ++ [name] := by
  obtain ⟨loc, name, h⟩ := (List.eq_nil_or_concat place).resolve_left hne
  exact ⟨loc, name, h.trans (List.concat_eq_append ..)⟩

/-- The root is there. -/
theorem makeDirectories_of_root (hp : p.Direct) (hfault : p.fault? = none)
    (hplace : p.place [] = []) (hregular : fs.Regular (p.place [])) :
    fs.makeDirectories p = (.ok (), fs) :=
  makeFrom_of_directory hp hfault hregular (by rw [hplace]; rfl) [] (Nat.succ_ne_zero _)

/-- Creating a directory with all above it only lets the tree grow. -/
theorem grows_makeDirectories (hp : p.Direct) (hregular : fs.Regular (p.place [])) :
    Grows (p.place []) fs (fs.makeDirectories p).2 := by
  cases hfault : p.fault? with
  | some e =>
    rw [makeDirectories_of_fault? hp hfault]
    exact .refl
  | none =>
    by_cases hne : p.place [] = []
    · rw [makeDirectories_of_root hp hfault hne hregular]
      exact .refl
    obtain ⟨loc, name, hplace⟩ := exists_concat hne
    rw [hplace] at hregular ⊢
    rw [makeDirectories_eq ⟨hp, hfault, hplace, hregular⟩]
    have hgrows := (grows_makeWay fs [] loc).mono (List.prefix_append loc [name])
    rcases hway : fs.makeWay [] loc with ⟨_ | _, fs'⟩
    · rw [hway] at hgrows
      exact hgrows
    · rw [hway] at hgrows
      exact hgrows.trans (grows_settle ..)

/-- A directory that was created is there. -/
theorem obstacle?_of_makeDirectories (hp : p.Direct) (hregular : fs.Regular (p.place []))
    (h : fs.makeDirectories p = (.ok (), fs')) : fs'.obstacle? [] (p.place []) = none := by
  cases hfault : p.fault? with
  | some e =>
    rw [makeDirectories_of_fault? hp hfault] at h
    cases h
  | none =>
    by_cases hne : p.place [] = []
    · rw [hne]
      rfl
    obtain ⟨loc, name, hplace⟩ := exists_concat hne
    rw [hplace] at hregular ⊢
    rw [makeDirectories_eq ⟨hp, hfault, hplace, hregular⟩] at h
    rcases hway : fs.makeWay [] loc with ⟨_ | _, fs₁⟩
    · rw [hway] at h
      cases h
    · rw [hway] at h
      have hsettle : fs₁.settle p.endsInSlash p.endsInDot loc name = (.ok (), fs') := h
      have hgrows := grows_settle fs₁ p.endsInSlash p.endsInDot loc name
      rw [hsettle] at hgrows
      rw [obstacle?_concat, hgrows.obstacle?_eq_none (obstacle?_of_makeWay hway)]
      exact obstacle?_of_settle hsettle

/-- **What comes of creating a directory is the same on trees beside each other.** -/
theorem makeDirectories_beside (hp : p.Direct) (hne : p.place [] ≠ [])
    (hregular : fs.Regular (p.place [])) (hregular₀ : fs₀.Regular (p.place []))
    (h : Beside (p.place []) fs₀ fs) :
    (fs.makeDirectories p).1 = (fs₀.makeDirectories p).1 ∧
      (fs.makeDirectories p).2.branch (p.place []) =
        (fs₀.makeDirectories p).2.branch (p.place []) := by
  cases hfault : p.fault? with
  | some e =>
    rw [makeDirectories_of_fault? hp hfault, makeDirectories_of_fault? hp hfault]
    exact ⟨rfl, h.branch⟩
  | none =>
    obtain ⟨loc, name, hplace⟩ := exists_concat hne
    rw [hplace] at hregular hregular₀ h ⊢
    rw [makeDirectories_eq ⟨hp, hfault, hplace, hregular⟩,
      makeDirectories_eq ⟨hp, hfault, hplace, hregular₀⟩]
    obtain ⟨hanswer, hrefusal⟩ := makeWay_alike fun q hq ↦
      h.grown q (hq.trans (List.prefix_append ..)) fun heq ↦ not_concat_prefix (heq ▸ hq)
    have hbranch (fs : FileSystem) :
        (fs.makeWay [] loc).2.branch (loc ++ [name]) = fs.branch (loc ++ [name]) :=
      (grows_makeWay fs [] loc).branch not_concat_prefix
    have hbranches := ((hbranch fs).trans h.branch).trans (hbranch fs₀).symm
    rcases hway : fs.makeWay [] loc with ⟨e | _, fs₁⟩ <;>
      rcases hway₀ : fs₀.makeWay [] loc with ⟨e₀ | _, fs₂⟩ <;>
      rw [hway, hway₀] at hanswer hrefusal hbranches
    · exact ⟨hanswer, hbranches⟩
    · cases hanswer
    · cases hanswer
    · exact settle_beside (hrefusal rfl) hbranches ..

/-- Nor does it matter who has created the directory itself. -/
theorem makeDirectories_of_grown (hp : p.Direct) (hregular : fs.Regular (p.place []))
    (hregular₀ : fs₀.Regular (p.place [])) (hdot : p.place [] ≠ [] → p.endsInDot = false)
    (hgrown : ∀ q, q <+: p.place [] → Grown fs₀ fs q) :
    (fs.makeDirectories p).1 = (fs₀.makeDirectories p).1 ∧
      ((fs.makeDirectories p).1 = .ok () → (fs.makeDirectories p).2.refusalAt (p.place []) =
        (fs₀.makeDirectories p).2.refusalAt (p.place [])) := by
  cases hfault : p.fault? with
  | some e =>
    rw [makeDirectories_of_fault? hp hfault, makeDirectories_of_fault? hp hfault]
    exact ⟨rfl, fun hok ↦ by cases hok⟩
  | none =>
    by_cases hplace : p.place [] = []
    · rw [makeDirectories_of_root hp hfault hplace hregular,
        makeDirectories_of_root hp hfault hplace hregular₀, hplace]
      exact ⟨rfl, fun _ ↦ rfl⟩
    · have hdot := hdot hplace
      obtain ⟨loc, name, hplace⟩ := exists_concat hplace
      rw [hplace] at hregular hregular₀ hgrown ⊢
      rw [makeDirectories_eq ⟨hp, hfault, hplace, hregular⟩,
        makeDirectories_eq ⟨hp, hfault, hplace, hregular₀⟩, hdot]
      obtain ⟨hanswer, hrefusal⟩ := makeWay_alike fun q hq ↦
        hgrown q (hq.trans (List.prefix_append ..))
      have hlast := (hgrown _ List.prefix_rfl).of_grows (grows_makeWay fs₀ [] loc)
        (grows_makeWay fs [] loc) not_concat_prefix
      rcases hway : fs.makeWay [] loc with ⟨e | _, fs₁⟩ <;>
        rcases hway₀ : fs₀.makeWay [] loc with ⟨e₀ | _, fs₂⟩ <;>
        rw [hway, hway₀] at hanswer hrefusal hlast
      · exact ⟨hanswer, nofun⟩
      · cases hanswer
      · cases hanswer
      · exact settle_of_grown hlast (hrefusal rfl)

/-! ### Writing a file -/

theorem follow_single (fs : FileSystem) (purpose : Purpose) (slash dot : Bool) (loc : Location)
    (name : FileName) :
    (∃ e, fs.follow purpose slash dot loc [name] = .error e) ∨
      fs.follow purpose slash dot loc [name] = .ok (.free loc name) ∨
      fs.follow purpose slash dot loc [name] = .ok (.taken (loc ++ [name])) := by
  rw [follow]
  split
  · exact Or.inl ⟨_, rfl⟩
  split
  · exact Or.inl ⟨_, rfl⟩
  split
  · split
    · exact Or.inr (Or.inl rfl)
    · exact Or.inl ⟨_, rfl⟩
  · exact Or.inr (Or.inr rfl)
  · split
    · exact Or.inr (Or.inr rfl)
    · exact Or.inl ⟨_, rfl⟩

theorem follow_single_eq (h : fs.node? (loc ++ [name]) = fs₀.node? (loc ++ [name]))
    (purpose : Purpose) (slash dot : Bool) :
    fs.follow purpose slash dot loc [name] = fs₀.follow purpose slash dot loc [name] := by
  rw [follow, follow, h]
  rfl

/-- What comes of writing a file once its directory is there. -/
theorem writeBytes_beside (h : fs.Leads p loc name) (h₀ : fs₀.Leads p loc name)
    (hway : fs.obstacle? [] loc = none) (hway₀ : fs₀.obstacle? [] loc = none)
    (hrefusal : fs.refusalAt loc = fs₀.refusalAt loc)
    (hbranch : fs.branch (loc ++ [name]) = fs₀.branch (loc ++ [name])) (content : Bytes) :
    (fs.writeBytes p content).1 = (fs₀.writeBytes p content).1 ∧
      (fs.writeBytes p content).2.branch (loc ++ [name]) =
        (fs₀.writeBytes p content).2.branch (loc ++ [name]) := by
  have hnode := node?_eq_of_branch hbranch List.prefix_rfl
  rw [writeBytes, writeBytes, locate_eq_follow h.direct (h.place ▸ h.regular),
    locate_eq_follow h.direct (h.place ▸ h₀.regular), h.fault, h.place, follow_concat, follow_concat,
    hway, hway₀, List.nil_append]
  dsimp only
  rw [follow_single_eq hnode]
  rcases follow_single fs₀ .writing p.endsInSlash p.endsInDot loc name with ⟨e, hfollow⟩ | hfollow |
    hfollow <;> rw [hfollow]
  · exact ⟨rfl, hbranch⟩
  · exact create_beside hrefusal hbranch _
  · dsimp only
    rw [hnode]
    cases fs₀.node? (loc ++ [name]) with
    | none => exact ⟨rfl, hbranch⟩
    | some node =>
      cases node with
      | file content' executable =>
        exact ⟨rfl, by rw [branch_put List.prefix_rfl, branch_put List.prefix_rfl, hbranch]⟩
      | directory | link | device => exact ⟨rfl, hbranch⟩

/-! ### Removing what is below -/

theorem removeAt_branch (hloc : place <+: loc.dropLast) :
    (fs.branch place).removeAt loc = ((fs.removeAt loc).1, (fs.removeAt loc).2.branch place) := by
  rw [removeAt, removeAt, refusalAt_eq (node?_branch hloc)]
  cases fs.refusalAt loc.dropLast with
  | some e => rfl
  | none => exact Prod.ext rfl branch_erase.symm

theorem removeEach_branch {locs : List Location} (hlocs : ∀ loc ∈ locs, place <+: loc.dropLast) :
    (fs.branch place).removeEach locs =
      ((fs.removeEach locs).1, (fs.removeEach locs).2.branch place) := by
  induction locs generalizing fs with
  | nil => rfl
  | cons loc locs ih =>
    obtain ⟨hloc, hlocs⟩ := List.forall_mem_cons.1 hlocs
    rw [removeEach, removeEach, removeAt_branch hloc]
    rcases fs.removeAt loc with ⟨_ | _, fs'⟩
    · rfl
    · exact ih hlocs

theorem prefix_dropLast_of_ne (h : place <+: q) (hne : q ≠ place) : place <+: q.dropLast := by
  rcases List.eq_nil_or_concat q with rfl | ⟨init, name, rfl⟩
  · exact h
  · rw [List.concat_eq_append] at h hne ⊢
    rw [List.dropLast_concat]
    exact (List.prefix_concat_iff.1 h).resolve_left (Ne.symm hne)

/-- What is removed with a place that is right below another one. -/
theorem prefix_of_mem_removed {dir : Location} (hdir : place <+: dir)
    (hq : q ∈ fs.below (dir ++ [name]) ++ [dir ++ [name]]) :
    place <+: q.dropLast ∧ dir ++ [name] <+: q := by
  rcases List.mem_append.1 hq with hbelow | hself
  · have hmem := (List.mem_filter.1 (List.mem_mergeSort.1 hbelow)).2
    obtain ⟨hbelow, hne⟩ := isBelow_iff.1 hmem
    refine ⟨?_, hbelow⟩
    exact (hdir.trans (List.prefix_append ..)).trans (prefix_dropLast_of_ne hbelow hne)
  · rw [List.mem_singleton.1 hself, List.dropLast_concat]
    exact ⟨hdir, List.prefix_rfl⟩

theorem removeTree_branch {dir : Location} (hdir : place <+: dir) :
    (fs.branch place).removeTree (dir ++ [name]) =
      ((fs.removeTree (dir ++ [name])).1, (fs.removeTree (dir ++ [name])).2.branch place) := by
  rw [removeTree, removeTree, below_branch (hdir.trans (List.prefix_append ..))]
  exact removeEach_branch fun q hq ↦ (prefix_of_mem_removed hdir hq).1

theorem only_removeEach {keep : Location → Bool} {locs : List Location}
    (hlocs : ∀ loc ∈ locs, keep loc = false) :
    (fs.removeEach locs).2.only keep = fs.only keep := by
  induction locs generalizing fs with
  | nil => rfl
  | cons loc locs ih =>
    obtain ⟨hloc, hlocs⟩ := List.forall_mem_cons.1 hlocs
    have hfirst : (fs.removeAt loc).2.only keep = fs.only keep := by
      rw [removeAt]
      split
      · rfl
      · exact only_erase_of_not hloc
    rw [removeEach]
    rcases hremove : fs.removeAt loc with ⟨_ | _, fs'⟩
    · rw [hremove] at hfirst
      exact hfirst
    · rw [hremove] at hfirst
      exact (ih hlocs).trans hfirst

end FileSystem

end SchemaForge
