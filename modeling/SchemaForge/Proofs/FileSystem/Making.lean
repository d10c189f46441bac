import SchemaForge.Proofs.FileSystem.Following

/-!
# Creating directories

`FileSystem.makeDirectories` looks for the nearest directory that can be created and then comes back
down. For a direct path on a regular way this comes to the same as going down from the root and
creating what is missing on the way (`FileSystem.makeDirectories_eq`).

A tree that has grown (`FileSystem.Grows`) has plain directories on the way to a place that were not
there before, each in a directory that lets others in. Whether somebody else has created them first
makes no difference to what comes of creating the rest (`FileSystem.makeWay_of_grown`).
-/

namespace SchemaForge

namespace FileSystem

/-- One operation and then another, unless the first one fails. -/
def andThen (r : Outcome Unit) (f : FileSystem → Outcome Unit) : Outcome Unit :=
  match r with
  | (.ok (), fs) => f fs
  | (.error e, fs) => (.error e, fs)

/-- Goes down from a directory and creates the directories that are missing. -/
def makeWay (fs : FileSystem) (loc : Location) : List FileName → Outcome Unit
  | [] => (.ok (), fs)
  | name :: rest =>
    if maxNameLength < name.bytes.length then (.error .nameTooLong, fs)
    else
      match fs.node? (loc ++ [name]) with
      | none =>
        andThen (fs.create loc name (.directory none)) fun fs' ↦ makeWay fs' (loc ++ [name]) rest
      | some (.directory _) => makeWay fs (loc ++ [name]) rest
      | some _ => (.error .notDirectory, fs)

/-- Makes sure that there is a directory of a name. A slash or a dot may stand behind the name. -/
def settle (fs : FileSystem) (slash dot : Bool) (loc : Location) (name : FileName) : Outcome Unit :=
  if maxNameLength < name.bytes.length then (.error .nameTooLong, fs)
  else
    match fs.node? (loc ++ [name]) with
    | none => if dot then (.error .notFound, fs) else fs.create loc name (.directory none)
    | some (.directory _) => (.ok (), fs)
    | some _ => (.error (if dot || slash then .notDirectory else .alreadyExists), fs)

/-! ### Growing trees -/

/-- A place is as it was, or there is a plain directory now, in one that lets others in. -/
def Grown (fs fs' : FileSystem) (q : Location) : Prop :=
  fs'.node? q = fs.node? q ∨
    fs.node? q = none ∧ fs'.node? q = some (.directory none) ∧ fs'.refusalAt q.dropLast = none

/-- A tree with more plain directories on the way to a place. -/
structure Grows (place : Location) (fs fs' : FileSystem) : Prop where
  elsewhere : ∀ keep : Location → Bool, (∀ q, keep q = true → ¬q <+: place) →
    fs'.only keep = fs.only keep
  onWay : ∀ q, q <+: place → Grown fs fs' q

variable {fs fs' fs'' : FileSystem} {place q loc : Location} {name : FileName} {p : Path}

theorem Grows.refl : Grows place fs fs := ⟨fun _ _ ↦ rfl, fun _ _ ↦ Or.inl rfl⟩

theorem Grows.node?_of_not (h : Grows place fs fs') (hq : ¬q <+: place) :
    fs'.node? q = fs.node? q :=
  node?_eq_of_only (h.elsewhere (· == q) fun _ hr ↦ beq_iff_eq.1 hr ▸ hq) (beq_self_eq_true q)

theorem Grows.grown (h : Grows place fs fs') (q : Location) : Grown fs fs' q :=
  if hq : q <+: place then h.onWay q hq else Or.inl (h.node?_of_not hq)

theorem Grows.node?_of_some (h : Grows place fs fs') {node : Node} (hq : fs.node? q = some node) :
    fs'.node? q = some node := by
  rcases h.grown q with heq | ⟨hnone, -⟩
  · rw [heq, hq]
  · rw [hq] at hnone
    cases hnone

theorem refusalAt_eq_none_iff : fs.refusalAt q = none ↔ fs.node? q = some (.directory none) := by
  rw [refusalAt]
  constructor
  · intro h
    split at h
    · rename_i hnode
      rw [hnode, h]
    · cases h
    · cases h
  · intro h
    rw [h]

theorem isDirectoryAt_iff : fs.isDirectoryAt q = true ↔ ∃ r, fs.node? q = some (.directory r) := by
  rw [isDirectoryAt]
  split
  · rename_i r hnode
    exact iff_of_true rfl ⟨r, hnode⟩
  · rename_i hnode
    exact iff_of_false Bool.false_ne_true fun h ↦ h.elim hnode

theorem Grows.trans (h : Grows place fs fs') (h' : Grows place fs' fs'') : Grows place fs fs'' := by
  refine ⟨fun keep hkeep ↦ (h'.elsewhere keep hkeep).trans (h.elsewhere keep hkeep),
    fun q hq ↦ ?_⟩
  rcases h.onWay q hq with heq | ⟨hnone, hplain, hrefusal⟩
  · rcases h'.onWay q hq with heq' | ⟨hnone', hplain', hrefusal'⟩
    · exact Or.inl (heq'.trans heq)
    · exact Or.inr ⟨heq ▸ hnone', hplain', hrefusal'⟩
  · -- what was created stays
    rw [refusalAt_eq_none_iff] at hrefusal
    exact Or.inr ⟨hnone, h'.node?_of_some hplain,
      refusalAt_eq_none_iff.2 (h'.node?_of_some hrefusal)⟩

theorem Grows.regular (h : Grows place fs fs') (hregular : fs.Regular q) : fs'.Regular q := by
  refine ⟨fun r hr target ↦ ?_, fun r hr hne hnode ↦ ?_⟩
  · rcases h.grown r with heq | ⟨-, hplain, -⟩
    · rw [heq]
      exact hregular.linkless r hr target
    · rw [hplain]
      exact nofun
  · rcases h.grown r with heq | ⟨-, -, hrefusal⟩
    · rw [heq] at hnode
      obtain ⟨refusal, hdirectory⟩ := isDirectoryAt_iff.1 (hregular.rooted r hr hne hnode)
      exact isDirectoryAt_iff.2 ⟨refusal, h.node?_of_some hdirectory⟩
    · exact isDirectoryAt_iff.2 ⟨none, refusalAt_eq_none_iff.1 hrefusal⟩

theorem Grows.mono (h : Grows q fs fs') (hq : q <+: place) : Grows place fs fs' :=
  ⟨fun keep hkeep ↦ h.elsewhere keep fun r hr hbelow ↦ hkeep r hr (hbelow.trans hq),
    fun r _ ↦ h.grown r⟩

theorem grows_create (hfree : fs.node? (loc ++ [name]) = none) :
    Grows (loc ++ [name]) fs (fs.create loc name (.directory none)).2 := by
  have hne : loc ++ [name] ≠ [] := by simp
  rw [create]
  split
  · exact .refl
  · rename_i hrefusal
    refine ⟨fun keep hkeep ↦ ?_, fun q hq ↦ ?_⟩
    · exact only_put_of_not (Bool.eq_false_iff.2 fun h ↦ hkeep _ h List.prefix_rfl) _
    · by_cases heq : q = loc ++ [name]
      · refine Or.inr ⟨heq ▸ hfree, heq ▸ node?_put_self fs hne _, ?_⟩
        rw [heq, List.dropLast_concat, ← hrefusal]
        exact refusalAt_eq (node?_put_of_ne fs (by simp) _)
      · exact Or.inl (node?_put_of_ne fs heq _)

theorem grows_makeWay (fs : FileSystem) (loc : Location) (names : List FileName) :
    Grows (loc ++ names) fs (fs.makeWay loc names).2 := by
  induction names generalizing fs loc with
  | nil => exact .refl
  | cons name names ih =>
    have hentry : loc ++ [name] <+: loc ++ name :: names := ⟨names, by simp⟩
    rw [makeWay]
    split
    · exact .refl
    · split
      · rename_i hnode
        have hfirst := (grows_create hnode).mono hentry
        rcases hcreate : fs.create loc name (.directory none) with ⟨_ | _, fs'⟩
        · rw [hcreate] at hfirst
          exact hfirst
        · rw [hcreate] at hfirst
          refine hfirst.trans ?_
          have := ih fs' (loc ++ [name])
          rwa [List.append_assoc, List.singleton_append] at this
      · have := ih fs (loc ++ [name])
        rwa [List.append_assoc, List.singleton_append] at this
      · exact .refl

theorem makeWay_concat (fs : FileSystem) (loc : Location) (names : List FileName)
    (name : FileName) : fs.makeWay loc (names ++ [name]) =
      andThen (fs.makeWay loc names) fun fs' ↦ fs'.makeWay (loc ++ names) [name] := by
  induction names generalizing fs loc with
  | nil =>
    rw [List.append_nil]
    rfl
  | cons n names ih =>
    rw [List.cons_append, makeWay, makeWay]
    split
    · rfl
    · split
      · rcases fs.create loc n (.directory none) with ⟨_ | _, fs'⟩
        · rfl
        · refine (ih fs' _).trans ?_
          rw [List.append_assoc, List.singleton_append]
          rfl
      · rw [ih, List.append_assoc, List.singleton_append]
      · rfl

/-- The way is there once it was made. -/
theorem obstacle?_of_makeWay {names : List FileName}
    (h : fs.makeWay loc names = (.ok (), fs')) : fs'.obstacle? loc names = none := by
  induction names generalizing fs loc with
  | nil => rfl
  | cons name names ih =>
    rw [makeWay] at h
    split at h
    · cases h
    · rename_i hshort
      -- the first directory is there from now on
      have hstays {fs₁ : FileSystem} {refusal : Option IoFault}
          (hnode : fs₁.node? (loc ++ [name]) = some (.directory refusal))
          (hrest : fs₁.makeWay (loc ++ [name]) names = (.ok (), fs')) :
          fs'.obstacle? loc (name :: names) = none := by
        have hgrows := grows_makeWay fs₁ (loc ++ [name]) names
        rw [hrest] at hgrows
        rw [obstacle?, if_neg hshort, hgrows.node?_of_some hnode]
        exact ih hrest
      split at h
      · rename_i hnode
        rw [create] at h
        split at h
        · cases h
        · exact hstays (node?_put_self fs (by simp) _) h
      · rename_i hnode
        exact hstays hnode h
      · cases h

theorem makeWay_of_obstacle?_eq_none {names : List FileName}
    (h : fs.obstacle? loc names = none) : fs.makeWay loc names = (.ok (), fs) := by
  induction names generalizing loc with
  | nil => rfl
  | cons name names ih =>
    by_cases hlong : maxNameLength < name.bytes.length
    · rw [obstacle?, if_pos hlong] at h
      cases h
    · rw [obstacle?, if_neg hlong] at h
      rw [makeWay, if_neg hlong]
      cases hnode : fs.node? (loc ++ [name]) with
      | none =>
        rw [hnode] at h
        cases h
      | some node =>
        rw [hnode] at h
        cases node with
        | directory refusal => exact ih h
        | file | link | device => cases h

/-- What is in the way stays in the way, if it is not that something is missing. -/
theorem makeWay_of_obstacle? {names : List FileName} {e : IoFault}
    (h : fs.obstacle? loc names = some e) (he : e ≠ .notFound) :
    fs.makeWay loc names = (.error e, fs) := by
  induction names generalizing loc with
  | nil => cases h
  | cons name names ih =>
    by_cases hlong : maxNameLength < name.bytes.length
    · rw [obstacle?, if_pos hlong] at h
      cases h
      rw [makeWay, if_pos hlong]
    · rw [obstacle?, if_neg hlong] at h
      rw [makeWay, if_neg hlong]
      cases hnode : fs.node? (loc ++ [name]) with
      | none =>
        rw [hnode] at h
        cases h
        exact absurd rfl he
      | some node =>
        rw [hnode] at h
        cases node with
        | directory refusal => exact ih h
        | file | link | device =>
          cases h
          rfl

/-! ### From below -/

/-- A direct path that can be followed on a regular way to the place `loc ++ [name]`. -/
structure Leads (fs : FileSystem) (p : Path) (loc : Location) (name : FileName) : Prop where
  direct : p.Direct
  fault : p.fault? = none
  place : p.place [] = loc ++ [name]
  regular : fs.Regular (loc ++ [name])

theorem Grows.leads (h : Grows q fs fs') (hleads : fs.Leads p loc name) : fs'.Leads p loc name :=
  { hleads with regular := h.regular hleads.regular }

theorem makeDirectory_of_error {e : IoFault} (h : fs.makeDirectory p = (.error e, fs')) :
    fs' = fs := by
  rw [makeDirectory] at h
  split at h
  · exact (Prod.mk.inj h).2.symm
  · exact (Prod.mk.inj h).2.symm
  · rw [create] at h
    split at h
    · exact (Prod.mk.inj h).2.symm
    · cases h

theorem makeDirectory_of_obstacle? (h : fs.Leads p loc name) {e : IoFault}
    (hobstacle : fs.obstacle? [] loc = some e) : fs.makeDirectory p = (.error e, fs) := by
  rw [makeDirectory, locate_eq_follow h.direct (h.place ▸ h.regular), h.fault, h.place,
    follow_concat, hobstacle]

theorem isDirectory_of_obstacle? (h : fs.Leads p loc name) {e : IoFault}
    (hobstacle : fs.obstacle? [] loc = some e) : fs.isDirectory p = false := by
  rw [isDirectory_eq h.direct h.fault (h.place ▸ h.regular), h.place, obstacle?_concat, hobstacle]
  rfl

/-- The first of the directories to create, when the one above it is there. -/
theorem makeEach_cons (h : fs.Leads p loc name) (hway : fs.obstacle? [] loc = none)
    (ps : List Path) : fs.makeEach (p :: ps) =
      andThen (fs.settle p.endsInSlash p.endsInDot loc name) fun fs' ↦ fs'.makeEach ps := by
  have hisDirectory : fs.isDirectory p = (fs.obstacle? loc [name]).isNone := by
    rw [isDirectory_eq h.direct h.fault (h.place ▸ h.regular), h.place, obstacle?_concat, hway]
    rfl
  have hentry : (Purpose.entry == Purpose.writing) = false := rfl
  rw [makeEach, makeDirectory, locate_eq_follow h.direct (h.place ▸ h.regular), h.fault, h.place,
    follow_concat, hway, settle]
  rw [obstacle?] at hisDirectory
  dsimp only
  rw [List.nil_append, follow, hentry, Bool.and_false, if_neg Bool.false_ne_true]
  by_cases hlong : maxNameLength < name.bytes.length
  · rw [if_pos hlong] at hisDirectory ⊢
    rw [if_pos hlong]
    dsimp only
    rw [hisDirectory]
    rfl
  rw [if_neg hlong] at hisDirectory ⊢
  rw [if_neg hlong]
  cases hnode : fs.node? (loc ++ [name]) with
  | none =>
    rw [hnode] at hisDirectory
    cases p.endsInDot with
    | true => simp [andThen, hisDirectory]
    | false =>
      simp only [create]
      cases hrefusal : fs.refusalAt loc with
      | some e => simp [andThen, hisDirectory, hrefusal]
      | none => simp [andThen, hrefusal]
  | some node =>
    rw [hnode] at hisDirectory
    cases node with
    | directory refusal => simp [andThen, hisDirectory, obstacle?, follow]
    | link target => exact absurd hnode (h.regular.linkless _ List.prefix_rfl target)
    | file | device =>
      cases p.endsInDot <;> cases p.endsInSlash <;> simp [andThen, hisDirectory]

/-- Nothing is to be created above a directory that is there. -/
theorem makeFrom_of_directory (hdirect : p.Direct) (hfault : p.fault? = none)
    (hregular : fs.Regular (p.place [])) (hway : fs.obstacle? [] (p.place []) = none)
    (missing : List Path) {fuel : ℕ} (hfuel : fuel ≠ 0) :
    fs.makeFrom missing fuel p = fs.makeEach missing := by
  obtain ⟨fuel, rfl⟩ := Nat.exists_eq_succ_of_ne_zero hfuel
  have hentry : Purpose.entry ≠ .writing := by decide
  have hmake : fs.makeDirectory p = (.error .alreadyExists, fs) := by
    rw [makeDirectory, locate_eq_follow hdirect hregular, hfault,
      follow_of_obstacle?_eq_none hentry hway]
  have hdirectory : fs.isDirectory p = true := by
    rw [isDirectory_eq hdirect hfault hregular, hway]
    rfl
  rw [makeFrom, if_neg (by simpa using hdirect.text_ne_empty), hmake]
  dsimp only
  rw [if_neg (by decide), if_pos hdirectory]

/-- The path above one that leads to a name. -/
theorem Leads.exists_parent (h : fs.Leads p loc name) :
    ∃ q, p.parent? = some q ∧ q.Direct ∧ q.fault? = none ∧ q.place [] = loc ∧
      (loc ≠ [] → q.endsInSlash = false ∧ q.endsInDot = false) := by
  have hne : p.place [] ≠ [] := by
    rw [h.place]
    simp
  obtain ⟨q, hq, hdirect, hplace, hends, hfault⟩ := h.direct.exists_parent hne
  rw [h.place, List.dropLast_concat] at hplace
  exact ⟨q, hq, hdirect, hfault h.fault, hplace, hplace ▸ hends⟩

/-- A directory above a missing one, once the way to it was made, is made as the way is. -/
theorem settle_eq_makeWay {last : FileName} (hregular : fs.Regular (loc ++ [last]))
    (hobstacle : fs.obstacle? [] (loc ++ [last]) = some .notFound)
    (hway : fs.makeWay [] loc = (.ok (), fs')) :
    fs'.settle false false loc last = fs'.makeWay loc [last] := by
  have hgrows := grows_makeWay fs [] loc
  rw [hway] at hgrows
  -- there is no file in its place, as something is missing on the way to it
  have hmissing : fs.node? (loc ++ [last]) = none := by
    refine Decidable.byContradiction fun hnode ↦ obstacle?_ne_notFound (fun q _ hq ↦ ?_) hobstacle
    exact hregular.node?_ne_none hnode hq
  have hfree : fs'.node? (loc ++ [last]) = none := by
    refine (hgrows.node?_of_not fun hbelow ↦ ?_).trans hmissing
    have hlength := hbelow.length_le
    rw [List.length_append, List.length_singleton, List.nil_append] at hlength
    omega
  rw [settle, makeWay, hfree]
  split
  · rfl
  · rcases fs'.create loc last (.directory none) with ⟨_ | _, _⟩ <;> rfl

theorem makeFrom_of_way (h : fs.Leads p loc name) (hway : fs.obstacle? [] loc = none)
    (missing : List Path) {fuel : ℕ} (hfuel : 1 < fuel) :
    fs.makeFrom missing fuel p = fs.makeEach (p :: missing) := by
  obtain ⟨fuel, rfl⟩ := Nat.exists_eq_succ_of_ne_zero (Nat.ne_zero_of_lt hfuel)
  obtain ⟨q, hq, hqdirect, hqfault, rfl, -⟩ := h.exists_parent
  rw [makeFrom, if_neg (by simpa using h.direct.text_ne_empty)]
  rcases hmake : fs.makeDirectory p with ⟨e | _, fs'⟩
  · dsimp only
    split
    · rw [hq, makeDirectory_of_error hmake]
      exact makeFrom_of_directory hqdirect hqfault (h.regular.of_isPrefix (List.prefix_append ..)) hway
        _ (Nat.ne_zero_of_lt (Nat.lt_of_succ_lt_succ hfuel))
    · rw [makeEach, hmake]
  · rw [makeEach, hmake]

/-- **Creating from below is creating from above.** -/
theorem makeFrom_eq (h : fs.Leads p loc name) (missing : List Path) {fuel : ℕ}
    (hfuel : loc.length + 1 < fuel) :
    fs.makeFrom missing fuel p =
      andThen (fs.makeWay [] loc) fun fs' ↦ fs'.makeEach (p :: missing) := by
  induction loc using List.reverseRecOn generalizing p name missing fuel with
  | nil => exact makeFrom_of_way h rfl missing hfuel
  | append_singleton init last ih =>
    rw [List.length_append, List.length_singleton] at hfuel
    cases hobstacle : fs.obstacle? [] (init ++ [last]) with
    | none =>
      rw [makeWay_of_obstacle?_eq_none hobstacle]
      exact makeFrom_of_way h hobstacle missing (by omega)
    | some e =>
      obtain ⟨fuel, rfl⟩ := Nat.exists_eq_succ_of_ne_zero (Nat.ne_zero_of_lt hfuel)
      obtain ⟨q, hq, hqdirect, hqfault, hqplace, hqends⟩ := h.exists_parent
      rw [makeFrom, if_neg (by simpa using h.direct.text_ne_empty),
        makeDirectory_of_obstacle? h hobstacle]
      dsimp only
      by_cases he : e = .notFound
      · -- the way is made to the directory above first, and then on to it
        subst he
        obtain ⟨hslash, hdot⟩ := hqends (by simp)
        have hqregular : fs.Regular (init ++ [last]) := h.regular.of_isPrefix (List.prefix_append ..)
        have hqleads : fs.Leads q init last := ⟨hqdirect, hqfault, hqplace, hqregular⟩
        rw [if_pos (beq_self_eq_true _), hq]
        dsimp only
        rw [ih hqleads _ (by omega), makeWay_concat]
        rcases hway : fs.makeWay [] init with ⟨_ | _, fs'⟩
        · rfl
        · have hgrows := grows_makeWay fs [] init
          rw [hway] at hgrows
          show fs'.makeEach (q :: p :: missing) =
            andThen (fs'.makeWay init [last]) fun fs'' ↦ fs''.makeEach (p :: missing)
          rw [makeEach_cons (hgrows.leads hqleads) (obstacle?_of_makeWay hway), hslash, hdot,
            settle_eq_makeWay hqregular hobstacle hway]
      · rw [if_neg (by simpa using he), isDirectory_of_obstacle? h hobstacle,
          if_neg Bool.false_ne_true, makeWay_of_obstacle? hobstacle he]
        rfl

/-- A directory with all that are missing above it, from the root down. -/
theorem makeDirectories_eq (h : fs.Leads p loc name) :
    fs.makeDirectories p = andThen (fs.makeWay [] loc) fun fs' ↦
      fs'.settle p.endsInSlash p.endsInDot loc name := by
  have hlength := h.direct.length_place []
  rw [h.place, List.length_append, List.length_singleton] at hlength
  rw [makeDirectories, makeFrom_eq h [] (by omega)]
  rcases hway : fs.makeWay [] loc with ⟨_ | _, fs'⟩
  · rfl
  · have hgrows := grows_makeWay fs [] loc
    rw [hway] at hgrows
    show fs'.makeEach [p] = fs'.settle p.endsInSlash p.endsInDot loc name
    rw [makeEach_cons (hgrows.leads h) (obstacle?_of_makeWay hway)]
    rcases fs'.settle p.endsInSlash p.endsInDot loc name with ⟨_ | _, _⟩ <;> rfl

/-- A path that no tree can follow is refused at once. -/
theorem makeDirectories_of_fault? {e : IoFault} (hdirect : p.Direct) (hfault : p.fault? = some e) :
    fs.makeDirectories p = (.error e, fs) := by
  have hempty : (p.text == "") = false := by simpa using hdirect.text_ne_empty
  have he : (e == .notFound) = false := by
    rw [Path.fault?, hempty] at hfault
    split at hfault
    · cases hfault
      rfl
    · rw [if_neg Bool.false_ne_true] at hfault
      split at hfault
      · cases hfault
        rfl
      · cases hfault
  have hdirectory : fs.isDirectory p = false := by
    rw [isDirectory, stat, resolve, locate_of_fault? hfault]
  rw [makeDirectories, makeFrom, hempty, if_neg Bool.false_ne_true, makeDirectory,
    locate_of_fault? hfault]
  dsimp only
  rw [he, hdirectory]
  rfl

theorem fault?_of_makeDirectories (hdirect : p.Direct)
    (h : fs.makeDirectories p = (.ok (), fs')) : p.fault? = none := by
  rw [Option.eq_none_iff_forall_ne_some]
  intro e hfault
  rw [makeDirectories_of_fault? hdirect hfault] at h
  cases h

end FileSystem

end SchemaForge
