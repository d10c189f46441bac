import SchemaForge.Migration.Script
import SchemaForge.Proofs.FileSystem.Working

/-!
# Reading beside others

What a path leads to is the same on trees beside each other at its place, although the one may have
grown on the way there, if the path never turns back. There is one exception: where a name is too
long for any directory, nothing is found as long as a directory above it is missing, and the name is
refused once somebody has created that. So a file is read alike if all names on the way are short
(`FileSystem.readText_beside`).
-/

namespace SchemaForge

/-- As a path, the name is a name: it is not empty, has no slash, and is none of `.` and `..`. -/
def FileName.IsProper (n : FileName) : Prop :=
  ∀ s, n.text? = some s → (⟨s⟩ : Path).steps = [.name s]

/-- A tree as a system has it, without links. -/
structure FileSystem.IsPlain (fs : FileSystem) : Prop where
  linkless : fs.Linkless
  rooted : ∀ loc, loc ≠ [] → fs.node? loc ≠ none → fs.isDirectoryAt loc.dropLast = true
  proper : ∀ loc name, fs.node? (loc ++ [name]) ≠ none → name.IsProper

instance (n : FileName) : Decidable n.IsProper :=
  match htext : n.text? with
  | none => .isTrue fun s hs ↦ by
    rw [htext] at hs
    cases hs
  | some s => decidable_of_iff ((⟨s⟩ : Path).steps = [.name s]) ⟨fun h s' hs' ↦ by
    obtain rfl := Option.some.inj (htext.symm.trans hs')
    exact h, fun h ↦ h s htext⟩

/-- Whether the node is a link. -/
def Node.isLink : Node → Bool
  | .link _ => true
  | _ => false

namespace FileSystem

variable {fs fs₀ : FileSystem} {purpose : Purpose} {slash dot : Bool} {loc place : Location}
  {names : List FileName} {p : Path}

/-- The location of what a place holds. -/
def destination : Except IoFault Place → Except IoFault Location
  | .ok (.taken loc) => .ok loc
  | .ok (.free ..) => .error .notFound
  | .error e => .error e

theorem resolve_eq (fs : FileSystem) (purpose : Purpose) (p : Path) :
    fs.resolve purpose p = destination (fs.locate purpose p) := by
  rw [resolve]
  rcases fs.locate purpose p with e | (_ | _) <;> rfl

/-- Every directory can hold the names. -/
def Short (names : List FileName) : Prop := ∀ name ∈ names, name.bytes.length ≤ maxNameLength

instance (names : List FileName) : Decidable (Short names) :=
  inferInstanceAs (Decidable (∀ name ∈ names, name.bytes.length ≤ maxNameLength))

theorem eq_of_follow_taken {l : Location}
    (h : fs.follow purpose slash dot loc names = .ok (.taken l)) : l = loc ++ names := by
  induction names generalizing loc with
  | nil =>
    obtain rfl := Place.taken.inj (Except.ok.inj h)
    exact (List.append_nil _).symm
  | cons name names ih =>
    rw [follow] at h
    split at h
    · cases h
    split at h
    · cases h
    split at h
    · split at h <;> cases h
    · rw [ih h, List.append_assoc, List.singleton_append]
    · split at h
      · rename_i hlast
        rw [Bool.and_eq_true, Bool.and_eq_true, List.isEmpty_iff] at hlast
        rw [hlast.1.1]
        exact (Place.taken.inj (Except.ok.inj h)).symm
      · cases h

theorem follow_congr (h : ∀ q, q <+: loc ++ names → fs.node? q = fs₀.node? q) :
    fs.follow purpose slash dot loc names = fs₀.follow purpose slash dot loc names := by
  induction names generalizing loc with
  | nil => rfl
  | cons name names ih =>
    rw [← List.singleton_append, ← List.append_assoc] at h
    rw [follow, follow, h _ (List.prefix_append ..), ih h]

/-- Where nothing but plain directories is on the way and the last of them is missing, nothing is
found. -/
theorem follow_of_missing (hpurpose : purpose ≠ .writing) (hshort : Short names) (hne : names ≠ [])
    (hway : ∀ q, loc <+: q → q ≠ loc → q <+: loc ++ names →
      fs.node? q = none ∨ fs.node? q = some (.directory none))
    (hlast : fs.node? (loc ++ names) = none) :
    destination (fs.follow purpose slash dot loc names) = .error .notFound := by
  have hwriting : (purpose == .writing) = false := beq_false_of_ne hpurpose
  induction names generalizing loc with
  | nil => exact absurd rfl hne
  | cons name names ih =>
    obtain ⟨hname, hshort⟩ := List.forall_mem_cons.1 hshort
    have happend : loc ++ name :: names = loc ++ [name] ++ names := by simp
    rw [happend] at hway hlast
    rw [follow, hwriting, Bool.and_false, if_neg Bool.false_ne_true, if_neg (Nat.not_lt.2 hname)]
    rcases hway _ (List.prefix_append loc [name]) (by simp) (List.prefix_append ..) with
      hnode | hnode
    · rw [hnode]
      dsimp only
      split <;> rfl
    · rw [hnode]
      cases names with
      | nil =>
        rw [List.append_nil, hnode] at hlast
        cases hlast
      | cons n names =>
        refine ih hshort (List.cons_ne_nil _ _) (fun q hq hself hq' ↦ ?_) hlast
        refine hway q ((List.prefix_append ..).trans hq) (fun heq ↦ ?_) hq'
        exact not_concat_prefix (heq ▸ hq)

theorem Regular.missing_of_isPrefix {q : Location} (h : fs.Regular place) (hq : q <+: place)
    (hnone : fs.node? q = none) : fs.node? place = none :=
  Decidable.byContradiction fun hplace ↦ h.node?_ne_none hplace hq hnone

/-- Where a name is missing on the way, so is all that comes after it. -/
theorem Regular.missing_of_concat {name : FileName} (h : fs.Regular (loc ++ name :: names))
    (hnone : fs.node? (loc ++ [name]) = none) {q : Location} (hq : loc <+: q) (hself : q ≠ loc)
    (hq' : q <+: loc ++ name :: names) : fs.node? q = none := by
  refine (h.of_isPrefix hq').missing_of_isPrefix ?_ hnone
  obtain ⟨rest, rfl⟩ := hq
  rw [List.prefix_append_right_inj] at hq' ⊢
  cases rest with
  | nil => exact absurd (List.append_nil loc) hself
  | cons n rest =>
    obtain ⟨rfl, -⟩ := List.cons_prefix_cons.1 hq'
    exact ⟨rest, rfl⟩

/-- Where something is missing in the end, it makes no difference how far the way is there. -/
theorem follow_of_grown (hpurpose : purpose ≠ .writing) (hshort : Short names)
    (hgrown : ∀ q, loc <+: q → q ≠ loc → q <+: loc ++ names → Grown fs₀ fs q)
    (hregular : fs₀.Regular (loc ++ names)) (hlast : fs.node? (loc ++ names) = none) :
    destination (fs.follow purpose slash dot loc names) =
      destination (fs₀.follow purpose slash dot loc names) := by
  have hwriting : (purpose == .writing) = false := beq_false_of_ne hpurpose
  induction names generalizing loc with
  | nil => rfl
  | cons name names ih =>
    have happend : loc ++ name :: names = loc ++ [name] ++ names := by simp
    rcases hgrown _ (List.prefix_append loc [name]) (by simp) ⟨names, happend.symm⟩ with
      heq | ⟨hnone, -, -⟩
    · obtain ⟨hname, hshort⟩ := List.forall_mem_cons.1 hshort
      rw [follow, follow, hwriting, Bool.and_false, if_neg Bool.false_ne_true,
        if_neg Bool.false_ne_true, if_neg (Nat.not_lt.2 hname), if_neg (Nat.not_lt.2 hname), heq]
      cases hnode : fs₀.node? (loc ++ [name]) with
      | none => rfl
      | some node =>
        cases node with
        | directory refusal =>
          cases names with
          | nil =>
            rw [heq, hnode] at hlast
            cases hlast
          | cons n names =>
            refine ih hshort (fun q hq hself hq' ↦ ?_) (happend ▸ hregular) (happend ▸ hlast)
            refine hgrown q ((List.prefix_append ..).trans hq) (fun heq ↦ ?_) (happend ▸ hq')
            exact not_concat_prefix (heq ▸ hq)
        | file | link | device => rfl
    · -- nothing was there from here on, and directories are all that there can be now
      have hbelow (q) (hq : loc <+: q) (hself : q ≠ loc) (hq' : q <+: loc ++ name :: names) :
          fs₀.node? q = none :=
        hregular.missing_of_concat hnone hq hself hq'
      have hmissing {fs : FileSystem} (h : ∀ q, loc <+: q → q ≠ loc → q <+: loc ++ name :: names →
          fs.node? q = none ∨ fs.node? q = some (.directory none))
          (hlast : fs.node? (loc ++ name :: names) = none) :
          destination (fs.follow purpose slash dot loc (name :: names)) = .error .notFound :=
        follow_of_missing hpurpose hshort (List.cons_ne_nil _ _) h hlast
      rw [hmissing (fun q hq hself hq' ↦ ?_) hlast, hmissing
        (fun q hq hself hq' ↦ Or.inl (hbelow q hq hself hq'))
        (hbelow _ (List.prefix_append ..) (by simp) List.prefix_rfl)]
      rcases hgrown q hq hself hq' with heq | ⟨-, hplain, -⟩
      · exact Or.inl (heq.trans (hbelow q hq hself hq'))
      · exact Or.inr hplain

/-! ### On trees beside each other -/

theorem Beside.grown_of_prefix (h : Beside place fs₀ fs) {q : Location} (hq : q <+: place) :
    Grown fs₀ fs q := by
  by_cases hself : q = place
  · exact Or.inl (hself ▸ node?_eq_of_branch h.branch List.prefix_rfl)
  · exact h.grown q hq hself

theorem Beside.regular (h : Beside place fs₀ fs) (hregular : fs₀.Regular place) :
    fs.Regular place :=
  regular_of_grown hregular fun _ ↦ h.grown_of_prefix

theorem Beside.workingDirectory_eq (h : Beside place fs₀ fs) :
    fs.workingDirectory = fs₀.workingDirectory :=
  workingDirectory_eq_of_only h.branch

/-- A path is followed from the same place. -/
theorem Beside.locate_eq_follow_way (h : Beside (p.place fs₀.workingDirectory) fs₀ fs)
    (hp : p.Forward) (hregular : fs₀.Regular (p.place fs₀.workingDirectory)) (purpose : Purpose) :
    fs.locate purpose p = match p.fault? with
      | some e => .error e
      | none =>
        fs.follow purpose p.endsInSlash p.endsInDot (p.origin fs₀.workingDirectory) p.way := by
  have hregular' : fs.Regular (p.place fs.workingDirectory) := by
    rw [h.workingDirectory_eq]
    exact h.regular hregular
  have hlocate := FileSystem.locate_eq_follow_way hp hregular' purpose
  rw [h.workingDirectory_eq] at hlocate
  refine hlocate.trans ?_
  cases p.fault? <;> rfl

/-- What is there is found alike. -/
theorem Beside.locate_eq (h : Beside (p.place fs₀.workingDirectory) fs₀ fs) (hp : p.Forward)
    (hregular : fs₀.Regular (p.place fs₀.workingDirectory))
    (hnode : fs₀.node? (p.place fs₀.workingDirectory) ≠ none) (purpose : Purpose) :
    fs.locate purpose p = fs₀.locate purpose p := by
  have hlocate := h.locate_eq_follow_way hp hregular purpose
  have hlocate₀ := FileSystem.locate_eq_follow_way hp hregular purpose
  rw [hp.place_eq] at h hregular hnode
  rw [follow_congr fun q hq ↦ (h.grown_of_prefix hq).resolve_right fun ⟨hnone, _⟩ ↦
    hregular.node?_ne_none hnode hq hnone] at hlocate
  refine hlocate.trans (Eq.trans ?_ hlocate₀.symm)
  cases p.fault? <;> rfl

theorem eq_place_of_resolve (hp : p.Forward) (hregular : fs.Regular (p.place fs.workingDirectory))
    {l : Location} (h : fs.resolve purpose p = .ok l) : l = p.place fs.workingDirectory := by
  rw [resolve_eq, locate_eq_follow_way hp hregular] at h
  cases hfault : p.fault? with
  | some e =>
    rw [hfault] at h
    cases h
  | none =>
    rw [hfault] at h
    dsimp only at h
    cases hfollow : fs.follow purpose p.endsInSlash p.endsInDot (p.origin fs.workingDirectory)
        p.way with
    | error e =>
      rw [hfollow] at h
      cases h
    | ok place =>
      rw [hfollow] at h
      cases place with
      | free => cases h
      | taken l' =>
        obtain rfl := Except.ok.inj h
        rw [hp.place_eq]
        exact eq_of_follow_taken hfollow

theorem isDirectory_eq_false (hp : p.Forward)
    (hregular : fs.Regular (p.place fs.workingDirectory))
    (hnone : fs.node? (p.place fs.workingDirectory) = none) : fs.isDirectory p = false := by
  rw [isDirectory, stat]
  cases hresolve : fs.resolve .target p with
  | error e => rfl
  | ok l =>
    rw [eq_place_of_resolve hp hregular hresolve]
    dsimp only
    rw [hnone]

/-- Whether there is a directory is the same. -/
theorem isDirectory_beside (h : Beside (p.place fs₀.workingDirectory) fs₀ fs) (hp : p.Forward)
    (hregular : fs₀.Regular (p.place fs₀.workingDirectory)) :
    fs.isDirectory p = fs₀.isDirectory p := by
  have hlast := node?_eq_of_branch h.branch List.prefix_rfl
  by_cases hnode : fs₀.node? (p.place fs₀.workingDirectory) = none
  · have hregular' := h.regular hregular
    rw [← h.workingDirectory_eq] at hregular'
    rw [isDirectory_eq_false hp hregular hnode, isDirectory_eq_false hp hregular'
      (by rw [h.workingDirectory_eq]; exact hlast.trans hnode)]
  · rw [isDirectory, isDirectory, stat, stat, resolve_eq, resolve_eq, h.locate_eq hp hregular hnode,
      ← resolve_eq]
    cases hresolve : fs₀.resolve .target p with
    | error e => rfl
    | ok l =>
      rw [eq_place_of_resolve hp hregular hresolve]
      dsimp only
      rw [hlast]

/-- **A file is read alike**, if the names on the way are short. -/
theorem readText_beside (h : Beside (p.place fs₀.workingDirectory) fs₀ fs) (hp : p.Forward)
    (hregular : fs₀.Regular (p.place fs₀.workingDirectory)) (hshort : Short p.way) :
    fs.readText p = fs₀.readText p := by
  have htarget : Purpose.target ≠ .writing := by decide
  have hlast := node?_eq_of_branch h.branch List.prefix_rfl
  have hresolve : fs.resolve .target p = fs₀.resolve .target p := by
    rw [resolve_eq, resolve_eq]
    by_cases hnode : fs₀.node? (p.place fs₀.workingDirectory) = none
    · rw [locate_eq_follow_way hp hregular, h.locate_eq_follow_way hp hregular]
      rw [hp.place_eq] at h hregular hlast hnode
      cases p.fault? with
      | some e => rfl
      | none =>
        exact follow_of_grown htarget hshort (fun q _ _ hq ↦ h.grown_of_prefix hq) hregular
          (hlast.trans hnode)
    · rw [h.locate_eq hp hregular hnode]
  have hstat : fs.stat p = fs₀.stat p := by
    rw [stat, stat, hresolve]
    cases hresolve₀ : fs₀.resolve .target p with
    | error e => rfl
    | ok l =>
      rw [eq_place_of_resolve hp hregular hresolve₀]
      dsimp only
      rw [hlast]
  rw [readText, readText, readBytes, readBytes, hstat]

/-! ### The scripts of a directory -/

theorem IsPlain.regular (h : fs.IsPlain) (place : Location) : fs.Regular place :=
  ⟨fun q _ ↦ h.linkless q, fun q _ ↦ h.rooted q⟩

/-- A tree is plain if each of its nodes is no link, is in a directory, and has a proper name. -/
theorem isPlain_of_forall_nodes (h : ∀ n ∈ fs.nodes, n.2.isLink = false ∧
    fs.isDirectoryAt n.1.dropLast = true ∧ ∀ name ∈ n.1.getLast?, name.IsProper) : fs.IsPlain := by
  have hnode {q : Location} (hne : q ≠ []) {node : Node} (hq : fs.node? q = some node) :
      (q, node) ∈ fs.nodes := by
    rw [node?, if_neg (by simpa using hne)] at hq
    obtain ⟨n, hn, rfl⟩ := Option.map_eq_some_iff.1 hq
    have hloc := List.find?_some hn
    rw [beq_iff_eq] at hloc
    rw [← hloc]
    exact List.mem_of_find?_eq_some hn
  refine ⟨fun q target hq ↦ ?_, fun q hne hq ↦ ?_, fun loc name hq ↦ ?_⟩
  · by_cases hne : q = []
    · rw [hne] at hq
      cases hq
    · have hlink := (h _ (hnode hne hq)).1
      cases hlink
  · obtain ⟨node, hq⟩ := Option.ne_none_iff_exists'.1 hq
    exact (h _ (hnode hne hq)).2.1
  · obtain ⟨node, hq⟩ := Option.ne_none_iff_exists'.1 hq
    exact (h _ (hnode (by simp) hq)).2.2 name (by simp)

/-- Every name in a directory is that of something. -/
theorem node?_of_mem_entries {name : FileName} (hname : name ∈ fs.entries loc) :
    fs.node? (loc ++ [name]) ≠ none := by
  obtain ⟨⟨q, node⟩, hmem, hbelow⟩ := List.mem_filterMap.1 hname
  obtain rfl : q = loc ++ [name] := nameBelow?_eq_some_iff.1 hbelow
  intro hnone
  rw [node?, if_neg (by simp), Option.map_eq_none_iff, List.find?_eq_none] at hnone
  exact hnone _ hmem (beq_self_eq_true _)

theorem IsPlain.proper_of_mem_entries (h : fs.IsPlain) {name : FileName}
    (hname : name ∈ fs.entries loc) : name.IsProper :=
  h.proper loc name (node?_of_mem_entries hname)

/-- What is beside a directory is beside its entries. -/
theorem Beside.entry (h : Beside place fs₀ fs) (name : FileName) :
    Beside (place ++ [name]) fs₀ fs where
  grown q hq hself := by
    rcases List.prefix_concat_iff.1 hq with heq | hq
    · exact absurd heq hself
    · exact h.grown_of_prefix hq
  branch := only_eq_of_imp (fun q hq ↦ List.isPrefixOf_iff_prefix.2
    ((List.prefix_append place [name]).trans (List.isPrefixOf_iff_prefix.1 hq))) h.branch

/-- What an entry of a directory is, seen through the path of the directory, is the same. -/
theorem stat_entry (h : Beside (p.place fs₀.workingDirectory) fs₀ fs) (hp : p.Forward)
    (hplain : fs₀.IsPlain) {name : FileName}
    (hname : name ∈ fs₀.entries (p.place fs₀.workingDirectory)) {s : String}
    (hs : name.text? = some s) : fs.stat (p / ⟨s⟩) = fs₀.stat (p / ⟨s⟩) := by
  have hsteps : (⟨s⟩ : Path).steps = [.name s] := hplain.proper_of_mem_entries hname s hs
  have hrelative : (⟨s⟩ : Path).isAbsolute = false := by
    by_contra habsolute
    rw [Path.steps, if_pos (by simpa using habsolute)] at hsteps
    cases hsteps
  have hforward : (p / ⟨s⟩).Forward := by
    rw [Path.Forward, Path.steps_join hrelative, hsteps, List.mem_append, not_or]
    exact ⟨hp, by simp⟩
  have hplace : (p / ⟨s⟩).place fs₀.workingDirectory = p.place fs₀.workingDirectory ++ [name] := by
    rw [Path.place_join, RawText.eq_ofText_of_text? hs, Path.place, hsteps]
    rfl
  have hbeside := h.entry name
  rw [← hplace] at hbeside
  have hregular := hplain.regular ((p / ⟨s⟩).place fs₀.workingDirectory)
  have hnode : fs₀.node? ((p / ⟨s⟩).place fs₀.workingDirectory) ≠ none := by
    rw [hplace]
    exact node?_of_mem_entries hname
  rw [stat, stat, resolve_eq, resolve_eq, hbeside.locate_eq hforward hregular hnode, ← resolve_eq]
  cases hresolve : fs₀.resolve .target (p / ⟨s⟩) with
  | error e => rfl
  | ok l =>
    rw [eq_place_of_resolve hforward hregular hresolve]
    dsimp only
    rw [node?_eq_of_branch hbeside.branch List.prefix_rfl]

theorem ofEntries_beside (h : Beside (p.place fs₀.workingDirectory) fs₀ fs) (hp : p.Forward)
    (hplain : fs₀.IsPlain) {entries : List FileName}
    (hentries : ∀ name ∈ entries, name ∈ fs₀.entries (p.place fs₀.workingDirectory)) :
    Script.ofEntries fs p entries = Script.ofEntries fs₀ p entries := by
  induction entries with
  | nil => rfl
  | cons name entries ih =>
    obtain ⟨hname, hentries⟩ := List.forall_mem_cons.1 hentries
    have hentry : Script.ofEntry fs p name = Script.ofEntry fs₀ p name := by
      rw [Script.ofEntry, Script.ofEntry]
      cases htext : name.text? with
      | none => rfl
      | some s =>
        dsimp only
        rw [isFile, isFile, readText, readText, readBytes, readBytes,
          stat_entry h hp hplain hname htext]
    rw [Script.ofEntries, Script.ofEntries, hentry, ih hentries]

/-- **The scripts of a directory are the same.** -/
theorem discover_beside (h : Beside (p.place fs₀.workingDirectory) fs₀ fs) (hp : p.Forward)
    (hplain : fs₀.IsPlain) : Script.discover fs p = Script.discover fs₀ p := by
  have hregular := hplain.regular (p.place fs₀.workingDirectory)
  have hlast := node?_eq_of_branch h.branch List.prefix_rfl
  rw [Script.discover, Script.discover, isDirectory_beside h hp hregular]
  cases hdirectory : fs₀.isDirectory p with
  | false => rfl
  | true =>
    have hnode : fs₀.node? (p.place fs₀.workingDirectory) ≠ none := fun hnone ↦ by
      rw [isDirectory_eq_false hp hregular hnone] at hdirectory
      cases hdirectory
    have hentries : fs.entries (p.place fs₀.workingDirectory) =
        fs₀.entries (p.place fs₀.workingDirectory) := by
      rw [← entries_branch List.prefix_rfl, h.branch, entries_branch List.prefix_rfl]
    have hlist : fs.list p = fs₀.list p := by
      rw [list, list, resolve_eq, resolve_eq, h.locate_eq hp hregular hnode, ← resolve_eq]
      cases hresolve : fs₀.resolve .target p with
      | error e => rfl
      | ok l =>
        rw [eq_place_of_resolve hp hregular hresolve]
        dsimp only
        rw [isDirectoryAt_eq hlast, hentries]
    rw [hlist]
    cases hlist₀ : fs₀.list p with
    | error e => rfl
    | ok found =>
      obtain ⟨l, entries⟩ := found
      rw [list] at hlist₀
      cases hresolve : fs₀.resolve .target p with
      | error e =>
        rw [hresolve] at hlist₀
        cases hlist₀
      | ok l' =>
        rw [hresolve] at hlist₀
        dsimp only at hlist₀
        split at hlist₀
        · cases hlist₀
          rw [eq_place_of_resolve hp hregular hresolve]
          dsimp only
          rw [ofEntries_beside h hp hplain fun _ ↦ id]
        · cases hlist₀

end FileSystem

end SchemaForge
