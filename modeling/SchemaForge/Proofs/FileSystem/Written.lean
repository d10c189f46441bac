import SchemaForge.FileSystem.Operations
import SchemaForge.Proofs.FileSystem.Part
import SchemaForge.Proofs.FileSystem.Walk
import SchemaForge.Proofs.Text.Raw

/-!
# Reading what was written

A file that was written is read back, whatever links lie on the way
(`FileSystem.readText_of_writeBytes`).

A path is followed once more after the tree has changed, so the number of steps that it may take is
another one. It makes no difference: how many are needed is bounded by the links that may be
followed and the longest of their targets (`FileSystem.walk_of_lt`).
-/

namespace SchemaForge

/-- The location that a place has or will have. -/
def Place.location : Place → Location
  | .taken loc => loc
  | .free dir name => dir ++ [name]

namespace FileSystem

variable {fs fs' : FileSystem} {purpose : Purpose} {slash : Bool} {fuel links : ℕ}
  {loc : Location} {steps : List Component} {place : Place} {p : Path}

/-! ### How many steps a path takes -/

/-- No link of the tree has a longer target. -/
def LinksWithin (fs : FileSystem) (longest : ℕ) : Prop :=
  ∀ loc target, fs.node? loc = some (.link target) → target.steps.length ≤ longest

/-- The longest target among the nodes, if one is known to be at least `n` long. -/
def longestTarget (n : ℕ) (node : Location × Node) : ℕ :=
  match node.2 with
  | .link target => max n target.steps.length
  | _ => n

theorem le_longestTarget (n : ℕ) (node : Location × Node) : n ≤ longestTarget n node := by
  rw [longestTarget]
  split
  · exact Nat.le_max_left ..
  · exact Nat.le_refl n

theorem le_foldl_longestTarget (n : ℕ) (nodes : List (Location × Node)) :
    n ≤ nodes.foldl longestTarget n := by
  induction nodes generalizing n with
  | nil => exact Nat.le_refl n
  | cons node nodes ih => exact Nat.le_trans (le_longestTarget n node) (ih _)

theorem length_le_foldl_longestTarget {nodes : List (Location × Node)} {target : Path}
    (h : (loc, .link target) ∈ nodes) (n : ℕ) :
    target.steps.length ≤ nodes.foldl longestTarget n := by
  induction nodes generalizing n with
  | nil => cases h
  | cons node nodes ih =>
    rw [List.foldl_cons]
    rcases List.mem_cons.1 h with rfl | h
    · exact Nat.le_trans (Nat.le_max_right ..) (le_foldl_longestTarget ..)
    · exact ih h _

theorem mem_nodes_of_node? {node : Node} (hne : loc ≠ []) (h : fs.node? loc = some node) :
    (loc, node) ∈ fs.nodes := by
  rw [node?, if_neg (by simpa using hne)] at h
  obtain ⟨n, hn, rfl⟩ := Option.map_eq_some_iff.1 h
  obtain rfl : n.1 = loc := by simpa using List.find?_some hn
  exact List.mem_of_find?_eq_some hn

/-- The budget has room for every link that may be followed. -/
theorem exists_linksWithin (fs : FileSystem) : ∃ longest, fs.LinksWithin longest ∧
    ∀ steps, steps.length + maxLinks * longest < fs.stepBudget steps := by
  refine ⟨fs.nodes.foldl longestTarget 0, fun loc target hnode ↦ ?_, fun steps ↦ ?_⟩
  · have hne : loc ≠ [] := by
      rintro rfl
      cases hnode
    exact length_le_foldl_longestTarget (mem_nodes_of_node? hne hnode) 0
  · have hbudget : fs.stepBudget steps =
        steps.length + (maxLinks + 1) * (fs.nodes.foldl longestTarget 0 + 1) + 1 := rfl
    rw [hbudget, Nat.add_mul, Nat.mul_add]
    omega

/-- Two walks with enough fuel for all links come to the same. -/
theorem walk_of_lt {longest : ℕ} (hlinks : fs.LinksWithin longest) {fuel' : ℕ}
    (hfuel : steps.length + links * longest < fuel)
    (hfuel' : steps.length + links * longest < fuel') :
    fs.walk purpose slash fuel links loc steps = fs.walk purpose slash fuel' links loc steps := by
  induction fuel generalizing fuel' slash links loc steps with
  | zero => cases hfuel
  | succ fuel ih =>
    obtain ⟨fuel', rfl⟩ := Nat.exists_eq_succ_of_ne_zero (Nat.ne_zero_of_lt hfuel')
    cases steps with
    | nil => rfl
    | cons step rest =>
      rw [List.length_cons] at hfuel hfuel'
      have hrest (slash : Bool) (loc : Location) :
          fs.walk purpose slash fuel links loc rest = fs.walk purpose slash fuel' links loc rest :=
        ih (by omega) (by omega)
      cases step with
      | root => exact hrest slash []
      | current => exact hrest slash loc
      | parent => exact hrest slash loc.dropLast
      | name s =>
        rw [walk, walk]
        cases hnode : fs.node? (loc ++ [s]) with
        | none => rfl
        | some node =>
          cases node with
          | file | device => rfl
          | directory refusal => simp only [hrest]
          | link target =>
            cases links with
            | zero => rfl
            | succ links =>
              have htarget := hlinks _ _ hnode
              rw [Nat.succ_mul] at hfuel hfuel'
              have hlength : (target.steps ++ rest).length + links * longest < fuel ∧
                  (target.steps ++ rest).length + links * longest < fuel' := by
                rw [List.length_append]
                omega
              simp only [ih hlength.1 hlength.2]

/-- How a path is followed does not depend on the budget. -/
theorem exists_walk_eq (fs fs' : FileSystem) (steps : List Component) : ∃ fuel,
    (∀ purpose slash loc, fs.walk purpose slash (fs.stepBudget steps) maxLinks loc steps =
      fs.walk purpose slash fuel maxLinks loc steps) ∧
    ∀ purpose slash loc, fs'.walk purpose slash (fs'.stepBudget steps) maxLinks loc steps =
      fs'.walk purpose slash fuel maxLinks loc steps := by
  obtain ⟨longest, hlinks, hbudget⟩ := fs.exists_linksWithin
  obtain ⟨longest', hlinks', hbudget'⟩ := fs'.exists_linksWithin
  refine ⟨max (fs.stepBudget steps) (fs'.stepBudget steps), fun _ _ _ ↦ ?_, fun _ _ _ ↦ ?_⟩
  · exact walk_of_lt hlinks (hbudget steps)
      (Nat.lt_of_lt_of_le (hbudget steps) (Nat.le_max_left ..))
  · exact walk_of_lt hlinks' (hbudget' steps)
      (Nat.lt_of_lt_of_le (hbudget' steps) (Nat.le_max_right ..))

/-! ### Following a path to where was written -/

/-- A place that a walk finds free is free. -/
theorem node?_of_walk_free {dir : Location} {name : FileName}
    (h : fs.walk purpose slash fuel links loc steps = .ok (.free dir name)) :
    fs.node? (dir ++ [name]) = none := by
  induction fuel generalizing slash links loc steps with
  | zero => cases h
  | succ fuel ih =>
    cases steps with
    | nil => cases h
    | cons step rest =>
      cases step with
      | root | current | parent => exact ih h
      | name s =>
        cases (walk_name_eq_ok_iff.1 h).2 with
        | free hnode hrest hplace =>
          cases hplace
          exact hnode
        | directory refusal hnode hwalk => exact ih hwalk
        | link target fewer hnode hthrough hlinks hempty hwalk => exact ih hwalk
        | entry target hnode hrest hpurpose hplace => cases hplace
        | leaf node hnode hleaf hrest hslash hplace => cases hplace

/-- A path that led to a place for writing leads to the leaf that is there now. -/
theorem walk_target_of_writing
    (hbefore : ∀ node, fs.node? place.location = some node → node.isLeaf = true)
    {leaf : Node} (hafter : fs'.node? place.location = some leaf) (hleaf : leaf.isLeaf = true)
    (helse : ∀ q, q ≠ place.location → fs'.node? q = fs.node? q)
    (h : fs.walk .writing slash fuel links loc steps = .ok place) :
    fs'.walk .target slash fuel links loc steps = .ok (.taken place.location) := by
  -- what leads on is not at the place
  have hon {q : Location} {node : Node} (hnode : fs.node? q = some node)
      (hon : node.isLeaf = false) : fs'.node? q = some node := by
    refine (helse q fun hq ↦ ?_).trans hnode
    rw [hbefore node (hq ▸ hnode)] at hon
    cases hon
  induction fuel generalizing slash links loc steps with
  | zero => cases h
  | succ fuel ih =>
    cases steps with
    | nil =>
      obtain rfl := Except.ok.inj h
      rfl
    | cons step rest =>
      cases step with
      | root | current | parent => exact ih h
      | name s =>
        obtain ⟨hname, honward⟩ := walk_name_eq_ok_iff.1 h
        refine walk_name_eq_ok_iff.2 ⟨hname.of_ne_writing nofun, ?_⟩
        -- the end of the path is at the place
        have hend (hrest : rest = []) (hslash : slash = false)
            (hloc : place.location = loc ++ [s]) :
            Onward fs' .target slash fuel links loc s rest (.taken place.location) :=
          .leaf leaf (hloc ▸ hafter) hleaf hrest hslash (congrArg Place.taken hloc)
        cases honward with
        | free hnode hrest hplace => exact hend hrest (hname.slash_eq_false hrest) (hplace ▸ rfl)
        | leaf node hnode hleaf hrest hslash hplace => exact hend hrest hslash (hplace ▸ rfl)
        | entry target hnode hrest hpurpose => cases hpurpose
        | directory refusal hnode hwalk => exact .directory refusal (hon hnode rfl) (ih hwalk)
        | link target fewer hnode hthrough hlinks hempty hwalk =>
          exact .link target fewer (hon hnode rfl) (fun _ ↦ nofun) hlinks hempty (ih hwalk)

theorem locate_eq_walk (h : fs.locate purpose p = .ok place) :
    ∀ (fs' : FileSystem) (purpose : Purpose), fs'.locate purpose p =
      fs'.walk purpose p.endsInSlash (fs'.stepBudget p.steps) maxLinks fs'.workingDirectory
        p.steps := by
  rw [locate_eq_match] at h
  cases hfault : p.fault? with
  | some e =>
    rw [hfault] at h
    cases h
  | none =>
    intro fs' purpose
    rw [locate_eq_match, hfault]

theorem node?_of_locate_free {dir : Location} {name : FileName}
    (h : fs.locate purpose p = .ok (.free dir name)) : fs.node? (dir ++ [name]) = none :=
  node?_of_walk_free ((locate_eq_walk h fs purpose).symm.trans h)

/-- A path that can be written to can be followed to the leaf that is there then. -/
theorem resolve_of_locate_writing (hdirectory : fs'.workingDirectory = fs.workingDirectory)
    (h : fs.locate .writing p = .ok place)
    (hbefore : ∀ node, fs.node? place.location = some node → node.isLeaf = true)
    {leaf : Node} (hafter : fs'.node? place.location = some leaf) (hleaf : leaf.isLeaf = true)
    (helse : ∀ q, q ≠ place.location → fs'.node? q = fs.node? q) :
    fs'.resolve .target p = .ok place.location := by
  have hlocate := locate_eq_walk h
  obtain ⟨fuel, hwalk, hwalk'⟩ := exists_walk_eq fs fs' p.steps
  have htarget : fs'.locate .target p = .ok (.taken place.location) := by
    rw [hlocate, hwalk] at h
    rw [hlocate, hwalk', hdirectory]
    exact walk_target_of_writing hbefore hafter hleaf helse h
  rw [resolve, htarget]

/-! ### Writing -/

theorem isDirectoryAt_of_refusalAt (h : fs.refusalAt loc = none) :
    fs.isDirectoryAt loc = true := by
  rw [refusalAt] at h
  split at h
  · rename_i hnode
    rw [isDirectoryAt, hnode]
  · cases h
  · cases h

/-- Where a path leads a file can be put: in the place of a leaf, or at a free name of a
directory. -/
structure Writable (fs : FileSystem) (p : Path) (place : Place) : Prop where
  locate : fs.locate .writing p = .ok place
  ne_nil : place.location ≠ []
  leaf : ∀ node, fs.node? place.location = some node → node.isLeaf = true
  directory : fs.node? place.location = none → fs.isDirectoryAt place.location.dropLast = true

theorem writable_of_free {dir : Location} {name : FileName}
    (hlocate : fs.locate .writing p = .ok (.free dir name)) (hrefusal : fs.refusalAt dir = none) :
    Writable fs p (.free dir name) where
  locate := hlocate
  ne_nil := by simp [Place.location]
  leaf node hnode := by cases (node?_of_locate_free hlocate).symm.trans hnode
  directory _ := by
    rw [Place.location, List.dropLast_concat]
    exact isDirectoryAt_of_refusalAt hrefusal

theorem eq_of_node?_taken {node : Node} (hnode : fs.node? loc = some node) :
    ∀ node', fs.node? (Place.taken loc).location = some node' → node' = node :=
  fun _ hnode' ↦ Option.some.inj (hnode'.symm.trans hnode)

theorem writable_of_file {old : Bytes} {executable : Bool}
    (hlocate : fs.locate .writing p = .ok (.taken loc))
    (hnode : fs.node? loc = some (.file old executable)) : Writable fs p (.taken loc) where
  locate := hlocate
  ne_nil := by
    rintro rfl
    cases hnode
  leaf node hnode' := eq_of_node?_taken hnode node hnode' ▸ rfl
  directory hfree := by cases hnode.symm.trans hfree

/-- A leaf at which something could be written is what the path leads to. -/
theorem stat_of_locate_writing {node : Node} (hlocate : fs.locate .writing p = .ok (.taken loc))
    (hnode : fs.node? loc = some node) (hleaf : node.isLeaf = true) : fs.stat p = .ok node := by
  have hresolve : fs.resolve .target p = .ok loc :=
    resolve_of_locate_writing rfl hlocate
      (fun node' hnode' ↦ eq_of_node?_taken hnode node' hnode' ▸ hleaf) hnode hleaf fun _ _ ↦ rfl
  simp only [stat, hresolve, hnode]

/-- What writing does at a place: a free one becomes a file, a file gets the content and can be run
if it could, and a device stays as it is. -/
inductive Fills (content : Bytes) : Option Node → Node → Prop
  | created : Fills content none (.file content false)
  | replaced (old : Bytes) (executable : Bool) :
      Fills content (some (.file old executable)) (.file content executable)
  | gone (full : Bool) : Fills content (some (.device full)) (.device full)

/-- What was written was put where the path leads, or has gone to a device. -/
theorem writeBytes_cases {content : Bytes} (h : fs.writeBytes p content = (.ok (), fs')) :
    (∃ place executable, Writable fs p place ∧
      Fills content (fs.node? place.location) (.file content executable) ∧
      fs' = fs.put place.location (.file content executable)) ∨
    (fs' = fs ∧ ∃ full, fs.stat p = .ok (.device full)) := by
  rw [writeBytes] at h
  cases hlocate : fs.locate .writing p with
  | error e =>
    simp only [hlocate] at h
    cases h
  | ok place =>
    cases place with
    | free dir name =>
      simp only [hlocate, create] at h
      cases hrefusal : fs.refusalAt dir with
      | some e =>
        simp only [hrefusal] at h
        cases h
      | none =>
        simp only [hrefusal] at h
        obtain ⟨-, rfl⟩ := Prod.mk.inj h
        have hfree : fs.node? (Place.free dir name).location = none :=
          node?_of_locate_free hlocate
        exact Or.inl ⟨_, false, writable_of_free hlocate hrefusal, hfree ▸ .created, rfl⟩
    | taken loc =>
      simp only [hlocate] at h
      cases hnode : fs.node? loc with
      | none =>
        simp only [hnode] at h
        cases h
      | some node =>
        simp only [hnode] at h
        cases node with
        | directory | link => cases h
        | file old executable =>
          obtain ⟨-, rfl⟩ := Prod.mk.inj h
          have htaken : fs.node? (Place.taken loc).location = some (.file old executable) := hnode
          exact Or.inl ⟨_, executable, writable_of_file hlocate hnode,
            htaken ▸ .replaced old executable, rfl⟩
        | device full =>
          obtain ⟨-, rfl⟩ := Prod.mk.inj h
          exact Or.inr ⟨rfl, full, stat_of_locate_writing hlocate hnode rfl⟩

/-- The path leads to what was put there. -/
theorem Writable.resolve_put (h : Writable fs p place) (content : Bytes) (executable : Bool) :
    (fs.put place.location (.file content executable)).resolve .target p = .ok place.location := by
  have hdirectory : (fs.put place.location (.file content executable)).workingDirectory =
      fs.workingDirectory := rfl
  exact resolve_of_locate_writing hdirectory h.locate h.leaf (node?_put_self fs h.ne_nil _) rfl
    fun _ hq ↦ node?_put_of_ne fs hq _

/-- What was written is where the path leads, and all else is as it was. -/
theorem exists_fills_of_writeBytes {content : Bytes}
    (h : fs.writeBytes p content = (.ok (), fs')) :
    ∃ place node, fs'.resolve .target p = .ok place ∧ fs'.node? place = some node ∧
      Fills content (fs.node? place) node ∧ ∀ q, q ≠ place → fs'.node? q = fs.node? q := by
  rcases writeBytes_cases h with ⟨place, executable, hplace, hfills, rfl⟩ | ⟨rfl, full, hstat⟩
  · exact ⟨place.location, _, hplace.resolve_put content executable,
      node?_put_self fs hplace.ne_nil _, hfills, fun q hq ↦ node?_put_of_ne fs hq _⟩
  · rw [stat] at hstat
    split at hstat
    · rename_i place hresolve
      split at hstat
      · rename_i node hnode
        obtain rfl := Except.ok.inj hstat
        exact ⟨place, _, hresolve, hnode, hnode ▸ .gone full, fun _ _ ↦ rfl⟩
      · cases hstat
    · cases hstat

theorem Fills.isLeaf {content : Bytes} {old : Option Node} {node : Node}
    (h : Fills content old node) : node.isLeaf = true := by
  cases h <;> rfl

/-- **A file that was written is read back.** Only what is written to a device is gone. -/
theorem readBytes_of_writeBytes {content : Bytes} (h : fs.writeBytes p content = (.ok (), fs'))
    (hdevice : ∀ full, fs'.stat p ≠ .ok (.device full)) : fs'.readBytes p = .ok content := by
  obtain ⟨place, node, hresolve, hnode, hfills, -⟩ := exists_fills_of_writeBytes h
  have hstat : fs'.stat p = .ok node := by simp only [stat, hresolve, hnode]
  rw [readBytes, hstat]
  generalize fs.node? place = old at hfills
  cases hfills with
  | created => rfl
  | replaced old executable => rfl
  | gone full => exact absurd hstat (hdevice full)

theorem readText_of_writeBytes {text : String}
    (h : fs.writeBytes p (Utf8.encode text) = (.ok (), fs'))
    (hdevice : ∀ full, fs'.stat p ≠ .ok (.device full)) : fs'.readText p = .ok text := by
  simp only [readText, readBytes_of_writeBytes h hdevice, Utf8.decode?_encode]

end FileSystem

end SchemaForge
