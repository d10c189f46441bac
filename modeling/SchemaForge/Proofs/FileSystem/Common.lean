import Mathlib.Data.List.Induction
import SchemaForge.Proofs.FileSystem.Written

/-!
# What trees have in common

A path that leads to something needs what is there on its way, links and directories alike, and
nothing else. So if it leads to something on two trees that agree where both have something, then it
leads to the same on both, and on what they have in common (`FileSystem.resolve_common`). In
particular, it leads to the same on every larger tree (`FileSystem.Covers.resolve`). The content of
a file makes no difference to it.

On a tree in which everything lies in a directory (`FileSystem.Nested`), what a path leads to is
there, unless the working directory is gone (`FileSystem.node?_of_resolve`).
-/

namespace SchemaForge

/-- A path goes on in the same way at both nodes: they are the same, or it comes to its end. -/
def Node.Alike (m n : Node) : Prop := m = n ∨ m.isLeaf = true ∧ n.isLeaf = true

theorem Node.Alike.refl {m : Node} : m.Alike m := Or.inl rfl

theorem Node.Alike.trans {m n k : Node} (h : m.Alike n) (h' : n.Alike k) : m.Alike k := by
  rcases h with rfl | ⟨hm, hn⟩
  · exact h'
  · rcases h' with rfl | ⟨-, hk⟩
    · exact Or.inr ⟨hm, hn⟩
    · exact Or.inr ⟨hm, hk⟩

theorem Node.Alike.isLeaf {m n : Node} (h : m.Alike n) (hm : m.isLeaf = true) :
    n.isLeaf = true := by
  rcases h with rfl | ⟨-, hn⟩
  · exact hm
  · exact hn

theorem Node.Alike.eq_of_isLeaf {m n : Node} (h : m.Alike n) (hm : m.isLeaf = false) : m = n :=
  h.resolve_right fun hleaf ↦ Bool.noConfusion (hm.symm.trans hleaf.1)

namespace FileSystem

variable {a b c fs fs' fs'' : FileSystem} {purpose : Purpose} {slash slash' : Bool}
  {fuel links : ℕ} {loc l l' q : Location} {steps rest : List Component} {p dir : Path}

/-! ### The same path on several trees -/

/-- Where the first two trees both have something, a path goes on there in the same way, on the
third tree too. -/
def Meet (a b c : FileSystem) : Prop :=
  ∀ q m n, a.node? q = some m → b.node? q = some n →
    m.Alike n ∧ ∃ k, c.node? q = some k ∧ m.Alike k

theorem exists_node_of_onward {s : FileName}
    (h : Onward fs purpose slash fuel links loc s rest (.taken l)) :
    ∃ node, fs.node? (loc ++ [s]) = some node := by
  cases h with
  | free hnode hrest hplace => cases hplace
  | directory refusal hnode => exact ⟨_, hnode⟩
  | entry target hnode | link target _ hnode => exact ⟨_, hnode⟩
  | leaf node hnode => exact ⟨node, hnode⟩

theorem walk_common (h : Meet a b c)
    (ha : a.walk purpose slash fuel links loc steps = .ok (.taken l))
    (hb : b.walk purpose slash' fuel links loc steps = .ok (.taken l')) :
    l = l' ∧ c.walk purpose slash fuel links loc steps = .ok (.taken l) := by
  induction fuel generalizing slash slash' links loc steps with
  | zero => cases ha
  | succ fuel ih =>
    cases steps with
    | nil =>
      cases ha
      cases hb
      exact ⟨rfl, rfl⟩
    | cons step rest =>
      cases step with
      | root | current | parent => exact ih ha hb
      | name s =>
        rw [walk_name_eq_ok_iff] at ha hb
        obtain ⟨hname, ha⟩ := ha
        obtain ⟨-, hb⟩ := hb
        rw [walk_name_eq_ok_iff, and_iff_right hname]
        -- something is there on both trees
        obtain ⟨node, hnode⟩ := exists_node_of_onward ha
        obtain ⟨node', hnode'⟩ := exists_node_of_onward hb
        obtain ⟨halike, node'', hnode'', halike'⟩ := h _ _ _ hnode hnode'
        cases hleaf : node.isLeaf with
        | true =>
          rw [onward_iff_of_isLeaf hnode hleaf] at ha
          rw [onward_iff_of_isLeaf hnode' (halike.isLeaf hleaf)] at hb
          rw [onward_iff_of_isLeaf hnode'' (halike'.isLeaf hleaf)]
          exact ⟨Place.taken.inj (ha.2.2.trans hb.2.2.symm), ha⟩
        | false =>
          obtain rfl := halike.eq_of_isLeaf hleaf
          obtain rfl := halike'.eq_of_isLeaf hleaf
          cases node with
          | file | device => cases hleaf
          | directory refusal =>
            rw [onward_iff_of_directory hnode] at ha
            rw [onward_iff_of_directory hnode'] at hb
            rw [onward_iff_of_directory hnode'']
            exact ih ha hb
          | link target =>
            rw [onward_iff_of_link hnode] at ha
            rw [onward_iff_of_link hnode'] at hb
            rw [onward_iff_of_link hnode'']
            -- both walks ask for the link itself, or both follow it
            obtain ⟨hrest, hpurpose, hplace⟩ | ⟨hthrough, fewer, rfl, hempty, hwalk⟩ := ha
            · obtain ⟨-, -, hplace'⟩ | ⟨hthrough, -⟩ := hb
              · exact ⟨Place.taken.inj (hplace.trans hplace'.symm),
                  Or.inl ⟨hrest, hpurpose, hplace⟩⟩
              · exact absurd hpurpose (hthrough hrest)
            · obtain ⟨hrest, hpurpose, -⟩ | ⟨-, fewer', hlinks, -, hwalk'⟩ := hb
              · exact absurd hpurpose (hthrough hrest)
              · obtain rfl := Nat.succ.inj hlinks
                obtain ⟨hl, hc⟩ := ih hwalk hwalk'
                exact ⟨hl, Or.inr ⟨hthrough, fewer, rfl, hempty, hc⟩⟩

/-- More steps than the budget has make no difference. -/
theorem walk_of_stepBudget_le (fs : FileSystem) (h : fs.stepBudget steps ≤ fuel)
    (purpose : Purpose) (slash : Bool) (loc : Location) :
    fs.walk purpose slash (fs.stepBudget steps) maxLinks loc steps =
      fs.walk purpose slash fuel maxLinks loc steps := by
  obtain ⟨longest, hlinks, hbudget⟩ := fs.exists_linksWithin
  exact walk_of_lt hlinks (hbudget steps) (Nat.lt_of_lt_of_le (hbudget steps) h)

theorem resolve_eq_ok_iff :
    fs.resolve purpose p = .ok l ↔ fs.locate purpose p = .ok (.taken l) := by
  rw [resolve]
  split <;> simp_all

/-- How a path that can be followed on some tree is followed on any, with fuel enough. -/
theorem locate_eq_walk_of_le {place : Place} (hvalid : fs.locate purpose p = .ok place)
    (h : fs'.stepBudget p.steps ≤ fuel) (purpose' : Purpose) : fs'.locate purpose' p =
      fs'.walk purpose' p.endsInSlash fuel maxLinks fs'.workingDirectory p.steps := by
  rw [locate_eq_walk hvalid, walk_of_stepBudget_le fs' h]

/-- **A path leads to the same on two trees, and on what they have in common.** -/
theorem resolve_common (h : Meet a b c) (hb : b.workingDirectory = a.workingDirectory)
    (hc : c.workingDirectory = a.workingDirectory) (hresolve : a.resolve purpose p = .ok l)
    (hresolve' : b.resolve purpose p = .ok l') : l = l' ∧ c.resolve purpose p = .ok l := by
  rw [resolve_eq_ok_iff] at hresolve hresolve' ⊢
  have hvalid := hresolve
  obtain ⟨fuel, hfuel, hfuel', hfuel''⟩ : ∃ fuel, a.stepBudget p.steps ≤ fuel ∧
      b.stepBudget p.steps ≤ fuel ∧ c.stepBudget p.steps ≤ fuel :=
    ⟨max (a.stepBudget p.steps) (max (b.stepBudget p.steps) (c.stepBudget p.steps)), by omega,
      by omega, by omega⟩
  rw [locate_eq_walk_of_le hvalid hfuel] at hresolve
  rw [locate_eq_walk_of_le hvalid hfuel', hb] at hresolve'
  rw [locate_eq_walk_of_le hvalid hfuel'', hc]
  exact walk_common h hresolve hresolve'

/-! ### Larger trees -/

/-- Wherever there is something in the one tree, a path goes on in the other in the same way. -/
structure Covers (fs fs' : FileSystem) : Prop where
  workingDirectory : fs'.workingDirectory = fs.workingDirectory
  node : ∀ {q m}, fs.node? q = some m → ∃ n, fs'.node? q = some n ∧ m.Alike n

theorem Covers.trans (h : Covers fs fs') (h' : Covers fs' fs'') : Covers fs fs'' := by
  refine ⟨h'.workingDirectory.trans h.workingDirectory, fun {q m} hm ↦ ?_⟩
  obtain ⟨n, hn, halike⟩ := h.node hm
  obtain ⟨k, hk, halike'⟩ := h'.node hn
  exact ⟨k, hk, halike.trans halike'⟩

theorem Covers.meet (h : Covers fs fs') : Meet fs fs fs' := by
  intro q m n hm hn
  obtain rfl := Option.some.inj (hm.symm.trans hn)
  exact ⟨.refl, h.node hm⟩

/-- A path leads to the same on a larger tree. -/
theorem Covers.resolve (h : Covers fs fs') (hp : fs.resolve purpose p = .ok l) :
    fs'.resolve purpose p = .ok l :=
  (resolve_common h.meet rfl h.workingDirectory hp hp).2

theorem Covers.isDirectoryAt (h : Covers fs fs') (hq : fs.isDirectoryAt q = true) :
    fs'.isDirectoryAt q = true := by
  rw [FileSystem.isDirectoryAt] at hq ⊢
  split at hq
  · rename_i refusal hnode
    obtain ⟨n, hn, halike⟩ := h.node hnode
    obtain rfl := halike.eq_of_isLeaf rfl
    rw [hn]
  · cases hq

/-- What is in the one tree is in the other. -/
structure Within (fs fs' : FileSystem) : Prop where
  workingDirectory : fs'.workingDirectory = fs.workingDirectory
  node : ∀ {q node}, fs.node? q = some node → fs'.node? q = some node

theorem Within.refl : Within fs fs := ⟨rfl, id⟩

theorem Within.covers (h : Within fs fs') : Covers fs fs' :=
  ⟨h.workingDirectory, fun hm ↦ ⟨_, h.node hm, .refl⟩⟩

theorem Within.resolve (h : Within fs fs') (hp : fs.resolve purpose p = .ok l) :
    fs'.resolve purpose p = .ok l :=
  h.covers.resolve hp

theorem Within.isDirectoryAt (h : Within fs fs') (hq : fs.isDirectoryAt q = true) :
    fs'.isDirectoryAt q = true :=
  h.covers.isDirectoryAt hq

theorem Thinned.within (h : Thinned loc fs fs') : Within fs' fs :=
  ⟨h.workingDirectory.symm, h.node?_of_some⟩

/-! ### A path and its front part -/

/-- The front part of a path leads somewhere if the path does, whether a slash follows it or not. -/
theorem exists_walk_of_append (hrest : rest ≠ []) (slash' : Bool)
    (h : fs.walk .target slash fuel links loc (steps ++ rest) = .ok (.taken l)) :
    ∃ m, fs.walk .target slash' fuel links loc steps = .ok (.taken m) := by
  induction fuel generalizing slash slash' links loc steps with
  | zero => cases h
  | succ fuel ih =>
    cases steps with
    | nil => exact ⟨loc, rfl⟩
    | cons step steps =>
      cases step with
      | root | current | parent => exact ih slash' h
      | name s =>
        rw [List.cons_append, walk_name_eq_ok_iff] at h
        obtain ⟨hname, honward⟩ := h
        have hfront : Permits .target slash' s steps := hname.of_ne_writing nofun
        have hne : steps ++ rest ≠ [] := List.append_ne_nil_of_right_ne_nil steps hrest
        cases honward with
        | free _ hnil | leaf _ _ _ hnil => exact absurd hnil hne
        | entry _ _ hnil => exact absurd hnil hne
        | directory refusal hnode hwalk =>
          obtain ⟨m, hm⟩ := ih slash' hwalk
          exact ⟨m, walk_name_eq_ok_iff.2 ⟨hfront, .directory refusal hnode hm⟩⟩
        | link target fewer hnode hthrough hlinks hempty hwalk =>
          rw [← List.append_assoc] at hwalk
          obtain ⟨m, hm⟩ := ih _ hwalk
          exact ⟨m, walk_name_eq_ok_iff.2
            ⟨hfront, .link target fewer hnode (fun _ ↦ nofun) hlinks hempty hm⟩⟩

theorem stepBudget_mono (fs : FileSystem) (h : steps <+: rest) :
    fs.stepBudget steps ≤ fs.stepBudget rest := by
  have hlength := h.length_le
  rw [stepBudget, stepBudget]
  omega

/-- **Of a path that leads somewhere, every front part does**, unless it is only too long, or a
slash asks for a directory at its end. -/
theorem exists_resolve_of_prefix {place : Place} (hsteps : p.steps <+: dir.steps)
    (hne : p.steps ≠ dir.steps) (hvalid : fs'.locate .target p = .ok place)
    (h : fs.resolve .target dir = .ok l) : ∃ m, fs.resolve .target p = .ok m := by
  obtain ⟨rest, hrest⟩ := hsteps
  rw [resolve_eq_ok_iff] at h
  rw [locate_eq_walk h, ← hrest] at h
  have hnil : rest ≠ [] := by
    rintro rfl
    exact hne (by rw [← hrest, List.append_nil])
  obtain ⟨m, hm⟩ := exists_walk_of_append hnil p.endsInSlash h
  refine ⟨m, resolve_eq_ok_iff.2 ?_⟩
  rwa [locate_eq_walk_of_le hvalid (fs.stepBudget_mono (List.prefix_append p.steps rest))]

/-- Paths of the same steps lead to the same. -/
theorem resolve_of_steps_eq (hsteps : p.steps = dir.steps) (hp : fs.resolve .target p = .ok l)
    (hdir : fs.resolve .target dir = .ok l') : l = l' := by
  rw [resolve_eq_ok_iff] at hp hdir
  rw [locate_eq_walk hp, hsteps] at hp
  rw [locate_eq_walk hdir] at hdir
  exact (walk_common Within.refl.covers.meet hp hdir).1

/-! ### Trees in which everything lies in a directory -/

/-- Everything lies in a directory. -/
def Nested (fs : FileSystem) : Prop :=
  ∀ loc name, fs.node? (loc ++ [name]) ≠ none → fs.isDirectoryAt loc = true

/-- Everything lies in a directory, and the working directory is one. -/
structure Rooted (fs : FileSystem) : Prop where
  nested : fs.Nested
  workingDirectory : fs.isDirectoryAt fs.workingDirectory = true

theorem node?_ne_none_of_isDirectoryAt (h : fs.isDirectoryAt q = true) : fs.node? q ≠ none := by
  intro hnone
  rw [isDirectoryAt, hnone] at h
  cases h

/-- A tree is nested if each of its nodes lies in a directory. -/
theorem nested_of_forall_nodes (h : ∀ n ∈ fs.nodes, fs.isDirectoryAt n.1.dropLast = true) :
    fs.Nested := by
  intro loc name hnode
  obtain ⟨node, hnode⟩ := Option.ne_none_iff_exists'.1 hnode
  have hdirectory := h _ (mem_nodes_of_node? (by simp) hnode)
  rwa [List.dropLast_concat] at hdirectory

/-- Above what is there, there are directories. -/
theorem Nested.isDirectoryAt (h : fs.Nested) (hq : fs.node? q ≠ none) (hloc : loc <+: q)
    (hne : q ≠ loc) : fs.isDirectoryAt loc = true := by
  obtain ⟨rest, rfl⟩ := hloc
  induction rest using List.reverseRecOn with
  | nil => exact absurd (List.append_nil loc) hne
  | append_singleton rest name ih =>
    rw [← List.append_assoc] at hq
    have hdirectory := h _ _ hq
    by_cases hrest : rest = []
    · rwa [hrest, List.append_nil] at hdirectory
    · exact ih (node?_ne_none_of_isDirectoryAt hdirectory) (by simpa using hrest)

theorem Rooted.node?_of_isPrefix (h : fs.Rooted) (hloc : loc <+: fs.workingDirectory) :
    fs.node? loc ≠ none := by
  have hself := node?_ne_none_of_isDirectoryAt h.workingDirectory
  by_cases heq : fs.workingDirectory = loc
  · exact heq ▸ hself
  · exact node?_ne_none_of_isDirectoryAt (h.nested.isDirectoryAt hself hloc heq)

/-- What a path leads to is there, where all that is there is in something, or it is the working
directory or a place above that. -/
theorem node?_of_walk (hclosed : ∀ loc name, fs.node? (loc ++ [name]) ≠ none → fs.node? loc ≠ none)
    (hloc : fs.node? loc ≠ none ∨ loc <+: fs.workingDirectory)
    (hwalk : fs.walk purpose slash fuel links loc steps = .ok (.taken l)) :
    fs.node? l ≠ none ∨ l <+: fs.workingDirectory := by
  have hnode {q : Location} {node : Node} (hq : fs.node? q = some node) : fs.node? q ≠ none := by
    rw [hq]
    exact nofun
  induction fuel generalizing slash links loc steps with
  | zero => cases hwalk
  | succ fuel ih =>
    cases steps with
    | nil =>
      cases hwalk
      exact hloc
    | cons step rest =>
      cases step with
      | root => exact ih (Or.inr List.nil_prefix) hwalk
      | current => exact ih hloc hwalk
      | parent =>
        refine ih (hloc.imp (fun hpresent ↦ ?_) (List.dropLast_prefix loc).trans) hwalk
        rcases List.eq_nil_or_concat loc with rfl | ⟨init, name, rfl⟩
        · exact hpresent
        · rw [List.concat_eq_append] at hpresent ⊢
          rw [List.dropLast_concat]
          exact hclosed init name hpresent
      | name s =>
        cases (walk_name_eq_ok_iff.1 hwalk).2 with
        | free _ _ hplace => cases hplace
        | directory refusal hdirectory hwalk => exact ih (Or.inl (hnode hdirectory)) hwalk
        | link _ _ _ _ _ _ hwalk => exact ih hloc hwalk
        | entry _ hsome _ _ hplace | leaf _ hsome _ _ _ hplace =>
          cases hplace
          exact Or.inl (hnode hsome)

theorem node?_of_resolve
    (hclosed : ∀ loc name, fs.node? (loc ++ [name]) ≠ none → fs.node? loc ≠ none)
    (hp : fs.resolve purpose p = .ok l) : fs.node? l ≠ none ∨ l <+: fs.workingDirectory := by
  rw [resolve_eq_ok_iff] at hp
  rw [locate_eq_walk hp] at hp
  exact node?_of_walk hclosed (Or.inr List.prefix_rfl) hp

end FileSystem

end SchemaForge
