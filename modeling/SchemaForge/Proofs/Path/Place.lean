import Mathlib.Data.List.TakeDrop
import SchemaForge.FileSystem.Operations
import SchemaForge.Proofs.FileSystem.Walk

/-!
# Where paths lead

On a tree without links a path leads from a working directory to a place that its steps alone
decide (`Path.place`), and following it never leads anywhere else (`FileSystem.resolve_eq_place`).

What the steps come to is kept in a normal form: how many directories a relative path climbs above
the one it starts from (`Path.climb`), and the names on the way down from there (`Path.names`). The
lexical `Path.normalize` has the same names and drops the climbing (`Path.normalize_eq`), and this
is all that it loses.
-/

namespace SchemaForge

/-- Where a step leads from a place on a tree without links. -/
def Component.leads (loc : Location) : Component → Location
  | .root => []
  | .current => loc
  | .parent => loc.dropLast
  | .name s => loc ++ [s]

namespace Path

/-- The place that a path leads to from a working directory on a tree without links. -/
def place (p : Path) (workingDirectory : Location) : Location :=
  p.steps.foldl Component.leads workingDirectory

/-! ### The normal form of a path -/

/-- One more step behind a path that climbs `r.1` directories and goes down the names `r.2`. -/
def reachStep (r : ℕ × List FileName) : Component → ℕ × List FileName
  | .root => (0, [])
  | .current => r
  | .parent => if r.2 = [] then (r.1 + 1, []) else (r.1, r.2.dropLast)
  | .name s => (r.1, r.2 ++ [s])

/-- How far a path climbs, and the names on its way down. -/
def reach (p : Path) : ℕ × List FileName :=
  p.steps.foldl reachStep (0, [])

/-- How many directories a relative path climbs above the one it starts from. -/
def climb (p : Path) : ℕ := p.reach.1

/-- The names on the way down. -/
def names (p : Path) : List FileName := p.reach.2

theorem root_notMem_piecesOf (bytes : Bytes) : Component.root ∉ piecesOf bytes := by
  intro h
  obtain ⟨piece, -, hpiece⟩ := List.mem_map.1 h
  unfold componentOf at hpiece
  split at hpiece
  · cases hpiece
  · split at hpiece <;> cases hpiece

/-- The place of a path is above or below the working directory as its normal form says. -/
theorem foldl_leads {cs : List Component} (hroot : Component.root ∉ cs) (cwd : Location)
    (r : ℕ × List FileName) :
    cs.foldl Component.leads (cwd.take (cwd.length - r.1) ++ r.2) =
      cwd.take (cwd.length - (cs.foldl reachStep r).1) ++
        (cs.foldl reachStep r).2 := by
  induction cs generalizing r with
  | nil => rfl
  | cons c cs ih =>
    obtain ⟨hc, hcs⟩ := not_or.1 (mt List.mem_cons.2 hroot)
    have hstep : Component.leads (cwd.take (cwd.length - r.1) ++ r.2) c =
        cwd.take (cwd.length - (reachStep r c).1) ++ (reachStep r c).2 := by
      cases c with
      | root => exact absurd rfl hc
      | current => rfl
      | parent =>
        rw [Component.leads, reachStep]
        by_cases hnames : r.2 = []
        · rw [if_pos hnames, hnames, List.append_nil, List.append_nil, List.dropLast_eq_take,
            List.length_take, List.take_take]
          congr 1
          omega
        · rw [if_neg hnames, List.dropLast_append_of_ne_nil hnames]
      | name s =>
        rw [Component.leads, reachStep, ← List.append_assoc]
    rw [List.foldl_cons, hstep, ih hcs, List.foldl_cons]

theorem place_of_isAbsolute {p : Path} (h : p.isAbsolute = true) (cwd : Location) :
    p.place cwd = p.names := by
  rw [place, names, reach, steps, if_pos h, List.foldl_cons, List.foldl_cons]
  have hfold := foldl_leads (root_notMem_piecesOf p.text.bytes) [] (0, [])
  rw [List.take_nil, List.take_nil] at hfold
  exact hfold

theorem place_of_not_isAbsolute {p : Path} (h : p.isAbsolute = false) (cwd : Location) :
    p.place cwd = cwd.take (cwd.length - p.climb) ++ p.names := by
  rw [place, names, climb, reach, steps, h, if_neg Bool.false_ne_true]
  have hfold := foldl_leads (root_notMem_piecesOf p.text.bytes) cwd (0, [])
  rw [Nat.sub_zero, List.take_length, List.append_nil] at hfold
  exact hfold

/-! ### The lexical normal form -/

theorem foldl_resolveStep_moves (cs acc : List Component) :
    (moves cs).foldl resolveStep acc = cs.foldl resolveStep acc := by
  induction cs generalizing acc with
  | nil => rfl
  | cons c cs ih =>
    cases c with
    | current => exact ih acc
    | root => exact ih _
    | parent => exact ih _
    | name s => exact ih _

theorem foldl_resolveStep_components (p : Path) :
    p.components.foldl resolveStep [] = p.steps.foldl resolveStep [] := by
  rw [components]
  split
  · rename_i rest hsteps
    rw [hsteps, List.foldl_cons, List.foldl_cons, foldl_resolveStep_moves]
  · rw [foldl_resolveStep_moves]

theorem foldl_resolveStep {cs base : List Component} (hroot : Component.root ∉ cs)
    (hbase : base = [] ∨ base = [.root]) (r : ℕ × List FileName) :
    cs.foldl resolveStep ((r.2.map Component.name).reverse ++ base) =
      ((cs.foldl reachStep r).2.map Component.name).reverse ++ base := by
  induction cs generalizing r with
  | nil => rfl
  | cons c cs ih =>
    obtain ⟨hc, hcs⟩ := not_or.1 (mt List.mem_cons.2 hroot)
    have hstep : resolveStep ((r.2.map Component.name).reverse ++ base) c =
        ((reachStep r c).2.map Component.name).reverse ++ base := by
      cases c with
      | root => exact absurd rfl hc
      | current => rfl
      | parent =>
        rcases List.eq_nil_or_concat r.2 with hnames | ⟨front, s, hnames⟩
        · -- nothing is taken back, as the bottom is no name
          rw [reachStep, if_pos hnames, hnames]
          rcases hbase with rfl | rfl <;> rfl
        · have hne : r.2 ≠ [] := by
            rw [hnames]
            simp
          rw [reachStep, if_neg hne, hnames, List.concat_eq_append, List.dropLast_concat,
            List.map_append, List.reverse_append]
          rfl
      | name s =>
        rw [reachStep, List.map_append, List.reverse_append]
        rfl
    rw [List.foldl_cons, hstep, ih hcs, List.foldl_cons]

/-- Resolving the text keeps the names and drops the climbing. -/
theorem normalize_eq (p : Path) :
    p.normalize = (if p.isAbsolute then [.root] else []) ++ p.names.map Component.name := by
  rw [normalize, foldl_resolveStep_components, names, reach, steps]
  cases p.isAbsolute with
  | true =>
    have hfold := foldl_resolveStep (root_notMem_piecesOf p.text.bytes)
      (Or.inr rfl : [Component.root] = [] ∨ [Component.root] = [.root]) (0, [])
    rw [if_pos rfl, if_pos rfl, List.foldl_cons, List.foldl_cons]
    exact (congrArg List.reverse hfold).trans (by simp; rfl)
  | false =>
    have hfold := foldl_resolveStep (root_notMem_piecesOf p.text.bytes)
      (Or.inl rfl : ([] : List Component) = [] ∨ ([] : List Component) = [.root]) (0, [])
    rw [if_neg Bool.false_ne_true, if_neg Bool.false_ne_true]
    exact (congrArg List.reverse hfold).trans (by simp)

end Path

/-! ### Following a path -/

namespace FileSystem

/-- A tree without symbolic links. -/
def Linkless (fs : FileSystem) : Prop := ∀ loc target, fs.node? loc ≠ some (.link target)

/-- A place at a location: what is there, or a name that is free. -/
def IsAt (fs : FileSystem) (loc : Location) : Place → Prop
  | .taken loc' => loc' = loc
  | .free dir name => dir ++ [name] = loc ∧ fs.node? loc = none

/-- Following steps on a tree without links leads where they say. -/
theorem walk_eq {fs : FileSystem} (h : fs.Linkless) {purpose : Purpose} {slash : Bool}
    {fuel links : ℕ} {loc : Location} {cs : List Component} {place : Place}
    (hwalk : fs.walk purpose slash fuel links loc cs = .ok place) :
    fs.IsAt (cs.foldl Component.leads loc) place := by
  induction fuel generalizing loc cs with
  | zero => cases hwalk
  | succ fuel ih =>
    cases cs with
    | nil =>
      obtain rfl := Except.ok.inj hwalk
      rfl
    | cons c cs =>
      rw [List.foldl_cons]
      cases c with
      | root | current | parent => exact ih hwalk
      | name s =>
        cases (walk_name_eq_ok_iff.1 hwalk).2 with
        | free hnode hrest hplace =>
          subst hrest hplace
          exact ⟨rfl, hnode⟩
        | directory _ _ hwalk => exact ih hwalk
        | entry target hnode | link target _ hnode => exact absurd hnode (h _ target)
        | leaf _ _ _ hrest _ hplace =>
          subst hrest hplace
          rfl

theorem locate_eq {fs : FileSystem} (h : fs.Linkless) {purpose : Purpose} {p : Path} {place : Place}
    (hlocate : fs.locate purpose p = .ok place) :
    fs.IsAt (p.place fs.workingDirectory) place := by
  rw [locate_eq_match] at hlocate
  split at hlocate
  · cases hlocate
  · exact walk_eq h hlocate

/-- What a path leads to on a tree without links is at its place. -/
theorem resolve_eq_place {fs : FileSystem} (h : fs.Linkless) {purpose : Purpose} {p : Path}
    {loc : Location} (hresolve : fs.resolve purpose p = .ok loc) :
    loc = p.place fs.workingDirectory := by
  rw [resolve] at hresolve
  split at hresolve
  · rename_i loc' hlocate
    obtain rfl := Except.ok.inj hresolve
    exact locate_eq h hlocate
  · cases hresolve
  · cases hresolve

end FileSystem

end SchemaForge
