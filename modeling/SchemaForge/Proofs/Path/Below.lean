import SchemaForge.Proofs.OutputDirectory.Separation
import SchemaForge.Proofs.Path.Direct

/-!
# Names that are joined as paths

A path that is seen from an absolute directory keeps some of the directory's names and leaves the
others behind (`Path.kept`, `Path.left`), and its own names follow those that are kept
(`Path.names_join`). So it stays below the directory exactly if it comes back through all names that
it leaves behind (`Path.below_join_iff`), whatever its text looks like.

Only paths that are relative, do not climb and go down at least one name stay below every absolute
directory (`Path.forall_below_join_iff`). Among them are the single file names (`Path.Plain`), and
two of these lead to different places from everywhere unless they are the same text
(`Path.Plain.namesFrom_prefix_iff`).

On a tree without links these relations between normal forms are those between the places that the
paths lead to (`Path.place_prefix_iff`).
-/

namespace SchemaForge

namespace Path

/-- The path is below the directory once `.` and `..` are resolved. -/
def Below (p dir : Path) : Prop := dir.normalize <+: p.normalize ∧ p.normalize ≠ dir.normalize

instance (p dir : Path) : Decidable (p.Below dir) :=
  inferInstanceAs (Decidable (dir.normalize <+: p.normalize ∧ p.normalize ≠ dir.normalize))

/-- One of the directories is the other or holds it, once `.` and `..` are resolved. -/
def Overlaps (p q : Path) : Prop := p.normalize <+: q.normalize ∨ q.normalize <+: p.normalize

instance (p q : Path) : Decidable (p.Overlaps q) :=
  inferInstanceAs (Decidable (p.normalize <+: q.normalize ∨ q.normalize <+: p.normalize))

/-! ### Absolute paths -/

section Absolute

variable {p q : Path}

theorem normalize_of_isAbsolute (h : p.isAbsolute = true) :
    p.normalize = .root :: p.names.map Component.name := by
  rw [normalize_eq, if_pos h]
  rfl

theorem normalize_prefix_iff (hp : p.isAbsolute = true) (hq : q.isAbsolute = true) :
    p.normalize <+: q.normalize ↔ p.names <+: q.names := by
  rw [normalize_of_isAbsolute hp, normalize_of_isAbsolute hq, List.prefix_cons_inj,
    OutputDirectory.map_name_prefix_iff]

theorem normalize_eq_iff (hp : p.isAbsolute = true) (hq : q.isAbsolute = true) :
    p.normalize = q.normalize ↔ p.names = q.names := by
  rw [normalize_of_isAbsolute hp, normalize_of_isAbsolute hq, List.cons_inj_right,
    List.map_inj_right OutputDirectory.name_injective]

/-- An absolute path leads below another one, or to the same place, if its names say so. -/
theorem place_prefix_iff (hp : p.isAbsolute = true) (hq : q.isAbsolute = true) (cwd : Location) :
    p.place cwd <+: q.place cwd ↔ p.normalize <+: q.normalize := by
  rw [normalize_prefix_iff hp hq, place_of_isAbsolute hp, place_of_isAbsolute hq]

theorem place_eq_iff (hp : p.isAbsolute = true) (hq : q.isAbsolute = true) (cwd : Location) :
    p.place cwd = q.place cwd ↔ p.normalize = q.normalize := by
  rw [normalize_eq_iff hp hq, place_of_isAbsolute hp, place_of_isAbsolute hq]

end Absolute

/-! ### Seen from a directory -/

/-- The names of a directory that a path seen from there keeps. -/
def kept (q dir : Path) : List FileName :=
  if q.isAbsolute then [] else dir.names.take (dir.names.length - q.climb)

/-- The names of a directory that a path seen from there leaves behind. -/
def left (q dir : Path) : List FileName :=
  if q.isAbsolute then dir.names else dir.names.drop (dir.names.length - q.climb)

/-- The names that a path goes down when it is seen from a directory. -/
def namesFrom (q dir : Path) : List FileName := q.kept dir ++ q.names

/-- Seen from the directory, the path comes back through the names that it leaves behind. -/
def Returns (q dir : Path) : Prop := q.left dir <+: q.names

instance (q dir : Path) : Decidable (q.Returns dir) :=
  inferInstanceAs (Decidable (q.left dir <+: q.names))

/-- Wherever the path is seen from, it leads down from there. -/
structure Inward (q : Path) : Prop where
  relative : q.isAbsolute = false
  climb : q.climb = 0
  names : q.names ≠ []

instance (q : Path) : Decidable q.Inward :=
  decidable_of_iff (q.isAbsolute = false ∧ q.climb = 0 ∧ q.names ≠ [])
    ⟨fun h ↦ ⟨h.1, h.2.1, h.2.2⟩, fun h ↦ ⟨h.1, h.2, h.3⟩⟩

variable {dir q : Path}

theorem kept_append_left (q dir : Path) : q.kept dir ++ q.left dir = dir.names := by
  rw [kept, left]
  split
  · rfl
  · exact List.take_append_drop ..

theorem isAbsolute_join_of_left (h : dir.isAbsolute = true) (q : Path) :
    (dir / q).isAbsolute = true := by
  rw [isAbsolute_join, h, Bool.or_true]

/-- The names of a joined path: what the second part keeps of the first, and its own. -/
theorem names_join (h : dir.isAbsolute = true) (q : Path) :
    (dir / q).names = q.namesFrom dir := by
  rw [namesFrom, kept]
  split
  · rename_i hq
    rw [join_of_isAbsolute hq]
    rfl
  · rename_i hq
    -- a place tells the names of an absolute path
    have hplace := place_join dir q []
    rwa [place_of_isAbsolute (isAbsolute_join_of_left h q), place_of_isAbsolute h,
      place_of_not_isAbsolute (Bool.not_eq_true _ ▸ hq)] at hplace

theorem names_prefix_names_join_iff (h : dir.isAbsolute = true) :
    dir.names <+: (dir / q).names ↔ q.Returns dir := by
  rw [names_join h, namesFrom, Returns]
  conv_lhs => rw [← kept_append_left q dir]
  exact List.prefix_append_right_inj _

theorem names_join_eq_iff (h : dir.isAbsolute = true) :
    (dir / q).names = dir.names ↔ q.names = q.left dir := by
  rw [names_join h, namesFrom]
  conv_lhs => rw [← kept_append_left q dir]
  rw [List.append_cancel_left_eq]

/-- A path stays below the directory from which it is seen exactly if it comes back through the
names that it leaves behind and does not end there. -/
theorem below_join_iff (h : dir.isAbsolute = true) :
    (dir / q).Below dir ↔ q.Returns dir ∧ q.names ≠ q.left dir := by
  have hjoin := isAbsolute_join_of_left h q
  rw [Below, normalize_prefix_iff h hjoin, names_prefix_names_join_iff h, Ne,
    normalize_eq_iff hjoin h, names_join_eq_iff h]

theorem Inward.kept_eq (h : q.Inward) (dir : Path) : q.kept dir = dir.names := by
  rw [kept, h.relative, h.climb, if_neg Bool.false_ne_true, Nat.sub_zero, List.take_length]

theorem Inward.left_eq (h : q.Inward) (dir : Path) : q.left dir = [] := by
  rw [left, h.relative, h.climb, if_neg Bool.false_ne_true, Nat.sub_zero, List.drop_length]

theorem Inward.returns (h : q.Inward) (dir : Path) : q.Returns dir := by
  rw [Returns, h.left_eq]
  exact List.nil_prefix

theorem Inward.names_ne_left (h : q.Inward) (dir : Path) : q.names ≠ q.left dir := by
  rw [h.left_eq]
  exact h.names

/-- The names of an inward path follow all names of the directory. -/
theorem Inward.namesFrom_eq (h : q.Inward) (dir : Path) :
    q.namesFrom dir = dir.names ++ q.names := by
  rw [namesFrom, h.kept_eq]

/-- With the name of a file behind it, a path may end at the directory itself. -/
theorem below_join_join_iff {file : Path} {s : FileName} (h : dir.isAbsolute = true)
    (hfile : file.Inward) (hnames : file.names = [s]) :
    (dir / q / file).Below dir ↔ q.Returns dir := by
  have hjoin := isAbsolute_join_of_left h q
  have hall := isAbsolute_join_of_left hjoin file
  rw [Below, normalize_prefix_iff h hall, Ne, normalize_eq_iff hall h, names_join hjoin,
    hfile.namesFrom_eq, hnames, List.prefix_concat_iff, ← names_prefix_names_join_iff h]
  constructor
  · rintro ⟨heq | hpre, hne⟩
    · exact absurd heq.symm hne
    · exact hpre
  · -- the name of the file is one more than the names of the directory
    intro hpre
    refine ⟨Or.inr hpre, fun heq ↦ ?_⟩
    have hlength := hpre.length_le
    rw [← heq, List.length_append, List.length_singleton] at hlength
    omega

/-- The paths that stay below every directory from which they are seen. -/
theorem forall_below_join_iff :
    (∀ dir : Path, dir.isAbsolute = true → (dir / q).Below dir) ↔ q.Inward := by
  refine ⟨fun hall ↦ ?_, fun h dir hdir ↦
    (below_join_iff hdir).2 ⟨h.returns dir, h.names_ne_left dir⟩⟩
  -- three directories tell enough of the path
  have hroot := (below_join_iff rfl).1 (hall ⟨"/"⟩ rfl)
  have hfirst := ((below_join_iff rfl).1 (hall ⟨"/a"⟩ rfl)).1
  have hsecond := ((below_join_iff rfl).1 (hall ⟨"/b"⟩ rfl)).1
  rw [Returns, left] at hfirst hsecond
  have hrelative : q.isAbsolute = false := by
    by_contra habsolute
    rw [Bool.not_eq_false] at habsolute
    refine (hall q habsolute).2 ?_
    rw [join_of_isAbsolute habsolute]
  rw [if_neg (by rw [hrelative]; exact Bool.false_ne_true)] at hfirst hsecond
  refine ⟨hrelative, ?_, fun hnames ↦ hroot.2 ?_⟩
  · -- having climbed out of `/a` and `/b`, it would have to start with both names
    by_contra hclimb
    have hzero : 1 - q.climb = 0 := by omega
    have ha : [("a" : FileName)] <+: q.names := by
      have h : [("a" : FileName)].drop (1 - q.climb) <+: q.names := hfirst
      rwa [hzero] at h
    have hb : [("b" : FileName)] <+: q.names := by
      have h : [("b" : FileName)].drop (1 - q.climb) <+: q.names := hsecond
      rwa [hzero] at h
    obtain ⟨as, has⟩ := ha
    obtain ⟨bs, hbs⟩ := hb
    rw [← hbs] at has
    exact absurd (List.cons.inj has).1 (by decide)
  · have hnone : Path.names ⟨"/"⟩ = [] := rfl
    rw [hnames, left, hnone, List.drop_nil, ite_self]

/-! ### Single file names -/

/-- The path is the name of one entry of a directory. -/
structure Plain (p : Path) : Prop where
  slash : Path.slash ∉ p.text.bytes
  empty : p.text ≠ ""
  current : p.text ≠ "."
  parent : p.text ≠ ".."

instance (p : Path) : Decidable p.Plain :=
  decidable_of_iff (Path.slash ∉ p.text.bytes ∧ p.text ≠ "" ∧ p.text ≠ "." ∧ p.text ≠ "..")
    ⟨fun h ↦ ⟨h.1, h.2.1, h.2.2.1, h.2.2.2⟩, fun h ↦ ⟨h.1, h.2, h.3, h.4⟩⟩

namespace Plain

variable {p : Path}

theorem isAbsolute (h : p.Plain) : p.isAbsolute = false := by
  rw [Path.isAbsolute]
  refine beq_false_of_ne fun hhead ↦ h.slash ?_
  exact List.mem_of_mem_head? hhead

theorem steps_eq (h : p.Plain) : p.steps = [.name p.text] := by
  have hne : p.text.bytes ≠ [] := mt RawText.eq_empty_iff.2 h.empty
  have hcurrent : p.text.bytes ≠ [dot] := fun heq ↦ h.current (RawText.bytes_inj.1 heq)
  have hparent : p.text.bytes ≠ [dot, dot] := fun heq ↦ h.parent (RawText.bytes_inj.1 heq)
  have hcomponent : componentOf p.text.bytes = .name p.text := by
    rw [componentOf, if_neg (by simpa using hcurrent), if_neg (by simpa using hparent)]
  rw [steps, h.isAbsolute, if_neg Bool.false_ne_true, piecesOf, Text.pieces_of_notMem h.slash,
    List.filter_cons_of_pos (by simpa using hne), List.filter_nil, List.map_singleton, hcomponent]

theorem climb_eq (h : p.Plain) : p.climb = 0 := by
  rw [climb, reach, h.steps_eq]
  rfl

/-- Such a path is its own name. -/
theorem names_eq (h : p.Plain) : p.names = [p.text] := by
  rw [names, reach, h.steps_eq]
  rfl

theorem inward (h : p.Plain) : p.Inward :=
  ⟨h.isAbsolute, h.climb_eq, by rw [h.names_eq]; exact List.cons_ne_nil _ _⟩

/-- From one directory, single file names only lead into each other if they are the same. -/
theorem namesFrom_prefix_iff (h : p.Plain) {q : Path} (hq : q.Plain) (dir : Path) :
    p.namesFrom dir <+: q.namesFrom dir ↔ p.text = q.text := by
  rw [h.inward.namesFrom_eq, hq.inward.namesFrom_eq, h.names_eq, hq.names_eq,
    List.prefix_append_right_inj, List.cons_prefix_cons, and_iff_left List.nil_prefix]

end Plain

/-! ### Two paths seen from one directory -/

theorem join_join_normalize_eq_iff {file q' : Path} (h : dir.isAbsolute = true)
    (hfile : file.Inward) :
    (dir / q / file).normalize = (dir / q' / file).normalize ↔
      q.namesFrom dir = q'.namesFrom dir := by
  have hjoin := isAbsolute_join_of_left h q
  have hjoin' := isAbsolute_join_of_left h q'
  rw [normalize_eq_iff (isAbsolute_join_of_left hjoin file) (isAbsolute_join_of_left hjoin' file),
    names_join hjoin, names_join hjoin', hfile.namesFrom_eq, hfile.namesFrom_eq,
    List.append_cancel_right_eq, names_join h, names_join h]

theorem overlaps_join_iff (h : dir.isAbsolute = true) {q' : Path} :
    (dir / q).Overlaps (dir / q') ↔
      q.namesFrom dir <+: q'.namesFrom dir ∨ q'.namesFrom dir <+: q.namesFrom dir := by
  have hjoin := isAbsolute_join_of_left h q
  have hjoin' := isAbsolute_join_of_left h q'
  rw [Overlaps, normalize_prefix_iff hjoin hjoin', normalize_prefix_iff hjoin' hjoin, names_join h,
    names_join h]

end Path

end SchemaForge
