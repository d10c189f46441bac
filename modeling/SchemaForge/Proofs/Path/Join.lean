import Mathlib.Data.List.Basic
import SchemaForge.Proofs.Path.Place
import SchemaForge.Proofs.Text.Pieces
import SchemaForge.Proofs.Text.Raw

/-!
# Paths seen from a directory

Joining is associative as an operation on bytes (`Path.join_assoc`), so it does not matter how a
path of several parts is put together. It matters whether a part is named twice: `p / (p / q)` is
`p / q` only if that is absolute or `p` is empty (`Path.join_join_eq_iff`), or, for paths that are
compared by their components, if `p` leads nowhere (`Path.join_join_beq_iff`).

The path `p / q` leads where `q` leads from the place of `p` (`Path.place_join`), on a tree without
links. So a joined path that is followed from the place of its own first part runs through that
part twice, and `Path.forall_place_twice_iff` says when this does no harm: the joined path is
absolute, or its first part comes back to where it starts from.

On any tree, an absolute path leads to the same place from all working directories
(`FileSystem.locate_of_isAbsolute`).
-/

namespace SchemaForge

namespace Path

/-! ### Joining -/

theorem piecesOf_append (as bs : Bytes) :
    piecesOf (as ++ slash :: bs) = piecesOf as ++ piecesOf bs := by
  have hpieces : Text.pieces (· == slash) (as ++ slash :: bs) =
      Text.pieces (· == slash) as ++ Text.pieces (· == slash) bs := Text.pieces_append rfl as bs
  rw [piecesOf, hpieces, List.filter_append, List.map_append]
  rfl

theorem piecesOf_nil : piecesOf [] = [] := rfl

theorem place_of_text_eq_empty {p : Path} (h : p.text = "") (cwd : Location) :
    p.place cwd = cwd := by
  rw [place, steps, isAbsolute, h]
  rfl

/-- A joined path has a slash between its parts. -/
theorem text_join {p q : Path} (hq : q.isAbsolute = false) (hp : p.text ≠ "") :
    ∃ as, (p / q).text.bytes = as ++ slash :: q.text.bytes ∧
      piecesOf p.text.bytes = piecesOf as ∧ (as ++ [slash]).head? = p.text.bytes.head? := by
  have hjoin : p / q = p.join q := rfl
  have hempty : (p.text == "") = false := beq_false_of_ne hp
  rw [hjoin, join, hq, hempty, if_neg (by simp)]
  have hne : p.text.bytes ≠ [] := mt RawText.eq_empty_iff.2 hp
  split
  · rename_i hslash
    -- the slash at the end of `p` is the one between
    obtain ⟨as, hlast⟩ := List.getLast?_eq_some_iff.1 (beq_iff_eq.1 hslash)
    refine ⟨as, by simp [hlast], ?_, by rw [hlast]⟩
    rw [hlast, piecesOf_append, piecesOf_nil, List.append_nil]
  · refine ⟨p.text.bytes, by simp, rfl, ?_⟩
    obtain ⟨a, as, has⟩ := List.exists_cons_of_ne_nil hne
    rw [has]
    rfl

theorem isAbsolute_join (p q : Path) : (p / q).isAbsolute = (q.isAbsolute || p.isAbsolute) := by
  have hjoin : p / q = p.join q := rfl
  cases hq : q.isAbsolute with
  | true => rw [hjoin, join, hq, Bool.true_or, if_pos rfl, hq, Bool.true_or]
  | false =>
    by_cases hp : p.text = ""
    · have hrelative : p.isAbsolute = false := by
        rw [isAbsolute, hp]
        rfl
      rw [hjoin, join, hq, hp, hrelative]
      exact hq
    · obtain ⟨as, htext, -, hhead⟩ := text_join hq hp
      rw [isAbsolute, isAbsolute, htext, ← hhead]
      cases as <;> rfl

theorem join_of_isAbsolute {q : Path} (h : q.isAbsolute = true) (p : Path) : p / q = q := by
  have hjoin : p / q = p.join q := rfl
  rw [hjoin, join, h, Bool.true_or, if_pos rfl]

theorem join_of_text_eq_empty {p : Path} (h : p.text = "") (q : Path) : p / q = q := by
  have hjoin : p / q = p.join q := rfl
  rw [hjoin, join, h, BEq.rfl, Bool.or_true, if_pos rfl]

/-- A path as a directory, which ends in a slash. -/
def asDirectory (p : Path) : Bytes :=
  if p.endsInSlash then p.text.bytes else p.text.bytes ++ [slash]

theorem join_eq {p q : Path} (hq : q.isAbsolute = false) (hp : p.text ≠ "") :
    p / q = ⟨⟨p.asDirectory ++ q.text.bytes⟩⟩ := by
  have hjoin : p / q = p.join q := rfl
  rw [hjoin, join, hq, beq_false_of_ne hp, if_neg (by simp), asDirectory]
  split
  · rfl
  · rw [List.append_assoc]
    rfl

theorem getLast?_asDirectory (p : Path) : p.asDirectory.getLast? = some slash := by
  rw [asDirectory]
  split
  · rename_i hslash
    exact beq_iff_eq.1 hslash
  · exact List.getLast?_concat

theorem asDirectory_ne_nil (p : Path) : p.asDirectory ≠ [] := by
  intro h
  have hlast := p.getLast?_asDirectory
  rw [h] at hlast
  cases hlast

theorem asDirectory_asDirectory (p : Path) : asDirectory ⟨⟨p.asDirectory⟩⟩ = p.asDirectory := by
  rw [asDirectory, endsInSlash, getLast?_asDirectory]
  rfl

theorem asDirectory_append {q : Path} (hq : q.text.bytes ≠ []) (bytes : Bytes) :
    asDirectory ⟨⟨bytes ++ q.text.bytes⟩⟩ = bytes ++ q.asDirectory := by
  have hslash : endsInSlash ⟨⟨bytes ++ q.text.bytes⟩⟩ = q.endsInSlash := by
    rw [endsInSlash, endsInSlash, List.getLast?_append_of_ne_nil _ hq]
  rw [asDirectory, asDirectory, hslash]
  split
  · rfl
  · exact List.append_assoc ..

theorem join_assoc (p q r : Path) : p / q / r = p / (q / r) := by
  cases hr : r.isAbsolute with
  | true => rw [join_of_isAbsolute hr, join_of_isAbsolute hr, join_of_isAbsolute hr]
  | false =>
    by_cases hp : p.text = ""
    · rw [join_of_text_eq_empty hp, join_of_text_eq_empty hp]
    · cases hq : q.isAbsolute with
      | true =>
        have hqr : (q / r).isAbsolute = true := by rw [isAbsolute_join, hq, Bool.or_true]
        rw [join_of_isAbsolute hq, join_of_isAbsolute hqr]
      | false =>
        have hne : (⟨p.asDirectory ++ q.text.bytes⟩ : RawText) ≠ "" :=
          mt RawText.eq_empty_iff.1 (List.append_ne_nil_of_left_ne_nil p.asDirectory_ne_nil _)
        rw [join_eq hq hp, join_eq hr hne]
        by_cases hempty : q.text = ""
        · rw [join_of_text_eq_empty hempty, join_eq hr hp, RawText.eq_empty_iff.1 hempty,
            List.append_nil, asDirectory_asDirectory]
        · have hqr : (q / r).isAbsolute = false := by rw [isAbsolute_join, hr, hq]; rfl
          rw [join_eq hqr hp, join_eq hr hempty,
            asDirectory_append (mt RawText.eq_empty_iff.2 hempty), List.append_assoc]

/-- A joined path leads where its second part leads from the place of the first. -/
theorem place_join (p q : Path) (cwd : Location) : (p / q).place cwd = q.place (p.place cwd) := by
  have hjoin : p / q = p.join q := rfl
  cases hq : q.isAbsolute with
  | true =>
    rw [hjoin, join, hq, Bool.true_or, if_pos rfl, place_of_isAbsolute hq, place_of_isAbsolute hq]
  | false =>
    by_cases hp : p.text = ""
    · rw [place_of_text_eq_empty hp, hjoin, join, hq, hp]
      rfl
    · obtain ⟨as, htext, hpieces, -⟩ := text_join hq hp
      have habsolute := isAbsolute_join p q
      rw [hq, Bool.false_or] at habsolute
      rw [place, place, place, steps, steps, steps, habsolute, hq, htext, piecesOf_append, hpieces]
      cases p.isAbsolute
      · exact List.foldl_append
      · exact List.foldl_append

/-! ### Naming the directory twice -/

/-- When a path that is seen from a directory already is left as it is by seeing it from there once
more. -/
theorem join_join_eq_iff (p q : Path) :
    p / (p / q) = p / q ↔ (p / q).isAbsolute = true ∨ p.text = "" := by
  constructor
  · intro h
    by_contra hneither
    obtain ⟨habsolute, hp⟩ := not_or.1 hneither
    rw [join_eq (Bool.not_eq_true _ ▸ habsolute) hp] at h
    have hbytes : p.asDirectory ++ (p / q).text.bytes = (p / q).text.bytes :=
      congrArg (·.text.bytes) h
    exact p.asDirectory_ne_nil (List.append_left_eq_self.1 hbytes)
  · rintro (h | h)
    · exact join_of_isAbsolute h p
    · exact join_of_text_eq_empty h _

theorem steps_join {q : Path} (hq : q.isAbsolute = false) (p : Path) :
    (p / q).steps = p.steps ++ q.steps := by
  by_cases hp : p.text = ""
  · have hsteps : p.steps = [] := by
      rw [steps, isAbsolute, hp]
      rfl
    rw [join_of_text_eq_empty hp, hsteps, List.nil_append]
  · obtain ⟨as, htext, hpieces, -⟩ := text_join hq hp
    rw [steps, steps, steps, isAbsolute_join, hq, Bool.false_or, htext, piecesOf_append, hpieces]
    cases p.isAbsolute <;> rfl

theorem moves_append (cs ds : List Component) : moves (cs ++ ds) = moves cs ++ moves ds :=
  List.filter_append ..

theorem moves_eq_nil_iff {cs : List Component} : moves cs = [] ↔ ∀ c ∈ cs, c = .current := by
  rw [moves, List.filter_eq_nil_iff]
  simp

/-- Paths are compared by their components. -/
theorem beq_iff (p q : Path) : (p == q) = true ↔ p.components = q.components := by
  show (p.components == q.components) = true ↔ _
  exact beq_iff_eq

/-- The components are the moves, behind the leading `.` if there is one. -/
theorem components_eq (p : Path) :
    p.components = p.steps.head?.toList.filter (· == .current) ++ moves p.steps := by
  rw [components]
  split
  · rename_i rest hsteps
    rw [hsteps]
    rfl
  · rename_i hsteps
    cases hcs : p.steps with
    | nil => rfl
    | cons c cs =>
      have hc : (c == .current) = false := beq_false_of_ne fun h ↦ hsteps cs (h ▸ hcs)
      simp [hc]

/-- As components do, paths tell a directory that is named twice from one that is named once, unless
it leads nowhere. -/
theorem join_join_beq_iff (p q : Path) :
    (p / (p / q) == p / q) = true ↔
      (p / q).isAbsolute = true ∨ ∀ c ∈ p.steps, c = .current := by
  cases habsolute : (p / q).isAbsolute with
  | true => simp [join_of_isAbsolute habsolute, beq_iff]
  | false =>
    have hq : q.isAbsolute = false := by
      rw [isAbsolute_join] at habsolute
      exact (Bool.or_eq_false_iff.1 habsolute).1
    rw [or_iff_right Bool.false_ne_true, ← moves_eq_nil_iff, beq_iff, components_eq, components_eq,
      steps_join habsolute, steps_join hq]
    have hhead : (p.steps ++ (p.steps ++ q.steps)).head? = (p.steps ++ q.steps).head? := by
      cases p.steps <;> rfl
    rw [hhead, List.append_cancel_left_eq, moves_append]
    exact List.append_left_eq_self

/-! ### Running through a path twice -/

theorem length_place {p : Path} (h : p.isAbsolute = false) (cwd : Location) :
    (p.place cwd).length = cwd.length - p.climb + p.names.length := by
  rw [place_of_not_isAbsolute h, List.length_append, List.length_take]
  omega

/-- A relative path that goes down as far as it climbs leads to one place from where it starts and
from there. -/
theorem place_place {p : Path} (h : p.isAbsolute = false) (hclimb : p.climb = p.names.length)
    (cwd : Location) : p.place (p.place cwd) = p.place cwd := by
  have hlength := length_place h cwd
  rw [place_of_not_isAbsolute h (p.place cwd), hlength, hclimb, Nat.add_sub_cancel]
  conv_lhs => rw [place_of_not_isAbsolute h cwd]
  rw [place_of_not_isAbsolute h cwd, hclimb, List.take_append_of_le_length, List.take_take,
    Nat.min_self]
  rw [List.length_take]
  omega

/-- When a joined path leads to one place from everywhere and from the place of its first part. -/
theorem forall_place_twice_iff (p q : Path) :
    (∀ cwd, (p / q).place (p.place cwd) = (p / q).place cwd) ↔
      (p / q).isAbsolute = true ∨ p.climb = p.names.length := by
  rw [isAbsolute_join]
  cases hq : q.isAbsolute with
  | true =>
    have habsolute : (p / q).isAbsolute = true := by rw [isAbsolute_join, hq, Bool.true_or]
    simp [place_of_isAbsolute habsolute]
  | false =>
    cases hp : p.isAbsolute with
    | true =>
      have habsolute : (p / q).isAbsolute = true := by rw [isAbsolute_join, hp, Bool.or_true]
      simp [place_of_isAbsolute habsolute]
    | false =>
      rw [Bool.or_self, or_iff_right Bool.false_ne_true]
      refine ⟨fun hsame ↦ ?_, fun hclimb cwd ↦ ?_⟩
      · -- from a directory that is deep enough, the lengths of the two places tell
        have hdeep := congrArg List.length
          (hsame (List.replicate (2 * p.climb + q.climb) (RawText.ofText "a")))
        rw [place_join, place_join, length_place hq, length_place hq, length_place hp,
          length_place hp, List.length_replicate] at hdeep
        omega
      · rw [place_join, place_join, place_place hp hclimb]

end Path

/-! ### Absolute paths on any tree -/

namespace FileSystem

/-- On its way a walk asks a tree only for what is at places. -/
theorem walk_congr {fs fs' : FileSystem} (h : ∀ loc, fs'.node? loc = fs.node? loc)
    (purpose : Purpose) (slash : Bool) (fuel links : ℕ) (dir : Location) (cs : List Component) :
    fs'.walk purpose slash fuel links dir cs = fs.walk purpose slash fuel links dir cs := by
  induction fuel generalizing slash links dir cs with
  | zero => rfl
  | succ fuel ih =>
    cases cs with
    | nil => rfl
    | cons c cs =>
      cases c with
      | root => exact ih ..
      | current => exact ih ..
      | parent => exact ih ..
      | name s =>
        rw [walk, walk]
        simp only [ih, h]

/-- An absolute path leads to the same place from all working directories. -/
theorem locate_of_isAbsolute {p : Path} (h : p.isAbsolute = true) (fs : FileSystem) (loc : Location)
    (purpose : Purpose) :
    ({ fs with workingDirectory := loc } : FileSystem).locate purpose p = fs.locate purpose p := by
  have hsteps : p.steps = .root :: Path.piecesOf p.text.bytes := by rw [Path.steps, if_pos h]
  have hnode : ∀ q, ({ fs with workingDirectory := loc } : FileSystem).node? q = fs.node? q :=
    fun q ↦ rfl
  rw [locate, locate, hsteps]
  simp only [walk_congr hnode]
  rfl

end FileSystem

end SchemaForge
