import Mathlib.Data.List.Infix
import SchemaForge.Migration.ScriptName

/-!
# What the name of a script says

`ScriptName.parse?` reads a file name from its two ends to the middle. Here it is said what it finds
there, without the reading.

* A name *frames* what stands between the `V` at its front and the `.sql` at its end
  (`ScriptName.Frames`). Other names are passed over (`parse?_eq_none_iff`).
* It *says* a version and a description if they are in the frame, with the first two underscores in
  a row between them (`ScriptName.Says`, `parse?_eq_ok_iff`).
* Otherwise it is *malformed*: there are no two underscores in a row, or what is in front of them is
  no version (`ScriptName.Malformed`, `exists_parse?_eq_error_iff`).
-/

namespace SchemaForge.ScriptName

variable {cs front back stem rest tail : List Char} {fileName : String} {parsed : ScriptName}

/-! ### The two ends -/

theorem dropEnd?_eq_some_iff : dropEnd? tail cs = some rest ↔ cs = rest ++ tail := by
  rw [dropEnd?]
  constructor
  · intro h
    split at h
    · rename_i hsuffix
      obtain ⟨front, rfl⟩ := List.isSuffixOf_iff_suffix.1 hsuffix
      rw [List.length_append, Nat.add_sub_cancel, List.take_left] at h
      rw [Option.some.inj h]
    · cases h
  · rintro rfl
    have hsuffix : tail.isSuffixOf (rest ++ tail) = true :=
      List.isSuffixOf_iff_suffix.2 (List.suffix_append rest tail)
    rw [if_pos hsuffix, List.length_append, Nat.add_sub_cancel, List.take_left]

/-- A name has a stem between the `V` at its front and the `.sql` at its end. -/
def Frames (fileName : String) (stem : List Char) : Prop :=
  fileName.toList = 'V' :: stem ++ ending

theorem stem?_eq_some_iff : stem? fileName = some stem ↔ Frames fileName stem := by
  rw [stem?, Frames, List.cons_append]
  constructor
  · intro h
    split at h
    · rename_i rest htext
      rw [htext, dropEnd?_eq_some_iff.1 h]
    · cases h
  · intro h
    rw [h]
    exact dropEnd?_eq_some_iff.2 rfl

/-! ### The middle -/

/-- What ends the version. -/
def separator : List Char := ['_', '_']

/-- A stem has a separator, and its parts stand in front of the first one and behind it. -/
structure Splits (stem front back : List Char) : Prop where
  eq : stem = front ++ separator ++ back
  /-- Also with one underscore behind it the front has no separator. -/
  first : ¬separator <:+: front ++ ['_']

theorem separator_isPrefix_cons {c : Char} :
    separator <+: c :: cs ↔ c = '_' ∧ ∃ rest, cs = '_' :: rest := by
  have htail : ['_'] <+: cs ↔ ∃ rest, cs = '_' :: rest :=
    exists_congr fun rest ↦ eq_comm
  rw [separator, List.cons_prefix_cons, eq_comm, htail]

/-- Nothing that starts with a separator in front of `cs` is one of `c :: cs`. -/
theorem separator_isInfix_cons {c : Char} (h : ∀ rest, c = '_' → cs = '_' :: rest → False) :
    separator <:+: c :: cs ↔ separator <:+: cs := by
  rw [List.infix_cons_iff, or_iff_right]
  intro hprefix
  obtain ⟨hc, rest, hcs⟩ := separator_isPrefix_cons.1 hprefix
  exact h rest hc hcs

theorem splits_of_splitSeparator (h : splitSeparator cs = some (front, back)) :
    Splits cs front back := by
  fun_induction splitSeparator cs generalizing front with
  | case1 rest =>
    obtain ⟨rfl, rfl⟩ := Prod.mk.inj (Option.some.inj h)
    exact ⟨rfl, fun hinfix ↦ absurd hinfix.length_le (by decide)⟩
  | case2 c rest hnot ih =>
    obtain ⟨⟨front', back'⟩, hsplit, heq⟩ := Option.map_eq_some_iff.1 h
    obtain ⟨rfl, rfl⟩ := Prod.mk.inj heq
    obtain ⟨rfl, hfirst⟩ := ih hsplit
    refine ⟨rfl, ?_⟩
    rw [List.cons_append, separator_isInfix_cons]
    · exact hfirst
    · -- the front and the separator behind it start alike
      intro tail hc htail
      cases front' with
      | nil => exact hnot _ hc rfl
      | cons d front' => exact hnot _ hc (congrArg (· :: _) (List.cons.inj htail).1)
  | case3 => cases h

theorem splitSeparator_eq_none_iff : splitSeparator cs = none ↔ ¬separator <:+: cs := by
  constructor
  · intro h
    fun_induction splitSeparator cs with
    | case1 rest => cases h
    | case2 c rest hnot ih =>
      rw [separator_isInfix_cons hnot]
      exact ih (Option.map_eq_none_iff.1 h)
    | case3 => exact fun hinfix ↦ absurd hinfix.length_le (by decide)
  · intro h
    cases hsplit : splitSeparator cs with
    | none => rfl
    | some parts =>
      obtain ⟨rfl, -⟩ := splits_of_splitSeparator hsplit
      exact absurd ⟨parts.1, parts.2, rfl⟩ h

/-- There is one first separator at most. -/
theorem splitSeparator_eq_some_iff : splitSeparator cs = some (front, back) ↔
    Splits cs front back := by
  refine ⟨splits_of_splitSeparator, ?_⟩
  rintro ⟨rfl, hfirst⟩
  induction front with
  | nil => rfl
  | cons c front ih =>
    have hrest := ih fun hinfix ↦ hfirst (List.infix_cons hinfix)
    have hnot : ∀ rest, c = '_' → front ++ separator ++ back = '_' :: rest → False := by
      intro rest hc hfront
      refine hfirst (List.infix_cons_iff.2 (.inl (separator_isPrefix_cons.2 ⟨hc, ?_⟩)))
      cases front with
      | nil => exact ⟨_, rfl⟩
      | cons d front => exact ⟨_, congrArg (· :: _) (List.cons.inj hfront).1⟩
    rw [List.cons_append, List.cons_append, splitSeparator, hrest]
    · rfl
    · exact hnot

/-! ### The whole name -/

/-- A name says a version and a description. -/
def Says (fileName : String) (parsed : ScriptName) : Prop :=
  ∃ stem front back, Frames fileName stem ∧ Splits stem front back ∧
    Version.parse (String.ofList front) = .ok parsed.version ∧
    parsed.description = describe back

/-- A name that is framed like that of a script does not say what it should. -/
inductive Malformed (fileName : String) : Prop
  | noSeparator {stem : List Char} (frames : Frames fileName stem)
      (none : ¬separator <:+: stem) : Malformed fileName
  | noVersion {stem front back : List Char} {fault : Version.Fault}
      (frames : Frames fileName stem) (splits : Splits stem front back)
      (invalid : Version.parse (String.ofList front) = .error fault) : Malformed fileName

theorem parse?_eq_none_iff : parse? fileName = none ↔ ¬∃ stem, Frames fileName stem := by
  rw [parse?, Option.map_eq_none_iff, Option.eq_none_iff_forall_ne_some, not_exists]
  exact forall_congr' fun stem ↦ not_congr stem?_eq_some_iff

/-- What is read from a name that is framed like that of a script. -/
theorem parse?_of_frames (h : Frames fileName stem) : parse? fileName = some
    (match splitSeparator stem with
    | none => .error (.noSeparator fileName)
    | some (version, description) =>
      match Version.parse (String.ofList version) with
      | .error fault => .error (.version fault)
      | .ok version => .ok ⟨version, describe description⟩) := by
  rw [parse?, stem?_eq_some_iff.2 h]
  rfl

/-- **A name is read as what it says.** -/
theorem parse?_eq_ok_iff : parse? fileName = some (.ok parsed) ↔ Says fileName parsed := by
  constructor
  · intro h
    obtain ⟨stem, hstem, hparsed⟩ := Option.map_eq_some_iff.1 h
    split at hparsed
    · cases hparsed
    rename_i front back hsplit
    split at hparsed
    · cases hparsed
    rename_i version hversion
    obtain rfl := Except.ok.inj hparsed
    exact ⟨stem, front, back, stem?_eq_some_iff.1 hstem, splitSeparator_eq_some_iff.1 hsplit,
      hversion, rfl⟩
  · rintro ⟨stem, front, back, hframes, hsplits, hversion, hdescription⟩
    rw [parse?_of_frames hframes, splitSeparator_eq_some_iff.2 hsplits]
    simp only [hversion, ← hdescription]

/-- **A name that is framed like that of a script is refused if it is malformed.** -/
theorem exists_parse?_eq_error_iff :
    (∃ fault, parse? fileName = some (.error fault)) ↔ Malformed fileName := by
  constructor
  · rintro ⟨fault, h⟩
    obtain ⟨stem, hstem, hparsed⟩ := Option.map_eq_some_iff.1 h
    have hframes := stem?_eq_some_iff.1 hstem
    split at hparsed
    · rename_i hsplit
      exact .noSeparator hframes (splitSeparator_eq_none_iff.1 hsplit)
    rename_i front back hsplit
    split at hparsed
    · rename_i hversion
      exact .noVersion hframes (splitSeparator_eq_some_iff.1 hsplit) hversion
    · cases hparsed
  · intro h
    cases h with
    | noSeparator hframes hnone =>
      rw [parse?_of_frames hframes, splitSeparator_eq_none_iff.2 hnone]
      exact ⟨_, rfl⟩
    | noVersion hframes hsplits hinvalid =>
      rw [parse?_of_frames hframes, splitSeparator_eq_some_iff.2 hsplits]
      simp only [hinvalid]
      exact ⟨_, rfl⟩

end SchemaForge.ScriptName
