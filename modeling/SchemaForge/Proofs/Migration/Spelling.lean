import Mathlib.Algebra.Group.Nat.Defs
import SchemaForge.Proofs.Migration.ScriptName
import SchemaForge.Proofs.Migration.VersionText

/-!
# How the names of scripts are spelled

A version can be spelled in many ways, and a script named after each of them. Here the spellings are
data, and the texts are written from them: numbers as digits with or without a plus sign
(`Version.Numeral`), a version as numbers with a point or an underscore between neighbours
(`Version.Spelling`), and the name of a script as a version and whatever stands behind the two
underscores (`ScriptName.Spelling`).

What `ScriptName.parse?` accepts are exactly the names that are written from a spelling, and it
answers what that says (`ScriptName.parse?_spelled`). No name is written from two spellings: the
underscore separates the numbers of a version too, but no number is empty, so the first two in a row
are those behind the version, whatever comes after them.
-/

namespace SchemaForge

/-! ### Texts put together from pieces -/

namespace Text

variable {α : Type} {separates : α → Bool}

/-- A first piece, and more behind an element each that separates. -/
def weave (first : List α) (others : List (α × List α)) : List α :=
  first ++ others.flatMap fun x ↦ x.1 :: x.2

/-- Cutting finds the pieces that a list was put together from. -/
theorem pieces_weave {first : List α} {others : List (α × List α)}
    (hfirst : ∀ a ∈ first, separates a = false)
    (hothers : ∀ x ∈ others, separates x.1 = true ∧ ∀ a ∈ x.2, separates a = false) :
    pieces separates (weave first others) = first :: others.map Prod.snd := by
  induction others generalizing first with
  | nil =>
    rw [weave, List.flatMap_nil, List.append_nil]
    exact pieces_of_forall hfirst
  | cons x others ih =>
    obtain ⟨⟨hx, hpiece⟩, hothers⟩ := List.forall_mem_cons.1 hothers
    have hweave : weave first (x :: others) = first ++ x.1 :: weave x.2 others := rfl
    rw [hweave, pieces_append hx, pieces_of_forall hfirst, ih hpiece hothers]
    rfl

/-- Of a list that was put together from pieces, what separates them stays. -/
theorem filter_weave {first : List α} {others : List (α × List α)}
    (hfirst : ∀ a ∈ first, separates a = false)
    (hothers : ∀ x ∈ others, separates x.1 = true ∧ ∀ a ∈ x.2, separates a = false) :
    (weave first others).filter separates = others.map Prod.fst := by
  have hnone {p : List α} (hp : ∀ a ∈ p, separates a = false) : p.filter separates = [] :=
    List.filter_eq_nil_iff.2 fun a ha ↦ Bool.eq_false_iff.1 (hp a ha)
  rw [weave, List.filter_append, hnone hfirst, List.nil_append]
  induction others with
  | nil => rfl
  | cons x others ih =>
    obtain ⟨⟨hx, hpiece⟩, hothers⟩ := List.forall_mem_cons.1 hothers
    rw [List.flatMap_cons, List.cons_append, List.filter_cons_of_pos hx, List.filter_append,
      hnone hpiece, List.nil_append, ih hothers]
    rfl

/-- Every list is put together from its pieces. -/
theorem exists_weave (separates : α → Bool) (as : List α) :
    ∃ first others, as = weave first others ∧ (∀ x ∈ others, separates x.1 = true) ∧
      pieces separates as = first :: others.map Prod.snd := by
  induction as with
  | nil => exact ⟨[], [], rfl, List.forall_mem_nil _, rfl⟩
  | cons a as ih =>
    obtain ⟨first, others, rfl, hothers, hpieces⟩ := ih
    rw [pieces, hpieces]
    split
    · rename_i ha
      exact ⟨[], (a, first) :: others, rfl, List.forall_mem_cons.2 ⟨ha, hothers⟩, rfl⟩
    · exact ⟨a :: first, others, rfl, hothers, rfl⟩

end Text

namespace Version

/-! ### Numbers -/

/-- A number of a version as it is written: digits, with a plus sign in front of them or not, that
denote a number of 64 bits. -/
@[ext] structure Numeral where
  plus : Bool
  digits : List Char
  ne_nil : digits ≠ []
  isDigit : ∀ c ∈ digits, '0' ≤ c ∧ c ≤ '9'
  fits : Nat.ofDigitChars 10 digits 0 ≤ 2 ^ 64 - 1

namespace Numeral

/-- The text of the number. -/
def text (n : Numeral) : List Char := if n.plus then '+' :: n.digits else n.digits

/-- The number that the digits denote. -/
def value (n : Numeral) : ℕ := Nat.ofDigitChars 10 n.digits 0

theorem plus_notMem_digits (n : Numeral) : '+' ∉ n.digits :=
  fun hmem ↦ absurd (n.isDigit _ hmem).1 (by decide)

theorem text_injective : Function.Injective text := by
  intro m n h
  rw [text, text] at h
  cases hm : m.plus <;> cases hn : n.plus <;> rw [hm, hn] at h
  case false.false => exact Numeral.ext (hm.trans hn.symm) h
  case true.true => exact Numeral.ext (hm.trans hn.symm) (List.cons.inj h).2
  case false.true =>
    have hdigits : m.digits = '+' :: n.digits := h
    exact absurd (hdigits ▸ List.mem_cons_self) m.plus_notMem_digits
  case true.false =>
    have hdigits : '+' :: m.digits = n.digits := h
    exact absurd (hdigits ▸ List.mem_cons_self) n.plus_notMem_digits

theorem text_ne_nil (n : Numeral) : n.text ≠ [] := by
  rw [text]
  split
  · exact List.cons_ne_nil _ _
  · exact n.ne_nil

/-- Nothing in a number separates numbers. -/
theorem not_separates (n : Numeral) : ∀ c ∈ n.text, separates c = false := by
  have hdigits : ∀ c ∈ n.digits, separates c = false := fun c hc ↦
    not_separates_of_isDigit (by simpa [Version.isDigit] using n.isDigit c hc)
  rw [text]
  split
  · exact List.forall_mem_cons.2 ⟨rfl, hdigits⟩
  · exact hdigits

end Numeral

theorem digitsValue?_eq_some_iff {digits : List Char} {n : ℕ} : digitsValue? digits = some n ↔
    digits ≠ [] ∧ (∀ c ∈ digits, '0' ≤ c ∧ c ≤ '9') ∧
      Nat.ofDigitChars 10 digits 0 ≤ 2 ^ 64 - 1 ∧ Nat.ofDigitChars 10 digits 0 = n := by
  have hmax : maxSegment = 2 ^ 64 - 1 := rfl
  have hvalue : valueOf digits = Nat.ofDigitChars 10 digits 0 := rfl
  rw [digitsValue?, hmax, hvalue]
  cases digits with
  | nil => simp
  | cons c digits => simp [Version.isDigit, and_assoc]

/-- A part is read as what it says as a number. -/
theorem segment?_eq_some_iff {part : List Char} {n : ℕ} :
    segment? part = some n ↔ ∃ m : Numeral, m.text = part ∧ m.value = n := by
  constructor
  · intro h
    unfold segment? at h
    split at h
    · obtain ⟨hne, hdigit, hfits, rfl⟩ := digitsValue?_eq_some_iff.1 h
      exact ⟨⟨true, _, hne, hdigit, hfits⟩, rfl, rfl⟩
    · obtain ⟨hne, hdigit, hfits, rfl⟩ := digitsValue?_eq_some_iff.1 h
      exact ⟨⟨false, _, hne, hdigit, hfits⟩, rfl, rfl⟩
  · rintro ⟨m, rfl, rfl⟩
    have hdigits : digitsValue? m.digits = some m.value :=
      digitsValue?_eq_some_iff.2 ⟨m.ne_nil, m.isDigit, m.fits, rfl⟩
    rw [Numeral.text]
    split
    · exact hdigits
    · unfold segment?
      split
      · rename_i digits heq
        exact absurd (heq ▸ List.mem_cons_self) m.plus_notMem_digits
      · exact hdigits

/-! ### Versions -/

/-- What stands between two numbers of a version. -/
inductive Separator where
  | point
  | underscore
  deriving DecidableEq

/-- How a separator is written. -/
def Separator.char : Separator → Char
  | point => '.'
  | underscore => '_'

theorem separates_iff {c : Char} : separates c = true ↔ ∃ s : Separator, s.char = c := by
  rw [separates, Bool.or_eq_true, beq_iff_eq, beq_iff_eq]
  constructor
  · rintro (rfl | rfl)
    · exact ⟨.point, rfl⟩
    · exact ⟨.underscore, rfl⟩
  · rintro ⟨_ | _, rfl⟩
    · exact Or.inl rfl
    · exact Or.inr rfl

theorem Separator.char_injective : Function.Injective char := by
  rintro (_ | _) (_ | _) h
  · rfl
  · exact absurd h (by decide)
  · exact absurd h (by decide)
  · rfl

/-- A version as it is written: a number, and more of them behind a separator each. -/
@[ext] structure Spelling where
  first : Numeral
  others : List (Separator × Numeral)

namespace Spelling

/-- The numbers as they are written. -/
def numerals (s : Spelling) : List Numeral := s.first :: s.others.map Prod.snd

/-- The text of the version. -/
def text (s : Spelling) : List Char :=
  s.first.text ++ s.others.flatMap fun x ↦ x.1.char :: x.2.text

/-- The numbers of the version. -/
def values (s : Spelling) : List ℕ := s.numerals.map Numeral.value

/-- The separators and the numbers, both as they are written. -/
def parts (s : Spelling) : List (Char × List Char) := s.others.map fun x ↦ (x.1.char, x.2.text)

theorem text_eq_weave (s : Spelling) : s.text = Text.weave s.first.text s.parts := by
  rw [text, Text.weave, parts, List.flatMap_map]

theorem separates_parts (s : Spelling) :
    ∀ x ∈ s.parts, separates x.1 = true ∧ ∀ c ∈ x.2, separates c = false := by
  intro x hx
  obtain ⟨y, -, rfl⟩ := List.mem_map.1 hx
  exact ⟨separates_iff.2 ⟨y.1, rfl⟩, y.2.not_separates⟩

/-- The pieces of the text are the numbers. -/
theorem pieces_text (s : Spelling) :
    Text.pieces separates s.text = s.numerals.map Numeral.text := by
  rw [text_eq_weave, Text.pieces_weave s.first.not_separates s.separates_parts, numerals,
    List.map_cons, parts, List.map_map, List.map_map]
  rfl

/-- What separates the pieces of the text are the separators. -/
theorem filter_text (s : Spelling) :
    s.text.filter separates = s.others.map fun x ↦ x.1.char := by
  rw [text_eq_weave, Text.filter_weave s.first.not_separates s.separates_parts, parts,
    List.map_map]
  rfl

/-- A version is written from one spelling only. -/
theorem text_injective : Function.Injective text := by
  intro s t h
  have hnumerals : s.numerals = t.numerals := by
    refine List.map_injective_iff.2 Numeral.text_injective ?_
    rw [← pieces_text, ← pieces_text, h]
  have hseparators : s.others.map Prod.fst = t.others.map Prod.fst := by
    refine List.map_injective_iff.2 Separator.char_injective ?_
    rw [List.map_map, List.map_map]
    exact s.filter_text.symm.trans ((congrArg _ h).trans t.filter_text)
  obtain ⟨hfirst, hothers⟩ := List.cons.inj hnumerals
  refine Spelling.ext hfirst ?_
  rw [← List.zip_unzip s.others, ← List.zip_unzip t.others, List.unzip_eq_map, List.unzip_eq_map,
    hseparators, hothers]

theorem text_ne_nil (s : Spelling) : s.text ≠ [] :=
  List.append_ne_nil_of_left_ne_nil s.first.text_ne_nil _

end Spelling

/-- The parts of a version are read as what they say as numbers. -/
theorem readSegments_eq_ok_iff {whole : String} {parts : List (List Char)} {ns : List ℕ} :
    readSegments whole parts = .ok ns ↔
      ∃ ms : List Numeral, ms.map Numeral.text = parts ∧ ms.map Numeral.value = ns := by
  induction parts generalizing ns with
  | nil =>
    constructor
    · intro h
      obtain rfl := Except.ok.inj h
      exact ⟨[], rfl, rfl⟩
    · rintro ⟨ms, hparts, rfl⟩
      rw [List.map_eq_nil_iff.1 hparts]
      rfl
  | cons part parts ih =>
    rw [readSegments]
    constructor
    · intro h
      split at h
      · cases h
      rename_i n hn
      obtain ⟨m, rfl, rfl⟩ := segment?_eq_some_iff.1 hn
      cases hrest : readSegments whole parts with
      | error e =>
        rw [hrest] at h
        cases h
      | ok rest =>
        rw [hrest] at h
        obtain ⟨ms, rfl, rfl⟩ := ih.1 hrest
        exact ⟨m :: ms, rfl, Except.ok.inj h⟩
    · rintro ⟨ms, hparts, rfl⟩
      obtain ⟨m, ms, rfl, rfl, hms⟩ := List.map_eq_cons_iff.1 hparts
      rw [segment?_eq_some_iff.2 ⟨m, rfl, rfl⟩, ih.2 ⟨ms, hms, rfl⟩]
      rfl

/-- Where each piece is a number and stands behind what separates numbers, they are written from
separators and numbers. -/
theorem exists_spelled {others : List (Char × List Char)} {ms : List Numeral}
    (hseparates : ∀ x ∈ others, separates x.1 = true)
    (hothers : ms.map Numeral.text = others.map Prod.snd) :
    ∃ spelled : List (Separator × Numeral),
      spelled.map (fun x ↦ (x.1.char, x.2.text)) = others ∧ spelled.map Prod.snd = ms := by
  induction others generalizing ms with
  | nil => exact ⟨[], rfl, (List.map_eq_nil_iff.1 hothers).symm⟩
  | cons x others ih =>
    obtain ⟨hx, hseparates⟩ := List.forall_mem_cons.1 hseparates
    obtain ⟨n, ms, rfl, hn, hothers⟩ := List.map_eq_cons_iff.1 hothers
    obtain ⟨s, hs⟩ := separates_iff.1 hx
    obtain ⟨spelled, rfl, rfl⟩ := ih hseparates hothers
    exact ⟨(s, n) :: spelled, congrArg (· :: _) (Prod.ext hs hn), rfl⟩

/-- **A text is read as a version if it is written from a spelling.** -/
theorem parse_eq_ok_iff {text : List Char} {version : Version} :
    parse (String.ofList text) = .ok version ↔
      ∃ s : Spelling, s.text = text ∧ ofSegments s.values = version := by
  rw [parse, String.toList_ofList]
  constructor
  · intro h
    split at h
    · cases h
    obtain ⟨first, others, rfl, hseparates, hpieces⟩ := Text.exists_weave separates text
    cases hread : readSegments (String.ofList (Text.weave first others))
        (Text.pieces separates (Text.weave first others)) with
    | error e =>
      rw [hread] at h
      cases h
    | ok ns =>
      rw [hread] at h
      obtain rfl := Except.ok.inj h
      obtain ⟨ms, hms, rfl⟩ := readSegments_eq_ok_iff.1 hread
      rw [hpieces] at hms
      obtain ⟨m, ms, rfl, rfl, hothers⟩ := List.map_eq_cons_iff.1 hms
      obtain ⟨spelled, rfl, rfl⟩ := exists_spelled hseparates hothers
      exact ⟨⟨m, spelled⟩, Spelling.text_eq_weave _, rfl⟩
  · rintro ⟨s, rfl, rfl⟩
    have hempty : (String.ofList s.text == "") = false :=
      beq_false_of_ne (mt String.ofList_eq_empty_iff.1 s.text_ne_nil)
    rw [hempty, s.pieces_text, readSegments_eq_ok_iff.2 ⟨s.numerals, rfl, rfl⟩]
    rfl

end Version

namespace ScriptName

/-! ### Names of scripts -/

/-- The name of a script as it is written: a version, and any text behind the two underscores. -/
@[ext] structure Spelling where
  version : Version.Spelling
  rest : List Char

namespace Spelling

/-- The file name. -/
def text (s : Spelling) : String :=
  String.ofList ('V' :: s.version.text ++ ['_', '_'] ++ s.rest ++ ['.', 's', 'q', 'l'])

/-- What the name says: the version of the numbers, and the text behind the two underscores with a
blank for each underscore. -/
def meaning (s : Spelling) : ScriptName where
  version := Version.ofSegments s.version.values
  description := String.ofList (s.rest.map fun c ↦ if c = '_' then ' ' else c)

end Spelling

/-- No number of a version is empty, so nothing in its text and one underscore behind it separates
it from a description. -/
theorem not_separator_isInfix (s : Version.Spelling) : ¬separator <:+: s.text ++ ['_'] := by
  rintro ⟨front, back, h⟩
  have hunderscore : Version.separates '_' = true := rfl
  -- between two underscores in a row there is an empty piece, and another one follows
  have hpieces := congrArg (Text.pieces Version.separates) h
  rw [separator, List.append_assoc, List.cons_append, List.cons_append, List.nil_append,
    Text.pieces_append hunderscore, Text.pieces_append hunderscore, s.pieces_text] at hpieces
  have hempty : Text.pieces Version.separates ('_' :: back) =
      [] :: Text.pieces Version.separates back := rfl
  have hdrop := congrArg List.dropLast hpieces
  rw [hempty, List.dropLast_append_of_ne_nil (List.cons_ne_nil _ _),
    List.dropLast_cons_of_ne_nil (Text.pieces_ne_nil _ _)] at hdrop
  have hlast : Text.pieces Version.separates [] = [[]] := rfl
  rw [hlast, List.dropLast_concat] at hdrop
  have hmem : [] ∈ s.numerals.map Version.Numeral.text :=
    hdrop ▸ List.mem_append_right _ List.mem_cons_self
  obtain ⟨n, -, hn⟩ := List.mem_map.1 hmem
  exact n.text_ne_nil hn

theorem splits_spelling (s : Spelling) :
    Splits (s.version.text ++ ['_', '_'] ++ s.rest) s.version.text s.rest :=
  ⟨rfl, not_separator_isInfix s.version⟩

theorem frames_spelling (s : Spelling) :
    Frames s.text (s.version.text ++ ['_', '_'] ++ s.rest) := by
  rw [Frames, Spelling.text, String.toList_ofList]
  rfl

/-- A name says what its spelling says. -/
theorem says_iff {fileName : String} {parsed : ScriptName} :
    Says fileName parsed ↔ ∃ s : Spelling, s.text = fileName ∧ s.meaning = parsed := by
  have hdescribe (cs : List Char) :
      describe cs = String.ofList (cs.map fun c ↦ if c = '_' then ' ' else c) := by
    simp only [describe, beq_iff_eq]
  constructor
  · rintro ⟨stem, front, back, hframes, hsplits, hversion, hdescription⟩
    obtain ⟨version, rfl, hvalues⟩ := Version.parse_eq_ok_iff.1 hversion
    refine ⟨⟨version, back⟩, ?_, ?_⟩
    · rw [Frames, hsplits.eq] at hframes
      rw [Spelling.text, ← String.ofList_toList (s := fileName), hframes]
      rfl
    · rw [hdescribe] at hdescription
      rw [Spelling.meaning, hvalues, ← hdescription]
  · rintro ⟨s, rfl, rfl⟩
    exact ⟨_, _, _, frames_spelling s, splits_spelling s,
      Version.parse_eq_ok_iff.2 ⟨s.version, rfl, rfl⟩, (hdescribe s.rest).symm⟩

/-- A name is written from one spelling only. -/
theorem Spelling.text_injective : Function.Injective Spelling.text := by
  intro s t h
  have hstem : s.version.text ++ ['_', '_'] ++ s.rest = t.version.text ++ ['_', '_'] ++ t.rest := by
    have hs := stem?_eq_some_iff.2 (frames_spelling s)
    rw [h, stem?_eq_some_iff.2 (frames_spelling t)] at hs
    exact (Option.some.inj hs).symm
  have hs := splitSeparator_eq_some_iff.2 (splits_spelling s)
  rw [hstem, splitSeparator_eq_some_iff.2 (splits_spelling t)] at hs
  obtain ⟨hversion, hrest⟩ := Prod.mk.inj (Option.some.inj hs)
  exact Spelling.ext (Version.Spelling.text_injective hversion.symm) hrest.symm

theorem exists_frames_iff {fileName : String} : (∃ stem, Frames fileName stem) ↔
    fileName.toList.head? = some 'V' ∧ ['.', 's', 'q', 'l'] <:+ fileName.toList.tail := by
  constructor
  · rintro ⟨stem, hframes⟩
    rw [Frames] at hframes
    rw [hframes]
    exact ⟨rfl, List.suffix_append stem _⟩
  · rintro ⟨hhead, stem, hstem⟩
    refine ⟨stem, ?_⟩
    rw [Frames, List.cons_append, ending, hstem]
    exact (List.cons_head?_tail hhead).symm

/-- **The names of scripts are exactly those that are written from a spelling, each from one.** What
is read from such a name is what its spelling says. A name is no script's exactly if it does not
start with a `V` or, behind that, does not end in `.sql`. -/
theorem parse?_spelled (fileName : String) :
    (∀ parsed, parse? fileName = some (.ok parsed) ↔
      ∃ s : Spelling, s.text = fileName ∧ s.meaning = parsed) ∧
    (∀ s t : Spelling, s.text = fileName → t.text = fileName → s = t) ∧
    (parse? fileName = none ↔
      fileName.toList.head? ≠ some 'V' ∨ ¬['.', 's', 'q', 'l'] <:+ fileName.toList.tail) := by
  refine ⟨fun parsed ↦ parse?_eq_ok_iff.trans says_iff, fun s t hs ht ↦ ?_, ?_⟩
  · exact Spelling.text_injective (hs.trans ht.symm)
  · rw [parse?_eq_none_iff, exists_frames_iff, not_and_or]

end ScriptName

end SchemaForge
