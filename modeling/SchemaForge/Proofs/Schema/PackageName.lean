import SchemaForge.Pattern.Reader
import SchemaForge.Proofs.Pattern.Words
import SchemaForge.Schema.Bundled

/-!
# Package names

The pattern of the bundled schema for package names matches a text exactly if it is made of
identifiers with points between them (`Schema.occursIn_packageName_iff`).
-/

namespace SchemaForge

namespace Schema

/-- Whether a word is an identifier: a letter or an underscore, and then any of these and digits. -/
def isIdentifier : List Char → Bool
  | [] => false
  | c :: cs => (c.isAlpha || c == '_') && cs.all fun d ↦ d.isAlphanum || d == '_'

/-- One or more identifiers with points between them. -/
def IsPackageName (s : String) : Prop :=
  ∃ parts : List String, parts ≠ [] ∧ (∀ part ∈ parts, isIdentifier part.toList = true) ∧
    s = ".".intercalate parts

open Computability Pattern

/-! ### The pattern -/

/-- The characters that an identifier starts with. -/
def identifierStart : CharSet :=
  .union (.union (.union .empty (.range 'A' 'Z')) (.range 'a' 'z')) (.range '_' '_')

/-- The characters that an identifier goes on with. -/
def identifierPart : CharSet :=
  .union (.union (.union (.union .empty (.range 'A' 'Z')) (.range 'a' 'z')) (.range '0' '9'))
    (.range '_' '_')

/-- The parts of the pattern between the two ends of the text. -/
def packageParts : List Pattern :=
  [.char identifierStart, .repeated 0 none true (.char identifierPart),
    .repeated 0 none true (.seq (.char (.range '.' '.'))
      (.seq (.char identifierStart) (.repeated 0 none true (.char identifierPart))))]

/-- The pattern of package names. -/
def packageName : Pattern := .seq (.place .textStart) (toEnd packageParts)

theorem parse?_packagePattern : Pattern.parse? packagePattern = some packageName := by
  decide +kernel

theorem contains_single {c d : Char} : (CharSet.range d d).contains c = (c == d) := by
  rw [Bool.eq_iff_iff, beq_iff_eq, CharSet.contains, Bool.and_eq_true, decide_eq_true_iff,
    decide_eq_true_iff]
  exact ⟨fun h ↦ Char.le_antisymm h.2 h.1, fun h ↦ h ▸ ⟨Char.le_refl c, Char.le_refl c⟩⟩

theorem contains_upper {c : Char} : (CharSet.range 'A' 'Z').contains c = c.isUpper :=
  (Bool.decide_and ..).symm

theorem contains_lower {c : Char} : (CharSet.range 'a' 'z').contains c = c.isLower := rfl

theorem contains_digit {c : Char} : (CharSet.range '0' '9').contains c = c.isDigit := rfl

theorem contains_identifierStart {c : Char} :
    identifierStart.contains c = (c.isAlpha || c == '_') := by
  have hstart : identifierStart.contains c = (false || (CharSet.range 'A' 'Z').contains c ||
      (CharSet.range 'a' 'z').contains c || (CharSet.range '_' '_').contains c) := rfl
  rw [hstart, contains_upper, contains_lower, contains_single, Bool.false_or]
  rfl

theorem contains_identifierPart {c : Char} :
    identifierPart.contains c = (c.isAlphanum || c == '_') := by
  have hpart : identifierPart.contains c = (false || (CharSet.range 'A' 'Z').contains c ||
      (CharSet.range 'a' 'z').contains c || (CharSet.range '0' '9').contains c ||
      (CharSet.range '_' '_').contains c) := rfl
  rw [hpart, contains_upper, contains_lower, contains_digit, contains_single, Bool.false_or]
  rfl

/-! ### The words of the pattern -/

/-- The words that are identifiers. -/
def identifiers : Language Char :=
  (Pattern.char identifierStart).language * (Pattern.char identifierPart).language∗

theorem mem_identifiers {w : List Char} : w ∈ identifiers ↔ isIdentifier w = true := by
  rw [identifiers, Language.mem_mul]
  simp only [mem_language_char, mem_kstar_char, contains_identifierStart, contains_identifierPart]
  cases w with
  | nil => 
    refine iff_of_false ?_ Bool.false_ne_true
    rintro ⟨_, ⟨c, -, rfl⟩, v, -, h⟩
    cases h
  | cons c cs =>
    rw [isIdentifier, Bool.and_eq_true, List.all_eq_true]
    constructor
    · rintro ⟨_, ⟨d, hd, rfl⟩, v, hv, h⟩
      obtain ⟨rfl, rfl⟩ := List.cons.inj h
      exact ⟨hd, hv⟩
    · exact fun h ↦ ⟨[c], ⟨c, h.1, rfl⟩, cs, h.2, rfl⟩

theorem languageOfAll_packageParts : languageOfAll packageParts =
    identifiers * ((Pattern.char (.range '.' '.')).language * identifiers)∗ := by
  have hparts : languageOfAll packageParts = (Pattern.char identifierStart).language *
      ((Pattern.char identifierPart).language∗ *
        (((Pattern.char (.range '.' '.')).language * identifiers)∗ * 1)) := rfl
  rw [hparts, mul_one, ← mul_assoc, identifiers]

/-- The words of a text with points between them. -/
theorem toList_intercalate_cons (part : String) (parts : List String) :
    (".".intercalate (part :: parts)).toList =
      part.toList ++ (parts.map fun part ↦ '.' :: part.toList).flatten := by
  have hpoint : ".".toList = ['.'] := rfl
  rw [String.toList_intercalate, List.map_cons, hpoint]
  induction parts generalizing part with
  | nil => simp
  | cons next parts ih =>
    rw [List.map_cons, List.intercalate_cons_cons, ih next, List.map_cons, List.flatten_cons,
      List.cons_append, List.append_assoc, List.singleton_append]

/-- Words that start with a point and go on as identifiers. -/
theorem exists_parts_of_words {words : List (List Char)}
    (h : ∀ w ∈ words, w ∈ (Pattern.char (.range '.' '.')).language * identifiers) :
    ∃ parts : List String, (∀ part ∈ parts, isIdentifier part.toList = true) ∧
      words = parts.map fun part ↦ '.' :: part.toList := by
  induction words with
  | nil => exact ⟨[], by simp, rfl⟩
  | cons w words ih =>
    obtain ⟨hw, hwords⟩ := List.forall_mem_cons.1 h
    obtain ⟨_, ⟨c, hc, rfl⟩, v, hv, rfl⟩ := Language.mem_mul.1 hw
    obtain ⟨parts, hparts, rfl⟩ := ih hwords
    rw [contains_single, beq_iff_eq] at hc
    refine ⟨.ofList v :: parts, List.forall_mem_cons.2 ⟨?_, hparts⟩, ?_⟩
    · rw [String.toList_ofList]
      exact mem_identifiers.1 hv
    · rw [List.map_cons, String.toList_ofList, hc, List.singleton_append]

/-- **The pattern of package names matches exactly the package names.** -/
theorem occursIn_packageName_iff {s : String} :
    packageName.occursIn s = true ↔ IsPackageName s := by
  have hregular : ∀ p ∈ packageParts, p.isRegular = true := by decide
  rw [packageName, occursIn_anchored_iff hregular, languageOfAll_packageParts, Language.mem_mul]
  constructor
  · rintro ⟨u, hu, w, hw, h⟩
    obtain ⟨words, rfl, hwords⟩ := Language.mem_kstar.1 hw
    obtain ⟨parts, hparts, rfl⟩ := exists_parts_of_words hwords
    refine ⟨.ofList u :: parts, List.cons_ne_nil _ _, List.forall_mem_cons.2 ⟨?_, hparts⟩, ?_⟩
    · rw [String.toList_ofList]
      exact mem_identifiers.1 hu
    · rw [← String.toList_inj, toList_intercalate_cons, String.toList_ofList, h]
  · rintro ⟨parts, hne, hparts, rfl⟩
    obtain ⟨part, parts, rfl⟩ := List.exists_cons_of_ne_nil hne
    obtain ⟨hpart, hparts⟩ := List.forall_mem_cons.1 hparts
    refine ⟨part.toList, mem_identifiers.2 hpart,
      (parts.map fun part ↦ '.' :: part.toList).flatten, ?_, (toList_intercalate_cons ..).symm⟩
    refine Language.mem_kstar.2 ⟨_, rfl, List.forall_mem_map.2 fun part hpart ↦ ?_⟩
    exact Language.mem_mul.2 ⟨['.'], ⟨'.', rfl, rfl⟩, part.toList,
      mem_identifiers.2 (hparts part hpart), rfl⟩

end Schema

end SchemaForge
