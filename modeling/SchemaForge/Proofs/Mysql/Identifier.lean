import SchemaForge.Mysql.Statement

/-!
# Names between backticks

The server reads a name between backticks by one rule: two backticks in a row stand for one of the
name, and a single one ends it (`Mysql.readIdentifier`). What it reads this way are exactly the
names that `quoteIdentifier` writes, each followed by something that is no backtick
(`Mysql.readIdentifier_eq_some_iff`).

So the name of a schema cannot end early, and what is sent to the server is the same for all schemas
but for that name. This is said of every statement as a whole: `Mysql.lexemes` reads it to its end,
and finds the name as one lexeme among others that do not depend on it (`Mysql.Confines`).
-/

namespace SchemaForge.Mysql

/-! ### Reading a name -/

/-- Reads a name up to the backtick that ends it, and answers what comes behind it; `none` if
nothing ends it. -/
def readUpToBacktick : List Char → Option (List Char × List Char)
  | [] => none
  | '\x60' :: '\x60' :: cs => (readUpToBacktick cs).map fun r ↦ ('\x60' :: r.1, r.2)
  | '\x60' :: cs => some ([], cs)
  | c :: cs => (readUpToBacktick cs).map fun r ↦ (c :: r.1, r.2)

/-- Reads a name between backticks at the front of a text, and answers what comes behind it. -/
def readIdentifier : List Char → Option (String × List Char)
  | '\x60' :: cs => (readUpToBacktick cs).map fun r ↦ (String.ofList r.1, r.2)
  | _ => none

theorem doubleBackticks_backtick (cs : List Char) :
    doubleBackticks ('\x60' :: cs) = '\x60' :: '\x60' :: doubleBackticks cs := rfl

theorem doubleBackticks_cons {c : Char} (hc : c ≠ '\x60') (cs : List Char) :
    doubleBackticks (c :: cs) = c :: doubleBackticks cs := by
  rw [doubleBackticks, if_neg (by simpa using hc)]

theorem readUpToBacktick_cons {c : Char} (hc : c ≠ '\x60') (cs : List Char) :
    readUpToBacktick (c :: cs) = (readUpToBacktick cs).map fun r ↦ (c :: r.1, r.2) := by
  rw [readUpToBacktick]
  · exact fun _ h ↦ absurd h hc
  · exact hc

theorem readUpToBacktick_backtick {rest : List Char} (hrest : rest.head? ≠ some '\x60') :
    readUpToBacktick ('\x60' :: rest) = some ([], rest) := by
  rw [readUpToBacktick]
  rintro cs rfl
  exact hrest rfl

/-- A name with its backticks doubled is read to its end, and no further. -/
theorem readUpToBacktick_append (name : List Char) {rest : List Char}
    (hrest : rest.head? ≠ some '\x60') :
    readUpToBacktick (doubleBackticks name ++ '\x60' :: rest) = some (name, rest) := by
  induction name with
  | nil => exact readUpToBacktick_backtick hrest
  | cons c name ih =>
    by_cases hc : c = '\x60'
    · subst hc
      rw [doubleBackticks_backtick, List.cons_append, List.cons_append, readUpToBacktick, ih]
      rfl
    · rw [doubleBackticks_cons hc, List.cons_append, readUpToBacktick_cons hc, ih]
      rfl

/-- What is read is a name with its backticks doubled. -/
theorem eq_append_of_readUpToBacktick {cs name rest : List Char}
    (h : readUpToBacktick cs = some (name, rest)) :
    cs = doubleBackticks name ++ '\x60' :: rest ∧ rest.head? ≠ some '\x60' := by
  induction cs using readUpToBacktick.induct generalizing name with
  | case1 => cases h
  | case2 cs ih =>
    rw [readUpToBacktick] at h
    obtain ⟨⟨name, rest⟩, hr, heq⟩ := Option.map_eq_some_iff.1 h
    cases heq
    obtain ⟨rfl, hrest⟩ := ih hr
    exact ⟨rfl, hrest⟩
  | case3 cs hsingle =>
    have hhead : cs.head? ≠ some '\x60' := by
      cases cs with
      | nil => exact nofun
      | cons c cs =>
        rintro hc
        exact hsingle cs (congrArg (· :: cs) (Option.some.inj hc))
    rw [readUpToBacktick_backtick hhead] at h
    cases h
    exact ⟨rfl, hhead⟩
  | case4 c cs _ hc ih =>
    rw [readUpToBacktick_cons hc] at h
    obtain ⟨⟨name, rest⟩, hr, heq⟩ := Option.map_eq_some_iff.1 h
    cases heq
    obtain ⟨rfl, hrest⟩ := ih hr
    rw [doubleBackticks_cons hc]
    exact ⟨rfl, hrest⟩

theorem toList_quoteIdentifier_append (name : String) (rest : List Char) :
    (quoteIdentifier name).toList ++ rest =
      '\x60' :: (doubleBackticks name.toList ++ '\x60' :: rest) := by
  rw [quoteIdentifier, String.toList_ofList, List.cons_append, List.cons_append, List.append_assoc]
  rfl

/-- **Which names are read**: what is at the front of the text is the name as it is written between
backticks, with something behind it that is no backtick. -/
theorem readIdentifier_eq_some_iff {cs rest : List Char} {name : String} :
    readIdentifier cs = some (name, rest) ↔
      cs = (quoteIdentifier name).toList ++ rest ∧ rest.head? ≠ some '\x60' := by
  rw [toList_quoteIdentifier_append]
  constructor
  · intro h
    unfold readIdentifier at h
    split at h
    · obtain ⟨r, hr, heq⟩ := Option.map_eq_some_iff.1 h
      cases heq
      rw [String.toList_ofList]
      obtain ⟨rfl, hrest⟩ := eq_append_of_readUpToBacktick hr
      exact ⟨rfl, hrest⟩
    · cases h
  · rintro ⟨rfl, hrest⟩
    rw [readIdentifier, readUpToBacktick_append _ hrest, Option.map_some, String.ofList_toList]

/-! ### Reading a statement -/

/-- What a statement without quotes of other kinds is made of. -/
inductive Lexeme where
  /-- A character outside of names between backticks. -/
  | plain (c : Char)
  /-- A name between backticks. -/
  | identifier (name : String)
  deriving DecidableEq

theorem length_lt_of_readIdentifier {cs rest : List Char} {name : String}
    (h : readIdentifier cs = some (name, rest)) : rest.length < cs.length := by
  rw [(readIdentifier_eq_some_iff.1 h).1, toList_quoteIdentifier_append, List.length_cons,
    List.length_append, List.length_cons]
  omega

/-- Reads a statement to its end; `none` if it ends inside of a name between backticks. -/
def lexemes (cs : List Char) : Option (List Lexeme) :=
  match cs with
  | [] => some []
  | c :: cs =>
    if c = '\x60' then
      match h : readIdentifier (c :: cs) with
      | some (name, rest) =>
        have := length_lt_of_readIdentifier h
        (lexemes rest).map (.identifier name :: ·)
      | none => none
    else (lexemes cs).map (.plain c :: ·)
termination_by cs.length
decreasing_by
  · exact this
  · exact Nat.lt_add_one _

theorem lexemes_nil : lexemes [] = some [] := by rw [lexemes]

theorem lexemes_plain_append {text : List Char} (htext : '\x60' ∉ text) (rest : List Char) :
    lexemes (text ++ rest) = (lexemes rest).map (text.map .plain ++ ·) := by
  induction text with
  | nil => exact (congrFun Option.map_id (lexemes rest)).symm
  | cons c text ih =>
    obtain ⟨hc, htext⟩ := List.ne_and_not_mem_of_not_mem_cons htext
    rw [List.cons_append, lexemes, if_neg (Ne.symm hc), ih htext, Option.map_map]
    rfl

theorem lexemes_plain {text : List Char} (htext : '\x60' ∉ text) :
    lexemes text = some (text.map .plain) := by
  rw [← List.append_nil text, lexemes_plain_append htext, lexemes_nil, List.append_nil]
  exact congrArg some (List.append_nil _)

theorem lexemes_identifier_append (name : String) {rest : List Char}
    (hrest : rest.head? ≠ some '\x60') :
    lexemes ((quoteIdentifier name).toList ++ rest) =
      (lexemes rest).map (.identifier name :: ·) := by
  have hread : readIdentifier ((quoteIdentifier name).toList ++ rest) = some (name, rest) :=
    readIdentifier_eq_some_iff.2 ⟨rfl, hrest⟩
  rw [toList_quoteIdentifier_append] at hread ⊢
  rw [lexemes, if_pos rfl]
  split
  · rename_i found heq
    rw [hread] at heq
    cases heq
    rfl
  · rename_i heq
    rw [hread] at heq
    cases heq

/-- The name that a statement is about is one lexeme of it, and all others are the same whatever the
name is. -/
def Confines (statement : String → String) : Prop :=
  ∃ front back : List Lexeme, ∀ name,
    lexemes (statement name).toList = some (front ++ .identifier name :: back)

theorem head?_ne_of_notMem {cs : List Char} {c : Char} (h : c ∉ cs) : cs.head? ≠ some c :=
  fun hc ↦ h (List.mem_of_head? hc)

/-- A name at the end of a statement is confined. -/
theorem confines_name {front : String} (hfront : '\x60' ∉ front.toList) :
    Confines fun name ↦ front ++ quoteIdentifier name := by
  refine ⟨front.toList.map .plain, [], fun name ↦ ?_⟩
  have hname : lexemes ((quoteIdentifier name).toList ++ []) =
      (lexemes []).map (.identifier name :: ·) := lexemes_identifier_append name nofun
  rw [List.append_nil, lexemes_nil] at hname
  rw [String.toList_append, lexemes_plain_append hfront, hname]
  rfl

/-- The name of a schema before that of its history is confined. -/
theorem confines_historyTable {front back : String} (hfront : '\x60' ∉ front.toList)
    (hback : '\x60' ∉ back.toList) : Confines fun name ↦ front ++ historyTable name ++ back := by
  refine ⟨front.toList.map .plain,
    .plain '.' :: .identifier Defaults.historyTable :: back.toList.map .plain, fun name ↦ ?_⟩
  have htext : (front ++ historyTable name ++ back).toList =
      front.toList ++ ((quoteIdentifier name).toList ++ (['.'] ++
        ((quoteIdentifier Defaults.historyTable).toList ++ back.toList))) := by
    simp only [historyTable, String.toList_append, List.append_assoc]
    rfl
  rw [htext, lexemes_plain_append hfront, lexemes_identifier_append _ (by simp),
    lexemes_plain_append (by decide), lexemes_identifier_append _ (head?_ne_of_notMem hback),
    lexemes_plain hback]
  rfl

theorem historyTable_injective : Function.Injective historyTable := by
  intro a b h
  have hread (name : String) : readIdentifier (historyTable name).toList =
      some (name, '.' :: (quoteIdentifier Defaults.historyTable).toList) := by
    refine readIdentifier_eq_some_iff.2 ⟨?_, nofun⟩
    rw [historyTable, String.toList_append, String.toList_append, List.append_assoc]
    rfl
  have hb := hread b
  rw [← h, hread a] at hb
  exact congrArg Prod.fst (Option.some.inj hb)

theorem notMem_append {s t : String} {c : Char} (hs : c ∉ s.toList) (ht : c ∉ t.toList) :
    c ∉ (s ++ t).toList := by
  rw [String.toList_append, List.mem_append, not_or]
  exact ⟨hs, ht⟩

theorem notMem_intercalate {sep : String} {texts : List String} {c : Char} (hsep : c ∉ sep.toList)
    (htexts : ∀ t ∈ texts, c ∉ t.toList) : c ∉ (sep.intercalate texts).toList := by
  induction texts with
  | nil => simp
  | cons t texts ih =>
    obtain ⟨ht, htexts⟩ := List.forall_mem_cons.1 htexts
    cases texts with
    | nil => simpa using ht
    | cons u texts =>
      rw [String.intercalate_cons_cons]
      exact notMem_append (notMem_append ht hsep) (ih htexts)

theorem confines_createHistory : Confines createHistory := by
  have hcreate : createHistory = fun name ↦ "CREATE TABLE IF NOT EXISTS " ++ historyTable name ++
      (" (\n                    " ++
        ",\n                    ".intercalate (columns.map Column.definition) ++
        "\n                )") := by
    funext name
    unfold createHistory
    generalize ",\n                    ".intercalate (columns.map Column.definition) = definitions
    simp only [String.append_assoc]
  have hcolumns :
      '\x60' ∉ (",\n                    ".intercalate (columns.map Column.definition)).toList :=
    notMem_intercalate (by decide) (List.forall_mem_map.2 (by decide +kernel))
  rw [hcreate]
  exact confines_historyTable (by decide)
    (notMem_append (notMem_append (by decide) hcolumns) (by decide))

theorem notMem_storedColumns : '\x60' ∉ storedColumns.toList := by decide +kernel

theorem confines_selectHistory : Confines selectHistory := by
  show Confines fun name ↦
    ("SELECT " ++ storedColumns ++ " FROM ") ++ historyTable name ++ " ORDER BY installed_rank"
  exact confines_historyTable
    (notMem_append (notMem_append (by decide) notMem_storedColumns) (by decide)) (by decide)

theorem confines_insertHistory : Confines insertHistory := by
  have hinsert : insertHistory = fun name ↦ "INSERT INTO " ++ historyTable name ++
      (" (" ++ storedColumns ++ ") VALUES (?, ?, ?, ?, ?, ?, ?)") := by
    funext name
    unfold insertHistory
    generalize storedColumns = names
    simp only [String.append_assoc]
  rw [hinsert]
  exact confines_historyTable (by decide)
    (notMem_append (notMem_append (by decide) notMem_storedColumns) (by decide))

/-- **Names of schemas are read as they are, and end where they end.** A name between backticks with
something behind it that is no backtick is read as that name, up to just there. So no two schemas
have their histories under one text, and every statement reads the same for all schemas but for the
name, which is one lexeme of it. -/
theorem readIdentifier_quoteIdentifier_append :
    (∀ (name : String) (rest : List Char), rest.head? ≠ some '\x60' →
      readIdentifier ((quoteIdentifier name).toList ++ rest) = some (name, rest)) ∧
    Function.Injective historyTable ∧
    ∀ statement ∈ [createSchema, createHistory, selectHistory, useSchema, insertHistory],
      Confines statement := by
  refine ⟨fun name rest hrest ↦ readIdentifier_eq_some_iff.2 ⟨rfl, hrest⟩, historyTable_injective,
    ?_⟩
  simp only [List.forall_mem_cons, List.not_mem_nil, false_implies, implies_true, and_true]
  exact ⟨confines_name (by decide), confines_createHistory, confines_selectHistory,
    confines_name (by decide), confines_insertHistory⟩

/-- A name that tries to end early, with backticks at both ends and in a row, before more text. -/
theorem readIdentifier_quoteIdentifier_append_hostile :
    ". users".toList.head? ≠ some '\x60' ∧
      quoteIdentifier "\x60a\x60\x60; DROP TABLE b; --\x60" =
        "\x60\x60\x60a\x60\x60\x60\x60; DROP TABLE b; --\x60\x60\x60" ∧
      readIdentifier
        ((quoteIdentifier "\x60a\x60\x60; DROP TABLE b; --\x60").toList ++ ". users".toList) =
        some ("\x60a\x60\x60; DROP TABLE b; --\x60", ". users".toList) :=
  ⟨by decide, by decide +kernel,
    readIdentifier_quoteIdentifier_append.1 _ _ (by decide)⟩

end SchemaForge.Mysql
