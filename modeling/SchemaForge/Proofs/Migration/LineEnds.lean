import Mathlib.Data.List.Infix
import SchemaForge.Migration.Checksum
import SchemaForge.Proofs.Configuration.Fingerprint

/-!
# Checksums and the ends of lines

Before a script is hashed, each pair of carriage return and line feed in it is replaced by a line
feed. What this comes to is said without the pass over the text: the text is cut at its pairs into
pieces that have none, and joined again with line feeds (`Checksum.Unified`). There is one way to
cut it, and the pass finds it (`Checksum.unified_iff`).

So the checksum stays when line feeds are turned into pairs, whichever of them. And as no two texts
have the same bytes, what is hashed tells apart all texts that differ in more than that
(`Checksum.ofScript_lineEnds`); a carriage return that stands alone is in a piece, and counts.
-/

namespace SchemaForge.Checksum

/-- A carriage return and a line feed. -/
abbrev linePair : List Char := ['\r', '\n']

/-- The text with pairs in place of those line feeds whose places are chosen. -/
def expand (chosen : ℕ → Bool) (text : List Char) : List Char :=
  (text.mapIdx fun i c ↦ if c = '\n' ∧ chosen i then linePair else [c]).flatten

/-- The text with a line feed in place of each pair: what is between the pairs is as it was. -/
def Unified (text unified : List Char) : Prop :=
  ∃ pieces : List (List Char), (∀ p ∈ pieces, ¬linePair <:+: p) ∧
    linePair.intercalate pieces = text ∧ ['\n'].intercalate pieces = unified

/-! ### The pass over a text -/

theorem unifyLineEnds_pair (rest : List Char) :
    unifyLineEnds (linePair ++ rest) = '\n' :: unifyLineEnds rest := by
  show unifyLineEnds ('\r' :: '\n' :: rest) = _
  rw [unifyLineEnds]

theorem unifyLineEnds_cons {c : Char} {rest : List Char} (h : ¬linePair <+: c :: rest) :
    unifyLineEnds (c :: rest) = c :: unifyLineEnds rest := by
  rw [unifyLineEnds]
  rintro rest' rfl rfl
  exact h ⟨rest', rfl⟩

theorem isPrefix_cons_iff {c : Char} {rest : List Char} :
    linePair <+: c :: rest ↔ c = '\r' ∧ rest.head? = some '\n' := by
  rw [List.cons_prefix_cons, eq_comm]
  cases rest with
  | nil => simp
  | cons d rest => rw [List.cons_prefix_cons, List.head?_cons, Option.some_inj, eq_comm (a := '\n'),
      and_iff_left List.nil_prefix]

/-- A text without a pair stays as it is, whatever follows that does not begin with a line feed. -/
theorem unifyLineEnds_append {p rest : List Char} (hp : ¬linePair <:+: p)
    (hrest : rest.head? ≠ some '\n') : unifyLineEnds (p ++ rest) = p ++ unifyLineEnds rest := by
  induction p with
  | nil => rfl
  | cons c p ih =>
    have htail : ¬linePair <:+: p := fun h ↦ hp (h.trans (List.suffix_cons c p).isInfix)
    have hpair : ¬linePair <+: c :: (p ++ rest) := by
      rw [isPrefix_cons_iff]
      rintro ⟨rfl, hhead⟩
      cases p with
      | nil => exact hrest hhead
      | cons d p =>
        have hfront : linePair <+: '\r' :: d :: p := isPrefix_cons_iff.2 ⟨rfl, hhead⟩
        exact hp hfront.isInfix
    rw [List.cons_append, unifyLineEnds_cons hpair, ih htail]
    rfl

theorem unifyLineEnds_of_not_isInfix {p : List Char} (hp : ¬linePair <:+: p) :
    unifyLineEnds p = p := by
  have hsame : unifyLineEnds (p ++ []) = p ++ unifyLineEnds [] := unifyLineEnds_append hp nofun
  rwa [List.append_nil, unifyLineEnds, List.append_nil] at hsame

/-- The pass replaces what joins the pieces. -/
theorem unifyLineEnds_intercalate {pieces : List (List Char)}
    (hpieces : ∀ p ∈ pieces, ¬linePair <:+: p) :
    unifyLineEnds (linePair.intercalate pieces) = ['\n'].intercalate pieces := by
  induction pieces with
  | nil => rfl
  | cons p pieces ih =>
    obtain ⟨hp, hpieces⟩ := List.forall_mem_cons.1 hpieces
    cases pieces with
    | nil =>
      rw [List.intercalate_singleton, List.intercalate_singleton]
      exact unifyLineEnds_of_not_isInfix hp
    | cons q pieces =>
      rw [List.intercalate_cons_cons, List.intercalate_cons_cons, List.append_assoc,
        unifyLineEnds_append hp (by simp), unifyLineEnds_pair, ih hpieces, List.append_assoc]
      rfl

/-- Every text can be cut at its pairs. -/
theorem exists_pieces (text : List Char) : ∃ p pieces,
    (∀ q ∈ p :: pieces, ¬linePair <:+: q) ∧ linePair.intercalate (p :: pieces) = text := by
  induction text using unifyLineEnds.induct with
  | case1 rest ih =>
    obtain ⟨p, pieces, hpieces, rfl⟩ := ih
    refine ⟨[], p :: pieces, List.forall_mem_cons.2 ⟨by decide, hpieces⟩, ?_⟩
    rw [List.intercalate_cons_cons]
    rfl
  | case2 c rest hc ih =>
    obtain ⟨p, pieces, hpieces, rfl⟩ := ih
    obtain ⟨hp, hpieces⟩ := List.forall_mem_cons.1 hpieces
    refine ⟨c :: p, pieces, List.forall_mem_cons.2 ⟨fun h ↦ ?_, hpieces⟩, ?_⟩
    · rcases List.infix_cons_iff.1 h with hpair | h
      · -- a pair that the first character completes would begin the whole text
        obtain ⟨rfl, hhead⟩ := isPrefix_cons_iff.1 hpair
        obtain ⟨p, rfl⟩ := List.head?_eq_some_iff.1 hhead
        cases pieces <;> exact hc _ rfl rfl
      · exact hp h
    · cases pieces <;> rfl
  | case3 => exact ⟨[], [], by decide, rfl⟩

/-- **What the pass makes of a text** is what there is between its pairs, joined by line feeds. -/
theorem unified_iff {text unified : List Char} :
    Unified text unified ↔ unifyLineEnds text = unified := by
  constructor
  · rintro ⟨pieces, hpieces, rfl, rfl⟩
    exact unifyLineEnds_intercalate hpieces
  · rintro rfl
    obtain ⟨p, pieces, hpieces, rfl⟩ := exists_pieces text
    exact ⟨p :: pieces, hpieces, rfl, (unifyLineEnds_intercalate hpieces).symm⟩

/-- A text without carriage returns is what the pass makes of it with pairs. -/
theorem unifyLineEnds_expand (chosen : ℕ → Bool) {text : List Char} (h : '\r' ∉ text) :
    unifyLineEnds (expand chosen text) = text := by
  induction text generalizing chosen with
  | nil => rfl
  | cons c text ih =>
    obtain ⟨hc, htext⟩ := List.ne_and_not_mem_of_not_mem_cons h
    have hexpand : expand chosen (c :: text) =
        (if c = '\n' ∧ chosen 0 then linePair else [c]) ++ expand (chosen <| · + 1) text := by
      rw [expand, List.mapIdx_cons, List.flatten_cons]
      rfl
    rw [hexpand]
    split
    · rename_i hchosen
      rw [unifyLineEnds_pair, ih _ htext, hchosen.1]
    · rw [List.singleton_append, unifyLineEnds_cons, ih _ htext]
      exact fun hpair ↦ hc (List.cons_prefix_cons.1 hpair).1

theorem preimage_eq_iff {a b : String} :
    preimage a = preimage b ↔ unifyLineEnds a.toList = unifyLineEnds b.toList := by
  rw [preimage, preimage, Utf8.encode_injective.eq_iff, String.ofList_inj]

/-- **Checksums and line ends.** A text without carriage returns keeps its checksum if any of its
line feeds become pairs. Each text comes to exactly one text with a line feed for each of its pairs,
and the bytes that are hashed for two texts are equal if and only if these are; so texts without
pairs are told apart, whatever carriage returns they have. -/
theorem ofScript_lineEnds :
    (∀ (sql : String) (chosen : ℕ → Bool), '\r' ∉ sql.toList →
      ofScript (String.ofList (expand chosen sql.toList)) = ofScript sql) ∧
    (∀ text, ∃! unified, Unified text unified) ∧
    (∀ a b : String, preimage a = preimage b ↔
      ∃ unified, Unified a.toList unified ∧ Unified b.toList unified) ∧
    ∀ a b : String, ¬linePair <:+: a.toList → ¬linePair <:+: b.toList →
      preimage a = preimage b → a = b := by
  refine ⟨fun sql chosen hsql ↦ ?_, fun text ↦ ?_, fun a b ↦ ?_, fun a b ha hb h ↦ ?_⟩
  · have hpair : ¬linePair <:+: sql.toList := fun h ↦ hsql (h.subset List.mem_cons_self)
    have hpreimage : preimage (String.ofList (expand chosen sql.toList)) = preimage sql := by
      rw [preimage_eq_iff, String.toList_ofList, unifyLineEnds_expand chosen hsql,
        unifyLineEnds_of_not_isInfix hpair]
    rw [ofScript, hpreimage, ofScript]
  · exact ⟨unifyLineEnds text, unified_iff.2 rfl, fun _ h ↦ (unified_iff.1 h).symm⟩
  · simp only [unified_iff, preimage_eq_iff, exists_eq_left']
    exact eq_comm
  · rw [preimage_eq_iff, unifyLineEnds_of_not_isInfix ha, unifyLineEnds_of_not_isInfix hb] at h
    exact String.toList_inj.1 h

/-- A script of which one line end of three becomes a pair, and two texts with carriage returns that
stand alone. -/
theorem ofScript_lineEnds_mixed :
    '\r' ∉ "a;\nb;\nc;\n".toList ∧
      String.ofList (expand (· == 5) "a;\nb;\nc;\n".toList) = "a;\nb;\r\nc;\n" ∧
      ofScript "a;\nb;\r\nc;\n" = ofScript "a;\nb;\nc;\n" ∧
      ¬linePair <:+: "a;\n\rb;\r".toList ∧ ¬linePair <:+: "a;\nb;".toList ∧
      preimage "a;\n\rb;\r" ≠ preimage "a;\nb;" := by
  obtain ⟨hchosen, -, -, halone⟩ := ofScript_lineEnds
  have hreturn : '\r' ∉ "a;\nb;\nc;\n".toList := by decide
  have hexpand : String.ofList (expand (· == 5) "a;\nb;\nc;\n".toList) = "a;\nb;\r\nc;\n" := by
    decide
  have hfirst : ¬linePair <:+: "a;\n\rb;\r".toList := by decide
  have hsecond : ¬linePair <:+: "a;\nb;".toList := by decide
  have hsame := hchosen _ (· == 5) hreturn
  rw [hexpand] at hsame
  exact ⟨hreturn, hexpand, hsame, hfirst, hsecond,
    fun h ↦ absurd (halone _ _ hfirst hsecond h) (by decide)⟩

end SchemaForge.Checksum
