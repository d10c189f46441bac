import SchemaForge.Proofs.Path.Join

/-!
# Paths that go straight down

A path is `Path.Forward` if it never turns back, and `Path.Direct` if it starts at the root besides.
The place of a direct path is the list of its names, on every tree. The path above it
(`Path.parent?`) is direct as well and one name shorter (`Path.Direct.exists_parent`), and what
makes a text useless as a path it has from no shorter one (`Path.fault?`). The steps of the path
above any path are those in front of its own (`Path.steps_isPrefix_of_parent?`).
-/

namespace SchemaForge

/-- The name of a step that has one. -/
def Component.fileName? : Component → Option FileName
  | .name s => some s
  | _ => none

namespace Path

/-- The path never turns back. -/
def Forward (p : Path) : Prop := Component.parent ∉ p.steps

instance (p : Path) : Decidable p.Forward :=
  inferInstanceAs (Decidable (Component.parent ∉ p.steps))

/-- The path starts at the root and never turns back. -/
structure Direct (p : Path) : Prop where
  absolute : p.isAbsolute = true
  forward : p.Forward

instance (p : Path) : Decidable p.Direct :=
  decidable_of_iff (p.isAbsolute = true ∧ p.Forward)
    ⟨fun h ↦ ⟨h.1, h.2⟩, fun h ↦ ⟨h.1, h.2⟩⟩

/-- Whether the last step of the path leads nowhere, which asks for a directory as a slash does. -/
def endsInDot (p : Path) : Bool := p.steps.getLast? == some .current

/-- The names of steps. -/
abbrev namesOf (cs : List Component) : List FileName := cs.filterMap Component.fileName?

theorem foldl_leads_eq {cs : List Component} (hroot : Component.root ∉ cs)
    (hparent : Component.parent ∉ cs) (loc : Location) :
    cs.foldl Component.leads loc = loc ++ namesOf cs := by
  induction cs generalizing loc with
  | nil => exact (List.append_nil loc).symm
  | cons c cs ih =>
    obtain ⟨hc, hroot⟩ := not_or.1 (mt List.mem_cons.2 hroot)
    obtain ⟨hc', hparent⟩ := not_or.1 (mt List.mem_cons.2 hparent)
    rw [List.foldl_cons, ih hroot hparent]
    cases c with
    | root => exact absurd rfl hc
    | parent => exact absurd rfl hc'
    | current => rfl
    | name s => exact List.append_assoc ..

variable {p : Path}

theorem Forward.parent_notMem_piecesOf (h : p.Forward) :
    Component.parent ∉ piecesOf p.text.bytes := by
  intro hmem
  refine h ?_
  rw [steps]
  split
  · exact List.mem_cons_of_mem _ hmem
  · exact hmem

/-- Where following the path starts. -/
def origin (p : Path) (cwd : Location) : Location := if p.isAbsolute then [] else cwd

/-- The names of the path. -/
def way (p : Path) : List FileName := namesOf (piecesOf p.text.bytes)

/-- A path that never turns back leads to its names from where it starts. -/
theorem Forward.place_eq (h : p.Forward) (cwd : Location) : p.place cwd = p.origin cwd ++ p.way := by
  have hroot := root_notMem_piecesOf p.text.bytes
  rw [place, steps, origin]
  split
  · exact foldl_leads_eq hroot h.parent_notMem_piecesOf []
  · exact foldl_leads_eq hroot h.parent_notMem_piecesOf cwd

theorem Direct.origin_eq (h : p.Direct) (cwd : Location) : p.origin cwd = [] := if_pos h.absolute

/-- The place of a direct path are its names. -/
theorem Direct.place_eq (h : p.Direct) (cwd : Location) : p.place cwd = p.way := by
  rw [h.forward.place_eq, h.origin_eq, List.nil_append]

/-- A path that is not empty makes a step. -/
theorem steps_ne_nil (h : p.text ≠ "") : p.steps ≠ [] := by
  rw [steps]
  split
  · exact List.cons_ne_nil _ _
  · rename_i hrelative
    cases htext : p.text.bytes with
    | nil => exact absurd (RawText.eq_empty_iff.2 htext) h
    | cons a as =>
      have ha : (a == slash) = false := by
        rw [isAbsolute, htext] at hrelative
        simpa using hrelative
      have hpiece : Text.pieces (· == slash) (a :: as) =
          (a :: (Text.pieces (· == slash) as).head (Text.pieces_ne_nil _ _)) ::
            (Text.pieces (· == slash) as).tail := by
        rw [Text.pieces, ha, if_neg Bool.false_ne_true]
        obtain ⟨first, rest, hpieces⟩ :=
          List.exists_cons_of_ne_nil (Text.pieces_ne_nil (· == slash) as)
        simp only [hpieces, List.head_cons, List.tail_cons]
      rw [piecesOf, hpiece]
      exact List.cons_ne_nil _ _

/-- The front parts of a path that never turns back lead to places on its way. -/
theorem Forward.place_isPrefix {q : Path} (hq : q.Forward) (hsteps : p.steps <+: q.steps)
    (h : p.text ≠ "") (cwd : Location) : p.place cwd <+: q.place cwd := by
  obtain ⟨rest, hrest⟩ := hsteps
  have hparent : Component.parent ∉ rest := fun hmem ↦
    hq (hrest ▸ List.mem_append_right p.steps hmem)
  have hroot : Component.root ∉ rest := by
    -- the root can only be the first step, and that is one of the front part
    obtain ⟨first, front, hfront⟩ := List.exists_cons_of_ne_nil (steps_ne_nil h)
    intro hmem
    have htail : Component.root ∈ q.steps.tail := by
      rw [← hrest, hfront]
      exact List.mem_append_right front hmem
    have hpieces := root_notMem_piecesOf q.text.bytes
    rw [steps] at htail
    split at htail
    · exact hpieces htail
    · exact hpieces (List.mem_of_mem_tail htail)
  rw [place, place, ← hrest, List.foldl_append, foldl_leads_eq hroot hparent]
  exact List.prefix_append _ _

theorem Direct.join {q : Path} (hp : p.Direct) (hq : q.Forward) : (p / q).Direct := by
  cases habsolute : q.isAbsolute with
  | true =>
    rw [join_of_isAbsolute habsolute]
    exact ⟨habsolute, hq⟩
  | false =>
    refine ⟨by rw [isAbsolute_join, hp.absolute, Bool.or_true], ?_⟩
    rw [Forward, steps_join habsolute, List.mem_append, not_or]
    exact ⟨hp.forward, hq⟩

theorem Direct.text_ne_empty (h : p.Direct) : p.text ≠ "" := by
  intro htext
  have habsolute := h.absolute
  rw [isAbsolute, htext] at habsolute
  cases habsolute

theorem Direct.length_place (h : p.Direct) (cwd : Location) :
    (p.place cwd).length ≤ p.text.bytes.length := by
  rw [h.place_eq, way]
  refine Nat.le_trans (List.length_filterMap_le _ _) ?_
  rw [piecesOf, List.length_map]
  exact Text.length_filter_pieces ..

/-! ### The path above -/

/-- The steps that pieces between slashes stand for. -/
abbrev stepsOf (ps : List Bytes) : List Component := (ps.filter (· != [])).map componentOf

theorem stepsOf_append (ps qs : List Bytes) : stepsOf (ps ++ qs) = stepsOf ps ++ stepsOf qs := by
  rw [stepsOf, List.filter_append, List.map_append]

theorem ofPieces_eq_intercalate (ps : List Bytes) : ofPieces ps = [slash].intercalate ps := by
  induction ps with
  | nil => rfl
  | cons p ps ih =>
    cases ps with
    | nil => exact (List.intercalate_singleton ..).symm
    | cons q qs =>
      rw [ofPieces, ih, List.intercalate_cons_cons, List.append_assoc]
      rfl

theorem pieces_ofPieces {ps : List Bytes} (hne : ps ≠ []) (hps : ∀ p ∈ ps, slash ∉ p) :
    Text.pieces (· == slash) (ofPieces ps) = ps := by
  rw [ofPieces_eq_intercalate]
  refine Text.pieces_intercalate ?_ hne fun p hp a ha ↦ ?_
  · exact BEq.rfl
  · exact beq_false_of_ne fun heq ↦ hps p hp (heq ▸ ha)

theorem ofPieces_pieces (as : Bytes) : ofPieces (Text.pieces (· == slash) as) = as := by
  induction as with
  | nil => rfl
  | cons a as ih =>
    obtain ⟨p, ps, hps⟩ := List.exists_cons_of_ne_nil (Text.pieces_ne_nil (· == slash) as)
    rw [Text.pieces]
    rw [hps] at ih ⊢
    split
    · rename_i ha
      rw [ofPieces, ih, beq_iff_eq.1 ha]
      rfl
    · cases ps with
      | nil => exact congrArg (a :: ·) ih
      | cons q qs => exact congrArg (a :: ·) ih

theorem ofPieces_prefix {ps : List Bytes} (hne : ps ≠ []) (qs : List Bytes) :
    ofPieces ps <+: ofPieces (ps ++ qs) := by
  induction ps with
  | nil => exact absurd rfl hne
  | cons p ps ih =>
    cases ps with
    | nil =>
      cases qs with
      | nil => exact List.prefix_rfl
      | cons q qs => exact List.prefix_append p _
    | cons p' ps =>
      obtain ⟨rest, hrest⟩ := ih (List.cons_ne_nil _ _)
      refine ⟨rest, ?_⟩
      rw [ofPieces, List.append_assoc, List.cons_append, hrest]
      rfl

/-- What remains of pieces, from the last on, without those at their end that lead nowhere. -/
theorem dropWhile_isIdle (ps : List Bytes) :
    (ps.reverse.dropWhile isIdle = [] ∧ ∀ p ∈ ps, isIdle p = true) ∨
    ∃ init last idle, ps.reverse.dropWhile isIdle = last :: init.reverse ∧
      ps = init ++ [last] ++ idle ∧ isIdle last = false ∧ ∀ p ∈ idle, isIdle p = true := by
  have hsplit := List.takeWhile_append_dropWhile (p := isIdle) (l := ps.reverse)
  have hidle : ∀ p ∈ ps.reverse.takeWhile isIdle, isIdle p = true :=
    List.all_eq_true.1 List.all_takeWhile
  cases hfront : ps.reverse.dropWhile isIdle with
  | nil =>
    rw [hfront, List.append_nil] at hsplit
    rw [hsplit] at hidle
    exact Or.inl ⟨rfl, fun p hp ↦ hidle p (List.mem_reverse.2 hp)⟩
  | cons last before =>
    have hlast := List.head?_dropWhile_not isIdle ps.reverse
    rw [hfront] at hlast
    refine Or.inr ⟨before.reverse, last, (ps.reverse.takeWhile isIdle).reverse, ?_, ?_, ?_,
      fun p hp ↦ hidle p (List.mem_reverse.1 hp)⟩
    · rw [List.reverse_reverse]
    · rw [← List.reverse_cons, ← List.reverse_append, ← hfront, hsplit, List.reverse_reverse]
    · simpa using hlast

theorem namesOf_stepsOf_append (ps qs : List Bytes) :
    namesOf (stepsOf (ps ++ qs)) = namesOf (stepsOf ps) ++ namesOf (stepsOf qs) := by
  rw [stepsOf_append, namesOf, List.filterMap_append]

theorem namesOf_stepsOf_idle {ps : List Bytes} (h : ∀ p ∈ ps, isIdle p = true) :
    namesOf (stepsOf ps) = [] := by
  refine List.filterMap_eq_nil_iff.2 fun c hc ↦ ?_
  obtain ⟨p, hp, rfl⟩ := List.mem_map.1 hc
  obtain ⟨hmem, hne⟩ := List.mem_filter.1 hp
  rcases Bool.or_eq_true_iff.1 (h p hmem) with hempty | hdot
  · rw [bne, hempty] at hne
    cases hne
  · rw [componentOf, if_pos hdot]
    rfl

/-- A path whose text is a front part of another's has no fault of its own. -/
theorem fault?_of_isPrefix {q : Path} (hempty : q.text ≠ "")
    (hbelow : q.text.bytes <+: p.text.bytes) (hp : p.fault? = none) : q.fault? = none := by
  rw [fault?] at hp
  split at hp
  · cases hp
  rename_i hnul
  split at hp
  · cases hp
  split at hp
  · cases hp
  rename_i hlength
  obtain ⟨rest, hrest⟩ := hbelow
  have hnul' : q.text.hasNul = false := by
    rw [Bool.not_eq_true, RawText.hasNul, ← hrest, List.contains_append,
      Bool.or_eq_false_iff] at hnul
    exact hnul.1
  rw [← hrest, List.length_append] at hlength
  rw [fault?, hnul', if_neg Bool.false_ne_true, if_neg (by simpa using hempty), if_neg (by omega)]

theorem isIdle_eq_false {piece : Bytes} (h : isIdle piece = false) :
    piece ≠ [] ∧ componentOf piece ≠ .current := by
  obtain ⟨hempty, hdot⟩ := Bool.or_eq_false_iff.1 h
  refine ⟨by simpa using hempty, ?_⟩
  rw [componentOf, hdot, if_neg Bool.false_ne_true]
  split <;> exact nofun

theorem namesOf_stepsOf_last {piece : Bytes} (h : isIdle piece = false)
    (hparent : Component.parent ∉ stepsOf [piece]) :
    namesOf (stepsOf [piece]) = [⟨piece⟩] := by
  obtain ⟨hne, hcurrent⟩ := isIdle_eq_false h
  have hsteps : stepsOf [piece] = [componentOf piece] := by
    rw [stepsOf, List.filter_cons_of_pos (by simpa using hne)]
    rfl
  rw [hsteps] at hparent ⊢
  rw [List.mem_singleton] at hparent
  unfold componentOf at hcurrent hparent ⊢
  split
  · rename_i hdot
    exact absurd (if_pos hdot) hcurrent
  · rename_i hdot
    split
    · rename_i hdots
      rw [if_neg hdot, if_pos hdots] at hparent
      exact absurd rfl hparent
    · rfl

theorem getLast?_ofPieces (ps : List Bytes) {piece : Bytes} (hpiece : piece ≠ []) :
    (ofPieces (ps ++ [piece])).getLast? = piece.getLast? := by
  induction ps with
  | nil => rfl
  | cons p ps ih =>
    obtain ⟨q, qs, hqs⟩ : ∃ q qs, ps ++ [piece] = q :: qs := List.exists_cons_of_ne_nil (by simp)
    have hne : ofPieces (ps ++ [piece]) ≠ [] := by
      rw [← List.getLast?_isSome, ih, List.getLast?_isSome]
      exact hpiece
    rw [List.cons_append, hqs, ofPieces, ← hqs, List.append_cons,
      List.getLast?_append_of_ne_nil _ hne, ih]

/-- A path made of pieces the last of which is a name. -/
theorem direct_ofPieces {ps : List Bytes} {piece : Bytes}
    (hslash : ∀ p ∈ ps ++ [piece], slash ∉ p) (hpiece : isIdle piece = false)
    (hparent : Component.parent ∉ stepsOf (ps ++ [piece])) (cwd : Location) :
    let q : Path := ⟨⟨ofPieces ([] :: (ps ++ [piece]))⟩⟩
    q.Direct ∧ q.place cwd = namesOf (stepsOf (ps ++ [piece])) ∧ q.endsInSlash = false ∧
      q.endsInDot = false := by
  intro q
  obtain ⟨hne, hcurrent⟩ := isIdle_eq_false hpiece
  have htext : q.text.bytes = ofPieces ([] :: (ps ++ [piece])) := rfl
  have hpieces : piecesOf q.text.bytes = stepsOf (ps ++ [piece]) := by
    rw [htext, piecesOf, pieces_ofPieces (List.cons_ne_nil _ _)
      (List.forall_mem_cons.2 ⟨List.not_mem_nil, hslash⟩)]
    rfl
  have habsolute : q.isAbsolute = true := by
    obtain ⟨r, rs, hrs⟩ : ∃ r rs, ps ++ [piece] = r :: rs := List.exists_cons_of_ne_nil (by simp)
    rw [isAbsolute, htext, hrs]
    rfl
  have hsteps : q.steps = .root :: stepsOf (ps ++ [piece]) := by
    rw [steps, if_pos habsolute, hpieces]
  have hdirect : q.Direct := ⟨habsolute, by
    rw [Forward, hsteps]
    exact fun hmem ↦ (List.mem_cons.1 hmem).elim (fun h ↦ by cases h) hparent⟩
  refine ⟨hdirect, by rw [hdirect.place_eq, way, hpieces], ?_, ?_⟩
  · rw [endsInSlash, htext, ← List.cons_append, getLast?_ofPieces _ hne]
    refine beq_false_of_ne fun hlast ↦ hslash piece (by simp) ?_
    exact List.mem_of_getLast? hlast
  · have hlast : stepsOf [piece] = [componentOf piece] := by
      rw [stepsOf, List.filter_cons_of_pos (by simpa using hne)]
      rfl
    rw [endsInDot, hsteps, stepsOf_append, hlast, ← List.cons_append, List.getLast?_concat]
    exact beq_false_of_ne fun h ↦ hcurrent (Option.some.inj h)

/-- **The path above a direct path is direct and has one name less.** It ends in its last name, if
it has one. -/
theorem Direct.exists_parent (h : p.Direct) {cwd : Location} (hne : p.place cwd ≠ []) :
    ∃ q, p.parent? = some q ∧ q.Direct ∧ q.place cwd = (p.place cwd).dropLast ∧
      (q.place cwd ≠ [] → q.endsInSlash = false ∧ q.endsInDot = false) ∧
      (p.fault? = none → q.fault? = none) := by
  obtain ⟨as, htext⟩ : ∃ as, p.text.bytes = slash :: as :=
    List.head?_eq_some_iff.1 (beq_iff_eq.1 h.absolute)
  have hpieces : Text.pieces (· == slash) p.text.bytes = [] :: Text.pieces (· == slash) as := by
    rw [htext]
    rfl
  have hsteps : piecesOf p.text.bytes = stepsOf (Text.pieces (· == slash) as) := by
    rw [piecesOf, hpieces]
    rfl
  have hslash : ∀ piece ∈ Text.pieces (· == slash) as, slash ∉ piece :=
    fun _ ↦ Text.notMem_of_mem_pieces rfl
  have hparent := h.forward.parent_notMem_piecesOf
  have hplace := h.place_eq cwd
  rw [way, hsteps] at hplace
  rw [hsteps] at hparent
  rw [hplace] at hne ⊢
  rw [parent?, hpieces]
  have hwhole : ofPieces ([] :: Text.pieces (· == slash) as) = p.text.bytes := by
    rw [← hpieces, ofPieces_pieces]
  generalize Text.pieces (· == slash) as = pieces at *
  dsimp only
  rcases dropWhile_isIdle pieces with ⟨-, hidle⟩ | ⟨init, last, idle, hdrop, rfl, hlast, hidle⟩
  · -- without names there is nothing above
    exact absurd (namesOf_stepsOf_idle hidle) hne
  rw [stepsOf_append, stepsOf_append, List.mem_append, List.mem_append, not_or, not_or] at hparent
  rw [hdrop, namesOf_stepsOf_append, namesOf_stepsOf_append, namesOf_stepsOf_idle hidle,
    List.append_nil, namesOf_stepsOf_last hlast hparent.1.2, List.dropLast_concat]
  dsimp only
  rcases dropWhile_isIdle init with ⟨hdrop, hidle⟩ | ⟨init, last, idle, hdrop, rfl, hlast, hidle⟩
  · rw [hdrop, namesOf_stepsOf_idle hidle, if_pos h.absolute]
    exact ⟨⟨"/"⟩, rfl, ⟨rfl, by decide⟩, rfl, absurd rfl, fun _ ↦ by decide⟩
  · rw [hdrop, namesOf_stepsOf_append, namesOf_stepsOf_idle hidle, List.append_nil]
    rw [stepsOf_append, List.mem_append, not_or] at hparent
    have hkept : ∀ piece ∈ init ++ [last], slash ∉ piece := fun piece hpiece ↦
      hslash piece (by simp only [List.mem_append] at hpiece ⊢; tauto)
    obtain ⟨hdirect, hnames, hends⟩ := direct_ofPieces hkept hlast hparent.1.1.1 cwd
    dsimp only
    rw [List.reverse_cons, List.reverse_reverse]
    refine ⟨_, rfl, hdirect, hnames, fun _ ↦ hends, fault?_of_isPrefix hdirect.text_ne_empty ?_⟩
    rw [← hwhole, List.append_assoc, List.append_assoc, ← List.cons_append]
    exact ofPieces_prefix (List.cons_ne_nil _ _) _

/-! ### The steps of the path above -/

/-- Pieces with slashes between them make an absolute path if the first is empty and not the only
one. -/
theorem steps_ofPieces {first : Bytes} {rest : List Bytes}
    (hslash : ∀ piece ∈ first :: rest, slash ∉ piece) :
    steps ⟨⟨ofPieces (first :: rest)⟩⟩ =
      (if first = [] ∧ rest ≠ [] then [.root] else []) ++ stepsOf (first :: rest) := by
  have hpieces : piecesOf (ofPieces (first :: rest)) = stepsOf (first :: rest) := by
    rw [piecesOf, pieces_ofPieces (List.cons_ne_nil _ _) hslash]
  have habsolute : isAbsolute ⟨⟨ofPieces (first :: rest)⟩⟩ =
      decide (first = [] ∧ rest ≠ []) := by
    have hfirst := hslash first List.mem_cons_self
    rw [isAbsolute]
    cases first with
    | nil => cases rest <;> rfl
    | cons c first =>
      have hc : c ≠ slash := fun heq ↦ hfirst (heq ▸ List.mem_cons_self)
      cases rest <;> simpa [ofPieces] using hc
  rw [steps, habsolute, hpieces]
  simp only [decide_eq_true_eq]
  split <;> rfl

/-- Fewer pieces behind the first make a path with fewer steps, if some are left or the first one is
not empty. -/
theorem steps_ofPieces_isPrefix {first : Bytes} {rest more : List Bytes}
    (hslash : ∀ piece ∈ first :: (rest ++ more), slash ∉ piece) (hleft : first ≠ [] ∨ rest ≠ []) :
    steps ⟨⟨ofPieces (first :: rest)⟩⟩ <+:
      steps ⟨⟨ofPieces (first :: (rest ++ more))⟩⟩ := by
  have hfront : ∀ piece ∈ first :: rest, slash ∉ piece := fun piece hpiece ↦
    hslash piece (List.mem_append_left more hpiece)
  have habsolute : (first = [] ∧ rest ++ more ≠ []) ↔ (first = [] ∧ rest ≠ []) := by
    refine and_congr_right fun hfirst ↦ ?_
    have hrest := hleft.resolve_left (not_not_intro hfirst)
    exact iff_of_true (List.append_ne_nil_of_left_ne_nil hrest more) hrest
  rw [steps_ofPieces hslash, steps_ofPieces hfront]
  simp only [habsolute]
  rw [← List.cons_append, stepsOf_append, ← List.append_assoc]
  exact List.prefix_append _ _

/-- The steps of the path above are those in front. -/
theorem steps_isPrefix_of_parent? {q : Path} (h : p.parent? = some q) : q.steps <+: p.steps := by
  obtain ⟨first, rest, hpieces⟩ :=
    List.exists_cons_of_ne_nil (Text.pieces_ne_nil (· == slash) p.text.bytes)
  have hslash : ∀ piece ∈ first :: rest, slash ∉ piece := fun piece hpiece ↦
    Text.notMem_of_mem_pieces rfl (hpieces ▸ hpiece)
  have htext : p = ⟨⟨ofPieces (first :: rest)⟩⟩ := by
    rw [← hpieces, ofPieces_pieces]
  rw [parent?, hpieces] at h
  dsimp only at h
  rcases dropWhile_isIdle rest with ⟨hdrop, -⟩ | ⟨init, last, idle, hdrop, rfl, -, -⟩
  · rw [hdrop] at h
    dsimp only at h
    split at h
    · cases h
    · obtain rfl := Option.some.inj h
      exact List.nil_prefix
  rw [hdrop] at h
  dsimp only at h
  rcases dropWhile_isIdle init with ⟨hdrop, -⟩ | ⟨init, last', idle', hdrop, rfl, -, -⟩
  · rw [hdrop] at h
    obtain rfl := Option.some.inj h
    split
    · rename_i habsolute
      rw [steps.eq_def p, if_pos habsolute]
      exact (List.prefix_cons_inj _).2 List.nil_prefix
    · rename_i hrelative
      have hfirst : first ≠ [] := by
        rintro rfl
        refine hrelative ?_
        rw [htext, isAbsolute]
        cases init <;> rfl
      rw [htext]
      exact @steps_ofPieces_isPrefix first [] _ hslash (Or.inl hfirst)
  · rw [hdrop] at h
    obtain rfl := Option.some.inj h
    rw [List.reverse_cons, List.reverse_reverse, htext, List.append_assoc (init ++ [last']),
      List.append_assoc (init ++ [last'])]
    rw [List.append_assoc (init ++ [last']), List.append_assoc (init ++ [last'])] at hslash
    exact steps_ofPieces_isPrefix hslash (Or.inr (by simp))

end Path

end SchemaForge
