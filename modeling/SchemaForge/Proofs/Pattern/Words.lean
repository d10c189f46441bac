import Mathlib.Computability.Language
import SchemaForge.Pattern.Basic

/-!
# The words of a pattern

A pattern leads from a place in a text to the places where its matches end. For patterns made of
characters, choices and repetitions these are the ends of the words of a language: such a pattern
leads exactly over its words (`Pattern.exists_mem_ends_iff`), and between the two ends of a text it
matches the texts that are words (`Pattern.occursIn_anchored_iff`).

Repetitions are tried with a record of what has been tried already, so that no place is tried twice.
What the record says is an invariant of the search: all ends of what was tried are found
(`Pattern.Trail.Explored`), except for the places on the way, from which the search has moved on.
By this one try finds exactly the places that repetitions lead to (`Pattern.tried_upTo`).
-/

namespace SchemaForge

namespace Pattern

variable {step : Reach → List Reach} {greedy : Bool} {n m i : ℕ} {r s u : Reach} {t t' : Trail}

/-! ### Repetitions -/

/-- Somewhere that at most so many steps lead to, each of which moves on. -/
inductive Within (step : Reach → List Reach) : ℕ → Reach → Reach → Prop
  | refl (n : ℕ) (r : Reach) : Within step n r r
  | move {n : ℕ} {r s u : Reach} (hstep : s ∈ step r) (hmoves : r.position < s.position)
      (hrest : Within step n s u) : Within step (n + 1) r u

theorem Within.mono (h : Within step n r s) (hle : n ≤ m) : Within step m r s := by
  induction h generalizing m with
  | refl n r => exact .refl m r
  | move hstep hmoves hrest ih =>
    obtain ⟨m, rfl⟩ := Nat.exists_eq_add_of_le' (Nat.le_trans (Nat.le_add_left 1 _) hle)
    exact .move hstep hmoves (ih (Nat.le_of_succ_le_succ hle))

/-- All ends of what has been tried from a position on are found. -/
def Trail.Explored (step : Reach → List Reach) (t : Trail) (i : ℕ) : Prop :=
  ∀ r n, (r, n) ∈ t.tried → i ≤ r.position → ∀ s, Within step n r s → s ∈ t.found

/-- More is found, by tries from a position on. -/
structure Trail.Extends (i : ℕ) (t t' : Trail) : Prop where
  found : ∀ s ∈ t.found, s ∈ t'.found
  tried : ∀ r n, (r, n) ∈ t'.tried → (r, n) ∈ t.tried ∨ i ≤ r.position

namespace Trail

theorem Extends.refl (i : ℕ) (t : Trail) : Extends i t t := ⟨fun _ h ↦ h, fun _ _ h ↦ Or.inl h⟩

theorem Extends.trans {t'' : Trail} (h : Extends i t t') (h' : Extends i t' t'') :
    Extends i t t'' := by
  refine ⟨fun s hs ↦ h'.found s (h.found s hs), fun r n hr ↦ ?_⟩
  rcases h'.tried r n hr with hr | hr
  · exact h.tried r n hr
  · exact Or.inr hr

theorem Extends.mono (h : Extends m t t') (hle : i ≤ m) : Extends i t t' :=
  ⟨h.found, fun r n hr ↦ (h.tried r n hr).imp_right (Nat.le_trans hle)⟩

theorem Explored.of_le (h : Explored step t i) (hle : i ≤ m) : Explored step t m :=
  fun r n hr hm ↦ h r n hr (Nat.le_trans hle hm)

/-- What was explored stays so if all that is new is. -/
theorem Explored.extends (h : Explored step t i) (hextends : Extends m t t')
    (hnew : Explored step t' m) : Explored step t' i := by
  intro r n hr hi s hs
  rcases hextends.tried r n hr with hold | hm
  · exact hextends.found s (h r n hold hi s hs)
  · exact hnew r n hr hm s hs

theorem mem_found_add : s ∈ (t.add r).found ↔ s ∈ t.found ∨ s = r := by
  rw [add]
  split
  · rename_i hr
    have hr : r ∈ t.found := by simpa using hr
    exact ⟨Or.inl, fun h ↦ h.elim id fun heq ↦ heq ▸ hr⟩
  · rw [List.mem_cons, or_comm]

theorem tried_add (t : Trail) (r : Reach) : (t.add r).tried = t.tried := by
  rw [add]
  split <;> rfl

theorem extends_add (i : ℕ) (t : Trail) (r : Reach) : Extends i t (t.add r) :=
  ⟨fun _ hs ↦ mem_found_add.2 (Or.inl hs), fun _ _ h ↦ Or.inl (tried_add t r ▸ h)⟩

theorem Explored.add (h : Explored step t i) (r : Reach) : Explored step (t.add r) i := by
  intro e n he hi s hs
  rw [tried_add] at he
  exact mem_found_add.2 (Or.inl (h e n he hi s hs))

theorem covers_iff : t.covers r n = true ↔ ∃ m, (r, m) ∈ t.tried ∧ n ≤ m := by
  rw [covers, List.any_eq_true]
  constructor
  · rintro ⟨⟨e, m⟩, he, h⟩
    rw [Bool.and_eq_true, beq_iff_eq, decide_eq_true_eq] at h
    obtain ⟨rfl, hm⟩ := h
    exact ⟨m, he, hm⟩
  · rintro ⟨m, hr, hm⟩
    exact ⟨(r, m), hr, by simpa using hm⟩

/-- The trail with a place marked as tried, where it is an end already if the shortest way is
preferred. -/
def mark (t : Trail) (greedy : Bool) (n : ℕ) (r : Reach) : Trail :=
  let t := { t with tried := (r, n) :: t.tried }
  if greedy then t else t.add r

theorem tried_mark : (t.mark greedy n r).tried = (r, n) :: t.tried := by
  rw [mark]
  cases greedy with
  | true => rfl
  | false => exact tried_add _ r

theorem found_mark (h : s ∈ (t.mark greedy n r).found) : s ∈ t.found ∨ s = r := by
  cases greedy with
  | true => exact Or.inl h
  | false =>
    have hadd : s ∈ (Trail.add { t with tried := (r, n) :: t.tried } r).found := h
    have hfound := mem_found_add.1 hadd
    exact hfound

theorem extends_mark : Extends r.position t (t.mark greedy n r) := by
  refine ⟨fun s hs ↦ ?_, fun e m he ↦ ?_⟩
  · rw [mark]
    cases greedy with
    | true => exact hs
    | false => exact mem_found_add.2 (Or.inl hs)
  · rw [tried_mark, List.mem_cons] at he
    rcases he with he | he
    · exact Or.inr (Nat.le_of_eq (congrArg Reach.position (Prod.mk.inj he).1).symm)
    · exact Or.inl he

/-- What is further on than the mark is explored as before. -/
theorem Explored.mark (h : Explored step t r.position) :
    Explored step (t.mark greedy n r) (r.position + 1) := by
  intro e m he hi s hs
  rw [tried_mark, List.mem_cons] at he
  rcases he with he | he
  · obtain ⟨rfl, -⟩ := Prod.mk.inj he
    exact absurd hi (Nat.not_succ_le_self _)
  · exact extends_mark.found s (h e m he (Nat.le_of_succ_le hi) s hs)

end Trail

/-- What is known once up to `n` steps were tried from each of some places: all they lead to is
found, and nothing else. -/
structure Tried (step : Reach → List Reach) (n : ℕ) (rs : List Reach) (i : ℕ) (t t' : Trail) :
    Prop where
  grows : Trail.Extends i t t'
  explored : Trail.Explored step t' i
  complete : ∀ r ∈ rs, ∀ s, Within step n r s → s ∈ t'.found
  sound : ∀ s ∈ t'.found, s ∈ t.found ∨ ∃ r ∈ rs, Within step n r s

theorem tried_foldl {f : Trail → Reach → Trail}
    (hf : ∀ t r, Trail.Explored step t r.position → Tried step n [r] r.position t (f t r))
    {rs : List Reach} (hrs : ∀ r ∈ rs, i ≤ r.position) (h : Trail.Explored step t i) :
    Tried step n rs i t (rs.foldl f t) := by
  induction rs generalizing t with
  | nil => exact ⟨.refl i t, h, fun r hr ↦ absurd hr List.not_mem_nil, fun s hs ↦ Or.inl hs⟩
  | cons r rs ih =>
    obtain ⟨hr, hrs⟩ := List.forall_mem_cons.1 hrs
    have hfirst := hf t r (h.of_le hr)
    have hrest := ih hrs (h.extends hfirst.grows hfirst.explored)
    refine ⟨(hfirst.grows.mono hr).trans hrest.grows, hrest.explored, fun e he s hs ↦ ?_,
      fun s hs ↦ ?_⟩
    · rcases List.mem_cons.1 he with rfl | he
      · exact hrest.grows.found s (hfirst.complete e (List.mem_singleton_self e) s hs)
      · exact hrest.complete e he s hs
    · rcases hrest.sound s hs with hs | ⟨e, he, hwithin⟩
      · rcases hfirst.sound s hs with hs | ⟨e, he, hwithin⟩
        · exact Or.inl hs
        · obtain rfl := List.mem_singleton.1 he
          exact Or.inr ⟨e, List.mem_cons_self, hwithin⟩
      · exact Or.inr ⟨e, List.mem_cons_of_mem r he, hwithin⟩

/-- Where something was tried before, nothing is left to find. -/
theorem tried_of_covers (h : Trail.Explored step t r.position) (hcovers : t.covers r n = true) :
    Tried step n [r] r.position t t := by
  obtain ⟨m, hm, hle⟩ := Trail.covers_iff.1 hcovers
  refine ⟨.refl _ t, h, fun e he s hs ↦ ?_, fun s hs ↦ Or.inl hs⟩
  obtain rfl := List.mem_singleton.1 he
  exact h e m hm (Nat.le_refl _) s (hs.mono hle)

/-- The steps that move on. -/
def onward (step : Reach → List Reach) (r : Reach) : List Reach :=
  (step r).filter fun s ↦ r.position < s.position

theorem mem_onward : s ∈ onward step r ↔ s ∈ step r ∧ r.position < s.position := by
  rw [onward, List.mem_filter, decide_eq_true_eq]

/-- One more step is tried by trying the others from where it leads to. -/
theorem Tried.succ (h : Trail.Explored step t r.position)
    (hfurther : Tried step n (onward step r) (r.position + 1) (t.mark greedy (n + 1) r) t') :
    Tried step (n + 1) [r] r.position t (t'.add r) := by
  have hgrows : Trail.Extends r.position t (t'.add r) :=
    (Trail.extends_mark.trans (hfurther.grows.mono (Nat.le_succ _))).trans
      (Trail.extends_add _ t' r)
  have hcomplete (s : Reach) (hs : Within step (n + 1) r s) : s ∈ (t'.add r).found := by
    refine Trail.mem_found_add.2 ?_
    cases hs with
    | refl => exact Or.inr rfl
    | move hstep hmoves hrest =>
      exact Or.inl (hfurther.complete _ (mem_onward.2 ⟨hstep, hmoves⟩) s hrest)
  have hself {s : Reach} (hs : s = r) : ∃ e ∈ [r], Within step (n + 1) e s := by
    rw [hs]
    exact ⟨r, List.mem_singleton_self r, .refl _ r⟩
  refine ⟨hgrows, fun e m he hi s hs ↦ ?_, fun e he s hs ↦ ?_, fun s hs ↦ ?_⟩
  · rw [Trail.tried_add] at he
    rcases hfurther.grows.tried e m he with hold | hnew
    · rw [Trail.tried_mark, List.mem_cons] at hold
      rcases hold with hmark | hold
      · obtain ⟨rfl, rfl⟩ := Prod.mk.inj hmark
        exact hcomplete s hs
      · exact hgrows.found s (h e m hold hi s hs)
    · exact Trail.mem_found_add.2 (Or.inl (hfurther.explored e m he hnew s hs))
  · obtain rfl := List.mem_singleton.1 he
    exact hcomplete s hs
  · rcases Trail.mem_found_add.1 hs with hs | hs
    · rcases hfurther.sound s hs with hs | ⟨e, he, hwithin⟩
      · exact (Trail.found_mark hs).imp_right hself
      · obtain ⟨hstep, hmoves⟩ := mem_onward.1 he
        exact Or.inr ⟨r, List.mem_singleton_self r, .move hstep hmoves hwithin⟩
    · exact Or.inr (hself hs)

/-- Trying up to so many steps finds exactly where they lead to. -/
theorem tried_upTo (greedy : Bool) (n : ℕ) {t : Trail} {r : Reach}
    (h : Trail.Explored step t r.position) :
    Tried step n [r] r.position t (upTo step greedy n t r) := by
  induction n generalizing t r with
  | zero =>
    refine ⟨Trail.extends_add _ t r, h.add r, fun e he s hs ↦ ?_, fun s hs ↦ ?_⟩
    · obtain rfl := List.mem_singleton.1 he
      cases hs
      exact Trail.mem_found_add.2 (Or.inr rfl)
    · rcases Trail.mem_found_add.1 hs with hs | rfl
      · exact Or.inl hs
      · exact Or.inr ⟨s, List.mem_singleton_self s, .refl 0 s⟩
  | succ n ih =>
    rw [upTo]
    split
    · rename_i hcovers
      exact tried_of_covers h hcovers
    · have hfurther : Tried step n (onward step r) (r.position + 1) (t.mark greedy (n + 1) r)
          ((onward step r).foldl (fun t s ↦ upTo step greedy n t s) (t.mark greedy (n + 1) r)) :=
        tried_foldl (fun t s hs ↦ ih hs) (fun s hs ↦ (mem_onward.1 hs).2) h.mark
      exact hfurther.succ h

/-- The ends of any number of repetitions. -/
theorem mem_repetitions (text : Subject) (greedy : Bool) (r s : Reach) :
    s ∈ repetitions text step 0 none greedy r ↔
      Within step (text.size + 1 - r.position) r s := by
  have hexplored : Trail.Explored step {} r.position := fun e m he ↦ absurd he List.not_mem_nil
  have htried := tried_upTo greedy (text.size + 1 - r.position) hexplored
  have hrepetitions : repetitions text step 0 none greedy r =
      (upTo step greedy (text.size + 1 - r.position) {} r).found.reverse := rfl
  rw [hrepetitions, List.mem_reverse]
  refine ⟨fun hs ↦ ?_, htried.complete r (List.mem_singleton_self r) s⟩
  rcases htried.sound s hs with hs | ⟨e, he, hs⟩
  · exact absurd hs List.not_mem_nil
  · rwa [List.mem_singleton.1 he] at hs

/-! ### Words -/

open Computability

/-- The texts that a pattern stands for wherever it stands. Places, references back and what looks
around stand for none. -/
def language : Pattern → Language Char
  | empty => 1
  | char s => {w | ∃ c, s.contains c = true ∧ w = [c]}
  | seq p q => p.language * q.language
  | alt p q => p.language + q.language
  | repeated _ _ _ p => p.language∗
  | group _ p => p.language
  | _ => 0

theorem mem_language_char {set : CharSet} {w : List Char} :
    w ∈ (char set).language ↔ ∃ c, set.contains c = true ∧ w = [c] :=
  Iff.rfl

theorem mem_kstar_char {set : CharSet} {w : List Char} :
    w ∈ (char set).language∗ ↔ ∀ c ∈ w, set.contains c = true := by
  rw [Language.mem_kstar]
  constructor
  · rintro ⟨words, rfl, hwords⟩ c hc
    obtain ⟨v, hv, hc⟩ := List.mem_flatten.1 hc
    obtain ⟨d, hd, rfl⟩ := hwords v hv
    rwa [List.mem_singleton.1 hc]
  · intro h
    refine ⟨w.map fun c ↦ [c], (List.flatMap_singleton' w).symm,
      List.forall_mem_map.2 fun c hc ↦ ?_⟩
    exact ⟨c, h c hc, rfl⟩

/-- A pattern made of characters, one after the other, to choose from, and any number of times. -/
def isRegular : Pattern → Bool
  | empty => true
  | char _ => true
  | seq p q => p.isRegular && q.isRegular
  | alt p q => p.isRegular && q.isRegular
  | repeated least most _ p => least == 0 && most == none && p.isRegular
  | group _ p => p.isRegular
  | _ => false

/-- Between two positions of a text stands a word. -/
def Between (text : Subject) (i j : ℕ) (w : List Char) : Prop :=
  text.toList.drop i = w ++ text.toList.drop j ∧ j = i + w.length

namespace Between

variable {text : Subject} {j k : ℕ} {v w : List Char} {c : Char}

theorem nil_iff : Between text i j [] ↔ j = i := by
  constructor
  · exact fun h ↦ h.2
  · rintro rfl
    exact ⟨rfl, rfl⟩

theorem singleton_iff : Between text i j [c] ↔ text[i]? = some c ∧ j = i + 1 := by
  rw [Between, List.singleton_append, List.length_singleton, ← Array.getElem?_toList]
  constructor
  · rintro ⟨hdrop, rfl⟩
    refine ⟨?_, rfl⟩
    rw [← List.head?_drop, hdrop, List.head?_cons]
  · rintro ⟨hget, rfl⟩
    obtain ⟨hi, rfl⟩ := List.getElem?_eq_some_iff.1 hget
    exact ⟨List.drop_eq_getElem_cons hi, rfl⟩

theorem append (hv : Between text i k v) (hw : Between text k j w) : Between text i j (v ++ w) := by
  refine ⟨?_, ?_⟩
  · rw [hv.1, hw.1, List.append_assoc]
  · rw [hw.2, hv.2, List.length_append, Nat.add_assoc]

/-- Two words one after the other meet between them. -/
theorem of_append (h : Between text i j (v ++ w)) :
    Between text i (i + v.length) v ∧ Between text (i + v.length) j w := by
  have hmiddle : text.toList.drop (i + v.length) = w ++ text.toList.drop j := by
    rw [← List.drop_drop, h.1, List.append_assoc, List.drop_left]
  refine ⟨⟨?_, rfl⟩, hmiddle, ?_⟩
  · rw [hmiddle, h.1, List.append_assoc]
  · rw [h.2, List.length_append, Nat.add_assoc]

theorem le_size (h : Between text i j w) (hne : w ≠ []) : j ≤ text.size := by
  have hlength := congrArg List.length h.1
  have hpos := List.length_pos_of_ne_nil hne
  rw [List.length_append, List.length_drop, List.length_drop, Array.length_toList] at hlength
  have hj := h.2
  omega

end Between

variable {text : Subject} {p : Pattern}

/-- What repetitions lead over is made of words. -/
theorem exists_word_of_within {L : Language Char}
    (hstep : ∀ r, ∀ s ∈ step r, ∃ w ∈ L, Between text r.position s.position w)
    (h : Within step n r s) : ∃ w ∈ L∗, Between text r.position s.position w := by
  induction h with
  | refl n r => exact ⟨[], Language.nil_mem_kstar L, Between.nil_iff.2 rfl⟩
  | move hmem hmoves hrest ih =>
    obtain ⟨v, hv, hbetween⟩ := hstep _ _ hmem
    obtain ⟨w, hw, hbetween'⟩ := ih
    obtain ⟨words, rfl, hwords⟩ := Language.mem_kstar.1 hw
    exact ⟨v ++ words.flatten,
      Language.mem_kstar.2 ⟨v :: words, rfl, List.forall_mem_cons.2 ⟨hv, hwords⟩⟩,
      hbetween.append hbetween'⟩

/-- Repetitions lead over words one after the other, none of which is empty. -/
theorem exists_within_of_words {L : Language Char}
    (hstep : ∀ r, ∀ w ∈ L, ∀ j, Between text r.position j w → ∃ s ∈ step r, s.position = j)
    {words : List (List Char)} (hwords : ∀ w ∈ words, w ∈ L ∧ w ≠ []) {j : ℕ}
    (h : Between text r.position j words.flatten) :
    ∃ s, Within step (text.size + 1 - r.position) r s ∧ s.position = j := by
  induction words generalizing r with
  | nil => exact ⟨r, .refl _ r, (Between.nil_iff.1 h).symm⟩
  | cons w words ih =>
    obtain ⟨⟨hw, hne⟩, hwords⟩ := List.forall_mem_cons.1 hwords
    obtain ⟨hfirst, hrest⟩ := Between.of_append h
    obtain ⟨s, hs, hposition⟩ := hstep r w hw _ hfirst
    rw [← hposition] at hrest
    obtain ⟨u, hu, rfl⟩ := ih hwords hrest
    have hpos := List.length_pos_of_ne_nil hne
    have hle := hfirst.le_size hne
    exact ⟨u, (Within.move hs (by omega) hu).mono (by omega), rfl⟩

theorem ends_char {set : CharSet} : (char set).ends text r = match text[r.position]? with
    | some c => if set.contains c then [r.advance 1] else []
    | none => [] := rfl

theorem mem_ends_char {set : CharSet} : s ∈ (char set).ends text r ↔
    ∃ c, set.contains c = true ∧ text[r.position]? = some c ∧ s = r.advance 1 := by
  rw [ends_char]
  cases text[r.position]? with
  | none => simp
  | some c =>
    by_cases hc : set.contains c = true
    · simp [hc]
    · simp [hc]

theorem mem_ends_seq {q : Pattern} :
    s ∈ (seq p q).ends text r ↔ ∃ u ∈ p.ends text r, s ∈ q.ends text u := by
  have hends : (seq p q).ends text r =
      ((p.ends text r).flatMap fun s ↦ q.ends text s).eraseDups := rfl
  rw [hends, List.mem_eraseDups, List.mem_flatMap]

theorem mem_ends_alt {q : Pattern} :
    s ∈ (alt p q).ends text r ↔ s ∈ p.ends text r ∨ s ∈ q.ends text r := by
  have hends : (alt p q).ends text r = (p.ends text r ++ q.ends text r).eraseDups := rfl
  rw [hends, List.mem_eraseDups, List.mem_append]

theorem mem_ends_repeated : s ∈ (repeated 0 none greedy p).ends text r ↔
    Within (fun r ↦ p.ends text r) (text.size + 1 - r.position) r s :=
  mem_repetitions text greedy r s

theorem mem_ends_group :
    s ∈ (group n p).ends text r ↔ ∃ u ∈ p.ends text r, u.keep n r.position = s :=
  List.mem_map

/-- **A regular pattern leads over exactly the words of its language.** -/
theorem exists_mem_ends_iff (hp : p.isRegular = true) {j : ℕ} :
    (∃ s ∈ p.ends text r, s.position = j) ↔ ∃ w ∈ p.language, Between text r.position j w := by
  induction p generalizing r j with
  | empty =>
    have hends : empty.ends text r = [r] := rfl
    have hlanguage : empty.language = 1 := rfl
    simp [hends, hlanguage, Language.mem_one, Between.nil_iff, eq_comm]
  | char set =>
    constructor
    · rintro ⟨s, hs, rfl⟩
      obtain ⟨c, hc, hget, rfl⟩ := mem_ends_char.1 hs
      exact ⟨[c], ⟨c, hc, rfl⟩, Between.singleton_iff.2 ⟨hget, rfl⟩⟩
    · rintro ⟨w, ⟨c, hc, rfl⟩, hbetween⟩
      obtain ⟨hget, rfl⟩ := Between.singleton_iff.1 hbetween
      exact ⟨_, mem_ends_char.2 ⟨c, hc, hget, rfl⟩, rfl⟩
  | seq p q ihp ihq =>
    rw [isRegular, Bool.and_eq_true] at hp
    constructor
    · rintro ⟨u, hu, rfl⟩
      obtain ⟨s, hs, hu⟩ := mem_ends_seq.1 hu
      obtain ⟨v, hv, hbetween⟩ := (ihp hp.1).1 ⟨s, hs, rfl⟩
      obtain ⟨w, hw, hbetween'⟩ := (ihq hp.2).1 ⟨u, hu, rfl⟩
      exact ⟨v ++ w, Language.append_mem_mul hv hw, hbetween.append hbetween'⟩
    · rintro ⟨_, hword, hbetween⟩
      obtain ⟨v, hv, w, hw, rfl⟩ := Language.mem_mul.1 hword
      obtain ⟨hfirst, hrest⟩ := hbetween.of_append
      obtain ⟨s, hs, hposition⟩ := (ihp hp.1).2 ⟨v, hv, hfirst⟩
      rw [← hposition] at hrest
      obtain ⟨u, hu, rfl⟩ := (ihq hp.2).2 ⟨w, hw, hrest⟩
      exact ⟨u, mem_ends_seq.2 ⟨s, hs, hu⟩, rfl⟩
  | alt p q ihp ihq =>
    rw [isRegular, Bool.and_eq_true] at hp
    have hlanguage : (alt p q).language = p.language + q.language := rfl
    simp only [mem_ends_alt, hlanguage, Language.mem_add, or_and_right, exists_or, ihp hp.1,
      ihq hp.2]
  | repeated least most greedy p ih =>
    rw [isRegular, Bool.and_eq_true, Bool.and_eq_true, beq_iff_eq, beq_iff_eq] at hp
    obtain ⟨⟨rfl, rfl⟩, hp⟩ := hp
    simp only [mem_ends_repeated]
    constructor
    · rintro ⟨u, hu, rfl⟩
      exact exists_word_of_within (fun r s hs ↦ (ih hp).1 ⟨s, hs, rfl⟩) hu
    · rintro ⟨w, hw, hbetween⟩
      obtain ⟨words, rfl, hwords⟩ := Language.mem_kstar_iff_exists_nonempty.1 hw
      exact exists_within_of_words (fun r w hw j h ↦ (ih hp).2 ⟨w, hw, h⟩) hwords hbetween
  | group n p ih =>
    have hposition (u : Reach) : (u.keep n r.position).position = u.position := rfl
    simp only [mem_ends_group, exists_exists_and_eq_and, hposition]
    exact ih hp
  | place | again | look | first => cases hp

/-! ### Whole texts -/

/-- Patterns one after the other, up to the end of the text. -/
def toEnd (ps : List Pattern) : Pattern := ps.foldr seq (place .textEnd)

/-- The words of patterns one after the other. -/
def languageOfAll (ps : List Pattern) : Language Char := (ps.map language).prod

theorem mem_ends_textEnd : s ∈ (place .textEnd).ends text r ↔ r.position = text.size ∧ s = r := by
  have hends : (place .textEnd).ends text r = if r.position == text.size then [r] else [] := rfl
  rw [hends]
  by_cases h : r.position = text.size
  · simp [h]
  · simp [h]

theorem exists_mem_ends_toEnd_iff {ps : List Pattern} (hps : ∀ p ∈ ps, p.isRegular = true) :
    (∃ s, s ∈ (toEnd ps).ends text r) ↔
      ∃ w ∈ languageOfAll ps, Between text r.position text.size w := by
  induction ps generalizing r with
  | nil =>
    have hend : toEnd [] = place .textEnd := rfl
    simp [hend, mem_ends_textEnd, languageOfAll, Language.mem_one, Between.nil_iff, eq_comm]
  | cons p ps ih =>
    obtain ⟨hp, hps⟩ := List.forall_mem_cons.1 hps
    have hseq : toEnd (p :: ps) = seq p (toEnd ps) := rfl
    have hword : languageOfAll (p :: ps) = p.language * languageOfAll ps := by
      rw [languageOfAll, List.map_cons, List.prod_cons, languageOfAll]
    rw [hseq, hword]
    constructor
    · rintro ⟨u, hu⟩
      obtain ⟨s, hs, hu⟩ := mem_ends_seq.1 hu
      obtain ⟨v, hv, hbetween⟩ := (exists_mem_ends_iff hp).1 ⟨s, hs, rfl⟩
      obtain ⟨w, hw, hbetween'⟩ := (ih hps).1 ⟨u, hu⟩
      exact ⟨v ++ w, Language.append_mem_mul hv hw, hbetween.append hbetween'⟩
    · rintro ⟨_, hmem, hbetween⟩
      obtain ⟨v, hv, w, hw, rfl⟩ := Language.mem_mul.1 hmem
      obtain ⟨hfirst, hrest⟩ := hbetween.of_append
      obtain ⟨s, hs, hposition⟩ := (exists_mem_ends_iff hp).2 ⟨v, hv, hfirst⟩
      rw [← hposition] at hrest
      obtain ⟨u, hu⟩ := (ih hps).2 ⟨w, hw, hrest⟩
      exact ⟨u, mem_ends_seq.2 ⟨s, hs, hu⟩⟩

theorem mem_ends_textStart : s ∈ (place .textStart).ends text r ↔ r.position = 0 ∧ s = r := by
  have hends : (place .textStart).ends text r = if r.position == 0 then [r] else [] := rfl
  rw [hends]
  by_cases h : r.position = 0
  · simp [h]
  · simp [h]

theorem occursIn_iff {p : Pattern} {text : String} : p.occursIn text = true ↔
    ∃ i ≤ text.length, ∃ s, s ∈ p.ends text.toList.toArray { position := i } := by
  simp only [occursIn, List.any_eq_true, Bool.not_eq_true', List.isEmpty_eq_false_iff_exists_mem,
    List.mem_range, Nat.lt_succ_iff, List.size_toArray, String.length_toList]

/-- **Between the two ends of a text regular patterns match exactly the words of their
languages.** -/
theorem occursIn_anchored_iff {ps : List Pattern} (hps : ∀ p ∈ ps, p.isRegular = true)
    {text : String} : (seq (place .textStart) (toEnd ps)).occursIn text = true ↔
      text.toList ∈ languageOfAll ps := by
  have hwhole (w : List Char) :
      Between text.toList.toArray 0 text.toList.toArray.size w ↔ w = text.toList := by
    rw [Between, List.drop_zero, List.size_toArray, List.drop_length, List.append_nil,
      Nat.zero_add]
    exact ⟨fun h ↦ h.1.symm, fun h ↦ ⟨h.symm, h ▸ rfl⟩⟩
  rw [occursIn_iff]
  constructor
  · rintro ⟨i, -, s, hs⟩
    obtain ⟨u, hu, hs⟩ := mem_ends_seq.1 hs
    obtain ⟨rfl, rfl⟩ := mem_ends_textStart.1 hu
    obtain ⟨w, hw, hbetween⟩ := (exists_mem_ends_toEnd_iff hps).1 ⟨s, hs⟩
    rwa [← (hwhole w).1 hbetween]
  · intro hmem
    obtain ⟨s, hs⟩ := (exists_mem_ends_toEnd_iff (r := { position := 0 }) hps).2
      ⟨_, hmem, (hwhole _).2 rfl⟩
    exact ⟨0, Nat.zero_le _, s, mem_ends_seq.2 ⟨_, mem_ends_textStart.2 ⟨rfl, rfl⟩, hs⟩⟩

end Pattern

end SchemaForge
