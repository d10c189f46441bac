import SchemaForge.Pattern.CharSet

/-!
# Patterns

Regular expressions with places, look-around, references back and parts that give nothing
back, and whether a text holds a match of one. A match may start anywhere; a pattern that is
to match the whole text says so by its places.

A pattern leads from a place in a text to the places where its matches end, in the order in
which they are tried: what comes first is preferred. That order decides nothing about whether
there is a match, except where only the first end counts.

## Main definitions

* `Pattern`, `Pattern.Anchor` : patterns, and the places that they may ask for.
* `Pattern.ends` : where the matches end that begin at a place.
* `Pattern.occursIn` : whether a text holds a match.
-/

namespace SchemaForge

/-- A kind of place in a text. -/
inductive Pattern.Anchor where
  | textStart | textEnd
  | lineStart | lineEnd
  /-- A word begins or ends. -/
  | wordEdge
  | noWordEdge
  | wordStart | wordEnd
  deriving Repr, DecidableEq

/-- A pattern for parts of a text. -/
inductive Pattern where
  | empty
  /-- The empty text at a kind of place. -/
  | place (a : Pattern.Anchor)
  /-- One character of a set. -/
  | char (s : CharSet)
  | seq (p q : Pattern)
  | alt (p q : Pattern)
  /-- At least so many matches, one after the other, and at most so many if there is a bound;
  as many as possible are tried first if it is greedy. -/
  | repeated (least : Nat) (most : Option Nat) (greedy : Bool) (p : Pattern)
  /-- A group, by its number. -/
  | group (n : Nat) (p : Pattern)
  /-- What the group of a number matched last, cases aside if so asked. -/
  | again (n : Nat) (anyCase : Bool)
  /-- The empty text where a match begins, or with `negated` none does. With `back` it begins
  so many characters before. -/
  | look (back : Nat) (negated : Bool) (p : Pattern)
  /-- The first match only. -/
  | first (p : Pattern)
  deriving Repr, DecidableEq

namespace Pattern

/-- A text, as patterns look at it. -/
abbrev Subject := Array Char

/-- Whether a word goes on at a position. -/
def isWordAt (text : Subject) (i : Nat) : Bool :=
  match text[i]? with
  | some c => Text.isWordChar c
  | none => false

/-- Whether a word goes on before a position. -/
def isWordBefore (text : Subject) (i : Nat) : Bool := 0 < i && isWordAt text (i - 1)

/-- Whether a position is a place of a kind. -/
def Anchor.holds (text : Subject) (i : Nat) : Anchor → Bool
  | textStart => i == 0
  | textEnd => i == text.size
  | lineStart => i == 0 || text[i - 1]? == some '\n'
  | lineEnd => i == text.size || text[i]? == some '\n'
  | wordEdge => isWordBefore text i != isWordAt text i
  | noWordEdge => isWordBefore text i == isWordAt text i
  | wordStart => !isWordBefore text i && isWordAt text i
  | wordEnd => isWordBefore text i && !isWordAt text i

/-- Where a match has come to: a position, and from where to where each group went last. -/
structure Reach where
  position : Nat
  groups : List (Nat × Nat × Nat) := []
  deriving Repr, DecidableEq

namespace Reach

/-- So many characters further on. -/
def advance (r : Reach) (n : Nat) : Reach := { r with position := r.position + n }

/-- Keeps in mind from where the group of a number went up to here. -/
def keep (r : Reach) (n start : Nat) : Reach :=
  { r with groups := (n, start, r.position) :: r.groups.filter (·.1 != n) }

/-- What the group of a number matched last. -/
def matched? (r : Reach) (text : Subject) (n : Nat) : Option (List Char) :=
  (r.groups.find? (·.1 == n)).map fun g => (text.extract g.2.1 g.2.2).toList

end Reach

/-- Whether two lists of characters are the same, cases aside if so asked. -/
def sameChars (anyCase : Bool) (cs ds : List Char) : Bool :=
  if anyCase then cs.map Text.foldChar == ds.map Text.foldChar else cs == ds

/-- So many steps one after the other. -/
def times (step : Reach → List Reach) : Nat → List Reach → List Reach
  | _, [] => []
  | 0, rs => rs
  | n + 1, rs => times step n (rs.flatMap step).eraseDups

/-- What is known while repetitions are tried: from where how many more have been, and where
they ended, the last one first. -/
structure Trail where
  tried : List (Reach × Nat) := []
  found : List Reach := []

/-- Whether as many repetitions or more have been tried from here. -/
def Trail.covers (t : Trail) (r : Reach) (n : Nat) : Bool :=
  t.tried.any fun e => e.1 == r && n ≤ e.2

/-- Adds an end. -/
def Trail.add (t : Trail) (r : Reach) : Trail :=
  if t.found.contains r then t else { t with found := r :: t.found }

/-- Up to so many steps, each of which moves on. -/
def upTo (step : Reach → List Reach) (greedy : Bool) : Nat → Trail → Reach → Trail
  | 0, t, r => t.add r
  | n + 1, t, r =>
    if t.covers r (n + 1) then t
    else
      let t := { t with tried := (r, n + 1) :: t.tried }
      let t := if greedy then t else t.add r
      let t := ((step r).filter fun s => r.position < s.position).foldl
        (fun t s => upTo step greedy n t s) t
      t.add r

/-- The ends of at least and at most so many steps. A step that moves on leads at most to the
end of the text. -/
def repetitions (text : Subject) (step : Reach → List Reach) (least : Nat) (most : Option Nat)
    (greedy : Bool) (r : Reach) : List Reach :=
  ((times step least [r]).foldl (fun t s =>
    let left := text.size + 1 - s.position
    upTo step greedy (match most with
      | some m => min (m - least) left
      | none => left) t s) {}).found.reverse

/-- Where the matches end that begin at a place, the preferred one first. -/
def ends (text : Subject) : Pattern → Reach → List Reach
  | empty, r => [r]
  | place a, r => if a.holds text r.position then [r] else []
  | char s, r =>
    match text[r.position]? with
    | some c => if s.contains c then [r.advance 1] else []
    | none => []
  | seq p q, r => ((p.ends text r).flatMap fun s => q.ends text s).eraseDups
  | alt p q, r => (p.ends text r ++ q.ends text r).eraseDups
  | repeated least most greedy p, r =>
    repetitions text (fun s => p.ends text s) least most greedy r
  | group n p, r => (p.ends text r).map fun s => s.keep n r.position
  | again n anyCase, r =>
    match r.matched? text n with
    | some cs =>
      if sameChars anyCase cs (text.extract r.position (r.position + cs.length)).toList then
        [r.advance cs.length]
      else []
    | none => []
  | look back negated p, r =>
    let inner :=
      if r.position < back then [] else p.ends text { r with position := r.position - back }
    match negated, inner with
    | false, s :: _ => [{ s with position := r.position }]
    | true, [] => [r]
    | _, _ => []
  | first p, r => (p.ends text r).take 1

/-- Whether a text holds a match. -/
def occursIn (p : Pattern) (text : String) : Bool :=
  let subject := text.toList.toArray
  (List.range (subject.size + 1)).any fun i => !(p.ends subject { position := i }).isEmpty

/-- Whether something in a pattern refers back. -/
def refersBack : Pattern → Bool
  | again _ _ => true
  | seq p q => p.refersBack || q.refersBack
  | alt p q => p.refersBack || q.refersBack
  | repeated _ _ _ p => p.refersBack
  | group _ p => p.refersBack
  | look _ _ p => p.refersBack
  | first p => p.refersBack
  | _ => false

/-- The pattern without its groups. -/
def withoutGroups : Pattern → Pattern
  | seq p q => seq p.withoutGroups q.withoutGroups
  | alt p q => alt p.withoutGroups q.withoutGroups
  | repeated least most greedy p => repeated least most greedy p.withoutGroups
  | group _ p => p.withoutGroups
  | look back negated p => look back negated p.withoutGroups
  | first p => first p.withoutGroups
  | p => p

/-- The length that all matches have, if it can be told from the form of the pattern. -/
def width? : Pattern → Option Nat
  | empty => some 0
  | place _ => some 0
  | char _ => some 1
  | seq p q => do return (← p.width?) + (← q.width?)
  | alt p q => do
    let n ← p.width?
    if q.width? == some n then some n else none
  | repeated least most _ p => do
    let n ← p.width?
    if most == some least then some (least * n) else none
  | group _ p => p.width?
  | again _ _ => none
  | look _ _ _ => some 0
  | first p => p.width?

end Pattern

end SchemaForge
