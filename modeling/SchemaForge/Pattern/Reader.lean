import SchemaForge.Pattern.Basic
import SchemaForge.Pattern.Form

/-!
# Reading patterns

The written form of patterns: alternatives, groups, sets in brackets, places, repetitions,
what looks around and what refers back.

A text has to pass two readings. The first finds its form (`Pattern.formOf?`), the second one
its meaning; they do not agree about everything, so a repetition of a repetition has a form
but no meaning, and two counts one after the other are a repetition and a plain text.

## Main definitions

* `Pattern.Cursor` : a place in a pattern's text with what counts from there on.
* `Pattern.parse?` : the pattern that a text denotes.
-/

namespace SchemaForge.Pattern

/-- What is switched on. -/
structure Flags where
  anyCase : Bool := false
  /-- `^` and `$` also stand for the ends of lines. -/
  lines : Bool := false
  /-- A dot also stands for the line feed. -/
  dotAll : Bool := false
  /-- Repetitions prefer the shortest match. -/
  lazy : Bool := false
  /-- Blanks and comments do not count. -/
  spaced : Bool := false

/-- A place in a pattern's text with what counts from there on. -/
structure Cursor where
  rest : Rest
  flags : Flags := {}
  /-- Whether the pattern is extended. -/
  wide : Bool
  /-- References back have to have smaller numbers. -/
  bound : Nat
  /-- How many groups have begun. -/
  groups : Nat := 0
  /-- The names of groups, with their numbers. -/
  names : List (String × Nat) := []
  /-- Whether something referred back to a number. -/
  numbered : Bool := false

namespace Cursor

/-- The same with another rest of the text. -/
def move (c : Cursor) (rest : Rest) : Cursor := { c with rest := rest }

/-- The style of sets at the place. Blanks count within sets. -/
def style (c : Cursor) : SetStyle := { wide := c.wide, anyCase := c.flags.anyCase }

/-- One character as a pattern. -/
def charPattern (c : Cursor) (s : CharSet) : Pattern :=
  .char (.ignoringCaseIf c.flags.anyCase s)

end Cursor

/-- Drops the rest of a comment in parentheses; `none` if it has no end. -/
def dropRemark : List Char → Option Rest
  | [] => none
  | ')' :: rest => some rest
  | '\\' :: _ :: rest => dropRemark rest
  | _ :: rest => dropRemark rest

/-- Drops comments in parentheses, and blanks and other comments where they do not count. The
fuel bounds their number. -/
def skipFuel (spaced : Bool) : Nat → List Char → Option Rest
  | 0, cs => some cs
  | fuel + 1, cs =>
    match cs with
    | '(' :: '?' :: '#' :: rest => (dropRemark rest).bind (skipFuel spaced fuel)
    | c :: rest =>
      if spaced && c == '#' then skipFuel spaced fuel ((rest.dropWhile (· != '\n')).drop 1)
      else if spaced && [' ', '\r', '\n', '\t'].contains c then skipFuel spaced fuel rest
      else some cs
    | [] => some []

/-- The place after what does not count. -/
def Cursor.skip (c : Cursor) : Option Cursor :=
  (skipFuel c.flags.spaced (c.rest.length + 1) c.rest).map c.move

/-! ### Escapes -/

/-- Reads a name between marks. -/
def readIdentifier (close : Char) (cs : List Char) : Option (String × Rest) :=
  let name := cs.takeWhile fun c => c == '_' || isNameLetter c
  match name, cs.drop name.length with
  | _ :: _, d :: rest => if d == close then some (String.ofList name, rest) else none
  | _, _ => none

/-- A reference back to a number. -/
def readNumberedReference (c : Cursor) (cs : List Char) : Option (Pattern × Cursor) :=
  let (digits, rest) := Json.spanDigits cs
  let n := Json.decimalValue digits
  if n < c.bound && n ≤ c.groups then
    some (.again n c.flags.anyCase, { c with rest := rest, numbered := true })
  else none

/-- A reference back to a name, or to a number in the place of one. -/
def readNamedReference (c : Cursor) (close : Char) (cs : List Char) :
    Option (Pattern × Cursor) := do
  let (name, rest) ← readIdentifier close cs
  let n ←
    match c.names.find? (·.1 == name) with
    | some e => some e.2
    | none =>
      if name.toList.all Json.isDecimal then some (Json.decimalValue name.toList) else none
  if n ≤ c.groups then return (.again n c.flags.anyCase, c.move rest) else none

/-- The character of so many hexadecimal digits, or of up to eight in braces. -/
def readCode (size : Nat) (cs : List Char) : Option (Char × Rest) :=
  let isHex (c : Char) : Bool := (Json.hexValue? c).isSome
  if (cs.take size).length == size && (cs.take size).all isHex then
    (charOf? (cs.take size)).map fun c => (c, cs.drop size)
  else
    match cs with
    | '\x7b' :: cs =>
      let digits := cs.takeWhile isHex
      match cs.drop digits.length with
      | '\x7d' :: rest =>
        if digits.length ≤ 8 then (charOf? digits).map fun c => (c, rest) else none
      | _ => none
    | _ => none

/-- The characters that stand for others after a backslash, in a set or outside. -/
def controlOf? : Char → Option Char
  | 'a' => some '\x07'
  | 'b' => some '\x08'
  | 'e' => some '\x1b'
  | 'f' => some '\x0c'
  | 'n' => some '\n'
  | 'r' => some '\r'
  | 't' => some '\t'
  | 'v' => some '\x0b'
  | c => if c.isAlpha then none else some c

/-- What an escape means wherever it stands: one character, or a set as it is written. -/
def readCommonEscape : List Char → Option ((Char ⊕ List Char) × Rest)
  | [] => none
  | c :: rest =>
    let code (size : Nat) := (readCode size rest).map fun r => (Sum.inl r.1, r.2)
    if ['d', 's', 'w', 'D', 'S', 'W'].contains c then some (.inr ['\\', c], rest)
    else if c == 'h' then some (.inr "[0-9A-Fa-f]".toList, rest)
    else if c == 'H' then some (.inr "[^0-9A-Fa-f]".toList, rest)
    else if c == 'x' then code 2
    else if c == 'u' then code 4
    else if c == 'U' then code 8
    else if (c == 'p' || c == 'P') && !rest.isEmpty then
      let name :=
        if rest.head? == some '\x7b' then rest.takeWhile (· != '\x7d') ++ ['\x7d']
        else rest.take 1
      if name.isPrefixOf rest then some (.inr ('\\' :: c :: name), rest.drop name.length)
      else none
    else (controlOf? c).map fun d => (.inl d, rest)

/-- The set of a whole text: an escape or a set in brackets. -/
def setOf? (o : SetStyle) : List Char → Option CharSet
  | '[' :: cs =>
    match readSet o cs with
    | .ok (s, []) => some s
    | _ => none
  | '\\' :: cs =>
    match readEscape o cs with
    | .ok (.set s, []) => some s
    | _ => none
  | _ => none

/-- Line feeds up to the end. -/
def lastLines : Pattern :=
  .look 0 false
    (.seq (.repeated 0 none true (.char (.single '\n'))) (.place .textEnd))

/-- Reads what follows a backslash outside of sets, and whether it can be repeated. -/
def readEscaped (c : Cursor) (cs : List Char) : Option ((Pattern × Bool) × Cursor) :=
  let part (p : Pattern) (rest : Rest) : Option ((Pattern × Bool) × Cursor) :=
    some ((p, true), c.move rest)
  let reference (r : Option (Pattern × Cursor)) : Option ((Pattern × Bool) × Cursor) :=
    r.map fun r => ((r.1, true), r.2)
  let opensBrace (rest : Rest) : Bool := rest.head? == some '\x7b'
  match cs with
  | [] => none
  | 'k' :: '\'' :: rest => reference (readNamedReference c '\'' rest)
  | 'k' :: '<' :: rest => reference (readNamedReference c '>' rest)
  | 'A' :: rest => part (.place .textStart) rest
  | 'z' :: rest => part (.place .textEnd) rest
  | 'Z' :: rest => some ((lastLines, false), c.move rest)
  | 'b' :: rest => if opensBrace rest then none else part (.place .wordEdge) rest
  | 'B' :: rest => if opensBrace rest then none else part (.place .noWordEdge) rest
  | '<' :: rest => part (.place .wordStart) rest
  | '>' :: rest => part (.place .wordEnd) rest
  | 'K' :: rest => part (.seq .empty .empty) rest
  | 'G' :: rest => part (.place .textStart) rest
  | 'O' :: rest => part (.char .all) rest
  | d :: _ =>
    if Json.isDecimal d then reference (readNumberedReference c cs)
    else
      match readCommonEscape cs with
      | some (.inl x, rest) => part (c.charPattern (.single x)) rest
      | some (.inr text, rest) => (setOf? c.style text).bind fun s => part (.char s) rest
      | none => none

/-! ### Sets -/

/-- A character of a set as it has to be written in one. -/
def escapeInSet (c : Char) : List Char :=
  if "\\.+*?()|[]\x7b\x7d^$#&-~".toList.contains c then ['\\', c] else [c]

/-- Finds the end of a set by counting brackets, and writes its escapes anew. `nested` is how
many brackets are open; the fuel bounds the number of characters. -/
def spanSet : Nat → Nat → List Char → Option (List Char × Rest)
  | 0, _, _ => none
  | fuel + 1, nested, cs =>
    let goOn (text : List Char) (nested : Nat) (rest : Rest) : Option (List Char × Rest) :=
      (spanSet fuel nested rest).map fun r => (text ++ r.1, r.2)
    match cs with
    | [] => none
    | '\\' :: rest =>
      match readCommonEscape rest with
      | some (.inl x, rest) => goOn (escapeInSet x) nested rest
      | some (.inr text, rest) => goOn text nested rest
      | none => none
    | '[' :: rest => goOn ['['] (nested + 1) rest
    | ']' :: rest => if nested ≤ 1 then some ([']'], rest) else goOn [']'] (nested - 1) rest
    | x :: rest => goOn [x] nested rest

/-- Reads a set after its opening bracket. A closing bracket at its front stands for itself. -/
def readSetPattern (c : Cursor) (cs : List Char) : Option (Pattern × Cursor) := do
  let front := if cs.head? == some '^' then ['^'] else []
  let cs := cs.drop front.length
  let front := if cs.head? == some ']' then front ++ [']'] else front
  let cs := if cs.head? == some ']' then cs.drop 1 else cs
  let (text, rest) ← spanSet (cs.length + 1) 1 cs
  let s ← setOf? c.style ('[' :: front ++ text)
  return (.char s, c.move rest)

/-! ### Repetitions -/

/-- Reads the numbers of a repetition after its opening brace. -/
def readCount (c : Cursor) : Option ((Nat × Option Nat) × Cursor) := do
  let c ← c.skip
  let (digits, rest) := Json.spanDigits c.rest
  if digits.isEmpty && rest.head? != some ',' then none
  else
    let least := Json.decimalValue digits
    let c ← (c.move rest).skip
    match c.rest with
    | '\x7d' :: rest => return ((least, some least), c.move rest)
    | ',' :: rest =>
      let c ← (c.move rest).skip
      let (digits, rest) := Json.spanDigits c.rest
      let c ← (c.move rest).skip
      match c.rest with
      | '\x7d' :: rest =>
        return ((least, if digits.isEmpty then none else some (Json.decimalValue digits)),
          c.move rest)
      | _ => none
    | _ => none

/-- Reads how often a part is repeated, if it is. -/
def readTimes (c : Cursor) : Option ((Nat × Option Nat) × Cursor) :=
  match c.rest with
  | '?' :: rest => some ((0, some 1), c.move rest)
  | '*' :: rest => some ((0, none), c.move rest)
  | '+' :: rest => some ((1, none), c.move rest)
  | '\x7b' :: rest => readCount (c.move rest)
  | _ => none

/-- Whether numbers of repetitions are possible. -/
def isPossible : Nat × Option Nat → Bool
  | (least, some most) => least ≤ most
  | (_, none) => true

/-- Reads what follows the numbers of a repetition: a mark for the shortest match, and one for
the first match only. -/
def readRepetition (p : Pattern) (times : Nat × Option Nat) (c : Cursor) :
    Option (Pattern × Cursor) := do
  let c ← c.skip
  let isLazy := c.rest.head? == some '?'
  let c := if isLazy then c.move (c.rest.drop 1) else c
  let p := repeated times.1 times.2 (isLazy == c.flags.lazy) p
  match c.rest with
  | '+' :: rest => return (first p, c.move rest)
  | _ => return (p, c)

/-! ### Groups -/

/-- What looks back for a match that ends here. The length of the matches has to be known, of
each alternative on its own. -/
def lookBehind (negated : Bool) (p : Pattern) : Option Pattern :=
  match p.width? with
  | some n => some (.look n negated p)
  | none =>
    match p with
    | .alt p q => do
      let a ← lookBehind negated p
      let b ← lookBehind negated q
      return if negated then .seq a b else .alt a b
    | _ => none

/-- Switches a flag. -/
def Flags.set? (f : Flags) (on : Bool) : Char → Option Flags
  | 'i' => some { f with anyCase := on }
  | 'm' => some { f with lines := on }
  | 's' => some { f with dotAll := on }
  | 'U' => some { f with lazy := on }
  | 'x' => some { f with spaced := on }
  | 'u' => if on then some f else none
  | _ => none

/-- Reads flags up to the character that ends them. `seen` is how many characters came
before. -/
def readFlags : Nat → Nat → Bool → Cursor → Option (Char × Cursor)
  | 0, _, _, _ => none
  | fuel + 1, seen, on, c => do
    let c ← c.skip
    match c.rest with
    | [] => none
    | '-' :: rest => if on then readFlags fuel (seen + 1) false (c.move rest) else none
    | d :: rest =>
      if d == ')' || d == ':' then
        if (d == ')' && seen == 0) || (!on && seen == 1) then none else return (d, c.move rest)
      else
        let flags ← c.flags.set? on d
        readFlags fuel (seen + 1) on { c with flags := flags, rest := rest }

/-- How deep groups may lie within one another. -/
def maxGroups : Nat := 64

/-- The kinds of groups by what they do with the pattern in them. -/
inductive GroupKind where
  | captured
  | ahead (negated : Bool)
  | behind (negated : Bool)
  | firstOnly

/-- The pattern of a group, and whether it can be repeated. -/
def GroupKind.close (n : Nat) (p : Pattern) : GroupKind → Option (Pattern × Bool)
  | captured => some (.group n p, true)
  | ahead negated => some (.look 0 negated p, false)
  | behind negated => (lookBehind negated p).map fun p => (p, false)
  | firstOnly => some (.first p, true)

/-- Begins a group that is counted. -/
def Cursor.enter (c : Cursor) (name : Option String) (rest : Rest) : Cursor :=
  { c with
    rest := rest, groups := c.groups + 1,
    names := match name with
      | some name => (name, c.groups + 1) :: c.names
      | none => c.names }

/-- The place after a closing parenthesis. -/
def afterClosing (c : Cursor) : Option Cursor := do
  let c ← c.skip
  match c.rest with
  | ')' :: rest => return c.move rest
  | _ => none

mutual

/-- Reads alternatives up to a closing parenthesis or the end. Groups may have names or be
referred to by numbers, but not both. -/
def readAlternatives : Nat → Nat → Cursor → Option (Pattern × Cursor)
  | 0, _, _ => none
  | fuel + 1, depth, c => do
    let (p, c) ← readSequence fuel depth c
    let c ← c.skip
    match c.rest with
    | '|' :: rest =>
      let (q, c) ← readFurther fuel depth (c.move rest)
      return (.alt p q, c)
    | _ => if c.numbered && !c.names.isEmpty then none else return (p, c)

/-- Reads the alternatives after the first. -/
def readFurther : Nat → Nat → Cursor → Option (Pattern × Cursor)
  | 0, _, _ => none
  | fuel + 1, depth, c => do
    let (p, c) ← readSequence fuel depth c
    let c ← c.skip
    match c.rest with
    | '|' :: rest =>
      let (q, c) ← readFurther fuel depth (c.move rest)
      return (.alt p q, c)
    | _ => return (p, c)

/-- Reads parts one after the other, until one would not move on. -/
def readSequence : Nat → Nat → Cursor → Option (Pattern × Cursor)
  | 0, _, _ => none
  | fuel + 1, depth, c =>
    if c.rest.isEmpty then some (.empty, c)
    else do
      let (p, next) ← readPiece fuel depth c
      if next.rest.length == c.rest.length then return (.empty, c)
      else
        let (q, c) ← readSequence fuel depth next
        return (if p == .empty then q else if q == .empty then p else .seq p q, c)

/-- Reads one part and how often it is repeated. A brace that does not begin a repetition
stands for itself. -/
def readPiece : Nat → Nat → Cursor → Option (Pattern × Cursor)
  | 0, _, _ => none
  | fuel + 1, depth, c => do
    let ((p, repeatable), c) ← readAtom fuel depth c
    let c ← c.skip
    match readTimes c with
    | none => return (p, c)
    | some (times, c) =>
      if !repeatable || !isPossible times then none else readRepetition p times c

/-- Reads one part, and whether it can be repeated: a group, a set, a place or a character, or
nothing at all. -/
def readAtom : Nat → Nat → Cursor → Option ((Pattern × Bool) × Cursor)
  | 0, _, _ => none
  | fuel + 1, depth, c => do
    let c ← c.skip
    let part (p : Pattern) (rest : Rest) : Option ((Pattern × Bool) × Cursor) :=
      some ((p, true), c.move rest)
    match c.rest with
    | [] => return ((.empty, false), c)
    | '(' :: rest => readGroup fuel depth (c.move rest)
    | '\\' :: rest => readEscaped c rest
    | '[' :: rest => (readSetPattern c rest).map fun r => ((r.1, true), r.2)
    | '.' :: rest => part (.char (if c.flags.dotAll then .all else .withinLine)) rest
    | '^' :: rest => part (.place (if c.flags.lines then .lineStart else .textStart)) rest
    | '$' :: rest => part (.place (if c.flags.lines then .lineEnd else .textEnd)) rest
    | d :: rest =>
      if ['+', '*', '?', '|', ')'].contains d then return ((.empty, false), c)
      else part (c.charPattern (.single d)) rest

/-- Reads a group after its opening parenthesis. -/
def readGroup : Nat → Nat → Cursor → Option ((Pattern × Bool) × Cursor)
  | 0, _, _ => none
  | fuel + 1, depth, c => do
    let c ← c.skip
    if maxGroups ≤ depth + 1 then none
    else
      let inside (kind : GroupKind) (c : Cursor) : Option ((Pattern × Bool) × Cursor) := do
        let n := c.groups
        let (p, c) ← readAlternatives fuel (depth + 1) c
        let c ← afterClosing c
        let (p, repeatable) ← kind.close n p
        return ((p, repeatable), c)
      match c.rest with
      | '?' :: '=' :: rest => inside (.ahead false) (c.move rest)
      | '?' :: '!' :: rest => inside (.ahead true) (c.move rest)
      | '?' :: '<' :: '=' :: rest => inside (.behind false) (c.move rest)
      | '?' :: '<' :: '!' :: rest => inside (.behind true) (c.move rest)
      | '?' :: '<' :: rest =>
        (readIdentifier '>' rest).bind fun r => inside .captured (c.enter (some r.1) r.2)
      | '?' :: 'P' :: '<' :: rest =>
        (readIdentifier '>' rest).bind fun r => inside .captured (c.enter (some r.1) r.2)
      | '?' :: 'P' :: '=' :: rest =>
        (readNamedReference c ')' rest).map fun r => ((r.1, true), r.2)
      | '?' :: '>' :: rest => inside .firstOnly (c.move rest)
      | '?' :: rest =>
        let (d, inner) ← readFlags (rest.length + 1) 0 true (c.move rest)
        if d == ')' then return ((.empty, false), inner)
        else
          let (p, inner) ← readAlternatives fuel (depth + 1) inner
          match inner.rest with
          | ')' :: rest =>
            return ((p, p != .empty), { inner with rest := rest, flags := c.flags })
          | _ => none
      | rest => inside .captured (c.enter none rest)

end

/-- A pattern without what does not matter: groups to which nothing refers. -/
def simplified (p : Pattern) : Pattern := if p.refersBack then p else p.withoutGroups

/-- The pattern that a text denotes. -/
def parse? (text : String) : Option Pattern := do
  let (wide, cs) ← formOf? text
  let bound := (String.ofList cs).utf8ByteSize / 2
  let (p, c) ← readAlternatives (6 * cs.length + 6) 0 { rest := cs, wide := wide, bound := bound }
  if c.rest.isEmpty then return simplified p else none

end SchemaForge.Pattern
