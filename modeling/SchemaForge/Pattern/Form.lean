import SchemaForge.Pattern.Class

/-!
# The forms of patterns

A pattern is of the plain form or of the extended one. In a plain pattern nothing looks around
or refers back, and `\d`, `\w` and `\s` stand for characters of one script. As soon as
something looks around or refers back the pattern is extended: from there on nothing is asked
of its form, and the three stand for characters of all scripts.

## Main definitions

* `Pattern.checkPlain` : whether a text is a plain pattern, or where that comes to a halt.
* `Pattern.formOf?` : the form of a pattern, and its text with control characters in place.
-/

namespace SchemaForge.Pattern

/-- What stands before a place in a sequence, as far as a repetition asks for it. -/
inductive Preceding where
  | nothing
  /-- Something that can be repeated. -/
  | part
  deriving DecidableEq

/-- What is known of a plain pattern at a place. -/
structure PlainState where
  /-- Blanks and comments between the parts do not count. -/
  spaced : Bool := false
  /-- The same for the groups around the place, the innermost first. -/
  outer : List Bool := []
  preceding : Preceding := .nothing
  /-- The names of the groups so far. -/
  names : List String := []
  /-- Whether there was a bell, which a plain pattern cannot hold after all. -/
  bell : Bool := false

namespace PlainState

/-- The style of sets at the place. -/
def style (s : PlainState) : SetStyle := { spaced := s.spaced }

/-- The state after a part. -/
def afterPart (s : PlainState) : PlainState := { s with preceding := .part }

/-- The state inside a group. -/
def inGroup (s : PlainState) (spaced : Bool) : PlainState :=
  { s with spaced := spaced, outer := s.spaced :: s.outer, preceding := .nothing }

end PlainState

/-- Whether a character may begin the name of a group. -/
def beginsName (c : Char) : Bool := c == '_' || Text.Property.alphabetic.holds c

/-- Whether a character is a letter or a number. -/
def isNameLetter (c : Char) : Bool :=
  Text.Property.alphabetic.holds c || [Text.Category.nd, .nl, .no].contains (.ofChar c)

/-- Whether a character may stand in the name of a group. -/
def continuesName (c : Char) : Bool := ['_', '.', '[', ']'].contains c || isNameLetter c

/-- Reads the name of a group, up to its closing bracket. -/
def readPlainName (cs : List Char) : Option (String × Rest) :=
  let name := cs.takeWhile (· != '>')
  match name, cs.drop name.length with
  | c :: rest, _ :: after =>
    if beginsName c && rest.all continuesName then some (String.ofList name, after) else none
  | _, _ => none

/-- Reads the flags of a group: how blanks count from here on, if they say so, and the
character after them. -/
def readPlainFlags (seen : List Char) : List Char → Option (Option Bool × Char × Rest)
  | [] => none
  | c :: rest =>
    let spaced : Option Bool :=
      if seen.contains 'x' then some (!(seen.dropWhile (· != 'x')).contains '-') else none
    if c == ':' || c == ')' then
      if seen.head? == some '-' then none else some (spaced, c, rest)
    else if ['i', 'm', 's', 'U', 'u', 'R', 'x', '-'].contains c && !seen.contains c then
      readPlainFlags (c :: seen) rest
    else none

/-- Reads a decimal number with blanks around it. -/
def readPlainNat (s : PlainState) (cs : List Char) : Option (Option Nat × Rest) :=
  let (digits, rest) := spanSpaced s.style (cs.length + 1) (cs.dropWhile Text.isBlankChar)
  let rest := s.style.skip (rest.dropWhile Text.isBlankChar)
  if digits.isEmpty then some (none, rest)
  else if Json.decimalValue digits < Width.count 32 then
    some (some (Json.decimalValue digits), rest)
  else none
where
  /-- The digits at the front, without what does not count after each. -/
  spanSpaced (o : SetStyle) : Nat → List Char → List Char × Rest
    | 0, cs => ([], cs)
    | fuel + 1, cs =>
      match cs with
      | c :: rest =>
        if Json.isDecimal c then
          let (ds, rest) := spanSpaced o fuel (o.skip rest)
          (c :: ds, rest)
        else ([], cs)
      | [] => ([], [])

/-- Reads the numbers of a repetition after its opening brace. -/
def readPlainCount (s : PlainState) (cs : List Char) : Option Rest := do
  let (least, rest) ← readPlainNat s (s.style.skip cs)
  let least ← least
  match rest with
  | '\x7d' :: rest => return rest
  | ',' :: rest =>
    match s.style.skip rest with
    | '\x7d' :: rest => return rest
    | rest =>
      let (most, rest) ← readPlainNat s rest
      let most ← most
      match rest with
      | '\x7d' :: rest => if most < least then none else return rest
      | _ => none
  | _ => none

/-- Drops the mark that asks for the shortest match. -/
def dropLazy : List Char → Rest
  | '?' :: rest => rest
  | cs => cs

/-- Reads the beginning of a group, after its opening parenthesis. -/
def readPlainGroup (s : PlainState) (cs : List Char) : Except Obstacle (PlainState × Rest) :=
  let named (cs : List Char) : Except Obstacle (PlainState × Rest) :=
    match readPlainName cs with
    | none => .error .malformed
    | some (name, rest) =>
      if s.names.contains name then .error .malformed
      else .ok (({ s with names := name :: s.names }).inGroup s.spaced, rest)
  match s.style.skip cs with
  | '?' :: '=' :: _ => .error .extension
  | '?' :: '!' :: _ => .error .extension
  | '?' :: '<' :: '=' :: _ => .error .extension
  | '?' :: '<' :: '!' :: _ => .error .extension
  | '?' :: 'P' :: '<' :: rest => named rest
  | '?' :: '<' :: rest => named rest
  | '?' :: rest =>
    match readPlainFlags [] rest with
    | none => .error .malformed
    | some (spaced, closing, after) =>
      let spaced := spaced.getD s.spaced
      if closing == ':' then .ok (s.inGroup spaced, after)
      else if rest.head? == some ')' then .error .malformed
      else .ok ({ s with spaced := spaced, preceding := .nothing }, after)
  | rest => .ok (s.inGroup s.spaced, rest)

/-- Whether a text is a plain pattern; `true` if a bell is in it. The fuel bounds the number of
parts. -/
def checkParts : Nat → PlainState → List Char → Except Obstacle Bool
  | 0, _, _ => .error .malformed
  | fuel + 1, s, cs =>
    match s.style.skip cs with
    | [] => if s.outer.isEmpty then .ok s.bell else .error .malformed
    | '(' :: rest => do
      let (s, rest) ← readPlainGroup s rest
      checkParts fuel s rest
    | ')' :: rest =>
      match s.outer with
      | [] => .error .malformed
      | spaced :: outer =>
        checkParts fuel ({ s with spaced := spaced, outer := outer }).afterPart rest
    | '|' :: rest => checkParts fuel { s with preceding := .nothing } rest
    | '[' :: rest => do
      let (_, rest) ← readSet s.style rest
      checkParts fuel s.afterPart rest
    | '\\' :: rest => do
      let (e, rest) ← readEscape s.style rest
      let bell := match e with
        | .bell => true
        | _ => s.bell
      checkParts fuel ({ s with bell := bell }).afterPart rest
    | c :: rest =>
      if ['?', '*', '+'].contains c then
        if s.preceding == .nothing then .error .malformed
        else checkParts fuel s.afterPart (dropLazy rest)
      else if c == '\x7b' then
        match s.preceding, readPlainCount s rest with
        | .part, some rest => checkParts fuel s.afterPart (dropLazy (s.style.skip rest))
        | _, _ => .error .malformed
      else checkParts fuel s.afterPart rest

/-- Whether a text is a plain pattern, or where that comes to a halt. -/
def checkPlain (cs : List Char) : Except Obstacle Unit := do
  if ← checkParts (cs.length + 1) {} cs then .error .malformed else .ok ()

/-- Whether a pattern is extended, and its text with every control character in the place of
its escape. The fuel bounds the number of these. -/
def settle : Nat → List Char → Option (Bool × List Char)
  | 0, _ => none
  | fuel + 1, cs =>
    match checkPlain cs with
    | .ok () => some (false, cs)
    | .error .malformed => none
    | .error .extension => some (true, cs)
    | .error (.control letter after) =>
      let front := cs.take (cs.length - after.length - 3)
      settle fuel (front ++ Char.ofNat (letter.toNat % 32) :: after)

/-- Whether a pattern is extended, and its text with control characters in place. -/
def formOf? (text : String) : Option (Bool × List Char) :=
  let cs := text.toList
  settle (cs.length + 1) cs

end SchemaForge.Pattern
