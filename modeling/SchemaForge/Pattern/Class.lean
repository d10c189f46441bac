import SchemaForge.Json.Reader
import SchemaForge.Pattern.Property
import SchemaForge.Text.Blank

/-!
# Reading sets of characters

The written form of sets of characters in patterns: escapes, and sets in brackets with their
ranges, sets within sets and the operations on them.

## Main definitions

* `Pattern.Obstacle` : why a reader of patterns comes to a halt.
* `Pattern.readEscape` : what follows a backslash.
* `Pattern.readSet` : a set in brackets.
-/

namespace SchemaForge.Pattern

/-- The rest of a pattern's text after its front was read. -/
abbrev Rest := List Char

/-- Why a reader of patterns comes to a halt. -/
inductive Obstacle where
  | malformed
  /-- Something looks around or refers back. -/
  | extension
  /-- The escape of a control character by a letter, and what follows the letter. -/
  | control (letter : Char) (after : Rest)
  deriving Repr, DecidableEq

/-- How sets are read. -/
structure SetStyle where
  /-- Blanks and comments between the parts do not count. -/
  spaced : Bool := false
  /-- `\d`, `\w` and `\s` stand for characters of all scripts. -/
  wide : Bool := false
  /-- Cases do not count. -/
  anyCase : Bool := false

/-- Drops blanks and comments where they do not count; `inComment` says that a comment has
begun. -/
def skipSpaced (inComment : Bool) : List Char → Rest
  | [] => []
  | c :: cs =>
    if inComment then skipSpaced (c != '\n') cs
    else if Text.isBlankChar c then skipSpaced false cs
    else if c == '#' then skipSpaced true cs
    else c :: cs

/-- Drops what does not count in a style. -/
def SetStyle.skip (o : SetStyle) (cs : List Char) : Rest :=
  if o.spaced then skipSpaced false cs else cs

/-! ### Escapes -/

/-- What stands after a backslash. -/
inductive Escape where
  | char (c : Char)
  /-- The bell, which not every reader of patterns knows. -/
  | bell
  | set (s : CharSet)
  /-- A place between two characters. -/
  | place
  deriving Repr

/-- The set that a letter after a backslash stands for; a capital letter stands for the
characters outside it. -/
def classOf? (o : SetStyle) (c : Char) : Option CharSet :=
  let inside : Option CharSet :=
    match c.toLower with
    | 'd' => some (if o.wide then .categories [.nd] else .digit)
    | 'w' => some (if o.wide then .words else .word)
    | 's' => some (if o.wide then .property .whiteSpace else .space)
    | _ => none
  inside.map fun s => .negatedIf c.isUpper (.ignoringCaseIf (o.anyCase && !o.wide) s)

/-- Whether a character stands for itself after a backslash. -/
def standsForItself (c : Char) : Bool :=
  c.toNat < 0x80 && !c.isAlphanum && c != '<' && c != '>'

/-- The character of a hexadecimal number. -/
def charOf? (digits : List Char) : Option Char := do
  let values ← digits.mapM Json.hexValue?
  let n := values.foldl (fun n v => 16 * n + v) 0
  if digits.isEmpty || !n.isValidChar then none else some (Char.ofNat n)

/-- So many hexadecimal digits, where blanks may stand between them. -/
def readHexDigits (o : SetStyle) : Nat → List Char → Option (List Char × Rest)
  | 0, cs => some ([], cs)
  | n + 1, c :: cs =>
    if (Json.hexValue? c).isNone then none
    else (readHexDigits o n (o.skip cs)).map fun r => (c :: r.1, r.2)
  | _ + 1, [] => none

/-- The text up to a closing brace, without what does not count. -/
def readBraced (o : SetStyle) : Nat → List Char → Option (List Char × Rest)
  | 0, _ => none
  | fuel + 1, cs =>
    match o.skip cs with
    | [] => none
    | '\x7d' :: rest => some ([], rest)
    | c :: rest => (readBraced o fuel rest).map fun r => (c :: r.1, r.2)

/-- Reads hexadecimal digits: so many of them, or any number in braces. -/
def readHex (o : SetStyle) (size : Nat) (cs : List Char) : Option (Char × Rest) := do
  let (digits, rest) ←
    match o.skip cs with
    | '\x7b' :: rest => readBraced o (rest.length + 1) rest
    | rest => readHexDigits o size rest
  return (← charOf? digits, rest)

/-- The characters with a property, by the text in braces: a name, or the kind of a name and
the name. -/
def setOfProperty? (cs : List Char) : Option CharSet :=
  let kind := cs.takeWhile fun c => c != ':' && c != '='
  match cs.drop kind.length with
  | [] => CharSet.named? (String.ofList cs)
  | _ :: name =>
    let negated := kind.getLast? == some '!' && cs[kind.length]? == some '='
    let kind := if negated then kind.dropLast else kind
    (CharSet.valued? (String.ofList kind) (String.ofList name)).map (.negatedIf negated)

/-- Reads the property after its letter. -/
def readProperty (o : SetStyle) (negated : Bool) (cs : List Char) : Option (CharSet × Rest) := do
  let (name, rest) ←
    match o.skip cs with
    | '\x7b' :: rest => readBraced o (rest.length + 1) rest
    | c :: rest => some ([c], rest)
    | [] => none
  let s ← setOfProperty? name
  return (.negatedIf negated (.ignoringCaseIf o.anyCase s), rest)

/-- Whether a letter after a backslash stands for a place. -/
def isPlace (c : Char) : Bool := ['A', 'z', 'b', 'B', '<', '>'].contains c

/-- Reads what follows a backslash. -/
def readEscape (o : SetStyle) : List Char → Except Obstacle (Escape × Rest)
  | [] => .error .malformed
  | c :: rest =>
    let orMalformed {α : Type} (f : α → Escape) (r : Option (α × Rest)) :
        Except Obstacle (Escape × Rest) :=
      match r with
      | some (a, rest) => .ok (f a, rest)
      | none => .error .malformed
    if Json.isDecimal c then .error .extension
    else if standsForItself c then .ok (.char c, rest)
    else if isPlace c then .ok (.place, rest)
    else
      match c, rest with
      | 'x', _ => orMalformed .char (readHex o 2 rest)
      | 'u', _ => orMalformed .char (readHex o 4 rest)
      | 'U', _ => orMalformed .char (readHex o 8 rest)
      | 'p', _ => orMalformed .set (readProperty o false rest)
      | 'P', _ => orMalformed .set (readProperty o true rest)
      | 'a', _ => .ok (.bell, rest)
      | 'f', _ => .ok (.char '\x0c', rest)
      | 'n', _ => .ok (.char '\n', rest)
      | 'r', _ => .ok (.char '\r', rest)
      | 't', _ => .ok (.char '\t', rest)
      | 'v', _ => .ok (.char '\x0b', rest)
      | 'c', letter :: after =>
        if letter.isAlpha then .error (.control letter after) else .error .malformed
      | _, _ =>
        match classOf? o c with
        | some s => .ok (.set s, rest)
        | none => .error .malformed

/-! ### Sets in brackets -/

/-- The sets that have a name between colons. -/
def asciiSet? : String → Option CharSet
  | "alnum" => some (.union .letter .digit)
  | "alpha" => some .letter
  | "ascii" => some (.range '\x00' '\x7f')
  | "blank" => some (.ofList ['\t', ' '])
  | "cntrl" => some (.union (.range '\x00' '\x1f') (.single '\x7f'))
  | "digit" => some .digit
  | "graph" => some (.range '!' '~')
  | "lower" => some (.range 'a' 'z')
  | "print" => some (.range ' ' '~')
  | "punct" =>
    some (.union (.union (.range '!' '/') (.range ':' '@'))
      (.union (.range '[' '\x60') (.range '\x7b' '~')))
  | "space" => some (.union (.range '\t' '\r') (.single ' '))
  | "upper" => some (.range 'A' 'Z')
  | "word" => some .word
  | "xdigit" => some .hexDigit
  | _ => none

/-- Reads a set with a name between colons, after its opening bracket. -/
def readAsciiSet (o : SetStyle) : List Char → Option (CharSet × Rest)
  | ':' :: cs =>
    let negated := cs.head? == some '^'
    let cs := if negated then cs.drop 1 else cs
    let name := cs.takeWhile (· != ':')
    match cs.drop name.length with
    | ':' :: ']' :: rest =>
      (asciiSet? (String.ofList name)).map fun s =>
        (.negatedIf negated (.ignoringCaseIf o.anyCase s), rest)
    | _ => none
  | _ => none

/-- An operation on two sets. -/
inductive SetOperation where
  | inter | diff | symmDiff

/-- The set that two sets make. -/
def SetOperation.apply : SetOperation → CharSet → CharSet → CharSet
  | inter, s, t => .inter s t
  | diff, s, t => .diff s t
  | symmDiff, s, t => .symmDiff s t

/-- A set in the making: the operation that waits for its second set, with the first one, and
the characters since then. -/
structure SetDraft where
  waiting : Option (SetOperation × CharSet) := none
  current : CharSet := .empty

/-- Adds characters. -/
def SetDraft.add (d : SetDraft) (s : CharSet) : SetDraft :=
  { d with current := .union d.current s }

/-- The set so far. -/
def SetDraft.close (o : SetStyle) (d : SetDraft) : CharSet :=
  match d.waiting with
  | none => d.current
  | some (operation, s) =>
    operation.apply (.ignoringCaseIf o.anyCase s) (.ignoringCaseIf o.anyCase d.current)

/-- Begins an operation; the set so far is its first one. -/
def SetDraft.begin (o : SetStyle) (d : SetDraft) (operation : SetOperation) : SetDraft :=
  { waiting := some (operation, d.close o) }

/-- Reads one member of a set: a set of its own or a single character. -/
def readMember (o : SetStyle) : List Char → Except Obstacle ((CharSet ⊕ Char) × Rest)
  | '\\' :: rest => do
    match ← readEscape o rest with
    | (.char c, rest) => return (.inr c, rest)
    | (.bell, rest) => return (.inr '\x07', rest)
    | (.set s, rest) => return (.inl s, rest)
    | (.place, _) => .error .malformed
  | c :: rest => .ok (.inr c, rest)
  | [] => .error .malformed

/-- The set of one member. -/
def ofMember : CharSet ⊕ Char → CharSet
  | .inl s => s
  | .inr c => .single c

/-- Reads a member, or a range from one character to another. A hyphen before the closing
bracket or before another hyphen makes no range. -/
def readRange (o : SetStyle) (cs : List Char) : Except Obstacle (CharSet × Rest) := do
  let (start, rest) ← readMember o cs
  let single : Except Obstacle (CharSet × Rest) := .ok (ofMember start, rest)
  match o.skip rest with
  | [] => .error .malformed
  | '-' :: after =>
    match o.skip after with
    | ']' :: _ => single
    | '-' :: _ => single
    | after =>
      match start, ← readMember o after with
      | .inr lo, (.inr hi, rest) =>
        if lo ≤ hi then .ok (.range lo hi, rest) else .error .malformed
      | _, _ => .error .malformed
  | _ => single

/-- Adds the hyphens at the front of a set, which stand for themselves. -/
def readHyphens (o : SetStyle) : Nat → SetDraft → List Char → SetDraft × Rest
  | 0, d, cs => (d, cs)
  | fuel + 1, d, cs =>
    match o.skip cs with
    | '-' :: rest => readHyphens o fuel (d.add (.single '-')) rest
    | rest => (d, rest)

mutual

/-- Reads a set after its opening bracket. A closing bracket at its front stands for
itself. -/
def readSetFuel (o : SetStyle) : Nat → List Char → Except Obstacle (CharSet × Rest)
  | 0, _ => .error .malformed
  | fuel + 1, cs => do
    let cs := o.skip cs
    let negated := cs.head? == some '^'
    let cs := o.skip (if negated then cs.drop 1 else cs)
    let (d, rest) := readHyphens o cs.length {} cs
    let (d, rest) :=
      match cs.head?, rest with
      | some '-', _ => (d, rest)
      | _, ']' :: rest => (d.add (.single ']'), rest)
      | _, rest => (d, rest)
    let (s, rest) ← readMembers o fuel d rest
    return (.negatedIf negated (.ignoringCaseIf o.anyCase s), rest)

/-- Reads the members of a set up to its closing bracket. -/
def readMembers (o : SetStyle) :
    Nat → SetDraft → List Char → Except Obstacle (CharSet × Rest)
  | 0, _, _ => .error .malformed
  | fuel + 1, d, cs =>
    match o.skip cs with
    | [] => .error .malformed
    | '[' :: rest =>
      match readAsciiSet o rest with
      | some (s, rest) => readMembers o fuel (d.add s) rest
      | none => do
        let (s, rest) ← readSetFuel o fuel rest
        readMembers o fuel (d.add s) rest
    | ']' :: rest => .ok (d.close o, rest)
    | '&' :: '&' :: rest => readMembers o fuel (d.begin o .inter) rest
    | '-' :: '-' :: rest => readMembers o fuel (d.begin o .diff) rest
    | '~' :: '~' :: rest => readMembers o fuel (d.begin o .symmDiff) rest
    | cs => do
      let (s, rest) ← readRange o cs
      readMembers o fuel (d.add s) rest

end

/-- Reads a set after its opening bracket. -/
def readSet (o : SetStyle) (cs : List Char) : Except Obstacle (CharSet × Rest) :=
  readSetFuel o (2 * cs.length + 2) cs

end SchemaForge.Pattern
