import SchemaForge.Shell.Glob
import SchemaForge.Shell.Script

/-!
# The tokens of shell scripts

A script is cut into words and operators. Quotes and substitutions are part of words, and a
text that a redirection takes from the lines below it is part of the redirection.

## Main definitions

* `Shell.Token` : a word or an operator.
* `Shell.readWord` : the word at the front of a text.
* `Shell.tokensOf` : the tokens of a script. A word that never ends is the last of them.
-/

namespace SchemaForge.Shell

/-- The rest of a script after its front was read. -/
abbrev Rest := List Char

/-- Whether a character ends a word. -/
def endsWord (c : Char) : Bool :=
  [' ', '\t', '\n', ';', '&', '|', '<', '>', '(', ')'].contains c

/-- The parameter of a character that is no part of a name. -/
def specialParameter? : Char → Option Parameter
  | '#' => some .argumentCount
  | '@' => some (.arguments false)
  | '*' => some (.arguments true)
  | '?' => some .status
  | '$' => some .process
  | '!' => some .lastStarted
  | '-' => some .options
  | c => if c.isDigit then some (.argument (c.toNat - 0x30)) else none

/-- The parameter at the front of a text between braces. -/
def readParameter : List Char → Option (Parameter × Rest)
  | [] => none
  | c :: cs =>
    if c.isDigit then
      let digits := (c :: cs).takeWhile Char.isDigit
      ((String.ofList digits).toNat?).map fun n => (.argument n, (c :: cs).dropWhile Char.isDigit)
    else if inName c then
      some (.named (String.ofList ((c :: cs).takeWhile inName)), (c :: cs).dropWhile inName)
    else (specialParameter? c).map fun p => (p, cs)

/-- Adds a character to the front of a word. -/
def addChar (c : Char) (quoted : Bool) (w : Word) : Word :=
  match w with
  | .text s q :: ps =>
    if q == quoted then .text (String.singleton c ++ s) q :: ps
    else .text (String.singleton c) quoted :: w
  | _ => .text (String.singleton c) quoted :: w

/-- The text up to a quote that leaves everything as it is. -/
def readSingle : List Char → Option (List Char × Rest)
  | [] => none
  | '\'' :: rest => some ([], rest)
  | c :: rest => (readSingle rest).map fun r => (c :: r.1, r.2)

/-- The text up to the parenthesis that closes it, with what is quoted left alone. `depth`
counts the parentheses opened since, and `quote` is the quote that is open. -/
def upToClosing : Nat → Option Char → List Char → Option (List Char × Rest)
  | _, _, [] => none
  | depth, some q, c :: rest =>
    if c == '\\' && q == '"' then
      match rest with
      | [] => none
      | d :: rest => (upToClosing depth (some q) rest).map fun r => (c :: d :: r.1, r.2)
    else (upToClosing depth (if c == q then none else some q) rest).map fun r => (c :: r.1, r.2)
  | depth, none, c :: rest =>
    let inside (depth : Nat) (quote : Option Char) : Option (List Char × Rest) :=
      (upToClosing depth quote rest).map fun r => (c :: r.1, r.2)
    match c with
    | ')' =>
      match depth with
      | 0 => some ([], rest)
      | depth + 1 => inside depth none
    | '(' => inside (depth + 1) none
    | '\'' | '"' => inside depth (some c)
    | '\\' =>
      match rest with
      | [] => none
      | d :: rest => (upToClosing depth none rest).map fun r => (c :: d :: r.1, r.2)
    | _ => inside depth none

/-- The text up to the quote that closes a substitution, and what remains of its escapes. -/
def upToBackquote : List Char → Option (List Char × Rest)
  | [] => none
  | '\x60' :: rest => some ([], rest)
  | '\\' :: c :: rest =>
    (upToBackquote rest).map fun r =>
      (if ['$', '\x60', '\\'].contains c then c :: r.1 else '\\' :: c :: r.1, r.2)
  | c :: rest => (upToBackquote rest).map fun r => (c :: r.1, r.2)

/-- The place in a script: bare, between double quotes, between braces, or in a text that is
read to its end. -/
inductive Place where
  | bare
  | quoted
  | braces (quoted : Bool)
  | document
  deriving Repr, DecidableEq

/-- Whether what stands in the place is quoted. -/
def Place.isQuoted : Place → Bool
  | bare => false
  | quoted => true
  | braces q => q
  | document => true

/-- Whether a backslash in the place takes away the meaning of a character. -/
def Place.escapes : Place → Char → Bool
  | bare, _ | braces false, _ => true
  | quoted, c => ['$', '"', '\\', '\x60'].contains c
  | braces true, c => ['$', '"', '\\', '\x60', '\x7d'].contains c
  | document, c => ['$', '\\', '\x60'].contains c

/-- What is wrong with a text that ends too early in a place. -/
def Place.missing : Place → String
  | braces _ => "Missing '\x7d'"
  | _ => "Unterminated quoted string"

/-- What follows a parameter between braces, up to the word that belongs to it. -/
def readUse : List Char → Option ((Word → Use) × Bool × Rest)
  | ':' :: '-' :: rest => some (.default true, false, rest)
  | ':' :: '=' :: rest => some (.assigned true, false, rest)
  | ':' :: '+' :: rest => some (.alternative true, false, rest)
  | ':' :: '?' :: rest => some (.required true, false, rest)
  | '-' :: rest => some (.default false, false, rest)
  | '=' :: rest => some (.assigned false, false, rest)
  | '+' :: rest => some (.alternative false, false, rest)
  | '?' :: rest => some (.required false, false, rest)
  | '%' :: '%' :: rest => some (.without true true, true, rest)
  | '%' :: rest => some (.without true false, true, rest)
  | '#' :: '#' :: rest => some (.without false true, true, rest)
  | '#' :: rest => some (.without false false, true, rest)
  | _ => none

mutual

/-- Reads a word up to what ends it in its place, or says what is wrong with it. The fuel
bounds the number of its parts. -/
def readWord : Nat → Place → List Char → Except String (Word × Rest)
  | 0, place, _ => .error place.missing
  | fuel + 1, place, cs =>
    let after (p : Piece) (rest : List Char) : Except String (Word × Rest) :=
      (readWord fuel place rest).map fun r => (p :: r.1, r.2)
    let keep (c : Char) (quoted : Bool) (rest : List Char) : Except String (Word × Rest) :=
      (readWord fuel place rest).map fun r => (addChar c quoted r.1, r.2)
    match cs with
    | [] => if place == .bare || place == .document then .ok ([], []) else .error place.missing
    | '"' :: rest =>
      if place == .quoted then .ok ([], rest)
      else if place == .document then keep '"' true rest
      else do
        let (inner, rest) ← readWord fuel .quoted rest
        let (w, rest) ← readWord fuel place rest
        return ((if inner.isEmpty then [.text "" true] else inner) ++ w, rest)
    | '\'' :: rest =>
      if place.isQuoted then keep '\'' true rest
      else
        match readSingle rest with
        | none => .error "Unterminated quoted string"
        | some (inner, rest) => after (.text (String.ofList inner) true) rest
    | '\\' :: '\n' :: rest => readWord fuel place rest
    | '\\' :: c :: rest =>
      if place.escapes c then keep c true rest
      else (keep c true rest).map fun r => (addChar '\\' true r.1, r.2)
    | '$' :: rest => readDollar fuel place rest
    | '\x60' :: rest =>
      match upToBackquote rest with
      | none => .error "EOF in backquote substitution"
      | some (inner, rest) => after (.output (String.ofList inner) place.isQuoted) rest
    | c :: rest =>
      match place with
      | .bare => if endsWord c then .ok ([], cs) else keep c false rest
      | .braces q => if c == '\x7d' then .ok ([], rest) else keep c q rest
      | .quoted | .document => keep c true rest

/-- Reads what follows a dollar sign, and the rest of the word. -/
def readDollar : Nat → Place → List Char → Except String (Word × Rest)
  | 0, place, _ => .error place.missing
  | fuel + 1, place, cs =>
    let after (p : Piece) (rest : List Char) : Except String (Word × Rest) :=
      (readWord fuel place rest).map fun r => (p :: r.1, r.2)
    let quoted := place.isQuoted
    let malformed (rest : List Char) : Except String (Word × Rest) :=
      match rest.dropWhile (· != '\x7d') with
      | _ :: rest => after (.parameter .status .malformed quoted) rest
      | [] => .error (Place.missing (.braces false))
    let dollar (rest : List Char) : Except String (Word × Rest) :=
      (readWord fuel place rest).map fun r => (addChar '$' quoted r.1, r.2)
    match cs with
    | '(' :: rest =>
      match expression? rest with
      | some (inner, rest) => do
        let (w, _) ← readWord fuel .document inner
        after (.value w quoted) rest
      | none =>
        match upToClosing 0 none rest with
        | none => .error "end of file unexpected (expecting \")\")"
        | some (inner, rest) => after (.output (String.ofList inner) quoted) rest
    | '\x7b' :: '#' :: rest =>
      match rest with
      | '\x7d' :: rest => after (.parameter .argumentCount .plain quoted) rest
      | _ =>
        match readParameter rest with
        | some (p, '\x7d' :: rest) => after (.parameter p .length quoted) rest
        | _ => malformed rest
    | '\x7b' :: rest =>
      match readParameter rest with
      | none => malformed rest
      | some (p, '\x7d' :: rest) => after (.parameter p .plain quoted) rest
      | some (p, rest) =>
        match readUse rest with
        | none => malformed rest
        | some (use, isPattern, rest) => do
          let (w, rest) ← readWord fuel (.braces (quoted && !isPattern)) rest
          after (.parameter p (use w) quoted) rest
    | c :: rest =>
      if c.isAlpha || c == '_' then
        after (.parameter (.named (String.ofList (cs.takeWhile inName))) .plain quoted)
          (cs.dropWhile inName)
      else
        match specialParameter? c with
        | some p => after (.parameter p .plain quoted) rest
        | none => dollar cs
    | [] => dollar []
where
  /-- The expression between two pairs of parentheses, the outer of which is open. -/
  expression? : List Char → Option (List Char × Rest)
    | '(' :: rest =>
      match upToClosing 0 none rest with
      | some (inner, ')' :: rest) => some (inner, rest)
      | _ => none
    | _ => none

end

/-- A word or an operator. -/
inductive Token where
  | word (w : Word)
  | operator (s : String)
  | newline
  /-- An operator of a redirection with the descriptor that it names. -/
  | redirect (s : String) (descriptor : Option Nat)
  /-- A redirection with its text, or with its place among the texts that are still to come. -/
  | here (descriptor : Option Nat) (content : Word)
  /-- A word that never ends. -/
  | broken (why : String)
  | finish
  deriving Repr

/-- A token with the line on which it ends. -/
structure Lexeme where
  token : Token
  line : Nat
  deriving Repr

/-- The text of a word that is nothing but bare text. -/
def bareText? : Word → Option String
  | [.text s false] => some s
  | _ => none

/-- The digit of a word that is nothing but a digit. -/
def descriptor? (w : Word) : Option Nat :=
  match (bareText? w).map String.toList with
  | some [c] => if c.isDigit then some (c.toNat - 0x30) else none
  | _ => none

/-- The text of a word without a look at what is quoted. -/
def Word.verbatim (w : Word) : String :=
  w.foldl (fun s p => match p with
    | .text t _ => s ++ t
    | _ => s) ""

/-- Whether a part of a word is quoted. -/
def Word.hasQuotes (w : Word) : Bool :=
  w.any fun
    | .text _ q => q
    | _ => false

/-- A text that is to come: the line that ends it, whether it is taken as it is, and whether
tabs at the starts of its lines are dropped. -/
structure Pending where
  delimiter : List Char
  verbatim : Bool
  dropsTabs : Bool

/-- The lines up to the one that ends a text. The fuel bounds their number. -/
def readDocument (p : Pending) : Nat → List Char → List Char × Rest
  | 0, cs => ([], cs)
  | _ + 1, [] => ([], [])
  | fuel + 1, cs =>
    let cs := if p.dropsTabs then cs.dropWhile (· == '\t') else cs
    let line := cs.takeWhile (· != '\n')
    let rest := (cs.dropWhile (· != '\n'))
    if line == p.delimiter then ([], rest.drop 1)
    else
      let (more, after) := readDocument p fuel (rest.drop 1)
      (line ++ rest.take 1 ++ more, after)

/-- The texts that are to come, in order. -/
def readDocuments : List Pending → List Char → List Word × Rest
  | [], cs => ([], cs)
  | p :: ps, cs =>
    let (text, rest) := readDocument p (cs.length + 1) cs
    let w : Word :=
      if p.verbatim then [.text (String.ofList text) true]
      else
        match readWord (4 * text.length + 4) .document text with
        | .ok (w, _) => w
        | .error _ => [.text (String.ofList text) true]
    let (ws, rest) := readDocuments ps rest
    (w :: ws, rest)

/-- How many line ends a text has. -/
def lineEnds (cs : List Char) : Nat := (cs.filter (· == '\n')).length

/-- Cuts a script into tokens, and gathers the texts that redirections take, in order. The
fuel bounds the number of tokens. -/
def readTokens : Nat → Nat → List Pending → List Char → List Lexeme × List Word
  | 0, _, _, _ => ([], [])
  | fuel + 1, line, pending, cs =>
    let operator (s : String) (rest : List Char) : List Lexeme × List Word :=
      let (ts, texts) := readTokens fuel line pending rest
      (⟨.operator s, line⟩ :: ts, texts)
    let redirect (s : String) (d : Option Nat) (rest : List Char) : List Lexeme × List Word :=
      let (ts, texts) := readTokens fuel line pending rest
      (⟨.redirect s d, line⟩ :: ts, texts)
    let here (dropsTabs : Bool) (d : Option Nat) (rest : List Char) : List Lexeme × List Word :=
      let written := rest.dropWhile fun c => c == ' ' || c == '\t'
      match readWord (4 * rest.length + 4) .bare written with
      | .error why => ([⟨.broken why, line⟩], [])
      | .ok (w, rest) =>
        let p := ⟨w.verbatim.toList, w.hasQuotes, dropsTabs⟩
        let (ts, texts) := readTokens fuel line (pending ++ [p]) rest
        (⟨.here d [], line⟩ :: ts, texts)
    let redirection (d : Option Nat) : List Char → Option (List Lexeme × List Word)
      | '>' :: '>' :: rest => some (redirect ">>" d rest)
      | '>' :: '&' :: rest => some (redirect ">&" d rest)
      | '>' :: '|' :: rest => some (redirect ">" d rest)
      | '>' :: rest => some (redirect ">" d rest)
      | '<' :: '<' :: '-' :: rest => some (here true d rest)
      | '<' :: '<' :: rest => some (here false d rest)
      | '<' :: '&' :: rest => some (redirect "<&" d rest)
      | '<' :: rest => some (redirect "<" d rest)
      | _ => none
    match cs with
    | [] => ([], pending.map fun _ => [])
    | ' ' :: rest | '\t' :: rest => readTokens fuel line pending rest
    | '\\' :: '\n' :: rest => readTokens fuel (line + 1) pending rest
    | '\n' :: rest =>
      let (texts, after) := readDocuments pending rest
      let passed := lineEnds (rest.take (rest.length - after.length))
      let (ts, more) := readTokens fuel (line + 1 + passed) [] after
      (⟨.newline, line⟩ :: ts, texts ++ more)
    | '#' :: rest => readTokens fuel line pending (rest.dropWhile (· != '\n'))
    | '&' :: '&' :: rest => operator "&&" rest
    | '|' :: '|' :: rest => operator "||" rest
    | ';' :: ';' :: rest => operator ";;" rest
    | ';' :: rest => operator ";" rest
    | '&' :: rest => operator "&" rest
    | '|' :: rest => operator "|" rest
    | '(' :: rest => operator "(" rest
    | ')' :: rest => operator ")" rest
    | _ =>
      match redirection none cs with
      | some r => r
      | none =>
        match readWord (4 * cs.length + 4) .bare cs with
        | .error why => ([⟨.broken why, line + lineEnds cs⟩], [])
        | .ok (w, rest) =>
          match (descriptor? w).bind fun d => redirection (some d) rest with
          | some r => r
          | none =>
            let line := line + lineEnds (cs.take (cs.length - rest.length))
            let (ts, texts) := readTokens fuel line pending rest
            (⟨.word w, line⟩ :: ts, texts)

/-- Gives redirections their texts, from the last to the first. -/
def fillTexts (ts : List Lexeme) (texts : List Word) : List Lexeme :=
  (ts.foldr (fun t (filled, texts) =>
    match t.token, texts with
    | .here d _, text :: texts => (⟨.here d text, t.line⟩ :: filled, texts)
    | _, _ => (t :: filled, texts)) ([], texts.reverse)).1

/-- The tokens of a script. -/
def tokensOf (script : String) : List Lexeme :=
  let cs := script.toList
  let (ts, texts) := readTokens (cs.length + 1) 1 [] cs
  fillTexts ts texts ++ [⟨.finish, 1 + lineEnds cs⟩]

end SchemaForge.Shell
