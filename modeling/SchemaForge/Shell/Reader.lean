import SchemaForge.Shell.Token

/-!
# Reading shell scripts

The tokens of a script are put together to commands, one line after the other: a line that
is malformed is noticed when those before it have run.

## Main definitions

* `Shell.SyntaxFault` : what is wrong with a script.
* `Shell.readLine` : the commands of the next line.
-/

namespace SchemaForge.Shell

/-- What is wrong with a script, and on which line. -/
structure SyntaxFault where
  why : String
  line : Nat
  deriving Repr, DecidableEq

/-- The tokens that follow what was read. -/
abbrev Lexemes := List Lexeme

/-- What comes of reading. -/
abbrev Reading := Except SyntaxFault

/-- The words that have a meaning of their own where a command can start. -/
def reserved : List String := [
  "!", "case", "do", "done", "elif", "else", "esac", "fi", "for", "if", "in", "then", "until",
  "while", "\x7b", "\x7d"]

/-- The reserved words and operators at which a list of commands ends. -/
def closers : List String :=
  ["then", "else", "elif", "fi", "do", "done", "esac", "\x7d", ")", ";;"]

/-- The operator or bare text that a token is. -/
def Token.mark? : Token → Option String
  | .operator s => some s
  | .word w => bareText? w
  | _ => none

/-- A text between double quotes. -/
def inQuotes (s : String) : String := "\"" ++ s ++ "\""

/-- How a token is named in a complaint. -/
def Token.name : Token → String
  | .operator s => inQuotes s
  | .newline => "newline"
  | .redirect .. | .here .. => "redirection"
  | .finish | .broken _ => "end of file"
  | .word w =>
    match bareText? w with
    | some s => if reserved.contains s then inQuotes s else "word"
    | none => "word"

/-- The complaint about the first of some tokens. `wanted` is what should be there. -/
def unexpected {α : Type} (wanted : Option String) : Lexemes → Except SyntaxFault α
  | [] => .error ⟨"end of file unexpected", 1⟩
  | ⟨.broken why, line⟩ :: _ => .error ⟨why, line⟩
  | t :: _ =>
    let tail := match wanted with
      | some s => " (expecting " ++ inQuotes s ++ ")"
      | none => ""
    .error ⟨t.token.name ++ " unexpected" ++ tail, t.line⟩

/-- Drops the line ends at the front. -/
def skipNewlines : Lexemes → Lexemes
  | ⟨.newline, _⟩ :: ts => skipNewlines ts
  | ts => ts

/-- Drops an operator or a word that has to be there. -/
def expect (s : String) : Lexemes → Except SyntaxFault (Lexemes)
  | t :: ts => if t.token.mark? == some s then .ok ts else unexpected (some s) (t :: ts)
  | [] => unexpected (some s) []

/-- The line of the first token. -/
def lineOf : Lexemes → Nat
  | t :: _ => t.line
  | [] => 1

/-- Splits a word at its first equals sign, if a name comes before it. -/
def assignment? : Word → Option (String × Word)
  | .text s false :: ps =>
    let name := String.ofList (s.toList.takeWhile (· != '='))
    match s.toList.dropWhile (· != '=') with
    | _ :: value =>
      if isName name then
        some (name, if value.isEmpty then ps else .text (String.ofList value) false :: ps)
      else none
    | [] => none
  | _ => none

/-- Reads a redirection from the front of the tokens, if there is one. -/
def readRedirect : Lexemes → Except SyntaxFault (Option (Redirect × Lexemes))
  | ⟨.here d text, _⟩ :: ts => .ok (some (.here (d.getD 0) text, ts))
  | ⟨.redirect s d, _⟩ :: ts =>
    match ts with
    | ⟨.word w, _⟩ :: ts =>
      let r := match s with
        | ">" => .toFile (d.getD 1) false w
        | ">>" => .toFile (d.getD 1) true w
        | "<" => .fromFile (d.getD 0) w
        | ">&" => .duplicate (d.getD 1) w
        | _ => .duplicate (d.getD 0) w
      .ok (some (r, ts))
    | ts => unexpected none ts
  | _ => .ok none

/-- Reads the redirections at the front of the tokens. The fuel bounds their number. -/
def readRedirects : Nat → Lexemes → Reading (List Redirect × Lexemes)
  | 0, ts => .ok ([], ts)
  | fuel + 1, ts => do
    match ← readRedirect ts with
    | none => return ([], ts)
    | some (r, ts) =>
      let (rs, ts) ← readRedirects fuel ts
      return (r :: rs, ts)

/-- Reads the words and redirections of a simple command. The fuel bounds their number. -/
def readSimple : Nat → Lexemes → Reading ((List Word × List Redirect) × Lexemes)
  | 0, ts => .ok (([], []), ts)
  | fuel + 1, ts =>
    match ts with
    | ⟨.word w, _⟩ :: ts => do
      let ((ws, rs), ts) ← readSimple fuel ts
      return ((w :: ws, rs), ts)
    | ⟨.broken why, line⟩ :: _ => .error ⟨why, line⟩
    | _ => do
      match ← readRedirect ts with
      | none => return (([], []), ts)
      | some (r, ts) =>
        let ((ws, rs), ts) ← readSimple fuel ts
        return ((ws, r :: rs), ts)

/-- Reads words up to the first token that is none. -/
def readWords : Lexemes → List Word × Lexemes
  | ⟨.word w, _⟩ :: ts =>
    let (ws, ts) := readWords ts
    (w :: ws, ts)
  | ts => ([], ts)

/-- Takes the assignments off the front of a list of words. -/
def takeAssignments : List Word → List (String × Word) × List Word
  | [] => ([], [])
  | w :: ws =>
    match assignment? w with
    | none => ([], w :: ws)
    | some a =>
      let (as, ws) := takeAssignments ws
      (a :: as, ws)

/-- Reads the patterns of a branch, which bars separate. The fuel bounds their number. -/
def readPatterns : Nat → Lexemes → Reading (List Word × Lexemes)
  | 0, ts => unexpected none ts
  | fuel + 1, ts =>
    match ts with
    | ⟨.word w, _⟩ :: ⟨.operator "|", _⟩ :: ts => do
      let (ws, ts) ← readPatterns fuel ts
      return (w :: ws, ts)
    | ⟨.word w, _⟩ :: ts => .ok ([w], ts)
    | ⟨.finish, line⟩ :: ts => unexpected (some ")") (⟨.finish, line⟩ :: ts)
    | ts => unexpected none ts

mutual

/-- Reads commands up to the end or to what closes them. -/
def readList : Nat → Bool → Lexemes → Reading (List Command × Lexemes)
  | 0, _, ts => unexpected none ts
  | fuel + 1, mayBeEmpty, ts =>
    match skipNewlines ts with
    | [] => .ok ([], [])
    | ⟨.finish, line⟩ :: ts => .ok ([], ⟨.finish, line⟩ :: ts)
    | t :: ts =>
      if mayBeEmpty && t.token.mark?.any closers.contains then .ok ([], t :: ts)
      else do
        let (c, ts) ← readChoice fuel (t :: ts)
        match ts with
        | ⟨.operator "&", _⟩ :: ts =>
          let (cs, ts) ← readList fuel true ts
          return (.started c :: cs, ts)
        | ⟨.operator ";", _⟩ :: ts | ⟨.newline, _⟩ :: ts =>
          let (cs, ts) ← readList fuel true ts
          return (c :: cs, ts)
        | _ => return ([c], ts)

/-- Reads pipelines joined by `&&` and `||`. -/
def readChoice : Nat → Lexemes → Reading (Command × Lexemes)
  | 0, ts => unexpected none ts
  | fuel + 1, ts => do
    let (c, ts) ← readPipeline fuel ts
    readJoined fuel c ts

/-- Reads what is joined to a command by `&&` and `||`, which group from the left. -/
def readJoined : Nat → Command → Lexemes → Reading (Command × Lexemes)
  | 0, _, ts => unexpected none ts
  | fuel + 1, c, ts =>
    match ts with
    | ⟨.operator "&&", _⟩ :: ts => do
      let (d, ts) ← readPipeline fuel (skipNewlines ts)
      readJoined fuel (.both c d) ts
    | ⟨.operator "||", _⟩ :: ts => do
      let (d, ts) ← readPipeline fuel (skipNewlines ts)
      readJoined fuel (.either c d) ts
    | _ => .ok (c, ts)

/-- Reads commands joined by pipes, with an exclamation mark in front or not. -/
def readPipeline : Nat → Lexemes → Reading (Command × Lexemes)
  | 0, ts => unexpected none ts
  | fuel + 1, ts =>
    match ts with
    | ⟨.word [.text "!" false], _⟩ :: ts => do
      let (c, ts) ← readPipeline fuel ts
      return (.negated c, ts)
    | ts => do
      let (c, ts) ← readCommand fuel ts
      readPiped fuel c ts

/-- Reads what takes the output of a command as its input. -/
def readPiped : Nat → Command → Lexemes → Reading (Command × Lexemes)
  | 0, _, ts => unexpected none ts
  | fuel + 1, c, ts =>
    match ts with
    | ⟨.operator "|", _⟩ :: ts => do
      let (d, ts) ← readCommand fuel (skipNewlines ts)
      readPiped fuel (.piped c d) ts
    | _ => .ok (c, ts)

/-- Reads one command. -/
def readCommand : Nat → Lexemes → Reading (Command × Lexemes)
  | 0, ts => unexpected none ts
  | fuel + 1, ts =>
    let line := lineOf ts
    let finish (c : Command) (ts : Lexemes) : Reading (Command × Lexemes) := do
      let (redirects, ts) ← readRedirects ts.length ts
      return (if redirects.isEmpty then c else .redirected line c redirects, ts)
    let simple : Reading (Command × Lexemes) := do
      match ← readSimple (ts.length + 1) ts with
      | (([w], []), ⟨.operator "(", l⟩ :: after) =>
        if (assignment? w).isSome then unexpected none (⟨.operator "(", l⟩ :: after)
        else
          let after ← expect ")" after
          match bareText? w with
          | some name =>
            if isName name then
              let (body, after) ← readCommand fuel (skipNewlines after)
              return (.define name body, after)
            else .error ⟨"Bad function name", line⟩
          | none => .error ⟨"Bad function name", line⟩
      | ((words, redirects), after) =>
        let (assignments, words) := takeAssignments words
        return (.simple line assignments words redirects, after)
    match ts with
    | [] => unexpected none []
    | t :: rest =>
      match t.token with
      | .operator "(" => do
        let (cs, ts) ← readList fuel false rest
        finish (.enclosed (.sequence cs)) (← expect ")" ts)
      | .word w =>
        match bareText? w with
        | some "\x7b" => do
          let (cs, ts) ← readList fuel false rest
          finish (.sequence cs) (← expect "\x7d" ts)
        | some "if" => do
          let (c, ts) ← readBranches fuel rest
          finish c ts
        | some "while" => do
          let (test, ts) ← readList fuel false rest
          let (body, ts) ← readList fuel false (← expect "do" ts)
          finish (.repeated true (.sequence test) (.sequence body)) (← expect "done" ts)
        | some "until" => do
          let (test, ts) ← readList fuel false rest
          let (body, ts) ← readList fuel false (← expect "do" ts)
          finish (.repeated false (.sequence test) (.sequence body)) (← expect "done" ts)
        | some "for" =>
          match rest with
          | ⟨.word v, l⟩ :: ts =>
            match bareText? v with
            | some name =>
              if isName name then do
                let (items, ts) ← readItems (skipNewlines ts)
                let (body, ts) ← readList fuel false (← expect "do" (skipNewlines ts))
                finish (.each name items (.sequence body)) (← expect "done" ts)
              else .error ⟨"Bad for loop variable", l⟩
            | none => .error ⟨"Bad for loop variable", l⟩
          | _ => .error ⟨"Bad for loop variable", lineOf rest⟩
        | some "case" =>
          match rest with
          | ⟨.word subject, _⟩ :: ts => do
            let (branches, ts) ← readCases fuel (← expect "in" (skipNewlines ts))
            finish (.choose subject branches) ts
          | _ => unexpected (some "word") rest
        | some s => if reserved.contains s then unexpected none ts else simple
        | none => simple
      | .redirect .. | .here .. => simple
      | _ => unexpected none ts
where
  /-- The items of a loop: those that are listed, or the arguments of the script. -/
  readItems (ts : Lexemes) : Reading (Option (List Word) × Lexemes) :=
    match ts with
    | ⟨.word [.text "in" false], _⟩ :: ts =>
      match readWords ts with
      | (ws, ⟨.newline, _⟩ :: ts) | (ws, ⟨.operator ";", _⟩ :: ts) => .ok (some ws, ts)
      | (_, ts) => unexpected none ts
    | ⟨.operator ";", _⟩ :: ts => .ok (none, ts)
    | ts => .ok (none, ts)

/-- Reads a test with its branches up to the end of the choice. -/
def readBranches : Nat → Lexemes → Reading (Command × Lexemes)
  | 0, ts => unexpected none ts
  | fuel + 1, ts => do
    let (test, ts) ← readList fuel false ts
    let (yes, ts) ← readList fuel false (← expect "then" ts)
    match ts with
    | ⟨.word [.text "else" false], _⟩ :: ts =>
      let (no, ts) ← readList fuel false ts
      return (.conditional (.sequence test) (.sequence yes) (.sequence no), ← expect "fi" ts)
    | ⟨.word [.text "elif" false], _⟩ :: ts =>
      let (no, ts) ← readBranches fuel ts
      return (.conditional (.sequence test) (.sequence yes) no, ts)
    | ts =>
      return (.conditional (.sequence test) (.sequence yes) (.sequence []), ← expect "fi" ts)

/-- Reads the branches of a choice by patterns. -/
def readCases : Nat → Lexemes → Reading (List (List Word × Command) × Lexemes)
  | 0, ts => unexpected none ts
  | fuel + 1, ts =>
    match skipNewlines ts with
    | ⟨.word [.text "esac" false], _⟩ :: ts => .ok ([], ts)
    | ts => do
      let ts := match ts with
        | ⟨.operator "(", _⟩ :: ts => ts
        | ts => ts
      let (patterns, ts) ← readPatterns ts.length ts
      let (body, ts) ← readList fuel true (← expect ")" ts)
      let branch := (patterns, Command.sequence body)
      match skipNewlines ts with
      | ⟨.word [.text "esac" false], _⟩ :: ts => return ([branch], ts)
      | ts =>
        let (branches, ts) ← readCases fuel (← expect ";;" ts)
        return (branch :: branches, ts)

end

/-- Reads the commands up to the end of a line. The fuel bounds their number. -/
def readLineFrom : Nat → Lexemes → Reading (List Command × Lexemes)
  | 0, ts => unexpected none ts
  | fuel + 1, ts =>
    match ts with
    | [] => .ok ([], [])
    | ⟨.newline, _⟩ :: ts => .ok ([], ts)
    | ⟨.finish, line⟩ :: ts => .ok ([], ⟨.finish, line⟩ :: ts)
    | ts => do
      let (c, ts) ← readChoice fuel ts
      match ts with
      | ⟨.operator "&", _⟩ :: ts =>
        let (cs, ts) ← readLineFrom fuel ts
        return (.started c :: cs, ts)
      | ⟨.operator ";", _⟩ :: ts =>
        let (cs, ts) ← readLineFrom fuel ts
        return (c :: cs, ts)
      | ⟨.newline, _⟩ :: _ | ⟨.finish, _⟩ :: _ =>
        let (cs, ts) ← readLineFrom fuel ts
        return (c :: cs, ts)
      | ts => unexpected none ts

/-- Reads the commands of the next line. -/
def readLine (ts : Lexemes) : Reading (Command × Lexemes) :=
  (readLineFrom (6 * ts.length + 6) ts).map fun r => (.sequence r.1, r.2)

end SchemaForge.Shell
