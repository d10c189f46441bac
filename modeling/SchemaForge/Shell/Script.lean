/-!
# Shell scripts

Scripts of the command language in which small generators are written: commands with
redirections, joined in sequences, choices and loops, with words in which parameters are
replaced.

## Main definitions

* `Shell.isName` : what a variable may be called.
* `Shell.Parameter`, `Shell.Use` : what a word refers to, and what is made of its value.
* `Shell.Word` : a word before its parameters are replaced.
* `Shell.Command` : a command.
-/

namespace SchemaForge.Shell

/-- Whether a character may be in a name after its first. -/
def inName (c : Char) : Bool := c.isAlphanum || c == '_'

/-- Whether a text is the name of a variable. -/
def isName (s : String) : Bool :=
  match s.toList with
  | c :: cs => (c.isAlpha || c == '_') && cs.all inName
  | [] => false

/-- What a parameter in a word refers to. -/
inductive Parameter where
  | named (name : String)
  /-- An argument of the script by its place; at place zero is the script's own name. -/
  | argument (n : Nat)
  | argumentCount
  /-- All arguments, as one text or each on its own. -/
  | arguments (joined : Bool)
  | status
  | process
  /-- The process that was started last without waiting for it. -/
  | lastStarted
  /-- The letters of the options that are on. -/
  | options
  deriving Repr, DecidableEq

mutual

/-- A part of a word. What is quoted is not split at blanks and has no meaning in patterns. -/
inductive Piece where
  | text (s : String) (quoted : Bool)
  | parameter (p : Parameter) (use : Use) (quoted : Bool)
  /-- The output of a script. -/
  | output (script : String) (quoted : Bool)
  /-- The value of an expression. -/
  | value (expression : List Piece) (quoted : Bool)
  deriving Repr

/-- What is made of the value of a parameter. Where `orEmpty` holds, an empty value counts as
none. -/
inductive Use where
  | plain
  | length
  /-- A word stands for it if there is none. -/
  | default (orEmpty : Bool) (w : List Piece)
  /-- The same, and the parameter is set to the word. -/
  | assigned (orEmpty : Bool) (w : List Piece)
  /-- A word stands for it if there is one. -/
  | alternative (orEmpty : Bool) (w : List Piece)
  /-- Without a value the script ends with a complaint. -/
  | required (orEmpty : Bool) (w : List Piece)
  /-- The value without what matches a pattern at its end or start. -/
  | without (atEnd longest : Bool) (pattern : List Piece)
  /-- Nothing that the language has; the script ends when it comes to it. -/
  | malformed
  deriving Repr

end

/-- A word before its parameters are replaced. -/
abbrev Word := List Piece

/-- A redirection of a descriptor. -/
inductive Redirect where
  | toFile (descriptor : Nat) (append : Bool) (target : Word)
  | fromFile (descriptor : Nat) (source : Word)
  /-- The descriptor becomes the same as another, or is closed. -/
  | duplicate (descriptor : Nat) (target : Word)
  /-- The input is a text that the script holds. -/
  | here (descriptor : Nat) (content : Word)
  deriving Repr

/-- A command. -/
inductive Command where
  /-- Assignments, and a program or built-in with its arguments. -/
  | simple (line : Nat) (assignments : List (String × Word)) (words : List Word)
      (redirects : List Redirect)
  | sequence (commands : List Command)
  /-- The second runs if the first succeeds. -/
  | both (first second : Command)
  /-- The second runs if the first fails. -/
  | either (first second : Command)
  | negated (command : Command)
  | conditional (test yes no : Command)
  /-- The body runs once for each item, or for each argument of the script. -/
  | each (name : String) (items : Option (List Word)) (body : Command)
  /-- The body runs as long as the test gives `wanted`. -/
  | repeated (wanted : Bool) (test body : Command)
  /-- The first branch with a pattern that the subject matches runs. -/
  | choose (subject : Word) (branches : List (List Word × Command))
  /-- The output of the first is the input of the second. -/
  | piped (first second : Command)
  /-- What the command does to variables is forgotten. -/
  | enclosed (command : Command)
  /-- The command runs on its own, and its status is forgotten. -/
  | started (command : Command)
  | redirected (line : Nat) (command : Command) (redirects : List Redirect)
  /-- The command becomes known under a name. -/
  | define (name : String) (body : Command)
  deriving Repr

end SchemaForge.Shell
