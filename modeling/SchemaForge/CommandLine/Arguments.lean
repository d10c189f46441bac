import SchemaForge.Path

/-!
# Arguments of the command line

## Main definitions

* `CommandLine.Command`, `CommandLine.Setting` : what can be asked for.
* `CommandLine.Arguments` : what is asked for.
* `CommandLine.Early` : what ends the reading of arguments before anything is done.
* `CommandLine.Arguments.ofList` : reading arguments.
-/

namespace SchemaForge.CommandLine

/-- What can be done with a project. -/
inductive Command where
  | generate
  | fingerprint
  | plan
  deriving Repr, DecidableEq

namespace Command

/-- The commands in the order in which the help lists them. -/
def all : List Command := [.generate, .fingerprint, .plan]

/-- The name of a command. -/
def name : Command → String
  | generate => "generate"
  | fingerprint => "fingerprint"
  | plan => "plan"

/-- What a command does. -/
def about : Command → String
  | generate => "Run the selected tasks (default)"
  | fingerprint => "Print the fingerprint of each selected task"
  | plan => "Show what each task would do without touching anything"

end Command

/-- The options that have a value. -/
inductive Setting where
  | config
  | projectDir
  | task
  deriving Repr, DecidableEq

namespace Setting

/-- The options in the order in which the help lists them. -/
def all : List Setting := [.config, .projectDir, .task]

/-- The letter of an option. -/
def letter : Setting → Char
  | config => 'c'
  | projectDir => 'p'
  | task => 't'

/-- The name of an option. -/
def name : Setting → String
  | config => "config"
  | projectDir => "project-dir"
  | task => "task"

/-- How the value of an option is called. -/
def valueName : Setting → String
  | config => "CONFIG"
  | projectDir => "PROJECT_DIR"
  | task => "TASKS"

/-- What an option does. -/
def about : Setting → String
  | config => "Path to configuration file (TOML format, defaults to ./schemagen.toml)"
  | projectDir => "Project directory; relative paths in the configuration resolve against it"
  | task => "Only handle the named task (repeatable)"

/-- How messages show an option. -/
def shown (s : Setting) : String := "--" ++ s.name ++ " <" ++ s.valueName ++ ">"

end Setting

/-- What is asked for. -/
structure Arguments where
  config : Option Path := none
  projectDir : Option Path := none
  tasks : List String := []
  command : Command := .generate
  deriving Repr, DecidableEq

/-- Why arguments cannot be used. -/
inductive Fault where
  | missingValue (setting : Setting)
  | repeated (setting : Setting)
  /-- An argument that has no place, possibly after a command. -/
  | unexpected (argument : String) (after : Option Command)
  | unknownCommand (name : String)
  deriving Repr, DecidableEq

/-- What ends the reading of arguments before anything is done. -/
inductive Early where
  /-- The help on the program or on a command. -/
  | help (command : Option Command)
  /-- The help on the help. -/
  | helpOnHelp
  | version
  | fault (f : Fault)
  deriving Repr, DecidableEq

namespace Arguments

/-- Gives an option a value. A path must not be empty, and only tasks may be named more than
once. -/
def set (a : Arguments) (value : String) : Setting → Except Early Arguments
  | .config =>
    if value == "" then .error (.fault (.missingValue .config))
    else if a.config.isSome then .error (.fault (.repeated .config))
    else .ok { a with config := some ⟨value⟩ }
  | .projectDir =>
    if value == "" then .error (.fault (.missingValue .projectDir))
    else if a.projectDir.isSome then .error (.fault (.repeated .projectDir))
    else .ok { a with projectDir := some ⟨value⟩ }
  | .task => .ok { a with tasks := a.tasks ++ [value] }

/-- What one argument is. -/
inductive Token where
  /-- Two dashes, after which nothing is an option. -/
  | divider
  | help
  | version
  /-- An option, with the value that is attached to it. -/
  | setting (s : Setting) (value : Option String)
  /-- An option that there is not. -/
  | stray
  | word
  deriving Repr, DecidableEq

/-- The option of a name with a value after an equals sign. -/
def longToken (cs : List Char) : Token :=
  let name := String.ofList (cs.takeWhile (· != '='))
  let value :=
    match cs.dropWhile (· != '=') with
    | [] => none
    | _ :: v => some (String.ofList v)
  match Setting.all.find? (·.name == name), value with
  | some s, _ => .setting s value
  | none, none => if name == "help" then .help else if name == "version" then .version else .stray
  | none, some _ => .stray

/-- The option of a letter with a value right behind it or after an equals sign. -/
def shortToken (c : Char) (cs : List Char) : Token :=
  if c == 'h' then .help
  else if c == 'V' then .version
  else
    match Setting.all.find? (·.letter == c) with
    | none => .stray
    | some s =>
      .setting s <|
        match cs with
        | [] => none
        | '=' :: v => some (String.ofList v)
        | v => some (String.ofList v)

/-- What one argument is. A dash alone is a word. -/
def token (argument : String) : Token :=
  match argument.toList with
  | ['-', '-'] => .divider
  | '-' :: '-' :: cs => longToken cs
  | '-' :: c :: cs => shortToken c cs
  | _ => .word

/-- Whether an argument can be the value of the option before it. -/
def isValue (argument : String) : Bool := token argument == .word

/-- An argument that has no place. -/
def stray {α : Type} (argument : String) (after : Option Command) : Except Early α :=
  .error (.fault (.unexpected argument after))

/-- Checks the arguments after a command: only a request for help may follow. -/
def checkRest (command : Command) : List String → Except Early Unit
  | [] => .ok ()
  | argument :: rest =>
    match token argument with
    | .help => .error (.help command)
    | .divider =>
      match rest with
      | [] => .ok ()
      | next :: _ => stray next command
    | _ => stray argument command

/-- The help that the arguments after `help` ask for. -/
def helpOn : List String → Early
  | [] => .help none
  | [name] =>
    if name == "help" then .helpOnHelp
    else
      match Command.all.find? (·.name == name) with
      | some command => .help command
      | none => .fault (.unknownCommand name)
  | name :: next :: _ =>
    if name == "help" || Command.all.any (·.name == name) then .fault (.unknownCommand next)
    else .fault (.unknownCommand name)

/-- Reads arguments on top of those that were read before. -/
def read (a : Arguments) : List String → Except Early Arguments
  | [] => .ok a
  | argument :: rest =>
    match token argument with
    | .help => .error (.help none)
    | .version => .error .version
    | .stray => stray argument none
    | .divider =>
      match rest with
      | [] => .ok a
      | next :: _ => stray next none
    | .setting s (some value) => do read (← a.set value s) rest
    | .setting s none =>
      match rest with
      | [] => .error (.fault (.missingValue s))
      | value :: rest =>
        if isValue value then do read (← a.set value s) rest
        else .error (.fault (.missingValue s))
    | .word =>
      if argument == "help" then .error (helpOn rest)
      else
        match Command.all.find? (·.name == argument) with
        | some command => do
          checkRest command rest
          return { a with command }
        | none => .error (.fault (.unknownCommand argument))

/-- What a list of arguments asks for. -/
def ofList (arguments : List String) : Except Early Arguments := read {} arguments

end Arguments

end SchemaForge.CommandLine
