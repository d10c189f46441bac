import SchemaForge.Shell.Condition
import SchemaForge.Shell.Field
import SchemaForge.Shell.Token

/-!
# Built-in commands

The commands that are part of the shell because they change its own state: variables,
arguments, options, the working directory, and what runs next.

## Main definitions

* `Shell.Builtin` : a built-in and whether its failures end the script.
* `Shell.builtin?` : the built-in of a name.
-/

namespace SchemaForge.Shell

/-- A command that is part of the shell. The failures of a special one end the script. -/
structure Builtin where
  run : Tool
  special : Bool

/-- The number that a text of digits denotes. -/
def number? (s : String) : Option Nat :=
  if s != "" && s.toList.all Char.isDigit then s.toNat? else none

/-- Does nothing. -/
def idle (status : Nat) : Tool := fun s _ => s.withStatus status

/-! ### Control -/

/-- The number that an argument of a command denotes, or `absent` if there is none; one that
is no number ends the script. -/
def countOf (s : State) (command : String) (absent : Nat) (args : List String) :
    Except State Nat :=
  match args with
  | [] => .ok absent
  | arg :: _ =>
    match number? arg with
    | some n => .ok n
    | none => .error (s.abort (command ++ ": Illegal number: " ++ arg))

/-- Ends the script. -/
def exit : Tool := fun s args =>
  match countOf s "exit" s.status args with
  | .ok n => s.exit (n % 256)
  | .error s => s

/-- Leaves the function that runs, or the script. -/
def leaveFunction : Tool := fun s args =>
  match countOf s "return" s.status args with
  | .ok n => { s with status := n % 256, detour := some .returned }
  | .error s => s

/-- Leaves loops, or goes on with the next round of one. -/
def leaveLoops (name : String) (detour : Nat → Detour) : Tool := fun s args =>
  match countOf s name 1 args with
  | .ok 0 => s.abort (name ++ ": Illegal number: 0")
  | .ok n =>
    if s.loops == 0 then s.withStatus 0
    else { s with status := 0, detour := some (detour (min n s.loops)) }
  | .error s => s

/-- The signals by number, from 1 on. -/
def signalNames : List String := [
  "HUP", "INT", "QUIT", "ILL", "TRAP", "ABRT", "BUS", "FPE", "KILL", "USR1", "SEGV", "USR2",
  "PIPE", "ALRM", "TERM", "STKFLT", "CHLD", "CONT", "STOP", "TSTP", "TTIN", "TTOU", "URG",
  "XCPU", "XFSZ", "VTALRM", "PROF", "WINCH", "IO", "PWR", "SYS"]

/-- The number of a signal by its name or number; zero is no signal at all. -/
def signal? (s : String) : Option Nat :=
  match number? s with
  | some n => if n ≤ 64 then some n else none
  | none =>
    let name := if s.startsWith "SIG" then (s.drop 3).toString else s
    if name == "EXIT" then some 0
    else (signalNames.findIdx? (· == name)).map (· + 1)

/-- Whether a process that does not expect a signal goes on when it comes. -/
def isHarmless (signal : Nat) : Bool := [0, 17, 18, 23, 28].contains signal

/-- Sends a signal. Only the script itself is within reach. -/
def kill : Tool := fun s args =>
  let usage :=
    (s.report ("kill: Usage: kill [-s sigspec | -signum | -sigspec] [pid | job]... or\n" ++
      "kill -l [exitstatus]")).withStatus 2
  let send (signal : String) (targets : List String) : State :=
    match signal? signal with
    | none => (s.report ("kill: invalid signal number or name: " ++ signal)).withStatus 2
    | some n =>
      match targets with
      | [] => usage
      | target :: _ =>
        if target == toString s.process then
          if isHarmless n then s.withStatus 0 else { s with detour := some (.killed n) }
        else if (number? target).isNone then
          (s.report ("kill: Illegal number: " ++ target)).withStatus 2
        else (s.report "kill: No such process\n").withStatus 1
  match args with
  | "-s" :: signal :: targets => send signal targets
  | option :: targets =>
    if option.startsWith "-" then send (option.drop 1).toString targets
    else send "TERM" (option :: targets)
  | [] => usage

/-- Says what is to run when the script ends. Other events do not come. -/
def trap : Tool := fun s args =>
  let args := if args.head? == some "--" then args.drop 1 else args
  match args with
  | [] => s.withStatus 0
  | [event] =>
    if (signal? event).isSome then { s with atExit := none, status := 0 } else bad s event
  | action :: events =>
    match events.find? fun e => (signal? e).isNone with
    | some event => bad s event
    | none =>
      if events.any fun e => signal? e == some 0 then
        let isNone := action == "-" || action == ""
        { s with atExit := if isNone then none else some action, status := 0 }
      else s.withStatus 0
where
  /-- Complains about the name of an event. -/
  bad (s : State) (event : String) : State :=
    (s.complain ("trap: " ++ event ++ ": bad trap")).withStatus 1

/-- Waits for processes; those that were started have ended. -/
def wait : Tool := fun s args =>
  match args with
  | [] => s.withStatus 0
  | arg :: _ =>
    match s.lastStarted with
    | some (process, status) => s.withStatus (if arg == toString process then status else 127)
    | none => s.withStatus 127

/-! ### Arguments and options -/

/-- Drops arguments from the front. -/
def shift : Tool := fun s args =>
  match countOf s "shift" 1 args with
  | .ok n =>
    if s.args.length < n then s.abort "shift: can't shift that many"
    else { s with args := s.args.drop n, status := 0 }
  | .error s => s

/-- The letters of options by their names. -/
def optionNames : List (String × Char) := [
  ("errexit", 'e'), ("noglob", 'f'), ("nounset", 'u'), ("xtrace", 'x'), ("allexport", 'a'),
  ("noclobber", 'C'), ("noexec", 'n'), ("verbose", 'v'), ("notify", 'b'), ("monitor", 'm')]

/-- Turns options on or off. -/
def State.setOptions (s : State) (on : Bool) (letters : List Char) : State :=
  let others := s.options.filter fun c => !letters.contains c
  { s with options := if on then others ++ letters else others }

/-- Sets options and arguments. -/
def setAll (s : State) : List String → State
  | [] => s.withStatus 0
  | "--" :: args => { s with args, status := 0 }
  | "-" :: args => { s with args, status := 0 }
  | "-o" :: name :: args =>
    match optionNames.find? (·.1 == name) with
    | some (_, letter) => setAll (s.setOptions true [letter]) args
    | none => s.abort ("set: Illegal option -o " ++ name)
  | "+o" :: name :: args =>
    match optionNames.find? (·.1 == name) with
    | some (_, letter) => setAll (s.setOptions false [letter]) args
    | none => s.abort ("set: Illegal option +o " ++ name)
  | arg :: args =>
    match arg.toList with
    | '-' :: letters =>
      match letters.find? fun c => !optionNames.any (·.2 == c) with
      | some c => s.abort ("set: Illegal option -" ++ String.singleton c)
      | none => setAll (s.setOptions true letters) args
    | '+' :: letters => setAll (s.setOptions false letters) args
    | _ => { s with args := arg :: args, status := 0 }

/-! ### Variables -/

/-- The name before the first equals sign, and the value after it if there is one. -/
def splitAssignment (arg : String) : String × Option String :=
  let name := String.ofList (arg.toList.takeWhile (· != '='))
  match arg.toList.dropWhile (· != '=') with
  | _ :: value => (name, some (String.ofList value))
  | [] => (name, none)

/-- Changes a variable for each argument, which is a name or an assignment to one. -/
def forNames (command : String) (change : State → String → Option String → State) : Tool :=
  fun s args =>
    (args.filter fun a => a != "-p" && a != "-v" && a != "-f" && a != "--").foldl (fun s arg =>
      if s.detour.isSome then s
      else
        let (name, value) := splitAssignment arg
        if isName name then change s name value
        else s.abort (command ++ ": " ++ name ++ ": bad variable name")) (s.withStatus 0)

/-- Exports variables. -/
def exportNames : Tool := forNames "export" fun s name value =>
  match value, s.value? name with
  | some v, _ => s.assignExported name v
  | none, some v => s.assignExported name v
  | none, none => s

/-- Sets variables. -/
def assignNames (command : String) : Tool := forNames command fun s name value =>
  match value with
  | some v => s.assign name v
  | none => s

/-- Forgets variables and functions. -/
def unset : Tool := fun s args =>
  let forgetName (s : State) (name : String) : State :=
    { s.forget name with functions := s.functions.filter (·.1 != name) }
  forNames "unset" (fun s name _ => forgetName s name) s args

/-- Makes variables the function's own: they are given back as they were. -/
def makeLocal : Tool := fun s args =>
  match s.locals with
  | [] => s.abort "local: not in a function"
  | _ =>
    forNames "local" (fun s name value =>
      let s := match s.locals with
        | frame :: frames => { s with locals := ((name, s.lookUp name) :: frame) :: frames }
        | [] => s
      match value with
      | some v => s.assign name v
      | none => s) s args

/-- The next line of the input, what follows it, and whether a line end ended it. Backslashes
before line ends join lines unless they are taken as they are. The fuel bounds the number of
bytes. -/
def nextLine (verbatim : Bool) : Nat → Bytes → List Letter → Bytes × List Letter × Bool
  | 0, bs, line => (bs, line, false)
  | _ + 1, [], line => ([], line, false)
  | fuel + 1, bs, line =>
    let rest := bs.drop 1
    match bs.head? with
    | some 0x0A => (rest, line, true)
    | some 0x5C =>
      if verbatim then nextLine verbatim fuel rest (line ++ [⟨'\\', true⟩])
      else
        match rest with
        | [] => ([], line, false)
        | 0x0A :: rest => nextLine verbatim fuel rest line
        | b :: rest => nextLine verbatim fuel rest (line ++ [⟨Char.ofNat b.toNat, true⟩])
    | some b => nextLine verbatim fuel rest (line ++ [⟨Char.ofNat b.toNat, false⟩])
    | none => ([], line, false)

/-- The text of letters that stand for bytes. -/
def bytesText (ls : List Letter) : String :=
  Utf8.decodeLossy (ls.map fun l => UInt8.ofNat l.char.toNat)

/-- Cuts a line into so many values; the last takes all that is left. -/
def splitLine (separators : List Char) : Nat → List Letter → List String
  | 0, _ => []
  | count + 1, ls =>
    let separates (l : Letter) : Bool := !l.literal && separators.contains l.char
    let blank (l : Letter) : Bool := separates l && isBlankSeparator l.char
    let ls := ls.dropWhile blank
    if count == 0 then [bytesText (ls.reverse.dropWhile blank).reverse]
    else
      let rest := (ls.dropWhile (!separates ·)).dropWhile blank
      let rest := match rest with
        | l :: more => if separates l then more else rest
        | [] => []
      bytesText (ls.takeWhile (!separates ·)) :: splitLine separators count rest

/-- Reads a line of the input into variables. -/
def read : Tool := fun s args =>
  let verbatim := args.head? == some "-r"
  let names := if verbatim then args.drop 1 else args
  match names, names.find? (!isName ·) with
  | [], _ => (s.report "read: arg count").withStatus 2
  | _, some name => (s.report ("read: " ++ name ++ ": bad variable name")).withStatus 2
  | _, none =>
    let (input, line, ended) := nextLine verbatim (s.input.length + 1) s.input []
    let values := splitLine s.separators names.length line
    let s := (names.zip values).foldl (fun s v => s.assign v.1 v.2) { s with input }
    s.withStatus (if ended then 0 else 1)

/-! ### The working directory -/

/-- The name of a directory as seen from another, with dots resolved. -/
def directoryName (here target : String) : String :=
  let pieces (s : String) : List String := (s.splitOn "/").filter fun p => p != "" && p != "."
  let start := if target.startsWith "/" then [] else pieces here
  let names := (pieces target).foldl (fun names p =>
    if p == ".." then names.dropLast else names ++ [p]) start
  "/" ++ "/".intercalate names

/-- Changes the working directory. -/
def changeDirectory : Tool := fun s args =>
  let args := args.filter fun a => !(["-L", "-P", "--"].contains a)
  let back := args.head? == some "-"
  let target :=
    if back then (s.value? "OLDPWD").getD ""
    else args.headD ((s.value? "HOME").getD "")
  let directory := if target == "" then s.directory else directoryName s.directory target
  match s.files.resolve .target ⟨directory⟩ with
  | .ok loc =>
    if s.files.isDirectoryAt loc then
      let files := { s.files with workingDirectory := loc }
      let moved := { s with files, directory, status := 0 }
      let moved := (moved.assignExported "OLDPWD" s.directory).assignExported "PWD" directory
      if back then moved.say directory else moved
    else (s.report ("cd: can't cd to " ++ target)).withStatus 2
  | .error _ => (s.report ("cd: can't cd to " ++ target)).withStatus 2

/-- Prints the working directory by the name that the script knows. -/
def printDirectory : Tool := fun s args =>
  (s.say (if args.contains "-P" then s.files.currentDirectory.shown else s.directory)).withStatus 0

/-- The built-ins. -/
def builtins : List (String × Builtin) :=
  let special (run : Tool) : Builtin := ⟨run, true⟩
  let regular (run : Tool) : Builtin := ⟨run, false⟩
  [(":", special (idle 0)), ("exit", special exit), ("return", special leaveFunction),
    ("break", special (leaveLoops "break" .leaving)),
    ("continue", special (leaveLoops "continue" .resuming)), ("export", special exportNames),
    ("readonly", special (assignNames "readonly")), ("set", special setAll),
    ("shift", special shift), ("trap", special trap), ("unset", special unset),
    ("times", special (idle 0)), ("local", regular makeLocal), ("true", regular (idle 0)),
    ("false", regular (idle 1)), ("echo", regular echo), ("printf", regular printFormatted),
    ("pwd", regular printDirectory), ("cd", regular changeDirectory),
    ("chdir", regular changeDirectory), ("kill", regular kill), ("test", regular test),
    ("[", regular bracket), ("read", regular read), ("wait", regular wait),
    ("umask", regular fun s args => (if args.isEmpty then s.say "0022" else s).withStatus 0),
    ("alias", regular (idle 0)), ("hash", regular (idle 0)), ("jobs", regular (idle 0)),
    ("ulimit", regular fun s _ => (s.say "unlimited").withStatus 0)]

/-- The built-in of a name. -/
def builtin? (name : String) : Option Builtin := (builtins.find? (·.1 == name)).map (·.2)

end SchemaForge.Shell
