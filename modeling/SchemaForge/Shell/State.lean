import SchemaForge.FileSystem.System
import SchemaForge.Shell.Script

/-!
# The state of a running script

## Main definitions

* `Shell.State` : files, variables, arguments, and where output goes.
* `Shell.Detour` : why the commands that follow do not run.
* `Shell.State.emit` : writing to where a descriptor leads.
* `Shell.State.redirect` : opening files for a command's output and input.
-/

namespace SchemaForge.Shell

/-- Where output goes. -/
inductive Sink where
  /-- It is collected under a number: zero for the output of the whole script, one for its
  error output, and others for what is read before the script goes on. -/
  | collected (n : Nat)
  | file (loc : Location)
  deriving Repr, DecidableEq

/-- Why the commands that follow do not run. -/
inductive Detour where
  | exited (code : Nat)
  | killed (signal : Nat)
  /-- So many loops are left. -/
  | leaving (loops : Nat)
  /-- So many loops are left, and the last of them goes on with its next round. -/
  | resuming (loops : Nat)
  /-- The function is left. -/
  | returned
  deriving Repr, DecidableEq

/-- A variable, which programs see if it is exported. -/
structure Variable where
  name : String
  value : String
  exported : Bool
  deriving Repr, DecidableEq

/-- The state of a running script. -/
structure State where
  files : FileSystem
  /-- The name under which the script knows the working directory. -/
  directory : String := "/"
  bindings : List Variable
  functions : List (String × Command) := []
  /-- For each function that runs, the variables that it will give back, as they were. -/
  locals : List (List (String × Option Variable)) := []
  /-- The script's own name. -/
  name : String
  args : List String
  /-- The number of the process. -/
  process : Nat
  /-- The process that was started last without waiting for it, and its status. -/
  lastStarted : Option (Nat × Nat) := none
  /-- The line of the command that runs. -/
  line : Nat := 1
  status : Nat := 0
  /-- The letters of the options that are on. -/
  options : List Char := []
  /-- Whether the status of what runs is looked at, so that a failure ends nothing. -/
  guarded : Bool := false
  /-- How many loops are running. -/
  loops : Nat := 0
  /-- What runs when the script ends. -/
  atExit : Option String := none
  input : Bytes := []
  /-- Where the descriptors lead. -/
  sinks : List (Nat × Sink) := [(1, .collected 0), (2, .collected 1)]
  /-- What was collected. -/
  collected : List Bytes := [[], []]
  detour : Option Detour := none
  deriving Repr

/-- Whether the option of a letter is on. -/
def State.isOn (s : State) (option : Char) : Bool := s.options.contains option

namespace State

/-- The state with another status. -/
def withStatus (s : State) (status : Nat) : State := { s with status }

/-- The state in which the script has ended. -/
def exit (s : State) (status : Nat) : State := { s with status, detour := some (.exited status) }

/-! ### Output -/

/-- Where a descriptor leads, if it is open. -/
def sink? (s : State) (descriptor : Nat) : Option Sink :=
  (s.sinks.find? (·.1 == descriptor)).map (·.2)

/-- The state in which a descriptor leads somewhere, or is closed. -/
def setSink (s : State) (descriptor : Nat) (sink : Option Sink) : State :=
  let others := s.sinks.filter (·.1 != descriptor)
  { s with sinks := match sink with
    | some sink => (descriptor, sink) :: others
    | none => others }

/-- Writes to where a descriptor leads. -/
def emitTo (s : State) (descriptor : Nat) (bytes : Bytes) : State :=
  match s.sink? descriptor with
  | some (.collected n) =>
    { s with collected := s.collected.set n ((s.collected[n]?).getD [] ++ bytes) }
  | some (.file loc) =>
    match s.files.node? loc with
    | some (.file content executable) =>
      { s with files := s.files.put loc (.file (content ++ bytes) executable) }
    | _ => s
  | none => s

/-- Writes to the output. -/
def emit (s : State) (bytes : Bytes) : State := s.emitTo 1 bytes

/-- Writes a line to the output. -/
def say (s : State) (text : String) : State := s.emit (Utf8.encode (text ++ "\n"))

/-- Writes a line to the error output. -/
def complain (s : State) (text : String) : State := s.emitTo 2 (Utf8.encode (text ++ "\n"))

/-- Reports a failure of the script itself. -/
def report (s : State) (text : String) : State :=
  s.complain (s.name ++ ": " ++ toString s.line ++ ": " ++ text)

/-- Reports a failure that ends the script. -/
def abort (s : State) (text : String) : State := (s.report text).exit 2

/-! ### Variables -/

/-- A variable by its name. -/
def lookUp (s : State) (name : String) : Option Variable :=
  s.bindings.find? (·.name == name)

/-- The value of a variable. -/
def value? (s : State) (name : String) : Option String := (s.lookUp name).map (·.value)

/-- Puts a variable in the place of the one of its name. -/
def putVariable (s : State) (v : Variable) : State :=
  { s with bindings := v :: s.bindings.filter (·.name != v.name) }

/-- Forgets a variable. -/
def forget (s : State) (name : String) : State :=
  { s with bindings := s.bindings.filter (·.name != name) }

/-- Sets a variable. One that is exported stays so. -/
def assign (s : State) (name value : String) : State :=
  s.putVariable ⟨name, value, s.isOn 'a' || (s.lookUp name).any (·.exported)⟩

/-- Sets a variable and exports it. -/
def assignExported (s : State) (name value : String) : State := s.putVariable ⟨name, value, true⟩

/-- What programs see of the variables. -/
def environment (s : State) : List (String × String) :=
  (s.bindings.filter (·.exported)).map fun v => (v.name, v.value)

/-- The variables that an environment makes. -/
def importing (env : List (String × String)) : List Variable :=
  env.map fun v => ⟨v.1, v.2, true⟩

/-- The characters that separate words. -/
def separators (s : State) : List Char := ((s.value? "IFS").getD " \t\n").toList

/-- The value of a parameter, if it is set. -/
def parameter? (s : State) : Parameter → Option String
  | .named name => s.value? name
  | .argument 0 => some s.name
  | .argument (n + 1) => s.args[n]?
  | .argumentCount => some (toString s.args.length)
  | .arguments joined =>
    let separator := match joined, s.separators with
      | true, c :: _ => String.singleton c
      | true, [] => ""
      | false, _ => " "
    if s.args.isEmpty then none else some (separator.intercalate s.args)
  | .status => some (toString s.status)
  | .process => some (toString s.process)
  | .lastStarted => s.lastStarted.map fun p => toString p.1
  | .options => some (String.ofList s.options)

/-- How a parameter is named in a complaint. -/
def parameterName : Parameter → String
  | .named name => name
  | .argument n => toString n
  | .argumentCount => "#"
  | .arguments joined => if joined then "*" else "@"
  | .status => "?"
  | .process => "$"
  | .lastStarted => "!"
  | .options => "-"

/-! ### The working directory -/

/-- Whether a text names the working directory from the root. -/
def namesDirectory (fs : FileSystem) (text : String) : Bool :=
  (⟨text⟩ : Path).isAbsolute &&
    match fs.resolve .target ⟨text⟩ with
    | .ok loc => loc == fs.workingDirectory
    | .error _ => false

/-- The directories in which programs are looked for unless the environment says otherwise. -/
def defaultSearch : String := "/usr/local/sbin:/usr/local/bin:/usr/sbin:/usr/bin:/sbin:/bin"

/-- The state with the variables that a script makes of its environment. There each is one text
with an equals sign; one that begins with no name makes no variable. -/
def inheriting (s : State) : State :=
  s.environment.foldl (fun s v =>
    let text := (v.1 ++ "=" ++ v.2).toList
    let name := String.ofList (text.takeWhile (· != '='))
    let value := String.ofList ((text.dropWhile (· != '=')).drop 1)
    if isName name then s.putVariable ⟨name, value, true⟩ else s) { s with bindings := [] }

/-- The state of a script that starts: the working directory goes by the name that the
environment has for it, if that is right. -/
def entering (s : State) : State :=
  let s := s.inheriting
  let directory :=
    match s.value? "PWD" with
    | some text =>
      if namesDirectory s.files text then text else s.files.currentDirectory.shown
    | none => s.files.currentDirectory.shown
  let s := if (s.value? "PATH").isSome then s else s.assign "PATH" defaultSearch
  let s := { s.assignExported "PWD" directory with directory }
  (s.putVariable ⟨"IFS", " \t\n", false⟩).assign "OPTIND" "1"

/-! ### Redirections -/

/-- Why a file for output cannot be opened, in the words of the shell. -/
def outputFault : IoFault → String
  | .os 2 => "Directory nonexistent"
  | .os n => IoFault.osText n
  | .custom text => text

/-- Why a file for input cannot be opened, in the words of the shell. -/
def inputFault : IoFault → String
  | .os 2 => "No such file"
  | .os n => IoFault.osText n
  | .custom text => text

/-- Opens a file for output. -/
def openOutput (s : State) (append : Bool) (path : Path) : Except IoFault (Sink × FileSystem) :=
  let content :=
    match append, s.files.readBytes path with
    | true, .ok bytes => bytes
    | _, _ => []
  match s.files.writeBytes path content with
  | (.error e, _) => .error e
  | (.ok (), files) => (files.resolve .target path).map fun loc => (.file loc, files)

/-- Follows a redirection whose word is a text. A state that cannot follow it has complained. -/
def redirect (s : State) (r : Redirect) (target : String) : Except State State :=
  match r with
  | .toFile descriptor append _ =>
    match s.openOutput append ⟨target⟩ with
    | .ok (sink, files) => .ok ({ s with files }.setSink descriptor (some sink))
    | .error e =>
      .error ((s.report ("cannot create " ++ target ++ ": " ++ outputFault e)).withStatus 2)
  | .fromFile descriptor _ =>
    match s.files.readBytes ⟨target⟩ with
    | .ok input => .ok (if descriptor == 0 then { s with input } else s)
    | .error .isDirectory => .ok s
    | .error e =>
      .error ((s.report ("cannot open " ++ target ++ ": " ++ inputFault e)).withStatus 2)
  | .duplicate descriptor _ =>
    if target == "-" then .ok (s.setSink descriptor none)
    else
      match target.toList with
      | [c] =>
        if !c.isDigit then .error (s.abort "Syntax error: Bad fd number")
        else
          match s.sink? (c.toNat - 0x30) with
          | some sink => .ok (s.setSink descriptor (some sink))
          | none =>
            if c == '0' then .ok s
            else .error ((s.report (target ++ ": Bad file descriptor")).withStatus 2)
      | _ => .error (s.abort "Syntax error: Bad fd number")
  | .here descriptor _ =>
    .ok (if descriptor == 0 then { s with input := Utf8.encode target } else s)

end State

end SchemaForge.Shell
