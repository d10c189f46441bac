import SchemaForge.Shell.Arithmetic
import SchemaForge.Shell.Builtin
import SchemaForge.Shell.Reader
import SchemaForge.Shell.TextTools

/-!
# Running shell scripts

What a script does to files and prints.

## Main definitions

* `Shell.findProgram` : the file of a program.
* `Shell.expand` : the parts of a word whose parameters are replaced.
* `Shell.execute` : running a command.
* `Shell.runShell` : running the shell on its arguments.
-/

namespace SchemaForge.Shell

/-! ### Finding programs -/

/-- The program at a place: the name of one that comes with the system. -/
def systemProgram? (loc : Location) : Option String :=
  if loc.dropLast == FileSystem.programs then loc.getLast?.bind RawText.text? else none

/-- Whether a path leads to a file that can be run, and where it is. -/
def executableAt (fs : FileSystem) (p : Path) : Except IoFault Location :=
  match fs.resolve .target p with
  | .error e => .error e
  | .ok loc =>
    match fs.node? loc with
    | some (.file _ true) => .ok loc
    | _ => .error .permissionDenied

/-- Whether a failure to find a program in one directory leaves hope for the next. -/
def mayBeElsewhere (e : IoFault) : Bool :=
  e == .notFound || e == .notDirectory || e == .permissionDenied

/-- Looks for a program in directories, and remembers a refusal. The answer has the path at
which it was found. -/
def searchProgram (fs : FileSystem) (name : String) (refused : Option IoFault) :
    List String → Except IoFault (Path × Location)
  | [] => .error (refused.getD .notFound)
  | dir :: dirs =>
    let path : Path := (⟨if dir == "" then "." else dir⟩ : Path) / (⟨name⟩ : Path)
    match executableAt fs path with
    | .ok loc => .ok (path, loc)
    | .error e =>
      if mayBeElsewhere e then
        searchProgram fs name (if e == .permissionDenied then some e else refused) dirs
      else .error e

/-- The file of a program, with the path that leads to it: by its path, or by its name in the
directories of the search path. -/
def findProgram (fs : FileSystem) (search name : String) : Except IoFault (Path × Location) :=
  if name.toList.contains '/' then (executableAt fs ⟨name⟩).map fun loc => (⟨name⟩, loc)
  else if name == "" then .error .notFound
  else searchProgram fs name none (search.splitOn ":")

/-- The directories in which a script looks for programs. -/
def State.search (s : State) : String := (s.value? "PATH").getD ""

/-! ### States within states -/

/-- The state of a program that a script starts. -/
def State.child (s : State) (name : String) (args : List String) : State where
  files := s.files
  directory := s.files.currentDirectory.shown
  bindings := State.importing s.environment
  name
  args
  process := s.process + 1
  input := s.input
  sinks := s.sinks
  collected := s.collected

/-- The state of a part of a script that forgets what it does to variables. -/
def State.inner (s : State) : State := { s with atExit := none, loops := 0 }

/-- The status that a script leaves behind. -/
def State.finalStatus (s : State) : Nat :=
  match s.detour with
  | some (.exited n) => n
  | some (.killed n) => 128 + n
  | _ => s.status

/-- The state once a part that forgets what it does to variables has ended. -/
def State.afterInner (s inner : State) : State :=
  { s with
    files := { inner.files with workingDirectory := s.files.workingDirectory }
    input := inner.input
    collected := inner.collected
    status := inner.finalStatus
    detour := match inner.detour with
      | some (.killed n) => some (.killed n)
      | _ => s.detour }

/-- What the shell says of a process that a signal ended. -/
def signalText : Nat → Option String
  | 1 => some "Hangup"
  | 3 => some "Quit"
  | 6 => some "Aborted"
  | 9 => some "Killed"
  | 11 => some "Segmentation fault"
  | 14 => some "Alarm clock"
  | 15 => some "Terminated"
  | _ => none

/-- The state once a program that it started has ended. -/
def State.afterChild (s ended : State) : State :=
  let s := { s.afterInner ended with detour := s.detour }
  match ended.detour with
  | some (.killed n) => ((signalText n).map s.complain).getD s
  | _ => s

/-- The state in which the output is collected under a number of its own. -/
def State.collecting (s : State) : State :=
  { s.setSink 1 (some (.collected s.collected.length)) with collected := s.collected ++ [[]] }

/-- What was collected since `s`, and the state without it. -/
def State.takeCollected (s after : State) : Bytes × State :=
  ((after.collected[s.collected.length]?).getD [],
    { after with collected := after.collected.take s.collected.length })

/-- The state after a command for which descriptors were redirected. -/
def State.restoring (s ran : State) (redirects : List Redirect) : State :=
  let takesInput : Redirect → Bool
    | .fromFile d _ | .here d _ => d == 0
    | _ => false
  { ran with
    sinks := s.sinks
    input := if redirects.any takesInput then s.input else ran.input }

/-- The state in which variables are as they were in `s`. -/
def State.restoringVariables (s ran : State) (names : List String) : State :=
  names.foldl (fun ran name =>
    match s.lookUp name with
    | some v => ran.putVariable v
    | none => ran.forget name) ran

/-- The state after a failure, which ends a script that wants that. -/
def State.checked (s : State) : State :=
  if s.status != 0 && s.isOn 'e' && !s.guarded && s.detour.isNone then s.exit s.status else s

/-! ### Words -/

/-- All arguments, each a word of its own. -/
def argumentFragments (quoted : Bool) : List String → List Fragment
  | [] => []
  | [a] => [.ofValue a quoted]
  | a :: as => .ofValue a quoted :: .cut :: argumentFragments quoted as

/-- The bytes as a text without the line ends at its end. -/
def dropLineEnds (bs : Bytes) : String :=
  Utf8.decodeLossy (bs.filter (· != 0) |>.reverse.dropWhile (· == 0x0A)).reverse

/-- The parts of a word that stands for a value, which is split where it is not quoted and is
there, if it is, even when it is empty. -/
def splittable (quoted : Bool) (fs : List Fragment) : List Fragment :=
  if quoted then (if fs.isEmpty then [.solid []] else fs)
  else fs.map fun
    | .solid ls => if !ls.isEmpty && ls.all (!·.literal) then .loose ls else .solid ls
    | f => f

/-- The value of a variable as a number. -/
def numberOf (s : State) (name : String) : Except Expression.Fault Int :=
  let text := ((s.value? name).getD "").toList
  let (sign, digits) :=
    match text with
    | '-' :: ds => ((-1 : Int), ds)
    | '+' :: ds => (1, ds)
    | ds => (1, ds)
  if text.isEmpty then .ok 0
  else
    match Expression.constant? digits with
    | some n => .ok (sign * n)
    | none => .error (.illegalNumber (String.ofList text))

/-- The value of an expression, with the variables set that it sets. -/
def compute (s : State) (text : String) : State × Option Int :=
  let complain (why : String) : State × Option Int :=
    (s.abort ("arithmetic expression: " ++ why ++ ": " ++ inQuotes text), none)
  match Expression.parse? text with
  | none => complain "expecting primary"
  | some e =>
    match e.eval (numberOf s) [] with
    | .error .divisionByZero => complain "division by zero"
    | .error (.illegalNumber n) => (s.abort ("Illegal number: " ++ n), none)
    | .ok (n, set) => (set.foldr (fun v s => s.assign v.1 (toString v.2)) s, some n)

/-- What is left of a command line once programs that only start another are taken off: the
variables for it, and whether it sees no others. -/
structure Launch where
  clean : Bool := false
  assignments : List (String × String) := []
  unset : List String := []
  words : List String

/-- What the program that sets variables for another is asked for. -/
def Launch.ofArguments (l : Launch) : List String → Launch
  | "-i" :: args | "-" :: args => ofArguments { l with clean := true } args
  | "-u" :: name :: args => ofArguments { l with unset := l.unset ++ [name] } args
  | arg :: args =>
    match splitAssignment arg with
    | (name, some value) =>
      ofArguments { l with assignments := l.assignments ++ [(name, value)] } args
    | (_, none) => { l with words := arg :: args }
  | [] => l

/-- The programs that come with the system, except those that start others. -/
def tools : List (String × Tool) :=
  fileTools ++ textTools ++ [
    ("echo", echoProgram), ("printf", printFormatted), ("true", idle 0), ("false", idle 1),
    ("test", test), ("[", bracket), ("sleep", idle 0), ("sync", idle 0),
    ("pwd", fun s _ => (s.say s.files.currentDirectory.shown).withStatus 0),
    ("printenv", fun s args =>
      match args with
      | [] => (s.environment.foldl (fun s v => s.say (v.1 ++ "=" ++ v.2)) s).withStatus 0
      | name :: _ =>
        match s.value? name with
        | some v => (s.say v).withStatus 0
        | none => s.withStatus 1)]

/-- The programs that start others. -/
def launchers : List String := ["sh", "dash", "env", "xargs"]

/-- The built-ins that run something else. -/
def runners : List String := [".", "eval", "exec", "command", "type"]

mutual

/-- Replaces the parameters of a word. The fuel bounds how deep scripts lie within one
another. -/
def expand : Nat → State → Word → State × List Fragment
  | 0, s, _ => (s, [])
  | _ + 1, s, [] => (s, [])
  | fuel + 1, s, p :: ps =>
    let (s, first) := expandPiece fuel s p
    let (s, rest) := expand fuel s ps
    (s, first ++ rest)

/-- Replaces the parameters of a part of a word. -/
def expandPiece : Nat → State → Piece → State × List Fragment
  | 0, s, _ => (s, [])
  | fuel + 1, s, piece =>
    match piece with
    | .text t quoted => (s, [.solid (Letter.ofText t quoted)])
    | .value expression quoted =>
      let (s, fragments) := expand fuel s expression
      match compute s (Letter.text (joined fragments)) with
      | (s, some n) => (s, [.ofValue (toString n) quoted])
      | (s, none) => (s, [])
    | .output script quoted =>
      let inner := runText fuel s.inner.collecting "" script
      let (bytes, inner) := s.takeCollected (finish fuel inner)
      (s.afterInner inner, [.ofValue (dropLineEnds bytes) quoted])
    | .parameter p use quoted =>
      let value := s.parameter? p
      let given (orEmpty : Bool) : Option String :=
        match value with
        | some "" => if orEmpty then none else value
        | _ => value
      let plain (v : String) : State × List Fragment :=
        match p with
        | .arguments false => (s, argumentFragments quoted s.args)
        | .arguments true =>
          (s, if quoted then [.ofValue v true] else argumentFragments false s.args)
        | _ => (s, [.ofValue v quoted])
      let nothing : List Fragment := if quoted then [.solid []] else []
      match use with
      | .plain =>
        match value, p with
        | some v, _ => plain v
        | none, .arguments false => (s, [])
        | none, .arguments true => (s, nothing)
        | none, _ =>
          if s.isOn 'u' then (s.abort (State.parameterName p ++ ": parameter not set"), [])
          else (s, nothing)
      | .length =>
        let n := match p with
          | .arguments _ => s.args.length
          | _ => (value.getD "").utf8ByteSize
        (s, [.ofValue (toString n) quoted])
      | .default orEmpty w =>
        match given orEmpty with
        | some v => plain v
        | none =>
          let (s, fragments) := expand fuel s w
          (s, splittable quoted fragments)
      | .assigned orEmpty w =>
        match given orEmpty with
        | some v => plain v
        | none =>
          let (s, fragments) := expand fuel s w
          let text := Letter.text (joined fragments)
          match p with
          | .named name => (s.assign name text, [.ofValue text quoted])
          | _ => (s.abort (State.parameterName p ++ ": bad variable name"), [])
      | .alternative orEmpty w =>
        match given orEmpty with
        | some _ =>
          let (s, fragments) := expand fuel s w
          (s, splittable quoted fragments)
        | none => (s, nothing)
      | .required orEmpty w =>
        match given orEmpty with
        | some v => plain v
        | none =>
          let (s, fragments) := expand fuel s w
          let why := Letter.text (joined fragments)
          let why :=
            if why != "" then why
            else if orEmpty then "parameter not set or null"
            else "parameter not set"
          (s.abort (State.parameterName p ++ ": " ++ why), [])
      | .without atEnd longest w =>
        let (s, fragments) := expand fuel s w
        let pattern := Glob.ofLetters (joined fragments)
        let cs := (value.getD "").toList
        let left := if atEnd then pattern.cutEnd longest cs else pattern.cutStart longest cs
        (s, [.ofValue (String.ofList left) quoted])
      | .malformed => (s.abort "Bad substitution", [])

/-- Replaces the parameters of a word that is not split. -/
def expandText : Nat → State → Word → State × String
  | 0, s, _ => (s, "")
  | fuel + 1, s, w =>
    let (s, fragments) := expand fuel s w
    (s, Letter.text (joined fragments))

/-- Replaces the parameters of several words, splits them, and finds the paths that match. -/
def expandAll : Nat → State → List Word → State × List String
  | 0, s, _ => (s, [])
  | _ + 1, s, [] => (s, [])
  | fuel + 1, s, w :: ws =>
    let (s, fragments) := expand fuel s w
    let found := fields s.separators none fragments
    let first := if s.isOn 'f' then found.map Letter.text else found.flatMap (pathsOf s.files)
    let (s, rest) := expandAll fuel s ws
    (s, first ++ rest)

/-- Follows redirections one after the other. -/
def redirectAll : Nat → State → List Redirect → Except State State
  | 0, s, _ => .error s
  | _ + 1, s, [] => .ok s
  | fuel + 1, s, r :: rs =>
    let w := match r with
      | .toFile _ _ w | .fromFile _ w | .duplicate _ w | .here _ w => w
    let (s, target) := expandText fuel s w
    match s.redirect r target with
    | .error s => .error s
    | .ok s => redirectAll fuel s rs

/-- Sets variables to the values of words. -/
def assignEach : Nat → State → Bool → List (String × Word) → State
  | 0, s, _, _ => s
  | _ + 1, s, _, [] => s
  | fuel + 1, s, exported, (name, w) :: as =>
    let (s, value) := expandText fuel s w
    let s := if exported then s.assignExported name value else s.assign name value
    assignEach fuel s exported as

/-- Runs a function, a built-in or a program by its name. -/
def invoke : Nat → State → Bool → String → List String → State
  | 0, s, _, _, _ => { s with detour := some (.killed 9) }
  | fuel + 1, s, functions, name, args =>
    let function := if functions then s.functions.find? (·.1 == name) else none
    match builtin? name, function with
    | some ⟨run, true⟩, _ => run s args
    | _, some (_, body) => callFunction fuel s body args
    | some ⟨run, false⟩, none => run s args
    | none, none =>
      if runners.contains name then runAnother fuel s name args
      else
        match findProgram s.files s.search name with
        | .error .permissionDenied => (s.report (name ++ ": Permission denied")).withStatus 126
        | .error _ => (s.report (name ++ ": not found")).withStatus 127
        | .ok (path, loc) => runProgram fuel s path loc name args

/-- Runs a function. -/
def callFunction : Nat → State → Command → List String → State
  | 0, s, _, _ => { s with detour := some (.killed 9) }
  | fuel + 1, s, body, args =>
    let ran := execute fuel { s with args, locals := [] :: s.locals, loops := 0 } body
    let back := (ran.locals.headD []).foldl (fun t (name, v) =>
      match v with
      | some v => t.putVariable v
      | none => t.forget name) ran
    { back with
      args := s.args, locals := s.locals, loops := s.loops
      detour := if back.detour == some .returned then none else back.detour }

/-- Runs a built-in that runs something else. -/
def runAnother : Nat → State → String → List String → State
  | 0, s, _, _ => { s with detour := some (.killed 9) }
  | fuel + 1, s, name, args =>
    let described (n : String) : Option String :=
      if (s.functions.find? (·.1 == n)).isSome then some (n ++ " is a shell function")
      else if reserved.contains n then some (n ++ " is a shell keyword")
      else
        match builtin? n with
        | some ⟨_, true⟩ => some (n ++ " is a special shell builtin")
        | some ⟨_, false⟩ => some (n ++ " is a shell builtin")
        | none =>
          if runners.contains n then
            some (n ++ if n == "command" || n == "type" then " is a shell builtin"
              else " is a special shell builtin")
          else
            match findProgram s.files s.search n with
            | .ok (path, _) => some (n ++ " is " ++ path.shown)
            | .error _ => none
    match name, args with
    | "eval", _ => runText fuel (s.withStatus 0) "eval: " (" ".intercalate args)
    | ".", [] => s.withStatus 0
    | ".", file :: _ =>
      let found : Except String Path :=
        if file.toList.contains '/' then .ok ⟨file⟩
        else
          let places := (s.search.splitOn ":").map fun (d : String) =>
            (⟨d⟩ : Path) / (⟨file⟩ : Path)
          match places.find? s.files.isFile with
          | some path => .ok path
          | none => .error (".: " ++ file ++ ": not found")
      match found with
      | .error why => s.abort why
      | .ok path =>
        match s.files.readBytes path with
        | .error e => s.abort (".: cannot open " ++ file ++ ": " ++ State.inputFault e)
        | .ok bytes =>
          let ran := runText fuel (s.withStatus 0) "" (Utf8.decodeLossy bytes)
          { ran with detour := if ran.detour == some .returned then none else ran.detour }
    | "exec", [] => s.withStatus 0
    | "exec", program :: args =>
      match findProgram s.files s.search program with
      | .error .permissionDenied =>
        (s.report ("exec: " ++ program ++ ": Permission denied")).exit 126
      | .error _ => (s.report ("exec: " ++ program ++ ": not found")).exit 127
      | .ok (path, loc) =>
        let ran := runProgram fuel { s with atExit := none } path loc program args
        { ran with atExit := none }.exit ran.status
    | "command", "-v" :: names =>
      names.foldl (fun s n =>
        match described n, findProgram s.files s.search n with
        | none, _ => s.withStatus 127
        | some text, .ok (path, _) =>
          (s.say (if text == n ++ " is " ++ path.shown then path.shown else n)).withStatus 0
        | some _, .error _ => (s.say n).withStatus 0) s
    | "command", "-p" :: program :: args => invoke fuel s false program args
    | "command", program :: args => invoke fuel s false program args
    | "type", names =>
      names.foldl (fun s n =>
        match described n with
        | some text => s.say text
        | none => (s.say (n ++ ": not found")).withStatus 127) (s.withStatus 0)
    | _, _ => s.withStatus 0

/-- Runs the program at a place, to which a path leads. -/
def runProgram : Nat → State → Path → Location → String → List String → State
  | 0, s, _, _, _, _ => { s with detour := some (.killed 9) }
  | fuel + 1, s, path, loc, name, args =>
    let start (s : State) (program : String) (args : List String) : State :=
      match findProgram s.files ((s.value? "PATH").getD State.defaultSearch) program with
      | .ok (path, loc) => runProgram fuel s path loc program args
      | .error e =>
        (s.complain (name ++ ": '" ++ program ++ "': " ++ reason e)).withStatus
          (if e == .permissionDenied then 126 else 127)
    match systemProgram? loc with
    | none =>
      match s.files.readBytes path with
      | .error e => (s.report (name ++ ": " ++ reason e)).withStatus 126
      | .ok bytes =>
        let text := Utf8.decodeLossy bytes
        if text.startsWith "#!" then
          let first := String.ofList ((text.toList.drop 2).takeWhile (· != '\n'))
          match (first.splitOn " ").filter (· != "") with
          | interpreter :: more => start s interpreter (more ++ path.shown :: args)
          | [] => s.afterChild (runShell fuel (s.child name []) (path.shown :: args))
        else s.afterChild (runShell fuel (s.child name []) (path.shown :: args))
    | some program =>
      if program == "sh" || program == "dash" then
        s.afterChild (runShell fuel (s.child name []) args)
      else if program == "env" then
        let l : Launch := .ofArguments { words := [] } args
        let c := s.child name []
        let c := if l.clean then { c with bindings := [] } else c
        let c := l.unset.foldl State.forget c
        let c := l.assignments.foldl (fun c v => c.assignExported v.1 v.2) c
        match l.words with
        | [] =>
          let shown := c.environment.reverse.foldl (fun c v => c.say (v.1 ++ "=" ++ v.2)) c
          s.afterChild (shown.withStatus 0)
        | program :: args => s.afterChild (start c program args)
      else if program == "xargs" then
        let input := Letter.ofText (Utf8.decodeLossy s.input) false
        let words := (fields [' ', '\t', '\n'] none [.loose input]).map Letter.text
        let c := { s.child name [] with input := [] }
        let words := if args.isEmpty then "echo" :: words else args ++ words
        { s.afterChild (start c (words.headD "echo") (words.drop 1)) with input := [] }
      else
        match (tools.find? (·.1 == program)).map (·.2) with
        | some tool => tool s args
        | none => (s.report (name ++ ": not found")).withStatus 127

/-- Runs a command. -/
def execute : Nat → State → Command → State
  | 0, s, _ => { s with detour := some (.killed 9) }
  | fuel + 1, s, c =>
    if s.detour.isSome then s
    else
      match c with
      | .simple line assignments words redirects =>
        executeSimple fuel { s with line } assignments words redirects
      | .sequence [] => s
      | .sequence (c :: cs) => execute fuel (execute fuel s c) (.sequence cs)
      | .both a b =>
        let ran := watched fuel s a
        if ran.status == 0 then execute fuel ran b else ran
      | .either a b =>
        let ran := watched fuel s a
        if ran.status == 0 then ran else execute fuel ran b
      | .negated c =>
        let ran := watched fuel s c
        if ran.detour.isSome then ran else ran.withStatus (if ran.status == 0 then 1 else 0)
      | .conditional test yes no =>
        let ran := watched fuel s test
        if ran.detour.isSome then ran
        else execute fuel (ran.withStatus 0) (if ran.status == 0 then yes else no)
      | .each name items body =>
        let (s, items) := match items with
          | none => (s, s.args)
          | some words => expandAll fuel s words
        if s.detour.isSome then s
        else
          let ran := executeEach fuel { s with loops := s.loops + 1, status := 0 } name items body
          { ran with loops := s.loops }
      | .repeated wanted test body =>
        let ran := executeWhile fuel { s with loops := s.loops + 1 } 0 wanted test body
        { ran with loops := s.loops }
      | .choose subject branches =>
        let (s, text) := expandText fuel s subject
        executeBranch fuel (s.withStatus 0) text branches
      | .piped a b =>
        let first := finish fuel (execute fuel s.inner.collecting a)
        let (bytes, first) := s.takeCollected first
        let after := s.afterInner first
        let second := finish fuel (execute fuel { after.inner with input := bytes } b)
        { after.afterInner second with input := after.input }.checked
      | .enclosed c => (s.afterInner (finish fuel (execute fuel s.inner c))).checked
      | .started c =>
        let inner := finish fuel (execute fuel { s.inner with input := [] } c)
        let process := s.process + 1
        { s.afterInner inner with
          input := s.input, status := 0, lastStarted := some (process, inner.finalStatus) }
      | .redirected line c redirects =>
        match redirectAll fuel { s with line } redirects with
        | .error failed => (s.restoring failed redirects).checked
        | .ok opened => s.restoring (execute fuel opened c) redirects
      | .define name body =>
        { s with functions := (name, body) :: s.functions.filter (·.1 != name), status := 0 }

/-- Runs a command whose status is looked at. -/
def watched : Nat → State → Command → State
  | 0, s, _ => { s with detour := some (.killed 9) }
  | fuel + 1, s, c => { execute fuel { s with guarded := true } c with guarded := s.guarded }

/-- Runs a simple command. -/
def executeSimple : Nat → State → List (String × Word) → List Word → List Redirect → State
  | 0, s, _, _, _ => { s with detour := some (.killed 9) }
  | fuel + 1, s, assignments, words, redirects =>
    let before := s.status
    let (s, args) := expandAll fuel (s.withStatus before) words
    if s.detour.isSome then s
    else
      let isSpecial := args.head?.any fun n =>
        (builtin? n).any (·.special) || [".", "eval", "exec"].contains n
      match redirectAll fuel s redirects with
      | .error failed =>
        let failed := s.restoring failed redirects
        if isSpecial && failed.detour.isNone then failed.exit 2 else failed.checked
      | .ok opened =>
        match args with
        | [] =>
          let opened := if words.isEmpty then opened.withStatus 0 else opened
          let assigned := assignEach fuel opened false assignments
          let traced :=
            if s.isOn 'x' then
              assignments.foldl (fun t a =>
                t.complain ("+ " ++ a.1 ++ "=" ++ (t.value? a.1).getD "")) assigned
            else assigned
          (s.restoring traced redirects).checked
        | name :: args =>
          let assigned := assignEach fuel opened (!isSpecial) assignments
          if assigned.detour.isSome then s.restoring assigned redirects
          else
            let traced :=
              if s.isOn 'x' then assigned.complain ("+ " ++ " ".intercalate (name :: args))
              else assigned
            let ran := invoke fuel traced true name args
            let ran :=
              if isSpecial then ran else s.restoringVariables ran (assignments.map (·.1))
            if name == "exec" && args.isEmpty then ran
            else (s.restoring ran redirects).checked

/-- Runs a command once for each item. -/
def executeEach : Nat → State → String → List String → Command → State
  | 0, s, _, _, _ => { s with detour := some (.killed 9) }
  | _ + 1, s, _, [], _ => s
  | fuel + 1, s, name, item :: items, body =>
    let ran := execute fuel (s.assign name item) body
    match ran.detour with
    | none => executeEach fuel ran name items body
    | some (.resuming n) =>
      if n ≤ 1 then executeEach fuel { ran with detour := none } name items body
      else { ran with detour := some (.resuming (n - 1)) }
    | some (.leaving n) =>
      { ran with detour := if n ≤ 1 then none else some (.leaving (n - 1)) }
    | some _ => ran

/-- Runs a command as long as a test gives what is wanted; `last` is the status so far. -/
def executeWhile : Nat → State → Nat → Bool → Command → Command → State
  | 0, s, _, _, _, _ => { s with detour := some (.killed 9) }
  | fuel + 1, s, last, wanted, test, body =>
    let tested := watched fuel s test
    let proceeds := tested.detour.isNone && (tested.status == 0) == wanted
    let ran := if proceeds then execute fuel tested body else tested
    match ran.detour with
    | none =>
      if proceeds then executeWhile fuel ran ran.status wanted test body
      else ran.withStatus last
    | some (.resuming n) =>
      if n ≤ 1 then executeWhile fuel { ran with detour := none } ran.status wanted test body
      else { ran with detour := some (.resuming (n - 1)) }
    | some (.leaving n) =>
      { ran with detour := if n ≤ 1 then none else some (.leaving (n - 1)) }
    | some _ => ran

/-- Runs the first branch with a pattern that a text matches. -/
def executeBranch : Nat → State → String → List (List Word × Command) → State
  | 0, s, _, _ => { s with detour := some (.killed 9) }
  | _ + 1, s, _, [] => s
  | fuel + 1, s, text, (patterns, body) :: branches =>
    let (s, found) := patterns.foldl (fun (s, found) w =>
      if found then (s, true)
      else
        let (s, fragments) := expand fuel s w
        (s, Glob.accepts (Glob.ofLetters (joined fragments)) text.toList)) (s, false)
    if found then execute fuel s body else executeBranch fuel s text branches

/-- Runs the commands of a text, line by line. -/
def runText : Nat → State → String → String → State
  | 0, s, _, _ => { s with detour := some (.killed 9) }
  | fuel + 1, s, label, text => runLines fuel s label (tokensOf text)

/-- Runs the lines of a script. A line that is malformed ends it. -/
def runLines : Nat → State → String → List Lexeme → State
  | 0, s, _, _ => { s with detour := some (.killed 9) }
  | fuel + 1, s, label, ts =>
    if s.detour.isSome then s
    else
      match ts with
      | [] | [⟨.finish, _⟩] => s
      | _ =>
        match readLine ts with
        | .error fault =>
          { s with line := fault.line }.abort (label ++ "Syntax error: " ++ fault.why)
        | .ok (c, rest) => runLines fuel (execute fuel s c) label rest

/-- Runs what was put off to the end of a script. -/
def finish : Nat → State → State
  | 0, s => s
  | fuel + 1, s =>
    match s.atExit, s.detour with
    | none, _ | _, some (.killed _) => s
    | some action, _ =>
      let status := s.finalStatus
      let ran := runText fuel { s with atExit := none, detour := none, status } "" action
      match ran.detour with
      | some (.exited n) => { ran with detour := some (.exited n) }
      | _ => ran.exit status

/-- Runs the shell on its arguments: a script given as such, or the file that holds one. -/
def runShell : Nat → State → List String → State
  | 0, s, _ => { s with detour := some (.killed 9) }
  | fuel + 1, s, args =>
    let s := s.entering
    match args with
    | "-c" :: script :: name :: args => finish fuel (runText fuel { s with name, args } "" script)
    | ["-c", script] => finish fuel (runText fuel { s with args := [] } "" script)
    | ["-c"] => (s.complain (s.name ++ ": 0: -c requires an argument")).withStatus 2
    | [] =>
      let script := Utf8.decodeLossy s.input
      finish fuel (runText fuel { s with args := [], input := [] } "" script)
    | file :: rest =>
      match file.toList with
      | '-' :: c :: letters =>
        if c == 's' && letters.isEmpty then
          let script := Utf8.decodeLossy s.input
          finish fuel (runText fuel { s with args := rest, input := [] } "" script)
        else if c.isAlpha && c != 'c' && !letters.contains 'c' then
          runShell fuel (s.setOptions true (c :: letters)) rest
        else if (c :: letters).contains 'c' then
          runShell fuel (s.setOptions true ((c :: letters).filter (· != 'c'))) ("-c" :: rest)
        else (s.complain (s.name ++ ": 0: Illegal option -" ++ String.singleton c)).withStatus 2
      | _ =>
        match s.files.readBytes ⟨file⟩ with
        | .ok bytes =>
          let s := { s with name := file, args := rest }
          finish fuel (runText fuel s "" (Utf8.decodeLossy bytes))
        | .error e =>
          (s.complain (s.name ++ ": 0: cannot open " ++ file ++ ": " ++
            State.inputFault e)).withStatus 2

end

end SchemaForge.Shell
