import SchemaForge.Error
import SchemaForge.FileSystem.Basic
import SchemaForge.Names

/-!
# Invoking the generator

How the command of a project becomes the parameters of a process, and what is kept of what
the process did. A command is a text; the parameters are what a system takes, as the paths
among them need not be texts.

## Main definitions

* `GeneratorCommand` : the command that a project declares.
* `ProcessSpec`, `ProcessSpec.ofCommand` : all that a launch needs to know.
* `GenerationResult` : the exit code and the output as text.
-/

namespace SchemaForge

/-- The generator as a project declares it. The environment is in ascending order of the
names, each name once. -/
structure GeneratorCommand where
  program : String := ""
  /-- The arguments before the path of the document. -/
  args : List String := []
  classpath : List Path := []
  env : List (String × String) := []
  deriving Repr, DecidableEq, Inhabited

/-- All that a launch needs to know. -/
structure ProcessSpec where
  program : RawText
  args : List RawText
  env : List (String × RawText)
  workingDir : Path
  /-- Whether the output is kept; otherwise it goes where that of the caller goes. -/
  capturesOutput : Bool := true
  deriving Repr, DecidableEq

/-- What a process left behind. Without an exit code it was ended by a signal. -/
structure ProcessOutput where
  exitCode : Option Int
  stdout : Bytes
  stderr : Bytes
  deriving Repr, DecidableEq

/-- What is kept of a run of the generator. -/
structure GenerationResult where
  exitCode : Option Int
  stdout : String
  stderr : String
  deriving Repr, DecidableEq

namespace ProcessSpec

/-- What separates the entries of a classpath: a colon. -/
def separator : UInt8 := 0x3A

/-- The entries of a classpath in one; `none` if an entry holds the separator. -/
def joinPaths (entries : List Path) : Option RawText :=
  if entries.any fun p => p.text.bytes.contains separator then none
  else some ⟨[separator].intercalate (entries.map (·.text.bytes))⟩

/-- The environment of a command: the declared one, with the classpath unless it is empty. -/
def environment (command : GeneratorCommand) : Except Error (List (String × RawText)) :=
  let declared := command.env.map fun v => (v.1, RawText.ofText v.2)
  if command.classpath.isEmpty then .ok declared
  else
    match joinPaths command.classpath with
    | some joined => .ok (Names.insert ("CLASSPATH", joined) declared)
    | none => .error (.configuration
        "invalid generator classpath: path segment contains separator `:`")

/-- The launch of a command on a document. -/
def ofCommand (command : GeneratorCommand) (document workingDir : Path) :
    Except Error ProcessSpec := do
  let env ← environment command
  return {
    program := command.program
    args := command.args.map RawText.ofText ++ [document.text]
    env
    workingDir }

end ProcessSpec

namespace GenerationResult

/-- Whether the generator says that it succeeded. -/
def succeeded (r : GenerationResult) : Bool := r.exitCode == some 0

/-- What is kept of a process under its launch parameters. -/
def ofOutput (spec : ProcessSpec) (output : ProcessOutput) : GenerationResult :=
  if spec.capturesOutput then
    ⟨output.exitCode, Utf8.decodeLossy output.stdout, Utf8.decodeLossy output.stderr⟩
  else ⟨output.exitCode, "", ""⟩

/-- The last line of the error output that is not blank. -/
def lastComplaint? (r : GenerationResult) : Option String :=
  ((Text.lines r.stderr).reverse.find? (!Text.isBlank ·)).map Text.trim

/-- What a failed run is blamed on. -/
def failureDetail (r : GenerationResult) : String :=
  r.lastComplaint?.getD "see generator output"

end GenerationResult

end SchemaForge
