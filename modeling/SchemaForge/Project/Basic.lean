import SchemaForge.GenerationTask.Basic
import SchemaForge.Names

/-!
# Projects

A project declares the tasks of a build by their names, and what they have in common: the
generator, and the directories in which they read and write. Its tasks are resolved against
a project directory.

## Main definitions

* `Project`, `Project.TaskSettings` : what is declared of a project and of a task.
* `Project.validate` : whether a project can be used.
* `Project.task`, `Project.resolve` : the tasks of a project in a directory.
* `Project.select` : the tasks of some names.
-/

namespace SchemaForge

/-- How a project launches the generator, and which schema its documents have. -/
structure Project.GeneratorSettings where
  program : String := ""
  /-- The arguments in front of the document. -/
  args : List String := []
  /-- The classpath, seen from the project directory. -/
  classpath : List Path := []
  env : List (String × String) := []
  /-- The identifier of a bundled schema. -/
  schema : String := Defaults.documentSchema
  /-- A schema file, which stands above a bundled schema. -/
  schemaFile : Option Path := none
  deriving Repr, DecidableEq

/-- What a project says about one task. -/
structure Project.TaskSettings where
  /-- Stands above the setting of the project. -/
  useContainer : Option Bool := none
  allInputsDeclared : Bool := false
  /-- Forced types that follow those of the configuration. -/
  presets : List Preset := []
  configuration : Configuration := {}
  deriving Repr, DecidableEq

/-- What is declared of a project. -/
structure Project where
  /-- Whether tasks without a connection get a database of their own. -/
  useContainer : Bool := Defaults.useContainer
  migrationsDir : Path := Defaults.migrationsDir
  workDir : Path := Defaults.workDir
  outputRoot : Path := Defaults.outputRoot
  /-- The tag of the database image. -/
  imageTag : Option String := none
  generator : Project.GeneratorSettings := {}
  tasks : NameMap Project.TaskSettings := {}
  logLevel : Option String := none

namespace Project

/-! ### Checks -/

/-- Whether a project can be used: it has tasks, each with a name, and says what is launched
and which schema the documents have. -/
def validate (p : Project) : Except Error Unit :=
  if p.tasks.isEmpty then
    .error (.configuration "at least one [tasks.<name>] section is required")
  else
    match p.tasks.names.find? Text.isBlank with
    | some name =>
      .error (.configuration ("task name must not be blank: " ++ Text.quoted name))
    | none =>
      if Text.isBlank p.generator.program then
        .error (.configuration ("generator.program is required: a command that accepts " ++
          "the path of a configuration document as its last argument"))
      else if p.generator.schemaFile.isNone && Text.isBlank p.generator.schema then
        .error (.configuration "generator.schema or generator.schema_file is required")
      else .ok ()

/-! ### Tasks -/

/-- The command of the generator in a project directory. -/
def command (p : Project) (projectDir : Path) : GeneratorCommand where
  program := p.generator.program
  args := p.generator.args
  classpath := p.generator.classpath.map (projectDir / ·)
  env := p.generator.env

/-- The schema of the documents in a project directory. -/
def schemaSource (p : Project) (projectDir : Path) : SchemaSource :=
  match p.generator.schemaFile with
  | some file => .file (projectDir / file)
  | none => .bundled p.generator.schema

/-- The configuration of a task, with the presets behind its forced types. -/
def TaskSettings.resolved (s : TaskSettings) : Configuration :=
  let db := s.configuration.generator.database
  { s.configuration with
    generator.database.forcedTypes := db.forcedTypes ++ s.presets.map Preset.forcedType }

/-- What the settings of a task say about it in a project directory. -/
def draft (p : Project) (projectDir : Path) (name : String) (settings : TaskSettings) :
    GenerationTask.Draft where
  name
  configuration := settings.resolved
  projectDir := some projectDir
  outputDir := some <|
    match settings.configuration.generator.target.directory with
    | some directory => projectDir / directory
    | none => projectDir / p.outputRoot / ⟨name⟩
  workDir := some (projectDir / p.workDir / ⟨name⟩)
  migrationsDir := some (projectDir / p.migrationsDir)
  useContainer := settings.useContainer.getD p.useContainer
  allInputsDeclared := settings.allInputsDeclared
  command := some (p.command projectDir)
  schema := p.schemaSource projectDir

/-- A task of the project in a project directory. -/
def task (p : Project) (projectDir : Path) (name : String) (settings : TaskSettings) :
    Except Error GenerationTask :=
  (p.draft projectDir name settings).build projectDir

/-- All tasks of the project in a project directory, in ascending order of their names. -/
def resolve (p : Project) (projectDir : Path) : Except Error (List GenerationTask) :=
  p.tasks.entries.mapM fun t => p.task projectDir t.1 t.2

/-- The tasks of some names, which must be declared; without any name, all tasks. -/
def select (p : Project) (projectDir : Path) (only : List String) :
    Except Error (List GenerationTask) :=
  match only.find? fun name => (p.tasks.find? name).isNone with
  | some unknown =>
    .error (.configuration ("unknown task `" ++ unknown ++ "` (declared: " ++
      Text.join ", " p.tasks.names ++ ")"))
  | none => do
    let tasks ← p.resolve projectDir
    return tasks.filter fun t => only.isEmpty || only.contains t.name

end Project

end SchemaForge
