import SchemaForge.Path

/-!
# Configurations

What one task asks of the code generator: the connection, the part of the schema that is
read and how its types are mapped, what is generated, and where to.

## Main definitions

* `Configuration` and its parts, with their defaults.
* `Configuration.connectionUrl?` : the connection, if one is configured.
* `Configuration.useDatabase` : pointing the connection at a running database.
* `Database.excludeMigrationHistory` : hiding the migration history from the generator.
-/

namespace SchemaForge

/-! ### What holds where a task or project says nothing -/

namespace Defaults

/-- Whether tasks without a connection get a database of their own. -/
def useContainer : Bool := true

/-- Where the migration scripts are, seen from the project directory. -/
def migrationsDir : Path := ⟨"db/migration"⟩

/-- Where the documents for the generator are written. -/
def workDir : Path := ⟨"target/schemagen"⟩

/-- Where the output directories of the tasks are. -/
def outputRoot : Path := ⟨"target/generated/schemagen"⟩

/-- The name of a task's document. -/
def documentName : Path := ⟨"codegen-config.json"⟩

/-- The identifier of the document schema. -/
def documentSchema : String := "schemagen-codegen-1.0"

/-- The naming strategy. -/
def strategyName : String := "io.github.alexritian.codegen.NameGeneratorStrategy"

/-- The package of the generated sources. -/
def packageName : String := "schemagen.generated"

/-- The name under which the shared database is registered. -/
def databaseService : String := "mysql"

/-- The pattern that hides the migration history from the generator. -/
def historyPattern : String := "flyway_.*"

/-- The table that holds the migration history. -/
def historyTable : String := "flyway_schema_history"

end Defaults

/-- Connection parameters of a running database. -/
structure DatabaseHandle where
  driver : String
  url : String
  user : String
  password : String
  deriving Repr, DecidableEq

/-- Connection parameters for the generator. The properties are in ascending order of their
names, each name once. -/
structure Jdbc where
  driver : Option String := none
  url : Option String := none
  user : Option String := none
  password : Option String := none
  autoCommit : Option Bool := none
  properties : List (String × String) := []
  deriving Repr, DecidableEq, Inhabited

/-- How a matched name is turned into an identifier. -/
inductive Transform where
  | asIs
  | lower
  | upper
  | camel
  | pascal
  deriving Repr, DecidableEq

/-- A rule for the names that match an expression. -/
structure MatcherRule where
  expression : String
  transform : Option Transform := none
  deriving Repr, DecidableEq

/-- Naming rules by the kind of what is named. -/
structure Matchers where
  schemas : List MatcherRule := []
  tables : List MatcherRule := []
  fields : List MatcherRule := []
  deriving Repr, DecidableEq, Inhabited

/-- How generated things are named: by a named strategy or by rules. -/
structure Strategy where
  name : Option String := none
  matchers : Option Matchers := none
  deriving Repr, DecidableEq, Inhabited

/-- A rule that maps matched columns or types to a type of the generated code. -/
structure ForcedType where
  name : Option String := none
  userType : Option String := none
  converter : Option String := none
  includeExpression : Option String := none
  includeTypes : Option String := none
  deriving Repr, DecidableEq, Inhabited

/-- The part of the schema that is read. Of the forced types the first that matches wins. -/
structure Database where
  inputSchema : Option String := none
  includes : Option String := none
  excludes : Option String := none
  forcedTypes : List ForcedType := []
  deriving Repr, DecidableEq, Inhabited

/-- What is generated. -/
structure Generate where
  pojos : Bool := true
  records : Bool := true
  relations : Bool := true
  deprecated : Bool := false
  immutablePojos : Bool := false
  fluentSetters : Bool := true
  pojosEqualsAndHashCode : Bool := true
  springAnnotations : Bool := true
  deriving Repr, DecidableEq, Inhabited

/-- Where generated sources go. -/
structure Target where
  packageName : String := Defaults.packageName
  directory : Option Path := none
  clean : Bool := true
  deriving Repr, DecidableEq, Inhabited

/-- What the generator does. -/
structure Generator where
  strategy : Option Strategy := some { name := some Defaults.strategyName }
  database : Database := {}
  generate : Generate := {}
  target : Target := {}
  deriving Repr, DecidableEq, Inhabited

/-- What one task asks of the code generator. -/
structure Configuration where
  jdbc : Option Jdbc := none
  generator : Generator := {}
  deriving Repr, DecidableEq, Inhabited

/-- Targets are the same when their directories are the same path. -/
instance : BEq Target where
  beq a b := a.packageName == b.packageName && a.directory == b.directory && a.clean == b.clean

/-- Generators are the same part by part. -/
instance : BEq Generator where
  beq a b := a.strategy == b.strategy && a.database == b.database && a.generate == b.generate &&
    a.target == b.target

/-- Configurations are the same part by part. -/
instance : BEq Configuration where
  beq a b := a.jdbc == b.jdbc && a.generator == b.generator

namespace Jdbc

/-- Whether no parameter carries a value; a blank text carries none. -/
def isUnset (jdbc : Jdbc) : Bool :=
  Text.isBlank? jdbc.driver && Text.isBlank? jdbc.url && Text.isBlank? jdbc.user &&
    Text.isBlank? jdbc.password && jdbc.autoCommit.isNone && jdbc.properties.isEmpty

end Jdbc

namespace ForcedType

/-- The name of a rule made of its own parts, so that equal rules have equal names. -/
def derivedName (rule : ForcedType) : String :=
  String.join ([rule.converter, rule.includeExpression, rule.userType, rule.includeTypes].filterMap
    id)

/-- Maps every timestamp column to an instant. -/
def timestampToInstant : ForcedType :=
  let rule : ForcedType := {
    userType := some "java.time.Instant"
    converter := some "io.github.alexritian.codegen.converter.TimestampInstantConverter"
    includeExpression := some ".*\\.*"
    includeTypes := some "(?i)TIMESTAMP(_WITH(_TIME)?_ZONE|_TZ|TZ)?(\\(.*\\))?" }
  { rule with name := some rule.derivedName }

end ForcedType

/-- A forced type that a project enables by its name. -/
inductive Preset where
  | timestampToInstant
  deriving Repr, DecidableEq

/-- The rule that a preset stands for. -/
def Preset.forcedType : Preset → ForcedType
  | .timestampToInstant => .timestampToInstant

namespace Database

/-- Puts the pattern of the migration history in front of the excludes. -/
def excludeMigrationHistory (db : Database) : Database :=
  let rest := (db.excludes.map Text.trim).filter (· != "")
  { db with
    excludes := some <| match rest with
      | some existing => Defaults.historyPattern ++ " | " ++ existing
      | none => Defaults.historyPattern }

end Database

namespace Configuration

/-- The connection URL, if it carries anything but blanks. -/
def connectionUrl? (c : Configuration) : Option String :=
  match c.jdbc with
  | none => none
  | some jdbc => jdbc.url.filter fun url => !Text.isBlank url

/-- Points the connection at a running database and keeps its other parameters. -/
def useDatabase (c : Configuration) (handle : DatabaseHandle) : Configuration :=
  { c with
    jdbc := some { c.jdbc.getD {} with
      driver := some handle.driver
      url := some handle.url
      user := some handle.user
      password := some handle.password } }

/-- The configuration with another output directory. -/
def withDirectory (c : Configuration) (directory : Option Path) : Configuration :=
  { c with generator.target.directory := directory }

/-- Hides the migration history from the generator. -/
def excludeMigrationHistory (c : Configuration) : Configuration :=
  { c with generator.database := c.generator.database.excludeMigrationHistory }

end Configuration

end SchemaForge
