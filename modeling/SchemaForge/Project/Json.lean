import SchemaForge.Configuration.Decoder
import SchemaForge.Project.Basic

/-!
# Projects as JSON values

All settings of a project are written, those that are not set as null.

## Main definitions

* `Project.toJson` : the JSON value of a project.
-/

namespace SchemaForge.Project

/-- A flag, or null in its absence. -/
def flagJson : Option Bool → Json
  | some b => .bool b
  | none => .null

/-- The JSON value of how the generator is launched. -/
def GeneratorSettings.toJson (g : GeneratorSettings) : Json :=
  .object [("program", .string g.program), ("args", .ofStrings g.args),
    ("classpath", .ofStrings (g.classpath.map Path.shown)),
    ("env", .object (g.env.map fun v => (v.1, .string v.2))), ("schema", .string g.schema),
    ("schema_file", .ofString? (g.schemaFile.map Path.shown))]

/-- The JSON value of the settings of a task. -/
def TaskSettings.toJson (t : TaskSettings) : Json :=
  .object [("use_container", flagJson t.useContainer),
    ("all_inputs_declared", .bool t.allInputsDeclared),
    ("forced_type_presets", .ofStrings (t.presets.map Preset.name)),
    ("configuration", t.configuration.toJson)]

/-- The JSON value of a project. -/
def toJson (p : Project) : Json :=
  .object [("use_container", .bool p.useContainer),
    ("migrations_dir", .string p.migrationsDir.shown), ("work_dir", .string p.workDir.shown),
    ("output_root", .string p.outputRoot.shown),
    ("container", .object [("image_tag", .ofString? p.imageTag)]),
    ("generator", p.generator.toJson),
    ("tasks", .object (p.tasks.entries.map fun t => (t.1, t.2.toJson))),
    ("log_level", .ofString? p.logLevel)]

end SchemaForge.Project
