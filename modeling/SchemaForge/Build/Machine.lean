import SchemaForge.Build.World
import SchemaForge.Mysql.Server
import SchemaForge.Schema.Reader
import SchemaForge.Shell.Launch

/-!
# A machine without a database server

The backend of builds on a machine that has neither an engine for database containers nor a
way to a database server. Tasks that need a database of their own fail there, and all others
run, with their generators in the shell.

## Main definitions

* `Machine` : the surroundings of a build.
* `Machine.backend` : the backend on it.
-/

namespace SchemaForge

/-- The surroundings of a build. -/
structure Machine where
  /-- The environment that processes inherit. -/
  environment : List (String × RawText) := []
  /-- The number of the process that is started next. -/
  nextProcess : Nat := 4711

namespace Machine

/-- A launch with the inherited environment below its own. -/
def inheriting (m : Machine) (spec : ProcessSpec) : ProcessSpec :=
  { spec with env := spec.env.foldl (fun env v => Names.insert v env) m.environment }

/-- The backend on a machine. -/
def backend : Backend Machine where
  start m := (.error (.provisioning "there is no container engine"), m)
  stop _ m := (.ok (), m)
  connect := Mysql.connect Mysql.Network.down
  launch spec files m := (Shell.locate files (m.inheriting spec)).map fun _ => ()
  finish spec files m :=
    let (output, files) := Shell.run files m.nextProcess (m.inheriting spec)
    (output, files, { m with nextProcess := m.nextProcess + 1 })
  validator := Schema.validator

end Machine

end SchemaForge
