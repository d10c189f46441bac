import SchemaForge.Migration.Version

/-!
# Names of migration scripts

A script is named `V`, a version, two underscores, a description and `.sql`, as in
`V1_2__add_users.sql`. The first two underscores in a row end the version; those of the
description stand for blanks.

## Main definitions

* `ScriptName` : what a name says.
* `ScriptName.parse?` : reading a file name, `none` if it is no script's.
-/

namespace SchemaForge

/-- What the name of a migration script says. -/
structure ScriptName where
  version : Version
  description : String
  deriving Repr, DecidableEq

namespace ScriptName

/-- Why the name of a script is wrong. -/
inductive Fault where
  | noSeparator (fileName : String)
  | version (fault : Version.Fault)
  deriving Repr, DecidableEq

/-- The text of a fault. -/
def Fault.message : Fault → String
  | .noSeparator fileName =>
    "migration " ++ Text.quoted fileName ++ " has no `__` between version and description"
  | .version fault => fault.message

/-- The parts before and after the first two underscores in a row. -/
def splitSeparator : List Char → Option (List Char × List Char)
  | '_' :: '_' :: rest => some ([], rest)
  | c :: rest => (splitSeparator rest).map fun r => (c :: r.1, r.2)
  | [] => none

/-- The list without `suffix` at its end. -/
def dropEnd? (ending cs : List Char) : Option (List Char) :=
  if ending.isSuffixOf cs then some (cs.take (cs.length - ending.length)) else none

/-- The end of a script's name. -/
def ending : List Char := ['.', 's', 'q', 'l']

/-- What stands between the `V` at the front of a name and the `.sql` at its end. -/
def stem? (fileName : String) : Option (List Char) :=
  match fileName.toList with
  | 'V' :: rest => dropEnd? ending rest
  | _ => none

/-- The description with blanks for underscores. -/
def describe (cs : List Char) : String :=
  String.ofList (cs.map fun c => if c == '_' then ' ' else c)

/-- Reads a file name. A name without the `V` or the `.sql` is no script's. -/
def parse? (fileName : String) : Option (Except Fault ScriptName) :=
  (stem? fileName).map fun stem =>
    match splitSeparator stem with
    | none => .error (.noSeparator fileName)
    | some (version, description) =>
      match Version.parse (String.ofList version) with
      | .error fault => .error (.version fault)
      | .ok version => .ok ⟨version, describe description⟩

end ScriptName

end SchemaForge
