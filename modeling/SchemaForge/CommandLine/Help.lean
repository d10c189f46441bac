import SchemaForge.CommandLine.Arguments
import SchemaForge.Text.Blank

/-!
# What the command line says about itself

## Main definitions

* `CommandLine.help`, `CommandLine.version` : texts that are asked for.
* `CommandLine.Fault.message` : the text of a fault.
-/

namespace SchemaForge.CommandLine

/-- The name of the program. -/
def programName : String := "schemagen"

/-- The version of the program. -/
def version : String := programName ++ " 0.1.0\n"

/-- What the program does. -/
def about : String :=
  "Provision and migrate a database schema, then run a code generator against it"

/-- How the program is used, or one of its commands. -/
def usage : Option Command → String
  | none => "Usage: " ++ programName ++ " [OPTIONS] [COMMAND]"
  | some c => "Usage: " ++ programName ++ " " ++ c.name

/-- Lines of two columns, of which the first is as wide as its widest entry. -/
def columns (rows : List (String × String)) : String :=
  let width := rows.foldl (fun n r => max n r.1.length) 0
  Text.join "" (rows.map fun r =>
    "  " ++ r.1 ++ String.ofList (List.replicate (width - r.1.length + 2) ' ') ++ r.2 ++ "\n")

/-- The row of the option for help. -/
def helpRow : String × String := ("-h, --help", "Print help")

/-- What the command `help` does. -/
def aboutHelp : String := "Print this message or the help of the given subcommand(s)"

/-- The help on the program or on a command. -/
def help : Option Command → String
  | none =>
    about ++ "\n\n" ++ usage none ++ "\n\nCommands:\n" ++
      columns ((Command.all.map fun c => (c.name, c.about)) ++ [("help", aboutHelp)]) ++
      "\nOptions:\n" ++
      columns ((Setting.all.map fun s =>
          ("-" ++ String.singleton s.letter ++ ", " ++ s.shown, s.about)) ++
        [helpRow, ("-V, --version", "Print version")])
  | some c =>
    c.about ++ "\n\n" ++ usage (some c) ++ "\n\nOptions:\n" ++ columns [helpRow]

/-- The help on the command `help`. -/
def helpOnHelp : String :=
  aboutHelp ++ "\n\nUsage: " ++ programName ++ " help [COMMAND]...\n\nArguments:\n" ++
    columns [("[COMMAND]...", "Print help for the subcommand(s)")]

/-- What a message about arguments ends with. -/
def hint : String := "\n\nFor more information, try '--help'.\n"

/-- The text of a fault. -/
def Fault.message : Fault → String
  | missingValue s =>
    "error: a value is required for '" ++ s.shown ++ "' but none was supplied" ++ hint
  | repeated s =>
    "error: the argument '" ++ s.shown ++ "' cannot be used multiple times\n\n" ++ usage none ++
      hint
  | unexpected argument after =>
    "error: unexpected argument '" ++ argument ++ "' found\n\n" ++ usage after ++ hint
  | unknownCommand name =>
    "error: unrecognized subcommand '" ++ name ++ "'\n\n" ++ usage none ++ hint

end SchemaForge.CommandLine
