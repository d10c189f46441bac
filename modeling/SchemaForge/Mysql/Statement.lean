import SchemaForge.Configuration.Basic
import SchemaForge.Migration.History

/-!
# Statements on the migration history

The SQL in which the history of a schema is created, read and extended, and the rows that it
holds.

## Main definitions

* `Mysql.quoteIdentifier` : a name between backticks, whatever is in it.
* `Mysql.Column`, `Mysql.columns` : the columns of the history.
* `Mysql.Row` : a row as the server stores it; `Row.ofEntry` and `Row.toEntry` lead to the
  entries of the history and back.
-/

namespace SchemaForge.Mysql

/-- Doubles every backtick. -/
def doubleBackticks : List Char → List Char
  | [] => []
  | c :: cs => if c == '\x60' then c :: c :: doubleBackticks cs else c :: doubleBackticks cs

/-- A name between backticks. -/
def quoteIdentifier (name : String) : String :=
  String.ofList ('\x60' :: doubleBackticks name.toList ++ ['\x60'])

/-- The history of a schema. -/
def historyTable (schema : String) : String :=
  quoteIdentifier schema ++ "." ++ quoteIdentifier Defaults.historyTable

/-- What a column holds. -/
inductive ColumnType where
  | integer
  | flag
  /-- A text of at most so many characters. -/
  | text (width : Nat)
  /-- The time at which the row was added. -/
  | now
  deriving Repr, DecidableEq

/-- A column of the history. -/
structure Column where
  name : String
  type : ColumnType
  isKey : Bool := false
  /-- Whether the column may be without a value. -/
  isOptional : Bool := false
  deriving Repr, DecidableEq

/-- The columns of the history. -/
def columns : List Column := [
  ⟨"installed_rank", .integer, true, false⟩,
  ⟨"version", .text 50, false, true⟩,
  ⟨"description", .text 200, false, false⟩,
  ⟨"script", .text 1000, false, false⟩,
  ⟨"checksum", .text 64, false, true⟩,
  ⟨"installed_on", .now, false, false⟩,
  ⟨"execution_time", .integer, false, false⟩,
  ⟨"success", .flag, false, false⟩]

/-- The definition of a column. -/
def Column.definition (c : Column) : String :=
  let type :=
    match c.type with
    | .integer => "INT"
    | .flag => "TINYINT(1)"
    | .text width => "VARCHAR(" ++ toString width ++ ")"
    | .now => "TIMESTAMP"
  c.name ++ " " ++ type ++ (if c.isOptional then "" else " NOT NULL") ++
    (if c.isKey then " PRIMARY KEY" else "") ++
    (if c.type == .now then " DEFAULT CURRENT_TIMESTAMP" else "")

/-- Creates a schema where it is missing. -/
def createSchema (schema : String) : String :=
  "CREATE DATABASE IF NOT EXISTS " ++ quoteIdentifier schema

/-- Creates the history of a schema where it is missing. -/
def createHistory (schema : String) : String :=
  "CREATE TABLE IF NOT EXISTS " ++ historyTable schema ++ " (\n                    " ++
    ",\n                    ".intercalate (columns.map Column.definition) ++ "\n                )"

/-- The names of the columns that are read and written. -/
def storedColumns : String :=
  ", ".intercalate ((columns.filter (·.type != .now)).map Column.name)

/-- Reads the history of a schema. -/
def selectHistory (schema : String) : String :=
  "SELECT " ++ storedColumns ++ " FROM " ++ historyTable schema ++ " ORDER BY installed_rank"

/-- Makes a schema the one that a script is about. -/
def useSchema (schema : String) : String := "USE " ++ quoteIdentifier schema

/-- Adds a row to the history of a schema. -/
def insertHistory (schema : String) : String :=
  "INSERT INTO " ++ historyTable schema ++ " (" ++ storedColumns ++ ") VALUES (?, ?, ?, ?, ?, ?, ?)"

/-- A row of the history as the server stores it. Other tools add rows without a version. -/
structure Row where
  rank : Nat
  version : Option String
  description : String
  script : String
  checksum : Option String
  executionTime : Nat
  success : Int
  deriving Repr, DecidableEq

namespace Row

/-- The row that an entry is stored as. -/
def ofEntry (e : HistoryEntry) : Row where
  rank := e.rank
  version := some e.version.toText
  description := e.description
  script := e.fileName
  checksum := some e.checksum
  executionTime := e.milliseconds
  success := if e.success then 1 else 0

/-- The entry of a row; a row without a version has none. -/
def toEntry (r : Row) : Except Error (Option HistoryEntry) :=
  match r.version with
  | none => .ok none
  | some text =>
    match Version.parse text with
    | .error fault =>
      .error (.migration none ("history row " ++ toString r.rank ++ ": " ++ fault.message))
    | .ok version =>
      .ok (some {
        rank := r.rank
        version
        description := r.description
        fileName := r.script
        checksum := r.checksum.getD ""
        milliseconds := r.executionTime
        success := r.success != 0 })

/-- The entries of rows, in their order. -/
def toEntries (rows : List Row) : Except Error (List HistoryEntry) :=
  (rows.mapM toEntry).map (·.filterMap id)

/-- Whether the values of a row have room in their columns. -/
def fits (r : Row) : Bool :=
  let room (name value : String) : Bool :=
    columns.all fun c =>
      match c.type with
      | .text width => c.name != name || value.length ≤ width
      | _ => true
  (r.version.all (room "version" ·)) && room "description" r.description &&
    room "script" r.script && (r.checksum.all (room "checksum" ·))

end Row

end SchemaForge.Mysql
