import SchemaForge.Migration.Run
import SchemaForge.Mysql.Options
import SchemaForge.Mysql.Statement

/-!
# Migrating over a connection to a server

How the operations of a migration become statements, and how a handle becomes a connection.

## Main definitions

* `Mysql.Connection` : an open connection, by what it does with statements.
* `Mysql.target` : the migration target on a connection.
* `Mysql.Network`, `Mysql.connect` : reaching a server by a handle.
-/

namespace SchemaForge.Mysql

/-- Why a server did not do what it was asked for. -/
inductive ServerFault where
  /-- The server cannot be reached. -/
  | unreachable (fault : IoFault)
  /-- The server refused a statement. -/
  | refused (code : Nat) (state message : String)
  deriving Repr, DecidableEq

/-- The text of a fault. -/
def ServerFault.message : ServerFault → String
  | .unreachable fault => "Input/output error: Input/output error: " ++ fault.message
  | .refused code state message =>
    "Server error: `ERROR " ++ state ++ " (" ++ toString code ++ "): " ++ message ++ "'"

/-- The error of a fault. -/
def ServerFault.error (fault : ServerFault) : Error := .migration none fault.message

/-- An open connection to a server, on a state `σ`. -/
structure Connection (σ : Type) where
  /-- Sends a statement, or several, and passes over what they answer. -/
  send : String → σ → Except ServerFault Unit × σ
  /-- Reads rows of a history. -/
  select : String → σ → Except ServerFault (List Row) × σ
  /-- Adds a row to a history. -/
  insert : String → Row → σ → Except ServerFault Unit × σ
  /-- The time in milliseconds. -/
  clock : σ → Nat
  disconnect : σ → Except ServerFault Unit × σ

variable {σ : Type}

/-- An answer of a server with its faults as errors. -/
def withError {α : Type} (r : Except ServerFault α × σ) : Except Error α × σ :=
  (r.1.mapError ServerFault.error, r.2)

/-- Sends statements one after the other, up to the first that fails. -/
def sendEach (c : Connection σ) : List String → σ → Except ServerFault Unit × σ
  | [], s => (.ok (), s)
  | sql :: rest, s =>
    match c.send sql s with
    | (.ok (), s) => sendEach c rest s
    | failed => failed

/-- The migration target on a connection. -/
def target (c : Connection σ) : Migration.Target σ where
  prepare schema s := withError (sendEach c [createSchema schema, createHistory schema] s)
  applied schema s :=
    let (rows, s) := withError (c.select (selectHistory schema) s)
    (rows.bind Row.toEntries, s)
  execute schema script s :=
    let (outcome, after) := withError (sendEach c [useSchema schema, script.sql] s)
    (⟨outcome, c.clock after - c.clock s⟩, after)
  record schema entry s := withError (c.insert (insertHistory schema) (Row.ofEntry entry) s)
  close s := withError (c.disconnect s)

/-- What leads to servers. -/
structure Network (σ : Type) where
  reach : Options → σ → Except ServerFault (Connection σ) × σ

/-- A network on which no server can be reached. -/
def Network.down : Network σ where
  reach _ s := (.error (.unreachable .networkUnreachable), s)

/-- Connects to the server of a handle. -/
def connect (network : Network σ) (handle : DatabaseHandle) (s : σ) :
    Except Error (Migration.Target σ) × σ :=
  match Options.ofHandle handle with
  | .error e => (.error e, s)
  | .ok options =>
    let (connection, s) := network.reach options s
    (match connection with
      | .ok c => .ok (target c)
      | .error fault => .error fault.error, s)

end SchemaForge.Mysql
