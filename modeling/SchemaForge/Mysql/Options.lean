import SchemaForge.Configuration.Basic
import SchemaForge.Decimal.Width
import SchemaForge.Error
import SchemaForge.Text.Quoted
import SchemaForge.Url.Basic

/-!
# Connection options

Where and as whom to connect, read off the URL of a database handle. The URL may have the
prefix `jdbc:`; the credentials are always those of the handle.

## Main definitions

* `Mysql.Options` : where and as whom to connect.
* `Mysql.Options.ofHandle` : the options of a handle.
-/

namespace SchemaForge.Mysql

/-- Where and as whom to connect. -/
structure Options where
  host : String
  port : Nat
  database : Option String
  user : String
  password : Option String
  deriving Repr, DecidableEq

/-- Why a URL has no options. -/
inductive UrlFault where
  | malformed (fault : Url.Fault)
  | incomplete
  | unsupportedScheme (scheme : String)
  | unknownParameter (name : String)
  | badValue (name value : String)
  | badPool (least most : Nat)
  deriving Repr, DecidableEq

/-- The text of a fault. -/
def UrlFault.message : UrlFault → String
  | .malformed fault => "URL parse error: " ++ fault.message
  | .incomplete => "Invalid or incomplete connection URL"
  | .unsupportedScheme scheme => "Unsupported connection URL scheme `" ++ scheme ++ "'"
  | .unknownParameter name => "Unknown connection URL parameter `" ++ name ++ "'"
  | .badValue name value =>
    "Invalid value `" ++ value ++ "' for connection URL parameter `" ++ name ++ "'"
  | .badPool least most =>
    "Invalid pool constraints: pool_min (" ++ toString least ++ ") > pool_max (" ++
      toString most ++ ")."

/-- The port at which a server listens unless the URL says otherwise. -/
def defaultPort : Nat := 3306

/-- The number that a parameter's value denotes, if it is at most `most`. -/
def numberUpTo? (most : Nat) (value : String) : Option Nat :=
  let digits := match value.toList with
    | '+' :: cs => cs
    | cs => cs
  if digits.isEmpty || !digits.all Json.isDecimal then none
  else if Json.decimalValue digits ≤ most then some (Json.decimalValue digits)
  else none

/-- Parameters with numbers, and the greatest of each. -/
def numberParameters : List (String × Nat) :=
  (["pool_min", "pool_max", "inactive_connection_ttl", "ttl_check_interval", "conn_ttl",
    "abs_conn_ttl", "abs_conn_ttl_jitter", "max_allowed_packet", "wait_timeout",
    "stmt_cache_size"].map fun name => (name, Width.count 64 - 1)) ++
  [("tcp_keepalive", Width.count 32 - 1)]

/-- Parameters that are `true` or `false`. -/
def flagParameters : List String := [
  "enable_cleartext_plugin", "reset_connection", "tcp_nodelay", "prefer_socket", "secure_auth",
  "client_found_rows", "require_ssl", "verify_ca", "verify_identity", "built_in_roots"]

/-- The name under which a parameter's value is refused: that of an interval in milliseconds
says its unit. -/
def faultName (name : String) : String :=
  if name == "tcp_keepalive" then "tcp_keepalive_ms" else name

/-- Whether a value says how much to compress. -/
def isCompression (value : String) : Bool :=
  ["fast", "on", "true", "best"].contains value ||
    (match value.toList with
      | [c] => Json.isDecimal c
      | _ => false)

/-- How many connections are kept: at least and at most. -/
structure Pool where
  least : Nat := 10
  most : Nat := 100

/-- Checks one parameter. -/
def checkParameter (pool : Pool) (p : String × String) : Except UrlFault Pool :=
  let (name, value) := p
  match numberParameters.find? (·.1 == name) with
  | some (_, most) =>
    match numberUpTo? most value with
    | none => .error (.badValue (faultName name) value)
    | some n =>
      .ok (if name == "pool_min" then { pool with least := n }
        else if name == "pool_max" then { pool with most := n }
        else pool)
  | none =>
    if flagParameters.contains name then
      if value == "true" || value == "false" then .ok pool else .error (.badValue name value)
    else if name == "compression" then
      if isCompression value then .ok pool else .error (.badValue name value)
    else if name == "socket" then .ok pool
    else .error (.unknownParameter name)

/-- Checks the parameters of a URL: a pool keeps at least one connection at most. -/
def checkParameters (ps : List (String × String)) : Except UrlFault Unit := do
  let pool ← ps.foldlM checkParameter {}
  if pool.most < pool.least || pool.most == 0 then .error (.badPool pool.least pool.most)
  else .ok ()

/-- The database that the path of a URL names. -/
def databaseOf (url : Url) : Option String :=
  match url.segments with
  | [] => none
  | first :: _ => some (Utf8.decodeLossy (Url.percentDecode first)) |>.filter (· != "")

/-- The part of a URL that is read, without `jdbc:` in front. -/
def withoutPrefix (s : String) : String :=
  match s.toList with
  | 'j' :: 'd' :: 'b' :: 'c' :: ':' :: rest => String.ofList rest
  | _ => s

/-- Host, port and database of a URL. -/
def readUrl (s : String) : Except UrlFault (String × Nat × Option String) := do
  match Url.parse (withoutPrefix s) with
  | .error fault => .error (.malformed fault)
  | .ok url =>
    match url.host with
    | none => .error .incomplete
    | some host =>
      if url.scheme != "mysql" then .error (.unsupportedScheme url.scheme)
      else
        checkParameters url.parameters
        return (host, url.port.getD defaultPort, databaseOf url)

/-- The options of a handle. An empty password is none. -/
def Options.ofHandle (handle : DatabaseHandle) : Except Error Options :=
  match readUrl handle.url with
  | .error fault =>
    .error (.configuration ("invalid connection URL " ++ Text.quoted handle.url ++ ": " ++
      fault.message))
  | .ok (host, port, database) =>
    .ok { host, port, database, user := handle.user,
          password := if handle.password == "" then none else some handle.password }

end SchemaForge.Mysql
