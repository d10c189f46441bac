import SchemaForge.Text.Blank
import SchemaForge.Url.Ipv4
import SchemaForge.Url.Ipv6
import SchemaForge.Url.Percent

/-!
# URLs

What a URL says about where to connect: its scheme, host and port, the segments of its path
and the parameters of its query.

## Main definitions

* `Url` : the parts of a URL.
* `Url.Fault`, `Url.Fault.message` : why a text is no URL.
* `Url.parse` : reading one.
-/

namespace SchemaForge

/-- The parts of a URL. -/
structure Url where
  /-- The scheme in lower case. -/
  scheme : String
  /-- The host, unless it is missing or empty. -/
  host : Option String
  port : Option Nat
  /-- The segments of the path, still encoded; a path that does not start with a slash has
  none. -/
  segments : List (List Char)
  /-- The names and values of the query. -/
  parameters : List (String × String)
  deriving Repr, DecidableEq

namespace Url

/-- Why a text is no URL. -/
inductive Fault where
  | noScheme
  | noHost
  | badPort
  | badAddress
  | badHost
  | badDomain
  | badIpv4
  deriving Repr, DecidableEq

/-- The text of a fault. -/
def Fault.message : Fault → String
  | .noScheme => "relative URL without a base"
  | .noHost => "empty host"
  | .badPort => "invalid port number"
  | .badAddress => "invalid IPv6 address"
  | .badHost => "invalid domain character"
  | .badDomain => "invalid international domain name"
  | .badIpv4 => "invalid IPv4 address"

/-- Schemes with a host in any case, of which slashes need not be written as two. -/
def special : List String := ["http", "https", "ws", "wss", "ftp", "file"]

/-- Whether a character is dropped from the ends of a URL. -/
def isControl (c : Char) : Bool := c.toNat ≤ 0x20

/-- The characters that count: none that control at the ends, and no tab or line end. -/
def significant (s : String) : List Char :=
  let cs := (s.toList.dropWhile isControl).reverse.dropWhile isControl
  cs.reverse.filter fun c => !(['\t', '\n', '\r'].contains c)

/-- The scheme at the front, in lower case, with what follows its colon. -/
def readScheme (cs : List Char) : Option (String × List Char) :=
  let inScheme (c : Char) : Bool := c.isAlphanum || ['+', '-', '.'].contains c
  match cs.head?, cs.dropWhile inScheme with
  | some c, ':' :: rest =>
    if c.isAlpha then some (String.ofList ((cs.takeWhile inScheme).map Char.toLower), rest)
    else none
  | _, _ => none

/-- Whether a character ends the part with host and port. -/
def endsAuthority (isSpecial : Bool) (c : Char) : Bool :=
  c == '/' || c == '?' || c == '#' || (isSpecial && c == '\\')

/-- The parts before and after the last at sign, if there is one. -/
def splitUser (cs : List Char) : Option (List Char × List Char) :=
  match cs.reverse.dropWhile (· != '@') with
  | [] => none
  | _ :: before => some (before.reverse, (cs.reverse.takeWhile (· != '@')).reverse)

/-- The characters that a host cannot hold. -/
def forbidden : List Char :=
  ['\x00', '\t', '\n', '\r', ' ', '#', '/', ':', '<', '>', '?', '@', '[', '\\', ']', '^', '|']

/-- The characters that a domain cannot hold. What is no UTF-8 was replaced by U+FFFD. -/
def forbiddenInDomain (c : Char) : Bool :=
  forbidden.contains c || c == '%' || c == '\x7f' || c == '\ufffd' || c.toNat < 0x20

/-- One character of a host: what is not ASCII or controls is encoded. -/
def hostChar (c : Char) : String :=
  if 0x20 ≤ c.toNat && c.toNat < 0x7F then String.singleton c
  else String.join ((Utf8.encode (String.singleton c)).map fun b =>
    let digit (n : Nat) : Char := (Text.hexDigit n).toUpper
    String.ofList ['%', digit (b.toNat / 16), digit (b.toNat % 16)])

/-- The text of a host. -/
def readHost (isSpecial : Bool) (cs : List Char) : Except Fault String :=
  match cs with
  | '[' :: rest =>
    if rest.getLast? != some ']' then .error .badAddress
    else
      match Ipv6.parse? rest.dropLast with
      | some ns => .ok ("[" ++ Ipv6.toText ns ++ "]")
      | none => .error .badAddress
  | _ =>
    if isSpecial then
      let decoded := (Utf8.decodeLossy (percentDecode cs)).toList
      if decoded.any forbiddenInDomain then .error .badDomain
      else if Ipv4.isNumeric decoded && (Ipv4.parse? decoded).isNone then .error .badIpv4
      else .ok (String.ofList (decoded.map Char.toLower))
    else if cs.any forbidden.contains then .error .badHost
    else .ok (String.join (cs.map hostChar))

/-- Splits host and port at the first colon outside brackets. -/
def splitPort (inBrackets : Bool) : List Char → List Char × Option (List Char)
  | [] => ([], none)
  | c :: cs =>
    if c == ':' && !inBrackets then ([], some cs)
    else
      let inside := if c == '[' then true else if c == ']' then false else inBrackets
      let (host, port) := splitPort inside cs
      (c :: host, port)

/-- The port that digits denote, and what follows them; without digits there is no port. Only
a backslash may follow, which begins the path. -/
def readPort (cs : List Char) : Except Fault (Option Nat × List Char) :=
  let digits := cs.takeWhile Json.isDecimal
  let rest := cs.dropWhile Json.isDecimal
  let n := Json.decimalValue digits
  if 65535 < n || !(rest.isEmpty || rest.head? == some '\\') then .error .badPort
  else .ok (if digits.isEmpty then none else some n, rest)

/-- The port at which a scheme connects when none is given. -/
def defaultPort (scheme : String) : Option Nat :=
  ([("http", 80), ("ws", 80), ("https", 443), ("wss", 443), ("ftp", 21)].find? (·.1 == scheme)).map
    (·.2)

/-- Host and port of the part that holds them, and what of it begins the path. `isLast` says
whether nothing follows that part. -/
def readAuthority (scheme : String) (isSpecial isLast : Bool) (cs : List Char) :
    Except Fault (Option String × Option Nat × List Char) := do
  let (user, rest) := (splitUser cs).getD ([], cs)
  let hasUser := user.any (· != ':') || user.length > 1 || (cs == ['@'] && !isLast)
  let (hostChars, portChars) := splitPort false rest
  let host ← readHost isSpecial hostChars
  if host == "" && (portChars.isSome || isSpecial || hasUser) then .error .noHost
  else
    let (port, rest) ← readPort (portChars.getD [])
    return (if host == "" then none else some host,
      if port == defaultPort scheme then none else port, rest)

/-- Whether a segment stays where it is. -/
def isDot (s : List Char) : Bool :=
  let lower := s.map Char.toLower
  lower == ['.'] || lower == ['%', '2', 'e']

/-- Whether a segment leads back. -/
def isDotDot (s : List Char) : Bool :=
  ["..", ".%2e", "%2e.", "%2e%2e"].contains (String.ofList (s.map Char.toLower))

/-- Whether a segment begins with a drive's letter, which no segment that leads back removes. -/
def isDrive : List Char → Bool
  | c :: d :: rest =>
    c.isAlpha && (d == ':' || d == '|') && (rest.isEmpty || rest.head? == some '\\')
  | _ => false

/-- The segments before, without the last one unless it names a drive; the last comes first. -/
def dropLastSegment : List (List Char) → List (List Char)
  | [] => []
  | s :: ss => if isDrive s then s :: ss else ss

/-- The segments once those that stay and lead back are resolved; `before` holds those
resolved already, the last first. -/
def resolveSegments (before : List (List Char)) : List (List Char) → List (List Char)
  | [] => before.reverse
  | s :: ss =>
    let keep (before : List (List Char)) : List (List Char) :=
      resolveSegments (if ss.isEmpty then [] :: before else before) ss
    if isDotDot s then keep (dropLastSegment before)
    else if isDot s then keep before
    else resolveSegments (s :: before) ss

/-- The segments of a path. -/
def readPath (isSpecial : Bool) (cs : List Char) : List (List Char) :=
  let separates (c : Char) : Bool := c == '/' || (isSpecial && c == '\\')
  match cs with
  | [] => []
  | c :: rest => resolveSegments [] (Text.pieces separates (if separates c then rest else cs))

/-- The names and values of a query. -/
def readQuery (cs : List Char) : List (String × String) :=
  ((Text.pieces (· == '&') cs).filter (!·.isEmpty)).map fun p =>
    (formDecode (p.takeWhile (· != '=')), formDecode ((p.dropWhile (· != '=')).drop 1))

/-- Path and query of what follows the host. -/
def readRest (isSpecial : Bool) (cs : List Char) : List (List Char) × List (String × String) :=
  let cs := cs.takeWhile (· != '#')
  (readPath isSpecial (cs.takeWhile (· != '?')), readQuery ((cs.dropWhile (· != '?')).drop 1))

/-- Checks the host of a file's URL, which follows two slashes; a drive's letter is none. -/
def checkFileHost (cs : List Char) : Except Fault Unit :=
  let separates (c : Char) : Bool := c == '/' || c == '\\'
  match cs with
  | a :: b :: rest =>
    let host := rest.takeWhile (!endsAuthority true ·)
    let isNone := host.isEmpty || (isDrive host && host.length == 2)
    if !(separates a && separates b) || isNone then .ok ()
    else (readHost true host).map fun _ => ()
  | _ => .ok ()

/-- Reads a URL. -/
def parse (s : String) : Except Fault Url :=
  match readScheme (significant s) with
  | none => .error .noScheme
  | some (scheme, rest) =>
    let isSpecial := special.contains scheme
    let withHost (cs : List Char) : Except Fault Url := do
      let isEnd := endsAuthority isSpecial
      let after := cs.dropWhile (!isEnd ·)
      let (host, port, before) ←
        readAuthority scheme isSpecial after.isEmpty (cs.takeWhile (!isEnd ·))
      let (segments, parameters) := readRest isSpecial (before ++ after)
      return { scheme, host, port, segments, parameters }
    let withoutHost : Except Fault Url :=
      .ok { scheme, host := none, port := none, segments := [], parameters := [] }
    if scheme == "file" then (checkFileHost rest).bind fun _ => withoutHost
    else if isSpecial then withHost (rest.dropWhile fun c => c == '/' || c == '\\')
    else
      match rest with
      | '/' :: '/' :: cs => withHost cs
      | _ => withoutHost

end Url

end SchemaForge
