import SchemaForge.Shell.State

/-!
# Printing

The commands that print their arguments, as they are or under a format, and the escapes that
they undo.

## Main definitions

* `Shell.Tool` : a command by what it does with its arguments.
* `Shell.EscapeRules`, `Shell.unescape` : which escapes a text may hold, and its bytes.
* `Shell.echo`, `Shell.printFormatted` : the commands.
-/

namespace SchemaForge.Shell

/-- A command by what it does with its arguments. -/
abbrev Tool := State → List String → State

/-- Which escapes a text may hold besides those of single letters. -/
structure EscapeRules where
  /-- Three octal digits may follow a zero. -/
  afterZero : Bool
  /-- Three octal digits may follow the backslash. -/
  octal : Bool
  /-- Two digits to base sixteen may follow an `x`, and `e` is the escape character. -/
  extended : Bool
  /-- A `c` ends all output. -/
  stops : Bool

/-- The escapes of the built-in that prints its arguments. -/
def EscapeRules.ofArguments : EscapeRules := ⟨true, false, false, true⟩

/-- The escapes of a format. -/
def EscapeRules.ofFormat : EscapeRules := ⟨false, true, false, false⟩

/-- The escapes of the program that prints its arguments. -/
def EscapeRules.ofProgram : EscapeRules := ⟨true, true, true, true⟩

/-- The byte of a letter after a backslash. -/
def escapeByte? : Char → Option UInt8
  | 'n' => some 0x0A
  | 't' => some 0x09
  | 'r' => some 0x0D
  | 'a' => some 0x07
  | 'b' => some 0x08
  | 'f' => some 0x0C
  | 'v' => some 0x0B
  | '\\' => some 0x5C
  | _ => none

/-- The value of a digit to a base of at most sixteen. -/
def digitValue? (base : Nat) (c : Char) : Option Nat :=
  let value :=
    if c.isDigit then c.toNat - 0x30
    else if 'a' ≤ c && c ≤ 'f' then c.toNat - 0x61 + 10
    else if 'A' ≤ c && c ≤ 'F' then c.toNat - 0x41 + 10
    else base
  if value < base then some value else none

/-- The number of up to so many digits at the front, and how many there are. -/
def leadingDigits (base : Nat) : Nat → List Char → Nat × Nat
  | 0, _ => (0, 0)
  | _ + 1, [] => (0, 0)
  | count + 1, c :: cs =>
    match digitValue? base c with
    | none => (0, 0)
    | some d =>
      let (n, length) := leadingDigits base count cs
      (d * Nat.pow base length + n, length + 1)

/-- What the characters after a backslash stand for: the bytes, and how many characters they
are; `none` where all output ends. -/
def escape (rules : EscapeRules) (cs : List Char) : Option (Bytes × Nat) :=
  match cs with
  | [] => some ([0x5C], 0)
  | c :: rest =>
    let zero := leadingDigits 8 3 rest
    let octal := leadingDigits 8 3 cs
    let hex := leadingDigits 16 2 rest
    if c == 'c' && rules.stops then none
    else if c == '0' && rules.afterZero then some ([UInt8.ofNat zero.1], zero.2 + 1)
    else if rules.octal && octal.2 != 0 then some ([UInt8.ofNat octal.1], octal.2)
    else if c == 'x' && rules.extended && hex.2 != 0 then some ([UInt8.ofNat hex.1], hex.2 + 1)
    else if c == 'e' && rules.extended then some ([0x1B], 1)
    else
      match escapeByte? c with
      | some b => some ([b], 1)
      | none => some (0x5C :: Utf8.encode (String.singleton c), 1)

/-- The bytes of a text with its escapes undone, and whether all output ends with it. The fuel
bounds the number of characters. -/
def unescapeFrom (rules : EscapeRules) : Nat → List Char → Bytes × Bool
  | 0, _ => ([], false)
  | _ + 1, [] => ([], false)
  | fuel + 1, '\\' :: cs =>
    match escape rules cs with
    | none => ([], true)
    | some (bytes, length) =>
      let (more, stopped) := unescapeFrom rules fuel (cs.drop length)
      (bytes ++ more, stopped)
  | fuel + 1, c :: cs =>
    let (more, stopped) := unescapeFrom rules fuel cs
    (Utf8.encode (String.singleton c) ++ more, stopped)

/-- The bytes of a text with its escapes undone, and whether all output ends with it. -/
def unescape (rules : EscapeRules) (s : String) : Bytes × Bool :=
  unescapeFrom rules (s.length + 1) s.toList

/-! ### Arguments as they are -/

/-- Prints a text with its escapes undone, and a line end unless it is not wanted. -/
def printEscaped (s : State) (rules : EscapeRules) (newline : Bool) (text : String) : State :=
  let (bytes, stopped) := unescape rules text
  (s.emit (if newline && !stopped then bytes ++ [0x0A] else bytes)).withStatus 0

/-- The built-in that prints its arguments with blanks between them. -/
def echo : Tool := fun s args =>
  match args with
  | "-n" :: rest => printEscaped s .ofArguments false (" ".intercalate rest)
  | _ => printEscaped s .ofArguments true (" ".intercalate args)

/-- Whether an argument is a bundle of the options of the program that prints its arguments. -/
def isEchoOption (arg : String) : Bool :=
  match arg.toList with
  | '-' :: c :: cs => (c :: cs).all ['n', 'e', 'E'].contains
  | _ => false

/-- The program that prints its arguments with blanks between them. Escapes are undone if an
option asks for it. -/
def echoProgram : Tool := fun s args =>
  let letters := (args.takeWhile isEchoOption).flatMap fun a => a.toList.drop 1
  let text := " ".intercalate (args.dropWhile isEchoOption)
  let newline := !letters.contains 'n'
  if (letters.filter (· != 'n')).getLast? == some 'e' then
    printEscaped s .ofProgram newline text
  else (s.emit (Utf8.encode (if newline then text ++ "\n" else text))).withStatus 0

/-! ### Formats -/

/-- How an argument is to be written. -/
structure Conversion where
  flags : List Char
  width : Nat
  places : Option Nat
  kind : Char
  deriving Repr

/-- A part of a format: bytes that are written as they are, or a place for an argument. -/
inductive FormatPart where
  | bytes (bs : Bytes)
  | argument (c : Conversion)
  deriving Repr

/-- Reads a conversion behind its percent sign. -/
def readConversion (cs : List Char) : Option (Conversion × List Char) :=
  let isFlag := ['-', '+', ' ', '0', '#'].contains
  let flags := cs.takeWhile isFlag
  let cs := cs.dropWhile isFlag
  let width := ((String.ofList (cs.takeWhile Char.isDigit)).toNat?).getD 0
  let cs := cs.dropWhile Char.isDigit
  let (places, cs) :=
    match cs with
    | '.' :: rest =>
      (some (((String.ofList (rest.takeWhile Char.isDigit)).toNat?).getD 0),
        rest.dropWhile Char.isDigit)
    | _ => (none, cs)
  match cs with
  | kind :: rest => some (⟨flags, width, places, kind⟩, rest)
  | [] => none

/-- Cuts a format at its conversions. The fuel bounds the number of parts. -/
def formatParts : Nat → List Char → List FormatPart
  | 0, _ => []
  | _ + 1, [] => []
  | fuel + 1, '%' :: '%' :: cs => .bytes [0x25] :: formatParts fuel cs
  | fuel + 1, '%' :: cs =>
    match readConversion cs with
    | some (c, rest) => .argument c :: formatParts fuel rest
    | none => [.bytes [0x25]]
  | fuel + 1, '\\' :: cs =>
    match escape .ofFormat cs with
    | some (bytes, length) => .bytes bytes :: formatParts fuel (cs.drop length)
    | none => []
  | fuel + 1, c :: cs => .bytes (Utf8.encode (String.singleton c)) :: formatParts fuel cs

/-- Bytes with blanks before or after them up to a width. -/
def padded (c : Conversion) (bs : Bytes) : Bytes :=
  let blanks := List.replicate (c.width - bs.length) 0x20
  if c.flags.contains '-' then bs ++ blanks else blanks ++ bs

/-- The number at the front of an argument, and whether it is all of it. -/
def argumentNumber (arg : String) : Int × Bool :=
  let cs := arg.toList.dropWhile fun c => c == ' ' || c == '\t' || c == '\n'
  let (negative, cs) :=
    match cs with
    | '-' :: cs => (true, cs)
    | '+' :: cs => (false, cs)
    | cs => (false, cs)
  match cs with
  | '\'' :: c :: _ | '"' :: c :: _ => (c.toNat, true)
  | _ =>
    let (base, cs) :=
      match cs with
      | '0' :: 'x' :: cs | '0' :: 'X' :: cs => (16, cs)
      | '0' :: cs => (8, '0' :: cs)
      | cs => (10, cs)
    let (n, length) := leadingDigits base cs.length cs
    ((if negative then -n else n : Int), arg == "" || length == cs.length && length != 0)

/-- The digits of a number to a base. -/
def digitsOf (base : Nat) (upper : Bool) (n : Nat) : List Char :=
  (Nat.toDigits base n).map fun c => if upper then c.toUpper else c

/-- A number as a conversion writes it. -/
def writtenNumber (c : Conversion) (n : Int) : Bytes :=
  let unsigned := (n % 18446744073709551616).toNat
  let (sign, digits) :=
    match c.kind with
    | 'u' => ("", digitsOf 10 false unsigned)
    | 'o' => (if c.flags.contains '#' then "0" else "", digitsOf 8 false unsigned)
    | 'x' => (if c.flags.contains '#' && n != 0 then "0x" else "", digitsOf 16 false unsigned)
    | 'X' => (if c.flags.contains '#' && n != 0 then "0X" else "", digitsOf 16 true unsigned)
    | _ =>
      (if n < 0 then "-" else if c.flags.contains '+' then "+"
        else if c.flags.contains ' ' then " " else "", digitsOf 10 false n.natAbs)
  let digits := List.replicate (c.places.getD 1 - digits.length) '0' ++ digits
  let zeros :=
    if c.flags.contains '0' && !c.flags.contains '-' && c.places.isNone then
      c.width - sign.length - digits.length
    else 0
  padded c (Utf8.encode (sign ++ String.ofList (List.replicate zeros '0' ++ digits)))

/-- What printing under a format has come to. -/
structure Formatted where
  bytes : Bytes := []
  complaints : List String := []
  left : List String
  stopped : Bool := false
  /-- Whether the format itself is to blame. -/
  malformed : Bool := false

/-- One pass over a format, with the arguments that are left. -/
def formatOnce : List FormatPart → Formatted → Formatted
  | [], f => f
  | .bytes bs :: ps, f => formatOnce ps { f with bytes := f.bytes ++ bs }
  | .argument c :: ps, f =>
    let arg := f.left.headD ""
    let f := { f with left := f.left.drop 1 }
    let cut (bs : Bytes) : Bytes := match c.places with
      | some n => bs.take n
      | none => bs
    match c.kind with
    | 's' => formatOnce ps { f with bytes := f.bytes ++ padded c (cut (Utf8.encode arg)) }
    | 'c' => formatOnce ps { f with bytes := f.bytes ++ padded c ((Utf8.encode arg ++ [0]).take 1) }
    | 'b' =>
      let (bs, stopped) := unescape .ofArguments arg
      let f := { f with bytes := f.bytes ++ padded c (cut bs) }
      if stopped then { f with stopped, left := [] } else formatOnce ps f
    | 'd' | 'i' | 'u' | 'o' | 'x' | 'X' =>
      let (n, complete) := argumentNumber arg
      let complaint :=
        if complete then []
        else if n == 0 then [arg ++ ": expected numeric value"]
        else [arg ++ ": not completely converted"]
      formatOnce ps { f with
        bytes := f.bytes ++ writtenNumber c n, complaints := f.complaints ++ complaint }
    | kind =>
      { f with
        stopped := true, malformed := true, left := []
        complaints := f.complaints ++ ["%" ++ String.singleton kind ++ ": invalid directive"] }

/-- A format used again as long as it takes up arguments. The fuel bounds the passes. -/
def formatAll (parts : List FormatPart) : Nat → Formatted → Formatted
  | 0, f => f
  | fuel + 1, f =>
    let g := formatOnce parts f
    if g.stopped || g.left.isEmpty || g.left.length == f.left.length then g
    else formatAll parts fuel g

/-- Prints arguments under a format. -/
def printFormatted : Tool := fun s args =>
  match args with
  | [] => (s.report "printf: usage: printf format [arg ...]").withStatus 2
  | format :: args =>
    let parts := formatParts (format.length + 1) format.toList
    let f := formatAll parts (args.length + 1) { left := args }
    let s := f.complaints.foldl (fun s c => s.report ("printf: " ++ c)) s
    (s.emit f.bytes).withStatus
      (if f.complaints.isEmpty then 0 else if f.malformed then 2 else 1)

end SchemaForge.Shell
