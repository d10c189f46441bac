import SchemaForge.Shell.Printing

/-!
# Conditions

The conditions that a script can test: texts, whole numbers and files, joined by negation,
conjunction and disjunction.

## Main definitions

* `Shell.Condition.holds` : whether a condition holds, or what is wrong with it.
* `Shell.test`, `Shell.bracket` : the commands.
-/

namespace SchemaForge.Shell

namespace Condition

/-- The operators in front of one argument. -/
def unaryOperators : List String := [
  "-r", "-w", "-x", "-e", "-f", "-d", "-c", "-b", "-p", "-u", "-g", "-k", "-s", "-t", "-z", "-n",
  "-h", "-L", "-O", "-G", "-S"]

/-- The operators between two arguments. -/
def binaryOperators : List String := [
  "=", "!=", "<", ">", "-eq", "-ne", "-ge", "-gt", "-le", "-lt", "-nt", "-ot", "-ef"]

/-- What the first of some arguments is. -/
inductive Role where
  | nothing
  | operand
  | unary
  | binary
  | negation
  | conjunction
  | disjunction
  | opening
  | closing
  deriving DecidableEq

/-- What the first of some arguments is. An operator with nothing to work on is an operand. -/
def role : List String → Role
  | [] => .nothing
  | s :: rest =>
    if unaryOperators.contains s then
      match rest with
      | [] => .operand
      | [_] => .unary
      | next :: _ => if binaryOperators.contains next then .operand else .unary
    else if binaryOperators.contains s then .binary
    else if s == "!" then .negation
    else if s == "-a" then .conjunction
    else if s == "-o" then .disjunction
    else if s == "(" then (if rest.isEmpty then .operand else .opening)
    else if s == ")" then .closing
    else .operand

/-- The whole number that an argument denotes. -/
def number (s : String) : Except String Int :=
  let isBlank (c : Char) : Bool := c == ' ' || c == '\t' || c == '\n'
  let cs := ((s.toList.dropWhile isBlank).reverse.dropWhile isBlank).reverse
  let (sign, digits) :=
    match cs with
    | '-' :: ds => ((-1 : Int), ds)
    | '+' :: ds => (1, ds)
    | ds => (1, ds)
  let (n, length) := leadingDigits 10 digits.length digits
  if length == digits.length && length != 0 then .ok (sign * n)
  else .error ("Illegal number: " ++ s)

/-- The node at the entry that a path names, which may be a link. -/
def nodeNamed (fs : FileSystem) (path : String) : Option Node :=
  match fs.resolve .entry ⟨path⟩ with
  | .ok loc => fs.node? loc
  | .error _ => none

/-- Whether an operator holds of an argument. -/
def holdsOf (fs : FileSystem) (op arg : String) : Bool :=
  let node := fs.stat ⟨arg⟩
  match op with
  | "-z" => arg == ""
  | "-n" => arg != ""
  | "-e" | "-r" | "-w" | "-O" | "-G" => node.isOk
  | "-f" => fs.isFile ⟨arg⟩
  | "-d" => fs.isDirectory ⟨arg⟩
  | "-x" => (node matches .ok (.file _ true) | .ok (.directory _))
  | "-s" =>
    match node with
    | .ok (.file content _) => !content.isEmpty
    | .ok (.directory _) => true
    | _ => false
  | "-c" => (node matches .ok (.device _))
  | "-h" | "-L" => (nodeNamed fs arg matches some (.link _))
  | _ => false

/-- Whether an operator holds of two arguments. -/
def holdsBetween (fs : FileSystem) (op a b : String) : Except String Bool := do
  match op with
  | "=" => return a == b
  | "!=" => return a != b
  | "<" => return a < b
  | ">" => return b < a
  | "-nt" | "-ot" => return false
  | "-ef" =>
    return match fs.resolve .target ⟨a⟩, fs.resolve .target ⟨b⟩ with
      | .ok l, .ok m => l == m
      | _, _ => false
  | _ =>
    let m ← number a
    let n ← number b
    return match op with
      | "-eq" => m == n
      | "-ne" => m != n
      | "-ge" => n ≤ m
      | "-gt" => n < m
      | "-le" => m ≤ n
      | _ => m < n

/-- Evaluates an operand with the operator that may follow it. -/
def operand (fs : FileSystem) (a : String) (rest : List String) :
    Except String (Bool × List String) :=
  if role rest == .binary then
    match rest with
    | op :: b :: rest => (holdsBetween fs op a b).map fun v => (v, rest)
    | op :: _ => .error (op ++ ": argument expected")
    | [] => .ok (a != "", [])
  else .ok (a != "", rest)

mutual

/-- Evaluates a disjunction at the front of the arguments. The fuel bounds their number. -/
def disjunction (fs : FileSystem) : Nat → List String → Except String (Bool × List String)
  | 0, args => .ok (false, args)
  | fuel + 1, args => do
    let (a, rest) ← conjunction fs fuel args
    if role rest == .disjunction then
      let (b, rest) ← disjunction fs fuel (rest.drop 1)
      return (a || b, rest)
    else return (a, rest)

/-- Evaluates a conjunction at the front of the arguments. -/
def conjunction (fs : FileSystem) : Nat → List String → Except String (Bool × List String)
  | 0, args => .ok (false, args)
  | fuel + 1, args => do
    let (a, rest) ← negation fs fuel args
    if role rest == .conjunction then
      let (b, rest) ← conjunction fs fuel (rest.drop 1)
      return (a && b, rest)
    else return (a, rest)

/-- Evaluates a condition with the negations in front of it. -/
def negation (fs : FileSystem) : Nat → List String → Except String (Bool × List String)
  | 0, args => .ok (false, args)
  | fuel + 1, args =>
    if role args == .negation then (negation fs fuel (args.drop 1)).map fun r => (!r.1, r.2)
    else primary fs fuel args

/-- Evaluates one condition. -/
def primary (fs : FileSystem) : Nat → List String → Except String (Bool × List String)
  | 0, args => .ok (false, args)
  | fuel + 1, args =>
    match args with
    | [] => .ok (false, [])
    | a :: rest =>
      if role args == .opening then
        if role rest == .closing then .ok (false, rest.drop 1)
        else do
          let (v, rest) ← disjunction fs fuel rest
          if role rest == .closing then return (v, rest.drop 1)
          else .error "closing paren expected"
      else if role args == .unary then .ok (holdsOf fs a (rest.headD ""), rest.drop 1)
      else operand fs a rest

end

/-- Whether a condition holds, or what is wrong with it. Three arguments with an operator in
the middle are a comparison, whatever they are. -/
def holds (fs : FileSystem) (args : List String) : Except String Bool := do
  let inParens := args.head? == some "(" && args.getLast? == some ")"
  let fuel := 4 * args.length + 4
  let complete (args : List String) (r : Bool × List String) : Except String Bool :=
    match r.2 with
    | [] => .ok r.1
    | left => .error ((args[args.length - left.length - 1]?).getD "" ++ ": unexpected operator")
  match args with
  | [] => return false
  | [a, op, b] =>
    if binaryOperators.contains op then holdsBetween fs op a b
    else if inParens then complete [op] (← disjunction fs fuel [op])
    else if a == "!" then return !(← complete [op, b] (← disjunction fs fuel [op, b]))
    else complete args (← disjunction fs fuel args)
  | [a, b, c, d] =>
    if inParens then complete [b, c] (← disjunction fs fuel [b, c])
    else if a == "!" then return !(← complete [b, c, d] (← disjunction fs fuel [b, c, d]))
    else complete args (← disjunction fs fuel args)
  | _ => complete args (← disjunction fs fuel args)

end Condition

/-- The command that tests a condition, under one of its names. -/
def testNamed (name : String) : Tool := fun s args =>
  match Condition.holds s.files args with
  | .ok true => s.withStatus 0
  | .ok false => s.withStatus 1
  | .error why => (s.report (name ++ ": " ++ why)).withStatus 2

/-- Tests a condition. -/
def test : Tool := testNamed "test"

/-- Tests a condition that a bracket closes. -/
def bracket : Tool := fun s args =>
  if args.getLast? == some "]" then testNamed "[" s args.dropLast
  else (s.report "[: missing ]").withStatus 2

end SchemaForge.Shell
