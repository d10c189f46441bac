/-!
# Expressions on whole numbers

The expressions that a script can compute: whole numbers of 64 bits with the operators of
arithmetic, comparison, logic and bits, on variables that may be set on the way.

## Main definitions

* `Shell.Expression` : an expression.
* `Shell.Expression.parse?` : the expression that a text denotes.
* `Shell.Expression.eval` : its value.
-/

namespace SchemaForge.Shell

/-- An expression on whole numbers. -/
inductive Expression where
  | number (n : Int)
  | read (name : String)
  | unary (op : String) (e : Expression)
  | binary (op : String) (a b : Expression)
  | conditional (test yes no : Expression)
  /-- The variable is set to the value, which an operator may combine with its old one. -/
  | assign (name : String) (op : Option String) (e : Expression)
  deriving Repr

namespace Expression

/-- A part of the text of an expression. -/
inductive Mark where
  | number (n : Int)
  | name (s : String)
  | operator (s : String)
  deriving Repr, DecidableEq

/-- The operators, longer ones first. -/
def operators : List String := [
  "<<=", ">>=", "<<", ">>", "<=", ">=", "==", "!=", "&&", "||", "+=", "-=", "*=", "/=", "%=",
  "&=", "|=", "^=", "+", "-", "*", "/", "%", "<", ">", "=", "!", "~", "&", "|", "^", "?", ":",
  "(", ")"]

/-- The value of a digit in bases up to sixteen. -/
def digit? (c : Char) : Option Nat :=
  if c.isDigit then some (c.toNat - 0x30)
  else if 'a' ≤ c && c ≤ 'f' then some (c.toNat - 0x61 + 10)
  else if 'A' ≤ c && c ≤ 'F' then some (c.toNat - 0x41 + 10)
  else none

/-- The number that digits denote in a base. -/
def number? (base : Nat) (cs : List Char) : Option Nat :=
  if cs.isEmpty then none
  else cs.foldlM (fun n c => do
    let d ← digit? c
    if d < base then some (n * base + d) else none) 0

/-- The number that a word denotes: decimal, octal after a zero, or to base sixteen. -/
def constant? : List Char → Option Int
  | '0' :: 'x' :: cs | '0' :: 'X' :: cs => (number? 16 cs).map Int.ofNat
  | '0' :: c :: cs => (number? 8 (c :: cs)).map Int.ofNat
  | cs => (number? 10 cs).map Int.ofNat

/-- Cuts the text of an expression. The fuel bounds the number of parts. -/
def marks? : Nat → List Char → Option (List Mark)
  | _, [] => some []
  | 0, _ => none
  | fuel + 1, c :: cs =>
    if c == ' ' || c == '\t' || c == '\n' then marks? fuel cs
    else if c.isAlphanum || c == '_' then
      let inWord (c : Char) : Bool := c.isAlphanum || c == '_'
      let word := (c :: cs).takeWhile inWord
      let mark : Option Mark :=
        if c.isDigit then (constant? word).map .number else some (.name (String.ofList word))
      match mark, marks? fuel ((c :: cs).dropWhile inWord) with
      | some m, some ms => some (m :: ms)
      | _, _ => none
    else
      match operators.find? fun op => op.toList.isPrefixOf (c :: cs) with
      | some op => (marks? fuel ((c :: cs).drop op.length)).map (.operator op :: ·)
      | none => none

/-- How tightly an operator between two expressions binds. -/
def level? : String → Option Nat
  | "||" => some 1
  | "&&" => some 2
  | "|" => some 3
  | "^" => some 4
  | "&" => some 5
  | "==" | "!=" => some 6
  | "<" | ">" | "<=" | ">=" => some 7
  | "<<" | ">>" => some 8
  | "+" | "-" => some 9
  | "*" | "/" | "%" => some 10
  | _ => none

/-- The operator that an assignment combines values with; `none` if it is no assignment. -/
def assignment? (op : String) : Option (Option String) :=
  if op == "=" then some none
  else if ["<<=", ">>=", "+=", "-=", "*=", "/=", "%=", "&=", "|=", "^="].contains op then
    some (some (String.ofList op.toList.dropLast))
  else none

mutual

/-- Reads an expression with its assignments and choices. -/
def readFull : Nat → List Mark → Option (Expression × List Mark)
  | 0, _ => none
  | fuel + 1, ms =>
    match ms with
    | .name x :: .operator op :: rest =>
      match assignment? op with
      | some op => do
        let (e, rest) ← readFull fuel rest
        return (.assign x op e, rest)
      | none => readChoice fuel ms
    | _ => readChoice fuel ms

/-- Reads a choice between two expressions, or one alone. -/
def readChoice : Nat → List Mark → Option (Expression × List Mark)
  | 0, _ => none
  | fuel + 1, ms => do
    let (test, rest) ← readUnary fuel ms
    let (test, rest) ← readBinary fuel 1 test rest
    match rest with
    | .operator "?" :: rest =>
      let (yes, rest) ← readFull fuel rest
      match rest with
      | .operator ":" :: rest =>
        let (no, rest) ← readChoice fuel rest
        return (.conditional test yes no, rest)
      | _ => none
    | _ => return (test, rest)

/-- Reads the operators that follow an expression, if they bind at least as tightly as
`least`. -/
def readBinary : Nat → Nat → Expression → List Mark → Option (Expression × List Mark)
  | 0, _, _, _ => none
  | fuel + 1, least, e, ms =>
    match ms with
    | .operator op :: rest =>
      match level? op with
      | some level =>
        if level < least then some (e, ms)
        else do
          let (right, rest) ← readUnary fuel rest
          let (right, rest) ← readBinary fuel (level + 1) right rest
          readBinary fuel least (.binary op e right) rest
      | none => some (e, ms)
    | _ => some (e, ms)

/-- Reads a number, a variable, or what parentheses or an operator in front make of an
expression. -/
def readUnary : Nat → List Mark → Option (Expression × List Mark)
  | 0, _ => none
  | fuel + 1, ms =>
    match ms with
    | .number n :: rest => some (.number n, rest)
    | .name x :: rest => some (.read x, rest)
    | .operator "(" :: rest => do
      let (e, rest) ← readFull fuel rest
      match rest with
      | .operator ")" :: rest => some (e, rest)
      | _ => none
    | .operator op :: rest =>
      if ["+", "-", "!", "~"].contains op then do
        let (e, rest) ← readUnary fuel rest
        return (.unary op e, rest)
      else none
    | [] => none

end

/-- The expression that a text denotes; the blank one is zero. -/
def parse? (s : String) : Option Expression := do
  let ms ← marks? (s.length + 1) s.toList
  if ms.isEmpty then return .number 0
  match ← readFull (8 * ms.length + 8) ms with
  | (e, []) => return e
  | _ => none

/-- The number of 64 bits that a number comes to. -/
def wrap (n : Int) : Int := Int.bmod n 18446744073709551616

/-- The bits of a number of 64 bits. -/
def bits (n : Int) : Nat := (n % 18446744073709551616).toNat

/-- The number of a truth value. -/
def ofBool (b : Bool) : Int := if b then 1 else 0

/-- The value of an operator on two numbers; `none` for a division by zero. -/
def combined (op : String) (a b : Int) : Option Int :=
  match op with
  | "+" => some (wrap (a + b))
  | "-" => some (wrap (a - b))
  | "*" => some (wrap (a * b))
  | "/" => if b == 0 then none else some (wrap (Int.tdiv a b))
  | "%" => if b == 0 then none else some (Int.tmod a b)
  | "<" => some (ofBool (a < b))
  | ">" => some (ofBool (b < a))
  | "<=" => some (ofBool (a ≤ b))
  | ">=" => some (ofBool (b ≤ a))
  | "==" => some (ofBool (a == b))
  | "!=" => some (ofBool (a != b))
  | "&" => some (wrap (bits a &&& bits b))
  | "|" => some (wrap (bits a ||| bits b))
  | "^" => some (wrap (bits a ^^^ bits b))
  | "<<" => some (wrap (bits a <<< (bits b % 64)))
  | ">>" => some (a >>> (bits b % 64))
  | _ => some b

/-- Why an expression has no value. -/
inductive Fault where
  | divisionByZero
  | illegalNumber (s : String)
  deriving Repr, DecidableEq

/-- The value of a variable, which may have been set before. -/
def valueOf (look : String → Except Fault Int) (set : List (String × Int)) (x : String) :
    Except Fault Int :=
  match set.find? (·.1 == x) with
  | some v => .ok v.2
  | none => look x

/-- The value of an expression, and the variables after it. `look` is the value of a variable
before it, and `set` holds those set since, the latest first. -/
def eval (look : String → Except Fault Int) :
    Expression → List (String × Int) → Except Fault (Int × List (String × Int))
  | number n, set => .ok (wrap n, set)
  | read x, set => (valueOf look set x).map fun n => (n, set)
  | unary op e, set => do
    let (n, set) ← e.eval look set
    match op with
    | "-" => return (wrap (-n), set)
    | "!" => return (ofBool (n == 0), set)
    | "~" => return (wrap (-n - 1), set)
    | _ => return (n, set)
  | binary op a b, set => do
    let (m, set) ← a.eval look set
    if op == "&&" && m == 0 then return (0, set)
    else if op == "||" && m != 0 then return (1, set)
    else
      let (n, set) ← b.eval look set
      if op == "&&" || op == "||" then return (ofBool (n != 0), set)
      else
        match combined op m n with
        | some r => return (r, set)
        | none => .error .divisionByZero
  | conditional test yes no, set => do
    let (n, set) ← test.eval look set
    if n != 0 then yes.eval look set else no.eval look set
  | assign x op e, set => do
    let (n, set) ← e.eval look set
    match op with
    | none => return (n, (x, n) :: set)
    | some op =>
      let m ← valueOf look set x
      match combined op m n with
      | some r => return (r, (x, r) :: set)
      | none => .error .divisionByZero

end Expression

end SchemaForge.Shell
