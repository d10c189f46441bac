import SchemaForge.Json.Reader

/-!
# Dates and times in TOML documents

## Main definitions

* `Toml.Moment` : a date, a time of day, or both, and then perhaps its distance from
  universal time.
* `Toml.Moment.ofText?`, `Toml.Moment.text` : reading and writing one.
-/

namespace SchemaForge.Toml

/-- A day of the calendar. -/
structure Date where
  year : Nat
  month : Nat
  day : Nat
  deriving Repr, DecidableEq

/-- A time of day. The second may be left out, and its fraction. -/
structure Time where
  hour : Nat
  minute : Nat
  second : Option Nat
  nanosecond : Option Nat
  deriving Repr, DecidableEq

/-- The distance of a clock from universal time. -/
inductive Offset where
  | universal
  | minutes (n : Int)
  deriving Repr, DecidableEq

/-- A date, a time of day, or both. -/
structure Moment where
  date : Option Date
  time : Option Time
  offset : Option Offset
  deriving Repr, DecidableEq

/-- How many days a month has. -/
def daysIn (year month : Nat) : Nat :=
  if month == 2 then
    if year % 4 == 0 && (year % 100 != 0 || year % 400 == 0) then 29 else 28
  else if [4, 6, 9, 11].contains month then 30 else 31

/-- The number of exactly `n` digits at the front of a text. -/
def readDigits (n : Nat) (cs : List Char) : Option (Nat × List Char) :=
  let (ds, rest) := Json.spanDigits cs
  if ds.length == n then some (Json.decimalValue ds, rest) else none

/-- What follows a mark at the front of a text. -/
def afterMark? (mark : Char) : List Char → Option (List Char)
  | c :: rest => if c == mark then some rest else none
  | [] => none

/-- A date at the front of a text. -/
def readDate (cs : List Char) : Option (Date × List Char) := do
  let (year, cs) ← readDigits 4 cs
  let cs ← afterMark? '-' cs
  let (month, cs) ← readDigits 2 cs
  let cs ← afterMark? '-' cs
  let (day, cs) ← readDigits 2 cs
  if 1 ≤ month && month ≤ 12 && 1 ≤ day && day ≤ daysIn year month then
    return (⟨year, month, day⟩, cs)
  else none

/-- The nanoseconds that the digits after the point of a second denote. -/
def nanoseconds (digits : List Char) : Nat :=
  let nine := digits.take 9
  Json.decimalValue nine * Nat.pow 10 (9 - nine.length)

/-- The fraction of a second at the front of a text, if there is one. -/
def readFraction : List Char → Option (Option Nat × List Char)
  | '.' :: cs =>
    let (digits, rest) := Json.spanDigits cs
    if digits.isEmpty then none else some (some (nanoseconds digits), rest)
  | cs => some (none, cs)

/-- The second at the front of a text and its fraction, if there are any. A minute may have a
leap second. -/
def readSecond : List Char → Option ((Option Nat × Option Nat) × List Char)
  | ':' :: cs => do
    let (second, cs) ← readDigits 2 cs
    let (fraction, cs) ← readFraction cs
    if 60 < second then none else return ((some second, fraction), cs)
  | cs => some ((none, none), cs)

/-- A time of day at the front of a text. -/
def readTime (cs : List Char) : Option (Time × List Char) := do
  let (hour, cs) ← readDigits 2 cs
  let cs ← afterMark? ':' cs
  let (minute, cs) ← readDigits 2 cs
  let ((second, fraction), cs) ← readSecond cs
  if 23 < hour || 59 < minute then none else return (⟨hour, minute, second, fraction⟩, cs)

/-- The offset of hours and minutes after its sign. -/
def readOffset (negative : Bool) (cs : List Char) : Option (Offset × List Char) := do
  let (hours, cs) ← readDigits 2 cs
  let cs ← afterMark? ':' cs
  let (minutes, cs) ← readDigits 2 cs
  if 23 < hours || 59 < minutes then none
  else
    let n : Int := hours * 60 + minutes
    return (.minutes (if negative then -n else n), cs)

/-- The offset that is a whole text, which may be empty. -/
def offsetOf? : List Char → Option (Option Offset)
  | [] => some none
  | ['Z'] => some (some .universal)
  | ['z'] => some (some .universal)
  | c :: cs =>
    if c == '+' || c == '-' then
      match readOffset (c == '-') cs with
      | some (offset, []) => some (some offset)
      | _ => none
    else none

/-- The moment that a whole text denotes. -/
def Moment.ofText? (cs : List Char) : Option Moment :=
  match readDate cs with
  | some (date, []) => some ⟨some date, none, none⟩
  | some (date, c :: cs) =>
    if c == 'T' || c == 't' || c == ' ' then do
      let (time, cs) ← readTime cs
      let offset ← offsetOf? cs
      return ⟨some date, some time, offset⟩
    else none
  | none =>
    match readTime cs with
    | some (time, []) => some ⟨none, some time, none⟩
    | _ => none

/-- A number in at least `n` digits. -/
def padded (n value : Nat) : String :=
  let ds := Nat.toDigits 10 value
  String.ofList (List.replicate (n - ds.length) '0' ++ ds)

/-- The text of a date. -/
def Date.text (d : Date) : String :=
  padded 4 d.year ++ "-" ++ padded 2 d.month ++ "-" ++ padded 2 d.day

/-- The digits of a fraction in nanoseconds, without needless zeros at its end. -/
def fractionText (nanosecond : Nat) : String :=
  let digits := ((padded 9 nanosecond).toList.reverse.dropWhile (· == '0')).reverse
  if digits.isEmpty then "0" else String.ofList digits

/-- The text of a time of day. -/
def Time.text (t : Time) : String :=
  padded 2 t.hour ++ ":" ++ padded 2 t.minute ++
    ((t.second.map fun s => ":" ++ padded 2 s).getD "") ++
    ((t.nanosecond.map fun n => "." ++ fractionText n).getD "")

/-- The text of an offset. -/
def Offset.text : Offset → String
  | universal => "Z"
  | minutes n =>
    (if n < 0 then "-" else "+") ++ padded 2 (n.natAbs / 60) ++ ":" ++ padded 2 (n.natAbs % 60)

/-- The text of a moment. -/
def Moment.text (m : Moment) : String :=
  let date := (m.date.map Date.text).getD ""
  let time := (m.time.map Time.text).getD ""
  let mark := if m.date.isSome && m.time.isSome then "T" else ""
  date ++ mark ++ time ++ (m.offset.map Offset.text).getD ""

end SchemaForge.Toml
