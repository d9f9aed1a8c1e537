import CodeAtlas.Number.Numeral
import CodeAtlas.Text.Pieces
/-!
  Dates and times in a TOML document.

  A date may be followed by a time, and that by the offset from the universal time.  `text` is what is
  displayed of a moment that stands alone: a blank between date and time, six digits of a fraction that is not
  zero, and the offset in hours and minutes.  `shown` is what is displayed inside of a list or a table: the
  parts as numbers, where a time goes down to seconds or millionths only if these are not zero.
-/
namespace CodeAtlas.Toml

/-- A day. -/
structure Day where
  year : Nat
  month : Nat
  day : Nat
deriving Repr, DecidableEq, Inhabited

/-- A time of the day. -/
structure Clock where
  hour : Nat
  minute : Nat
  second : Nat
  /-- millionths of a second -/
  micro : Nat
deriving Repr, DecidableEq, Inhabited

/-- A date, a time or both; the offset is in minutes ahead of the universal time. -/
inductive Moment where
  | date (d : Day)
  | time (t : Clock)
  | dateTime (d : Day) (t : Clock) (offset : Option Int)
deriving Repr, DecidableEq, Inhabited

/-! ## Display -/

/-- A number with at least so many digits. -/
def padded (width n : Nat) : String :=
  let digits := toString n
  String.ofList (List.replicate (width - digits.length) '0') ++ digits

namespace Day

/-- Year, month and day with dashes between them. -/
def text (d : Day) : String := padded 4 d.year ++ "-" ++ padded 2 d.month ++ "-" ++ padded 2 d.day

/-- The parts. -/
def parts (d : Day) : List Nat := [d.year, d.month, d.day]

end Day

namespace Clock

/-- Hour, minute and second with colons between them. -/
def text (t : Clock) : String :=
  padded 2 t.hour ++ ":" ++ padded 2 t.minute ++ ":" ++ padded 2 t.second
    ++ (if t.micro = 0 then "" else "." ++ padded 6 t.micro)

/-- The parts without zeros at the end; hour and minute always count. -/
def parts (t : Clock) : List Nat :=
  [t.hour, t.minute] ++ if t.micro ≠ 0 then [t.second, t.micro] else if t.second ≠ 0 then [t.second] else []

end Clock

namespace Moment

/-- An offset in hours and minutes. -/
def offsetText (offset : Int) : String :=
  let n := offset.natAbs
  (if offset < 0 then "-" else "+") ++ padded 2 (n / 60) ++ ":" ++ padded 2 (n % 60)

/-- An offset in days and seconds, of which only the days can be negative. -/
def offsetShown (offset : Int) : String :=
  if offset = 0 then "datetime.timezone.utc"
  else
    let days := if offset < 0 then "days=-1, " else ""
    "datetime.timezone(datetime.timedelta(" ++ days ++ "seconds=" ++ toString (offset * 60 % 86400) ++ "))"

/-- What is displayed of a moment that stands alone. -/
def text : Moment → String
  | date d => d.text
  | time t => t.text
  | dateTime d t offset => d.text ++ " " ++ t.text ++ (offset.map offsetText).getD ""

/-- What is displayed of a moment inside of a list or a table. -/
def shown : Moment → String
  | date d => "datetime.date(" ++ Text.join ", " (d.parts.map toString) ++ ")"
  | time t => "datetime.time(" ++ Text.join ", " (t.parts.map toString) ++ ")"
  | dateTime d t offset =>
    "datetime.datetime(" ++ Text.join ", " ((d.parts ++ t.parts).map toString)
      ++ (offset.map fun o => ", tzinfo=" ++ offsetShown o).getD "" ++ ")"

/-! ## Reading -/

/-- The number written by two digits, if it lies in a range. -/
def two? (low high : Nat) : List Char → Option (Nat × List Char)
  | a :: b :: rest =>
    let n := Numeral.decimal [a, b]
    if a.isDigit && b.isDigit && low ≤ n && n ≤ high then some (n, rest) else none
  | _ => none

/-- The rest after a character. -/
def after? (c : Char) : List Char → Option (List Char)
  | d :: rest => if d = c then some rest else none
  | [] => none

/-- The fraction of a second in millionths; further digits do not count. -/
def fraction : List Char → Nat × List Char
  | '.' :: rest =>
    let digits := rest.takeWhile Char.isDigit
    if digits.isEmpty then (0, '.' :: rest)
    else (Numeral.decimal ((digits ++ List.replicate 6 '0').take 6), rest.dropWhile Char.isDigit)
  | cs => (0, cs)

/-- A time at the front. -/
def time? (cs : List Char) : Option (Clock × List Char) := do
  let (hour, cs) ← two? 0 23 cs
  let (minute, cs) ← two? 0 59 (← after? ':' cs)
  let (second, cs) ← two? 0 59 (← after? ':' cs)
  let (micro, cs) := fraction cs
  return ({ hour, minute, second, micro }, cs)

/-- An offset at the front. -/
def offset? : List Char → Option (Int × List Char)
  | [] => none
  | c :: cs => do
    if c == 'Z' || c == 'z' then return (0, cs)
    else if c == '+' || c == '-' then
      let (hour, cs) ← two? 0 23 cs
      let (minute, cs) ← two? 0 59 (← after? ':' cs)
      let n : Int := hour * 60 + minute
      return (if c == '-' then -n else n, cs)
    else none

/-- The number of days of a month. -/
def daysIn (year month : Nat) : Nat :=
  if month = 2 then
    if year % 4 = 0 && (year % 100 ≠ 0 || year % 400 = 0) then 29 else 28
  else if [4, 6, 9, 11].contains month then 30
  else 31

/-- A date at the front, whether or not there is such a day. -/
def date? : List Char → Option (Day × List Char)
  | a :: b :: c :: d :: cs => do
    let digits := [a, b, c, d]
    if digits.all Char.isDigit then
      let (month, cs) ← two? 1 12 (← after? '-' cs)
      let (day, cs) ← two? 1 31 (← after? '-' cs)
      return ({ year := Numeral.decimal digits, month, day }, cs)
    else none
  | _ => none

/-- The time that may follow a date, with its offset. -/
def timeAfterDate? : List Char → Option (Clock × Option Int × List Char)
  | [] => none
  | c :: cs => do
    if c == 'T' || c == 't' || c == ' ' then
      let (clock, cs) ← time? cs
      match offset? cs with
      | some (offset, cs) => return (clock, some offset, cs)
      | none => return (clock, none, cs)
    else none

/-- What stands at the front of a text. -/
inductive Reading where
  /-- neither a date nor a time -/
  | absent
  /-- a day that does not exist -/
  | invalid
  | found (m : Moment) (rest : List Char)
deriving Repr, DecidableEq

/-- A date or a time at the front. -/
def read (cs : List Char) : Reading :=
  match date? cs with
  | some (d, rest) =>
    if d.year = 0 || daysIn d.year d.month < d.day then .invalid
    else
      match timeAfterDate? rest with
      | some (clock, offset, rest) => .found (dateTime d clock offset) rest
      | none => .found (date d) rest
  | none =>
    match time? cs with
    | some (clock, rest) => .found (time clock) rest
    | none => .absent

example : read "1979-05-27T07:32:00.50-07:00 ".toList
    = .found (.dateTime ⟨1979, 5, 27⟩ ⟨7, 32, 0, 500000⟩ (some (-420))) [' '] := by decide +kernel
example : read "2021-02-29".toList = .invalid ∧ read "2021-1-01".toList = .absent := by decide +kernel
example : text (.dateTime ⟨1979, 5, 27⟩ ⟨7, 32, 0, 0⟩ (some 0)) = "1979-05-27 07:32:00+00:00" := by decide +kernel
example : shown (.time ⟨7, 32, 0, 0⟩) = "datetime.time(7, 32)" := by decide +kernel

end Moment

end CodeAtlas.Toml
