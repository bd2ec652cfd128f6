/-! Points in time as YAML writes them: a date, or a date with a time of day and perhaps an offset
from universal time. -/
namespace PascalWorkspace.Yaml

structure Date where
  year : Nat
  month : Nat
  day : Nat
  deriving DecidableEq, Repr

structure TimeOfDay where
  hour : Nat
  minute : Nat
  second : Nat
  microsecond : Nat
  /-- In minutes; none if the time is local. -/
  offset : Option Int
  deriving DecidableEq, Repr

structure Timestamp where
  date : Date
  time : Option TimeOfDay
  deriving DecidableEq, Repr

namespace Timestamp

def number (digits : List Char) : Nat :=
  digits.foldl (fun n c => 10 * n + (c.toNat - '0'.toNat)) 0

/-- A number of at least `least` and at most `most` digits. -/
def digits? (least most : Nat) (cs : List Char) : Option (Nat × List Char) :=
  let found := (cs.take most).takeWhile Char.isDigit
  if found.length < least then none else some (number found, cs.drop found.length)

def expect? (c : Char) : List Char → Option (List Char)
  | first :: rest => if first = c then some rest else none
  | [] => none

def isGap (c : Char) : Bool := c == ' ' || c == '\t'

/-- What stands between a date and a time. -/
def separator? : List Char → Option (List Char)
  | 'T' :: rest => some rest
  | 't' :: rest => some rest
  | c :: rest => if isGap c then some (rest.dropWhile isGap) else none
  | [] => none

/-- The first six digits of a fraction of a second. -/
def microseconds (digits : List Char) : Nat :=
  number (digits.take 6 ++ List.replicate (6 - digits.length) '0')

def fraction (cs : List Char) : Nat × List Char :=
  match cs with
  | '.' :: rest =>
    let found := rest.takeWhile Char.isDigit
    (microseconds found, rest.drop found.length)
  | _ => (0, cs)

def signedOffset? (negative : Bool) (cs : List Char) : Option Int := do
  let (hours, rest) ← digits? 1 2 cs
  let minutes ← match rest with
    | [] => some 0
    | _ => do
      let (minutes, rest) ← digits? 2 2 (← expect? ':' rest)
      if rest.isEmpty then some minutes else none
  let total : Int := 60 * hours + minutes
  return if negative then -total else total

/-- The offset at the end of a time, if there is one. -/
def offset? (cs : List Char) : Option (Option Int) :=
  if cs.isEmpty then some none
  else match cs.dropWhile isGap with
    | ['Z'] => some (some 0)
    | '+' :: rest => (signedOffset? false rest).map some
    | '-' :: rest => (signedOffset? true rest).map some
    | _ => none

def time? (cs : List Char) : Option TimeOfDay := do
  let (hour, rest) ← digits? 1 2 cs
  let (minute, rest) ← digits? 2 2 (← expect? ':' rest)
  let (second, rest) ← digits? 2 2 (← expect? ':' rest)
  let (microsecond, rest) := fraction rest
  return { hour, minute, second, microsecond, offset := ← offset? rest }

/-- A date or a date with a time, whether or not there is such a day. -/
def parse? (cs : List Char) : Option Timestamp := do
  let (year, rest) ← digits? 4 4 cs
  let (month, rest) ← digits? 1 2 (← expect? '-' rest)
  let (day, rest) ← digits? 1 2 (← expect? '-' rest)
  if rest.isEmpty then return ⟨⟨year, month, day⟩, none⟩
  else return ⟨⟨year, month, day⟩, some (← time? (← separator? rest))⟩

/-- Whether a plain scalar is read as a point in time. A date alone has two digits for the day and
the month. -/
def isPlain (cs : List Char) : Bool :=
  match parse? cs with
  | none => false
  | some t => t.time.isSome || cs.length == 10

def isLeapYear (year : Nat) : Bool := year % 4 == 0 && (year % 100 != 0 || year % 400 == 0)

def daysInMonth (year month : Nat) : Nat :=
  if month = 2 then (if isLeapYear year then 29 else 28)
  else if month = 4 ∨ month = 6 ∨ month = 9 ∨ month = 11 then 30
  else 31

def Date.isPossible (d : Date) : Bool :=
  0 < d.year && 0 < d.month && d.month ≤ 12 && 0 < d.day && d.day ≤ daysInMonth d.year d.month

def minutesPerDay : Nat := 1440

def TimeOfDay.isPossible (t : TimeOfDay) : Bool :=
  t.hour < 24 && t.minute < 60 && t.second < 60 &&
    (t.offset.map fun o => decide (o.natAbs < minutesPerDay)).getD true

/-- Whether there is such a point in time. -/
def isPossible (t : Timestamp) : Bool :=
  Date.isPossible t.date && (t.time.map TimeOfDay.isPossible).getD true

/-- The days from the beginning of the calendar to a date. -/
def dayNumber (d : Date) : Nat :=
  let y := d.year - 1
  let before := (List.range (d.month - 1)).foldl (fun n m => n + daysInMonth d.year (m + 1)) 0
  365 * y + y / 4 - y / 100 + y / 400 + before + d.day

/-- The microseconds from the beginning of the calendar, less the offset. -/
def instant (d : Date) (t : TimeOfDay) : Int :=
  let minutes : Int := (dayNumber d * minutesPerDay + t.hour * 60 + t.minute : Nat)
  ((minutes - t.offset.getD 0) * 60 + t.second) * 1000000 + t.microsecond

/-- Whether two points in time are the same: two dates, two local times, or two instants. -/
def same (a b : Timestamp) : Bool :=
  match a.time, b.time with
  | none, none => a.date == b.date
  | some s, some t =>
    s.offset.isSome == t.offset.isSome && instant a.date s == instant b.date t
  | _, _ => false

def padded (width n : Nat) : String :=
  let digits := Nat.toDigits 10 n
  String.ofList (List.replicate (width - digits.length) '0' ++ digits)

def offsetText (offset : Int) : String :=
  let sign := if offset < 0 then "-" else "+"
  sign ++ padded 2 (offset.natAbs / 60) ++ ":" ++ padded 2 (offset.natAbs % 60)

def dateText (d : Date) : String :=
  padded 4 d.year ++ "-" ++ padded 2 d.month ++ "-" ++ padded 2 d.day

def timeText (t : TimeOfDay) : String :=
  let fraction := if t.microsecond = 0 then "" else "." ++ padded 6 t.microsecond
  padded 2 t.hour ++ ":" ++ padded 2 t.minute ++ ":" ++ padded 2 t.second ++ fraction ++
    (t.offset.map offsetText).getD ""

/-- A point in time as text. -/
def text (t : Timestamp) : String :=
  match t.time with
  | none => dateText t.date
  | some time => dateText t.date ++ " " ++ timeText time

/-- An offset as days, if it is negative, and seconds. -/
def describeOffset (offset : Int) : String :=
  if offset = 0 then "datetime.timezone.utc"
  else
    let seconds := Int.emod (offset * 60) 86400
    let days := if offset < 0 then "days=-1, " else ""
    s!"datetime.timezone(datetime.timedelta({days}seconds={seconds}))"

/-- A point in time as it is shown inside a collection. -/
def describe (t : Timestamp) : String :=
  let day := s!"{t.date.year}, {t.date.month}, {t.date.day}"
  match t.time with
  | none => s!"datetime.date({day})"
  | some time =>
    let seconds :=
      if time.microsecond ≠ 0 then s!", {time.second}, {time.microsecond}"
      else if time.second ≠ 0 then s!", {time.second}"
      else ""
    let zone := (time.offset.map fun o => ", tzinfo=" ++ describeOffset o).getD ""
    s!"datetime.datetime({day}, {time.hour}, {time.minute}{seconds}{zone})"

end Timestamp

end PascalWorkspace.Yaml
