import DocPages.Decimal.Layout
import DocPages.Decimal.Read
/-! # Days and moments

Days of the calendar and moments on them, with or without a distance from universal time.  A moment
is written as a text, or as an expression that makes it. -/
set_option autoImplicit false
namespace DocPages.Yaml

structure Day where
  year : Nat
  month : Nat
  day : Nat
  deriving DecidableEq

/-- A time of day on a day; `offset` counts minutes east of universal time. -/
structure Moment where
  date : Day
  hour : Nat
  minute : Nat
  second : Nat
  microsecond : Nat
  offset : Option Int
  deriving DecidableEq

inductive MomentError
  | year
  | month
  | day
  | hour
  | minute
  | second
  | offset (minutes : Int)
  deriving DecidableEq

/-! ## Texts -/

def two (n : Nat) : String := String.ofList (Decimal.padded 2 n)

def commas (parts : List String) : String := String.intercalate ", " parts

def Day.text (d : Day) : String :=
  String.ofList (Decimal.padded 4 d.year) ++ "-" ++ two d.month ++ "-" ++ two d.day

def Day.expression (d : Day) : String :=
  "datetime.date(" ++ commas ([d.year, d.month, d.day].map toString) ++ ")"

def offsetText (minutes : Int) : String :=
  (if minutes < 0 then "-" else "+") ++ two (minutes.natAbs / 60) ++ ":" ++ two (minutes.natAbs % 60)

def durationExpression (minutes : Int) : String :=
  let days := Int.fdiv minutes (24 * 60)
  let seconds := Int.fmod minutes (24 * 60) * 60
  let parts := (if days = 0 then [] else ["days=" ++ toString days])
    ++ (if seconds = 0 then [] else ["seconds=" ++ toString seconds])
  "datetime.timedelta(" ++ (if parts.isEmpty then "0" else commas parts) ++ ")"

def offsetExpression (minutes : Int) : String :=
  if minutes = 0 then "datetime.timezone.utc"
  else "datetime.timezone(" ++ durationExpression minutes ++ ")"

def MomentError.message : MomentError → String
  | .year => "year 0 is out of range"
  | .month => "month must be in 1..12"
  | .day => "day is out of range for month"
  | .hour => "hour must be in 0..23"
  | .minute => "minute must be in 0..59"
  | .second => "second must be in 0..59"
  | .offset minutes =>
    "offset must be a timedelta strictly between -timedelta(hours=24) and timedelta(hours=24), not "
      ++ durationExpression minutes ++ "."

namespace Moment

def text (m : Moment) : String :=
  m.date.text ++ " " ++ two m.hour ++ ":" ++ two m.minute ++ ":" ++ two m.second
    ++ (if m.microsecond = 0 then "" else "." ++ String.ofList (Decimal.padded 6 m.microsecond))
    ++ (match m.offset with
      | some o => offsetText o
      | none => "")

def expression (m : Moment) : String :=
  let tail :=
    if m.microsecond ≠ 0 then [m.second, m.microsecond]
    else if m.second ≠ 0 then [m.second]
    else []
  let numbers := [m.date.year, m.date.month, m.date.day, m.hour, m.minute] ++ tail
  let zone := match m.offset with
    | some o => ["tzinfo=" ++ offsetExpression o]
    | none => []
  "datetime.datetime(" ++ commas (numbers.map toString ++ zone) ++ ")"

end Moment

/-! ## The calendar -/

def isLeap (year : Nat) : Bool := year % 4 == 0 && (year % 100 != 0 || year % 400 == 0)

def daysIn (year month : Nat) : Nat :=
  if month = 2 then (if isLeap year then 29 else 28)
  else if [4, 6, 9, 11].contains month then 30
  else 31

namespace Day

def next (d : Day) : Day :=
  if d.day < daysIn d.year d.month then { d with day := d.day + 1 }
  else if d.month < 12 then ⟨d.year, d.month + 1, 1⟩
  else ⟨d.year + 1, 1, 1⟩

def make (year month day : Nat) : Except MomentError Day :=
  if year = 0 then .error .year
  else if month = 0 ∨ 12 < month then .error .month
  else if day = 0 ∨ daysIn year month < day then .error .day
  else .ok ⟨year, month, day⟩

end Day

namespace Moment

def nextSecond (m : Moment) : Moment :=
  if m.second < 59 then { m with second := m.second + 1 }
  else if m.minute < 59 then { m with minute := m.minute + 1, second := 0 }
  else if m.hour < 23 then { m with hour := m.hour + 1, minute := 0, second := 0 }
  else { m with date := m.date.next, hour := 0, minute := 0, second := 0 }

/-- The first six digits of a fraction of a second, rounded by the seventh. -/
def microseconds (fraction : List Char) : Nat :=
  let ds := fraction.take 6
  let n := ((Decimal.readNat 10 ds).getD 0) * Nat.pow 10 (6 - ds.length)
  if (fraction[6]?.getD '0') > '4' then n + 1 else n

def minutesPerDay : Nat := 24 * 60

/-- A moment from its parts; a fraction that rounds to a whole second adds one. -/
def make (year month day hour minute second : Nat) (fraction : List Char) (offset : Option Int) :
    Except MomentError Moment := do
  match offset with
  | some o => if minutesPerDay ≤ o.natAbs then .error (.offset o)
  | none => pure ()
  let date ← Day.make year month day
  if 23 < hour then .error .hour
  if 59 < minute then .error .minute
  if 59 < second then .error .second
  let n := microseconds fraction
  if n < 1000000 then return ⟨date, hour, minute, second, n, offset⟩
  else return Moment.nextSecond ⟨date, hour, minute, second, 0, offset⟩

end Moment
end DocPages.Yaml
