/-
# Dates and instants

Days of the calendar from year 1 to year 9999, with the leap years of the Gregorian rule extended
backwards, and points of time of a day, with or without an offset from universal time.

Two notations: the text of a date or an instant (`2024-03-01`, `2024-03-01T10:20:30.500000+02:00`),
and the display inside a message (`datetime.date(2024, 3, 1)`).
-/

import WorkflowKit.Number.Decimal

namespace WorkflowKit

/-- A day of the calendar. -/
structure Date where
  /-- The year, 1 to 9999. -/
  year : Nat
  /-- The month, 1 to 12. -/
  month : Nat
  /-- The day of the month. -/
  day : Nat
  deriving DecidableEq, Repr

/-- A point of time. -/
structure Instant where
  /-- The day. -/
  date : Date
  /-- The hour, 0 to 23. -/
  hour : Nat
  /-- The minute, 0 to 59. -/
  minute : Nat
  /-- The second, 0 to 59. -/
  second : Nat
  /-- Millionths of a second. -/
  micro : Nat
  /-- Minutes ahead of universal time, if they are known. -/
  offset : Option Int
  deriving DecidableEq, Repr

/-- Why numbers are no date, instant or offset. -/
inductive CalendarFault
  /-- The year is not between 1 and 9999. -/
  | year (n : Nat)
  /-- The month is not between 1 and 12. -/
  | month
  /-- The month does not have the day. -/
  | day
  /-- The hour is above 23. -/
  | hour
  /-- The minute is above 59. -/
  | minute
  /-- The second is above 59. -/
  | second
  /-- An offset, in minutes, is a day or more. -/
  | offset (minutes : Int)
  deriving DecidableEq, Repr

namespace Calendar

/-- The decimal digits of a number, with zeros in front up to a width. -/
def padded (width n : Nat) : String :=
  let ds := Number.natText n
  String.ofList (List.replicate (width - ds.length) '0' ++ ds)

/-- The decimal digits of an integer. -/
def plain (n : Int) : String :=
  String.ofList (Number.intText n)

/-- Whether a year has 366 days. -/
def isLeap (y : Nat) : Bool :=
  y % 4 == 0 && (y % 100 != 0 || y % 400 == 0)

/-- The number of days of a month. -/
def daysInMonth (y m : Nat) : Nat :=
  if m = 2 then (if isLeap y then 29 else 28)
  else if m = 4 ∨ m = 6 ∨ m = 9 ∨ m = 11 then 30
  else 31

/-- The number of days before a year, counted from year 1. -/
def daysBeforeYear (y : Nat) : Nat :=
  let p := y - 1
  365 * p + p / 4 - p / 100 + p / 400

/-- The number of days before a month, counted from the start of the year. -/
def daysBeforeMonth (y : Nat) : Nat → Nat
  | 0 | 1 => 0
  | m + 1 => daysBeforeMonth y m + daysInMonth y m

/-- The members of a length of time that are not zero, in days and seconds. -/
def spanDisplay (minutes : Int) : String :=
  let seconds := minutes * 60
  let days := seconds.fdiv 86400
  let rest := seconds.fmod 86400
  let parts := (if days = 0 then [] else ["days=" ++ plain days]) ++
    (if rest = 0 then [] else ["seconds=" ++ plain rest])
  "datetime.timedelta(" ++ (if parts.isEmpty then "0" else String.intercalate ", " parts) ++ ")"

end Calendar

open Calendar in
/-- The wording of a calendar fault. -/
def CalendarFault.message : CalendarFault → String
  | .year n => "year " ++ plain n ++ " is out of range"
  | .month => "month must be in 1..12"
  | .day => "day is out of range for month"
  | .hour => "hour must be in 0..23"
  | .minute => "minute must be in 0..59"
  | .second => "second must be in 0..59"
  | .offset minutes =>
    "offset must be a timedelta strictly between -timedelta(hours=24) and timedelta(hours=24), not "
      ++ spanDisplay minutes ++ "."

namespace Date
open Calendar

/-- The date of a year, a month and a day. -/
def of (year month day : Nat) : Except CalendarFault Date :=
  if year = 0 ∨ 9999 < year then .error (.year year)
  else if month = 0 ∨ 12 < month then .error .month
  else if day = 0 ∨ daysInMonth year month < day then .error .day
  else .ok ⟨year, month, day⟩

/-- The number of the day, counted from the first day of year 1. -/
def ordinal (d : Date) : Nat :=
  daysBeforeYear d.year + daysBeforeMonth d.year d.month + d.day

/-- The text of a date, such as `2024-03-01`. -/
def text (d : Date) : String :=
  padded 4 d.year ++ "-" ++ padded 2 d.month ++ "-" ++ padded 2 d.day

/-- The numbers of a date between commas. -/
def members (d : Date) : String :=
  plain d.year ++ ", " ++ plain d.month ++ ", " ++ plain d.day

/-- A date inside a message. -/
def display (d : Date) : String :=
  "datetime.date(" ++ d.members ++ ")"

end Date

namespace Instant
open Calendar

/-- Whether an offset is less than a day in both directions. -/
def checkOffset (minutes : Int) : Except CalendarFault Int :=
  if minutes ≤ -1440 ∨ 1440 ≤ minutes then .error (.offset minutes) else .ok minutes

/-- The point of time of a day. -/
def of (year month day hour minute second micro : Nat) (offset : Option Int) :
    Except CalendarFault Instant := do
  let offset ← match offset with
    | none => pure none
    | some minutes => some <$> checkOffset minutes
  let date ← Date.of year month day
  if 23 < hour then .error .hour
  else if 59 < minute then .error .minute
  else if 59 < second then .error .second
  else .ok ⟨date, hour, minute, second, micro, offset⟩

/-- Millionths of a second since the first day of year 1, on the clock of the instant. -/
def clock (t : Instant) : Int :=
  ((t.date.ordinal * 86400 + t.hour * 3600 + t.minute * 60 + t.second) * 1000000 + t.micro : Nat)

/-- Whether two instants are one point of time: by universal time if both have an offset, by the
clock if neither has. -/
def same (t u : Instant) : Bool :=
  match t.offset, u.offset with
  | none, none => t.clock == u.clock
  | some a, some b => t.clock - a * 60000000 == u.clock - b * 60000000
  | _, _ => false

/-- The text of an offset, such as `+05:30`. -/
def offsetText (minutes : Int) : String :=
  let n := minutes.natAbs
  (if minutes < 0 then "-" else "+") ++ padded 2 (n / 60) ++ ":" ++ padded 2 (n % 60)

/-- The text of an instant, with `separator` between day and time. -/
def textWith (separator : String) (t : Instant) : String :=
  t.date.text ++ separator ++ padded 2 t.hour ++ ":" ++ padded 2 t.minute ++ ":" ++
    padded 2 t.second ++ (if t.micro = 0 then "" else "." ++ padded 6 t.micro) ++
    (match t.offset with
      | none => ""
      | some minutes => offsetText minutes)

/-- The text of an instant, such as `2024-03-01T10:20:30.500000+02:00`. -/
def text (t : Instant) : String := t.textWith "T"

/-- An instant inside a message. -/
def display (t : Instant) : String :=
  "datetime.datetime(" ++ t.date.members ++ ", " ++ plain t.hour ++ ", " ++ plain t.minute ++
    (if t.second = 0 ∧ t.micro = 0 then "" else ", " ++ plain t.second) ++
    (if t.micro = 0 then "" else ", " ++ plain t.micro) ++
    (match t.offset with
      | none => ""
      | some 0 => ", tzinfo=datetime.timezone.utc"
      | some minutes => ", tzinfo=datetime.timezone(" ++ spanDisplay minutes ++ ")") ++ ")"

end Instant
end WorkflowKit
