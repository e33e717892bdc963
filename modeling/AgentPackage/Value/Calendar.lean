import AgentPackage.Decimal.FloatText

/-!
# Dates and times of day

Calendar dates of the Gregorian calendar from year 1 to year 9999, times of day with
microseconds, and offsets from universal time, with the conditions under which they exist and
their text.
-/

namespace AgentPackage

/-- A calendar date. -/
structure Date where
  /-- The year, 1 to 9999. -/
  year : Nat
  /-- The month, 1 to 12. -/
  month : Nat
  /-- The day of the month, from 1. -/
  day : Nat
  deriving DecidableEq, Repr, Inhabited

/-- A date with a time of day and possibly an offset from universal time. -/
structure DateTime where
  /-- The date. -/
  date : Date
  /-- The hour, 0 to 23. -/
  hour : Nat
  /-- The minute, 0 to 59. -/
  minute : Nat
  /-- The second, 0 to 59. -/
  second : Nat
  /-- The microsecond, below a million. -/
  microsecond : Nat
  /-- The offset from universal time in minutes, if one was given. -/
  offset : Option Int
  deriving DecidableEq, Repr, Inhabited

/-- The part of a date or time that lies outside its range. -/
inductive CalendarFault where
  /-- There is no such year. -/
  | year (value : Nat)
  /-- There is no such month. -/
  | month
  /-- The month has no such day. -/
  | day
  /-- There is no such hour. -/
  | hour
  /-- There is no such minute. -/
  | minute
  /-- There is no such second. -/
  | second
  /-- The offset, in minutes, is a day or more. -/
  | offset (minutes : Int)
  deriving DecidableEq, Repr

namespace Date

/-- Whether a year has a 29th of February. -/
def isLeap (year : Nat) : Bool :=
  year % 4 == 0 && (year % 100 != 0 || year % 400 == 0)

/-- The number of days of a month. -/
def daysIn (year month : Nat) : Nat :=
  if month == 2 then (if isLeap year then 29 else 28)
  else if month == 4 || month == 6 || month == 9 || month == 11 then 30
  else 31

/-- The date with the given parts, or the first part that is out of range. -/
def make (year month day : Nat) : Except CalendarFault Date :=
  if year < 1 || 9999 < year then .error (.year year)
  else if month < 1 || 12 < month then .error .month
  else if day < 1 || daysIn year month < day then .error .day
  else .ok ⟨year, month, day⟩

/-- The text `YYYY-MM-DD` of a date. -/
def text (d : Date) : String :=
  String.ofList (Decimal.padded 4 d.year ++ '-' :: Decimal.padded 2 d.month ++
    '-' :: Decimal.padded 2 d.day)

/-- The number of days from a fixed day to the date. -/
def dayNumber (d : Date) : Int :=
  let y : Int := d.year - 1
  let before := (List.range (d.month - 1)).foldl (fun n m => n + daysIn d.year (m + 1)) 0
  365 * y + y / 4 - y / 100 + y / 400 + before + d.day

end Date

namespace DateTime

/-- Checks the ranges of a date, a time of day and an offset; the offset is looked at first,
then the parts from the year down. -/
def make (year month day hour minute second microsecond : Nat) (offset : Option Int) :
    Except CalendarFault DateTime := do
  if let some m := offset then
    if m ≤ -1440 || 1440 ≤ m then throw (.offset m)
  let date ← Date.make year month day
  if 23 < hour then throw .hour
  if 59 < minute then throw .minute
  if 59 < second then throw .second
  return ⟨date, hour, minute, second, microsecond, offset⟩

/-- The text `+HH:MM` or `-HH:MM` of an offset. -/
def offsetText (minutes : Int) : String :=
  let sign := if minutes < 0 then '-' else '+'
  let n := minutes.natAbs
  String.ofList (sign :: Decimal.padded 2 (n / 60) ++ ':' :: Decimal.padded 2 (n % 60))

/-- The text `YYYY-MM-DDTHH:MM:SS`, with microseconds unless they are zero, and with the offset
if there is one. -/
def text (t : DateTime) : String :=
  let clock := Decimal.padded 2 t.hour ++ ':' :: Decimal.padded 2 t.minute ++
    ':' :: Decimal.padded 2 t.second
  let fraction := if t.microsecond == 0 then [] else '.' :: Decimal.padded 6 t.microsecond
  t.date.text ++ "T" ++ String.ofList (clock ++ fraction) ++
    (match t.offset with | some m => offsetText m | none => "")

/-- The instant in microseconds, counted in local time if there is no offset. -/
def instant (t : DateTime) : Int :=
  let minutes := t.date.dayNumber * 1440 + t.hour * 60 + t.minute - t.offset.getD 0
  (minutes * 60 + t.second) * 1000000 + t.microsecond

/-- Whether two times denote the same instant; a time without an offset equals only times
without one. -/
def sameInstant (a b : DateTime) : Bool :=
  a.offset.isSome == b.offset.isSome && a.instant == b.instant

end DateTime

end AgentPackage
