import BeanKit.Text.Pieces
/-!
# Dates and times

The proleptic Gregorian calendar, and moments as seconds since the start of 1970. A leap second is
written as second sixty: its nanoseconds run on past a full second.
-/

namespace BeanKit

/-- A day of the calendar. -/
structure Date where
  year : Int
  month : Nat
  day : Nat
  deriving Repr, DecidableEq

/-- A moment: whole seconds since the start of 1970 and nanoseconds on top, which reach a second or
more in a leap second. -/
structure Timestamp where
  seconds : Int
  nanoseconds : Nat
  deriving Repr, DecidableEq

namespace Date

/-- A year: four digits at least, behind a minus sign when negative and a plus sign from 10000. -/
def yearText (year : Int) : String :=
  let sign := if year < 0 then "-" else if 9999 < year then "+" else ""
  sign ++ Text.padded 4 year.natAbs

/-- Whether a year has a leap day. -/
def isLeapYear (year : Int) : Bool :=
  Int.fmod year 4 = 0 && (Int.fmod year 100 ≠ 0 || Int.fmod year 400 = 0)

/-- How many days a month has; there are none in what is no month. -/
def daysOfMonth (year : Int) (month : Nat) : Nat :=
  if month ∈ [1, 3, 5, 7, 8, 10, 12] then 31
  else if month ∈ [4, 6, 9, 11] then 30
  else if month = 2 then if isLeapYear year then 29 else 28
  else 0

/-- Whether a day is one of the calendar. -/
def isInCalendar (d : Date) : Bool := 1 ≤ d.day && d.day ≤ daysOfMonth d.year d.month

/-- Year, month and day with dashes between them. -/
def text (d : Date) : String :=
  yearText d.year ++ "-" ++ Text.padded 2 d.month ++ "-" ++ Text.padded 2 d.day

/-- The day that lies so many days after the first of January 1970. Counting from the first of March
of year 0 puts the leap day at the end of a year, and 146097 days make a cycle of 400 years. -/
def ofDays (days : Int) : Date :=
  let shifted := days + 719468
  let cycle := Int.fdiv shifted 146097
  let dayOfCycle := Int.fmod shifted 146097
  let yearOfCycle :=
    Int.fdiv (dayOfCycle - Int.fdiv dayOfCycle 1460 + Int.fdiv dayOfCycle 36524
      - Int.fdiv dayOfCycle 146096) 365
  let dayOfYear :=
    dayOfCycle - (365 * yearOfCycle + Int.fdiv yearOfCycle 4 - Int.fdiv yearOfCycle 100)
  let monthFromMarch := Int.fdiv (5 * dayOfYear + 2) 153
  let day := dayOfYear - Int.fdiv (153 * monthFromMarch + 2) 5 + 1
  let month := if monthFromMarch < 10 then monthFromMarch + 3 else monthFromMarch - 9
  let year := yearOfCycle + cycle * 400 + if month ≤ 2 then 1 else 0
  ⟨year, month.toNat, day.toNat⟩

end Date

namespace Timestamp

/-- The day of a moment. -/
def date (t : Timestamp) : Date := Date.ofDays (Int.fdiv t.seconds 86400)

/-- Day, hour, minute and second. -/
def text (t : Timestamp) : String :=
  let second := (Int.fmod t.seconds 86400).toNat
  t.date.text ++ " " ++ Text.padded 2 (second / 3600) ++ ":" ++ Text.padded 2 (second / 60 % 60)
    ++ ":" ++ Text.padded 2 (second % 60 + t.nanoseconds / 1000000000)

end Timestamp
end BeanKit
