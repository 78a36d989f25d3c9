/-!
# The calendar

Dates of the Gregorian calendar, carried back before its introduction, and times of the day to the
nanosecond.
-/

namespace ContextQuery

/-- A day, by its numbers; not every triple of numbers is one. -/
structure Date where
  year : Nat
  month : Nat
  day : Nat
  deriving DecidableEq, Repr

/-- A time of the day, by its numbers. -/
structure Time where
  hour : Nat
  minute : Nat
  second : Nat
  nanosecond : Nat
  deriving DecidableEq, Repr

/-- Every fourth year is a leap year, save the centuries that 400 does not divide. -/
def isLeapYear (year : Nat) : Bool :=
  year % 4 == 0 && (year % 100 != 0 || year % 400 == 0)

/-- The days of a month; none for a number that is not a month's. -/
def daysInMonth (year month : Nat) : Nat :=
  match month with
  | 1 | 3 | 5 | 7 | 8 | 10 | 12 => 31
  | 4 | 6 | 9 | 11 => 30
  | 2 => if isLeapYear year then 29 else 28
  | _ => 0

/-- The calendar has this day. -/
def Date.isDay (d : Date) : Bool :=
  1 ≤ d.day && d.day ≤ daysInMonth d.year d.month

/-- The clock shows this time. The minute of a leap second has no more seconds here than others. -/
def Time.isTime (t : Time) : Bool :=
  t.hour < 24 && t.minute < 60 && t.second < 60 && t.nanosecond < 1000000000

end ContextQuery
