/-!
# Days of the calendar

The proleptic Gregorian calendar: the present rule for leap years in all years, year
zero and negative years included.
-/

namespace ParamRules.Calendar

/-- Every fourth year is a leap year, except the centuries that 400 does not divide. -/
def isLeapYear (year : Int) : Bool :=
  year % 4 = 0 && (year % 100 ≠ 0 || year % 400 = 0)

/-- The length of a month; there are none but the months 1 to 12. -/
def daysInMonth (year : Int) (month : Nat) : Nat :=
  match month with
  | 1 | 3 | 5 | 7 | 8 | 10 | 12 => 31
  | 4 | 6 | 9 | 11 => 30
  | 2 => if isLeapYear year then 29 else 28
  | _ => 0

/-- A year, a month and a day of the month, which need not exist. -/
structure Day where
  year : Int
  month : Nat
  day : Nat
deriving DecidableEq

/-- The first year in range. -/
def firstYear : Int := -262143

/-- The last year in range. -/
def lastYear : Int := 262142

/-- The day exists and its year is in range. -/
def Day.isValid (d : Day) : Bool :=
  firstYear ≤ d.year && d.year ≤ lastYear && 1 ≤ d.day && d.day ≤ daysInMonth d.year d.month

/-- A time of day; a minute may have a leap second. -/
structure Time where
  hour : Nat
  minute : Nat
  second : Nat
deriving DecidableEq

/-- The hour, minute and second are in range. -/
def Time.isValid (t : Time) : Bool :=
  t.hour ≤ 23 && t.minute ≤ 59 && t.second ≤ 60

end ParamRules.Calendar
