/-! The Gregorian calendar, extended to all years, and days counted from 1 January 1970. -/

namespace FormLogic

structure CalendarDate where
  year : Int
  month : Nat
  day : Nat
deriving DecidableEq, Repr

namespace CalendarDate

def isLeapYear (year : Int) : Bool := year % 4 = 0 ∧ (year % 100 ≠ 0 ∨ year % 400 = 0)

def daysInMonth (year : Int) (month : Nat) : Nat :=
  if month = 2 then if isLeapYear year then 29 else 28
  else if month = 4 ∨ month = 6 ∨ month = 9 ∨ month = 11 then 30
  else 31

def isValid (d : CalendarDate) : Bool :=
  1 ≤ d.month ∧ d.month ≤ 12 ∧ 1 ≤ d.day ∧ d.day ≤ daysInMonth d.year d.month

/-- The number of days from 1 January 1970. The count goes by years that begin in March, so that
the day a leap year adds is the last one, and by periods of 400 of them. -/
def dayNumber (d : CalendarDate) : Int :=
  let year := if d.month ≤ 2 then d.year - 1 else d.year
  let month := if d.month ≤ 2 then d.month + 9 else d.month - 3
  let period := year.fdiv 400
  let yearOfPeriod := year - 400 * period
  let dayOfYear : Int := (153 * month + 2) / 5 + d.day - 1
  146097 * period + 365 * yearOfPeriod + yearOfPeriod / 4 - yearOfPeriod / 100 + dayOfYear - 719468

def ofDayNumber (n : Int) : CalendarDate :=
  let n := n + 719468
  let period := n.fdiv 146097
  let dayOfPeriod := (n - 146097 * period).toNat
  let yearOfPeriod :=
    (dayOfPeriod - dayOfPeriod / 1460 + dayOfPeriod / 36524 - dayOfPeriod / 146096) / 365
  let dayOfYear := dayOfPeriod - (365 * yearOfPeriod + yearOfPeriod / 4 - yearOfPeriod / 100)
  let month := (5 * dayOfYear + 2) / 153
  let year : Int := yearOfPeriod + 400 * period
  { year := if month < 10 then year else year + 1
    month := if month < 10 then month + 3 else month - 9
    day := dayOfYear - (153 * month + 2) / 5 + 1 }

end CalendarDate

end FormLogic
