import FormLogic.Number.Decimal
import FormLogic.Text.Blank
import FormLogic.Timestamp.Calendar

/-! Points in time, as they are read and written in stored records. -/

namespace FormLogic

/-- A point in time: a day counted from 1 January 1970, a second of the day and nanoseconds, all at
offset zero. In a leap second the nanoseconds run on past a billion. -/
structure Timestamp where
  day : Int
  second : Nat
  nanos : Nat
deriving DecidableEq, Repr

namespace Timestamp

instance : Inhabited Timestamp := ⟨⟨0, 0, 0⟩⟩

def isYearInRange (year : Int) : Bool := -262143 ≤ year ∧ year ≤ 262142

/-- The point that a clock shows at an offset from zero, given in seconds. -/
def ofLocal? (date : CalendarDate) (second nanos : Nat) (offset : Int) : Option Timestamp :=
  let seconds : Int := second - offset
  let day := date.dayNumber + seconds.fdiv 86400
  if date.isValid && isYearInRange date.year &&
      isYearInRange (CalendarDate.ofDayNumber day).year then
    some ⟨day, (seconds.fmod 86400).toNat, nanos⟩
  else none

def padded (width n : Nat) : String :=
  let digits := Nat.repr n
  "".pushn '0' (width - digits.length) ++ digits

def yearText (year : Int) : String :=
  if 0 ≤ year ∧ year ≤ 9999 then padded 4 year.toNat
  else (if year < 0 then "-" else "+") ++ padded 4 year.natAbs

/-- The fraction of a second, in as few groups of three digits as it takes. -/
def fractionText (nanos : Nat) : String :=
  if nanos = 0 then ""
  else if nanos % 1000000 = 0 then "." ++ padded 3 (nanos / 1000000)
  else if nanos % 1000 = 0 then "." ++ padded 6 (nanos / 1000)
  else "." ++ padded 9 nanos

/-- The timestamp as it is stored, such as 2024-01-02T03:04:05.500Z. -/
def text (t : Timestamp) : String :=
  let date := CalendarDate.ofDayNumber t.day
  let leap := t.nanos / 1000000000
  yearText date.year ++ "-" ++ padded 2 date.month ++ "-" ++ padded 2 date.day ++ "T" ++
    padded 2 (t.second / 3600) ++ ":" ++ padded 2 (t.second / 60 % 60) ++ ":" ++
    padded 2 (t.second % 60 + leap) ++ fractionText (t.nanos % 1000000000) ++ "Z"

end Timestamp

end FormLogic
