import FormLogic.Timestamp.Basic

/-! Reading timestamps. The date and the time stand apart by one `T` or blank, each part may follow
blanks, and an offset must be there. -/

namespace FormLogic.Timestamp

open Number (digitsValue)

/-- What a reader makes of the start of a text, and the rest. -/
abbrev Scan (α : Type) := List Char → Option (α × List Char)

def scanDigits (width : Nat) : Scan (List Char) := fun cs =>
  let digits := (cs.take width).takeWhile Char.isDigit
  if digits.isEmpty then none else some (digits, cs.drop digits.length)

def scanPart (least most : Nat) : Scan Nat := fun cs => do
  let (digits, rest) ← scanDigits 2 (cs.dropWhile Text.isBlank)
  let n := digitsValue digits
  if least ≤ n ∧ n ≤ most then some (n, rest) else none

def scanMark (mark : Char) : Scan Unit := fun cs =>
  match cs.dropWhile Text.isBlank with
  | c :: rest => if c = mark then some ((), rest) else none
  | [] => none

/-- A year of at most four digits, or one with a sign and as many digits as there are. -/
def scanYear : Scan Int := fun cs =>
  match cs.dropWhile Text.isBlank with
  | '-' :: cs =>
    (scanDigits cs.length cs).map fun (digits, rest) => (-(digitsValue digits : Int), rest)
  | '+' :: cs => (scanDigits cs.length cs).map fun (digits, rest) => (digitsValue digits, rest)
  | cs => (scanDigits 4 cs).map fun (digits, rest) => (digitsValue digits, rest)

/-- A fraction, if there is one, in nanoseconds. Digits past the ninth are passed over. -/
def scanFraction : Scan Nat
  | '.' :: cs => do
    let (digits, rest) ← scanDigits 9 cs
    some (digitsValue digits * Nat.pow 10 (9 - digits.length), rest.dropWhile Char.isDigit)
  | cs => some (0, cs)

/-- A sign; the second character of the minus signs is U+2212. -/
def scanSign : Scan Int
  | '+' :: rest => some (1, rest)
  | '-' :: rest | '−' :: rest => some (-1, rest)
  | _ => none

def scanPair : Scan Nat
  | a :: b :: rest =>
    if a.isDigit ∧ b.isDigit then some (digitsValue [a, b], rest) else none
  | _ => none

/-- Hours and minutes east of zero, in seconds; colons and blanks between them do not matter. -/
def scanClockOffset : Scan Int := fun cs => do
  let (sign, cs) ← scanSign cs
  let (hours, cs) ← scanPair cs
  let (minutes, cs) ← scanPair (cs.dropWhile fun c => c = ':' ∨ Text.isBlank c)
  if minutes < 60 ∧ hours < 24 then some (sign * (3600 * hours + 60 * minutes), cs) else none

def scanOffset : Scan Int := fun cs =>
  match cs.dropWhile Text.isBlank with
  | c :: rest =>
    if c.toLower = 'z' then some (0, rest)
    else if ((c :: rest).take 3).map Char.toLower = ['u', 't', 'c'] then some (0, rest.drop 2)
    else scanClockOffset (c :: rest)
  | [] => none

def scanSeparator : Scan Unit
  | 'T' :: rest | 't' :: rest | ' ' :: rest => some ((), rest)
  | _ => none

def scanDate : Scan CalendarDate := fun cs => do
  let (year, cs) ← scanYear cs
  let (_, cs) ← scanMark '-' cs
  let (month, cs) ← scanPart 1 12 cs
  let (_, cs) ← scanMark '-' cs
  let (day, cs) ← scanPart 1 31 cs
  some (⟨year, month, day⟩, cs)

/-- The second of the day and nanoseconds; second 60 is a leap second. -/
def scanTime : Scan (Nat × Nat) := fun cs => do
  let (hour, cs) ← scanPart 0 23 cs
  let (_, cs) ← scanMark ':' cs
  let (minute, cs) ← scanPart 0 59 cs
  let (_, cs) ← scanMark ':' cs
  let (second, cs) ← scanPart 0 60 cs
  let (nanos, cs) ← scanFraction cs
  let leap := second / 60
  some ((3600 * hour + 60 * minute + (second - leap), 1000000000 * leap + nanos), cs)

/-- The timestamp that a text says. -/
def read? (text : String) : Option Timestamp := do
  let (date, cs) ← scanDate text.toList
  let (_, cs) ← scanSeparator cs
  let ((second, nanos), cs) ← scanTime cs
  let (offset, cs) ← scanOffset cs
  if cs.all Text.isBlank then ofLocal? date second nanos offset else none

end FormLogic.Timestamp
