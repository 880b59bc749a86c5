import FormLogic.Number.Binary64

/-! Decimal numerals of doubles: reading one to the nearest double, and finding the shortest one
that reads back. -/

namespace FormLogic.Number

open Binary64

/-- The number `digits * 10 ^ exponent`. -/
structure Decimal where
  digits : Nat
  exponent : Int
deriving DecidableEq, Repr

def digitsValue (cs : List Char) : Nat := cs.foldl (fun n c => 10 * n + (c.toNat - '0'.toNat)) 0

namespace Decimal

def ofParts (whole fraction : List Char) (exponent : Int) : Decimal :=
  ⟨digitsValue (whole ++ fraction), exponent - fraction.length⟩

def units (d : Decimal) : Nat × Nat :=
  (d.digits * Nat.pow 10 d.exponent.toNat * unitsInOne, Nat.pow 10 (-d.exponent).toNat)

/-- Bits of the nearest double. Exponents past every double are decided without the powers. -/
def nearestBits (d : Decimal) : Nat :=
  if d.digits = 0 then 0
  else if 400 < d.exponent then infinityBits
  else if d.exponent < -(400 + d.digits.log2 : Int) then 0
  else Binary64.nearestBits d.units.1 d.units.2

def toFloat (negative : Bool) (d : Decimal) : Float := ofMagnitude negative d.nearestBits

end Decimal

inductive Tie where
  | up
  | even
deriving DecidableEq, Repr

/-- Whether a numeral lies among the numbers that round to the finite positive double with these
bits: no farther than halfway to either neighbour, the halfway points included exactly if the
bits are even. -/
def readsBack (bits : Nat) (d : Decimal) : Bool :=
  let (num, den) := d.units
  let low := (unitsOfBits (bits - 1) + unitsOfBits bits) * den
  let high := (unitsOfBits bits + unitsOfBits (bits + 1)) * den
  if bits % 2 = 0 then low ≤ 2 * num && 2 * num ≤ high else low < 2 * num && 2 * num < high

/-- A double's two neighbours among the multiples of `10 ^ exponent`, the closer one first. -/
def neighbours (tie : Tie) (bits : Nat) (exponent : Int) : Decimal × Decimal :=
  let (num, den) := Decimal.units ⟨1, exponent⟩
  let value := unitsOfBits bits * den
  let below : Decimal := ⟨value / num, exponent⟩
  let above : Decimal := ⟨value / num + 1, exponent⟩
  let aboveIsCloser := match compare (2 * (value % num)) num with
    | .lt => false
    | .gt => true
    | .eq => match tie with
      | .up => true
      | .even => below.digits % 2 == 1
  if aboveIsCloser then (above, below) else (below, above)

/-- The closer of a double's two neighbours among the multiples of `10 ^ exponent`, if it reads
back, and else the other one, if that does. -/
def nearestOnGrid? (tie : Tie) (bits : Nat) (exponent : Int) : Option Decimal :=
  let ends := neighbours tie bits exponent
  if readsBack bits ends.1 then some ends.1
  else if readsBack bits ends.2 then some ends.2
  else none

def topExponent (bits : Nat) : Int := ((unitsOfBits bits).log2 - 1074 : Int) * 30103 / 100000 + 2

/-- The numeral with the fewest digits that reads back as the finite positive double with these
bits: grids are tried from the coarsest on, and seventeen digits always suffice. -/
def shortest (tie : Tie) (bits : Nat) : Decimal :=
  let top := topExponent bits
  ((List.range 22).findSome? fun i : Nat => nearestOnGrid? tie bits (top - i)).getD
    ⟨unitsOfBits bits * Nat.pow 5 1074, -1074⟩

end FormLogic.Number
