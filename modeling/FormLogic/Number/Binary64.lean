import FormLogic.Number.Rounding

/-! Doubles read exactly. Every finite double is a whole number of `2 ^ -1074`, the least
positive one, so its value is an integer and comparison, remainder and rounding are integer
arithmetic. -/

namespace FormLogic.Binary64

open FormLogic.Number

def infinityBits : Nat := 2047 <<< 52

def signBit : Nat := 1 <<< 63

def exponentBit : Nat := 1 <<< 52

/-- How many times the least positive double goes into one. -/
def unitsInOne : Nat := 1 <<< 1074

def magnitude (x : Float) : Nat := x.toBits.toNat % signBit

/-- Whether the sign bit is set. -/
def isNegative (x : Float) : Bool := signBit ≤ x.toBits.toNat

def ofMagnitude (negative : Bool) (bits : Nat) : Float :=
  Float.ofBits (UInt64.ofNat (if negative then signBit + bits else bits))

/-- Value of finite bits in units of `2 ^ -1074`: up to `2 ^ 53` the bits themselves, after that
a significand of 53 bits doubled once for each step of the exponent. -/
def unitsOfBits (bits : Nat) : Nat :=
  if bits < 2 * exponentBit then bits
  else (exponentBit + bits % exponentBit) <<< (bits / exponentBit - 1)

/-- Bits of the double nearest to `num / den` units; a tie goes to the even significand and
values past the largest double become infinite. -/
def nearestBits (num den : Nat) : Nat :=
  let shift := (num / den).log2 - 52
  min ((shift <<< 52) + divHalfEven num (den <<< shift)) infinityBits

/-- A place on the number line, with its two ends. -/
inductive Place where
  | negativeEnd
  | finite (units : Int)
  | positiveEnd
deriving DecidableEq, Repr

namespace Place

def compare : Place → Place → Ordering
  | .negativeEnd, .negativeEnd => .eq
  | .negativeEnd, _ => .lt
  | .finite _, .negativeEnd => .gt
  | .finite a, .finite b => Ord.compare a b
  | .finite _, .positiveEnd => .lt
  | .positiveEnd, .positiveEnd => .eq
  | .positiveEnd, _ => .gt

theorem compare_eq_eq {p q : Place} : compare p q = .eq ↔ p = q := by
  cases p <;> cases q <;> simp [compare]

theorem compare_swap (p q : Place) : (compare p q).swap = compare q p := by
  cases p <;> cases q <;> simp [compare, Int.compare_swap]

end Place

def place? (x : Float) : Option Place :=
  if infinityBits < magnitude x then none
  else if magnitude x = infinityBits then
    some (if isNegative x then .negativeEnd else .positiveEnd)
  else
    let units : Int := unitsOfBits (magnitude x)
    some (.finite (if isNegative x then -units else units))

def compare? (x y : Float) : Option Ordering :=
  match place? x, place? y with
  | some p, some q => some (p.compare q)
  | _, _ => none

def isFinite (x : Float) : Bool :=
  match place? x with
  | some (.finite _) => true
  | _ => false

def isInfinite (x : Float) : Bool := magnitude x = infinityBits

def isNaN (x : Float) : Bool := (place? x).isNone

def isZero (x : Float) : Bool := magnitude x = 0

def isBelowZero (x : Float) : Bool :=
  match place? x with
  | some p => p.compare (.finite 0) = .lt
  | none => false

def nan : Float := Float.ofBits 0x7FF8000000000000

def ofInt (n : Int) : Float := ofMagnitude (n < 0) (nearestBits (n.natAbs * unitsInOne) 1)

def nearestInt? (x : Float) : Option Int :=
  match place? x with
  | some (.finite u) => some (roundQuotient u unitsInOne)
  | _ => none

def roundToIntegral (x : Float) : Float :=
  match nearestInt? x with
  | some n => ofMagnitude (isNegative x) (nearestBits (n.natAbs * unitsInOne) 1)
  | none => x

/-- The remainder of a division whose quotient is cut toward zero; it is exact and has the sign
of the dividend. -/
def remainder (x y : Float) : Float :=
  match place? x, place? y with
  | some (.finite a), some (.finite b) =>
    if b = 0 then nan else ofMagnitude (isNegative x) (nearestBits (a.natAbs % b.natAbs) 1)
  | some (.finite _), some _ => x
  | _, _ => nan

def isIntegral (x : Float) : Bool :=
  match place? x with
  | some (.finite u) => u % unitsInOne = 0
  | _ => false

/-- The 64-bit integer that a double is cut to toward zero; past either end of the range it is that
end, and zero for the absence of a number. -/
def truncate (x : Float) : Int64 :=
  match place? x with
  | none => 0
  | some .negativeEnd => Int64.minValue
  | some (.finite u) => Int64.ofIntClamp (u.tdiv unitsInOne)
  | some .positiveEnd => Int64.maxValue

/-- Whether a double has exactly the value of an integer. It is held against the range before it is
cut, as what lies past an end would be cut to it; the double of the upper end is `2 ^ 63`, which
lies past it. -/
def isExactly (x : Float) (n : Int64) : Bool :=
  isIntegral x && (compare? x (ofInt Int64.minValue.toInt)).any (·.isGE) &&
    compare? x (ofInt Int64.maxValue.toInt) = some .lt && truncate x = n

end FormLogic.Binary64
