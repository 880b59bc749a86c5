import FormLogic.Json.Basic
import FormLogic.Number.FloatText
import FormLogic.Number.Word

/-! Numbers of JSON text. Integers are exact as far as 64 bits reach. Any other number is taken to a
double, either to the nearest one or by the leading digits that 64 bits hold and one scaling by a
power of ten, which can miss the nearest one by a place. -/

namespace FormLogic.Json

open Number

/-- The parts of a number as they are written. -/
structure Numeral where
  negative : Bool
  whole : List Char
  fraction : List Char
  exponent : Int
  plain : Bool
deriving DecidableEq

/-- Takes up digits for as long as the number fits in 64 bits without a sign; the rest is left. -/
def absorb (n : Nat) : List Char → Nat × List Char
  | [] => (n, [])
  | d :: ds =>
    let next := 10 * n + (d.toNat - '0'.toNat)
    if next < 1 <<< 64 then absorb next ds else (n, d :: ds)

def powerOfTen (exponent : Nat) : Float := (Decimal.mk 1 exponent).toFloat false

def scaleUp? (x : Float) (exponent : Nat) : Option Float :=
  if Binary64.isZero x then some x
  else if exponent ≤ 308 then
    let y := x * powerOfTen exponent
    if Binary64.isFinite y then some y else none
  else none

/-- A double divided by a power of ten, in steps of at most 308 places. -/
def scaleDown (x : Float) (exponent : Nat) : Float :=
  if exponent ≤ 308 then x / powerOfTen exponent
  else if Binary64.isZero x then x
  else scaleDown (x / powerOfTen 308) (exponent - 308)
termination_by exponent
decreasing_by omega

namespace Numeral

/-- The digits that count, what power of ten they are to be scaled by, and whether none was left
out of the whole part. -/
def leading (n : Numeral) : Nat × Int × Bool :=
  let (whole, dropped) := absorb 0 n.whole
  let (digits, left) := absorb whole n.fraction
  (digits, dropped.length - (n.fraction.length - left.length : Nat) + n.exponent, dropped.isEmpty)

/-- The double that the number is taken to by its leading digits and one scaling. -/
def float? (n : Numeral) : Option Float :=
  let (digits, exponent, _) := n.leading
  let x := Binary64.ofInt digits
  let magnitude := if 0 ≤ exponent then scaleUp? x exponent.toNat
    else some (scaleDown x exponent.natAbs)
  magnitude.map fun x => if n.negative then -x else x

def decimal (n : Numeral) : Decimal := .ofParts n.whole n.fraction n.exponent

/-- The nearest double, if it is finite. -/
def nearest? (n : Numeral) : Option Float :=
  let x := n.decimal.toFloat n.negative
  if Binary64.isFinite x then some x else none

/-- The integer that the number is, if it is plain and in range. A zero with a sign is not one. -/
def integer? (n : Numeral) : Option Int :=
  let (digits, _, complete) := n.leading
  if n.plain && complete then
    if !n.negative then some digits
    else if digits ≠ 0 ∧ digits ≤ 1 <<< 63 then some (-digits)
    else none
  else none

/-- The document that consists of the number, if numbers are taken to doubles as given. -/
def toJson (double? : Numeral → Option Float) (n : Numeral) : Json :=
  match n.integer? with
  | some i => .integer i
  | none =>
    match double? n with
    | some x => .float x
    | none => .unreadable

end Numeral

def scanDigits (cs : List Char) : Option (List Char × List Char) :=
  let digits := cs.takeWhile Char.isDigit
  if digits.isEmpty then none else some (digits, cs.dropWhile Char.isDigit)

def scanFraction : List Char → Option (List Char × List Char)
  | '.' :: rest => scanDigits rest
  | rest => some ([], rest)

def scanSign : List Char → Bool × List Char
  | '-' :: rest => (true, rest)
  | '+' :: rest => (false, rest)
  | rest => (false, rest)

def scanExponent : List Char → Option (Option Int × List Char)
  | c :: rest =>
    if c = 'e' ∨ c = 'E' then
      let (negative, rest) := scanSign rest
      (scanDigits rest).map fun (digits, rest) =>
        (some (if negative then -(digitsValue digits : Int) else digitsValue digits), rest)
    else some (none, c :: rest)
  | [] => some (none, [])

def scanMagnitude (negative : Bool) (cs : List Char) : Option (Numeral × List Char) := do
  let (whole, cs) ← scanDigits cs
  let (fraction, cs) ← scanFraction cs
  let (exponent, cs) ← scanExponent cs
  if whole.head? = some '0' ∧ whole ≠ ['0'] then none
  else
    some (⟨negative, whole, fraction, exponent.getD 0, fraction.isEmpty && exponent.isNone⟩, cs)

def scanNumeral : List Char → Option (Numeral × List Char)
  | '-' :: rest => scanMagnitude true rest
  | cs => scanMagnitude false cs

theorem length_scanDigits {cs digits rest : List Char} (h : scanDigits cs = some (digits, rest)) :
    rest.length < cs.length := by
  simp only [scanDigits, Option.ite_none_left_eq_some, List.isEmpty_iff] at h
  obtain ⟨hne, h⟩ := h
  obtain ⟨rfl, rfl⟩ := Prod.mk.inj (Option.some.inj h)
  have hlen :
      (cs.takeWhile Char.isDigit).length + (cs.dropWhile Char.isDigit).length = cs.length := by
    rw [← List.length_append, List.takeWhile_append_dropWhile]
  have := List.length_pos_iff.2 hne
  omega

theorem length_scanFraction {cs digits rest : List Char}
    (h : scanFraction cs = some (digits, rest)) : rest.length ≤ cs.length := by
  unfold scanFraction at h
  split at h
  · exact Nat.le_succ_of_le (Nat.le_of_lt (length_scanDigits h))
  · simp_all

theorem length_scanSign (cs : List Char) : (scanSign cs).2.length ≤ cs.length := by
  unfold scanSign; split <;> simp

theorem length_scanExponent {cs rest : List Char} {e : Option Int}
    (h : scanExponent cs = some (e, rest)) : rest.length ≤ cs.length := by
  unfold scanExponent at h
  split at h
  · next c cs =>
    split at h
    · simp only [Option.map_eq_some_iff, Prod.mk.injEq] at h
      obtain ⟨⟨digits, r⟩, hr, -, rfl⟩ := h
      exact Nat.le_succ_of_le
        (Nat.le_trans (Nat.le_of_lt (length_scanDigits hr)) (length_scanSign cs))
    · simp_all
  · simp_all

theorem length_scanMagnitude {negative : Bool} {cs rest : List Char} {n : Numeral}
    (h : scanMagnitude negative cs = some (n, rest)) : rest.length < cs.length := by
  simp only [scanMagnitude, Option.bind_eq_bind, Option.bind_eq_some_iff] at h
  obtain ⟨⟨whole, r₁⟩, h₁, ⟨fraction, r₂⟩, h₂, ⟨exponent, r₃⟩, h₃, h⟩ := h
  rw [Option.ite_none_left_eq_some] at h
  obtain ⟨-, rfl⟩ := Prod.mk.inj (Option.some.inj h.2)
  have hw : r₁.length < cs.length := length_scanDigits h₁
  have hf : r₂.length ≤ r₁.length := length_scanFraction h₂
  have he : r₃.length ≤ r₂.length := length_scanExponent h₃
  exact Nat.lt_of_le_of_lt (Nat.le_trans he hf) hw

theorem length_scanNumeral {cs rest : List Char} {n : Numeral}
    (h : scanNumeral cs = some (n, rest)) : rest.length < cs.length := by
  unfold scanNumeral at h
  split at h
  · exact Nat.lt_succ_of_lt (length_scanMagnitude h)
  · exact length_scanMagnitude h

end FormLogic.Json
