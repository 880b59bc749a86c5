import Mathlib
import FormLogic.Number.Decimal
import FormLogic.Proofs.Number.Nearest

/-! Shortest numerals. A numeral among the numbers that round to a double is read as that double,
and the shortest one is among them. -/

namespace FormLogic.Number

open Binary64

variable {bits : Nat} {d : Decimal}

theorem unitsOfBits_pos (h : bits ≠ 0) : 0 < unitsOfBits bits :=
  Nat.lt_of_le_of_lt (Nat.zero_le _) (strictMono_unitsOfBits (Nat.pos_of_ne_zero h))

theorem unitsOfBits_mul_lt (h : bits ≠ 0) {k : Nat} (hk : 0 < k) :
    unitsOfBits (bits - 1) * k < unitsOfBits bits * k ∧
      unitsOfBits bits * k < unitsOfBits (bits + 1) * k :=
  ⟨Nat.mul_lt_mul_of_pos_right (strictMono_unitsOfBits (by omega)) hk,
    Nat.mul_lt_mul_of_pos_right (strictMono_unitsOfBits (Nat.lt_add_one bits)) hk⟩

namespace Decimal

theorem units_pos (d : Decimal) : 0 < d.units.2 := Nat.pow_pos (by decide)

theorem units_natCast (digits places : Nat) :
    units ⟨digits, places⟩ = (digits * 10 ^ places * unitsInOne, 1) := by
  have hnone : (-(places : Int)).toNat = 0 := Int.toNat_of_nonpos (by omega)
  rw [units, hnone, Int.toNat_natCast]
  rfl

theorem units_neg_natCast (digits places : Nat) :
    units ⟨digits, -places⟩ = (digits * unitsInOne, 10 ^ places) := by
  have hnone : (-(places : Int)).toNat = 0 := Int.toNat_of_nonpos (by omega)
  rw [units, hnone, Int.neg_neg, Int.toNat_natCast]
  exact Prod.ext (congrArg (· * unitsInOne) (Nat.mul_one digits)) rfl

end Decimal

/-- Halfway to either neighbour only even bits are read back. -/
theorem readsBack_iff : readsBack bits d = true ↔
    (unitsOfBits (bits - 1) + unitsOfBits bits) * d.units.2 + bits % 2 ≤ 2 * d.units.1 ∧
      2 * d.units.1 + bits % 2 ≤ (unitsOfBits bits + unitsOfBits (bits + 1)) * d.units.2 := by
  unfold readsBack
  dsimp only
  split
  · next heven => rw [heven]; simp
  · next hodd =>
    have hone : bits % 2 = 1 := by omega
    rw [hone]
    simp

/-- Zeros behind the last digit do not change what a numeral is read back as. -/
theorem readsBack_shift (digits places : Nat) :
    readsBack bits ⟨digits * 10 ^ (places + 1), -1⟩ = readsBack bits ⟨digits, places⟩ := by
  have hshift := Decimal.units_neg_natCast (digits * 10 ^ (places + 1)) 1
  have hnum : digits * 10 ^ (places + 1) * unitsInOne =
      10 * (digits * 10 ^ places * unitsInOne) := by
    rw [Nat.pow_succ]
    ring
  rw [Bool.eq_iff_iff, readsBack_iff, readsBack_iff, Decimal.units_natCast]
  rw [Nat.cast_one, hnum] at hshift
  rw [hshift]
  omega

/-- A numeral that is read back rounds to the bits that it is read back as. -/
theorem nearestBits_units (hbits : bits ≠ 0) (hfinite : bits < infinityBits)
    (h : readsBack bits d = true) : Binary64.nearestBits d.units.1 d.units.2 = bits := by
  have hpos := d.units_pos
  obtain ⟨hlow, hhigh⟩ := readsBack_iff.mp h
  obtain ⟨hbelow, habove⟩ := unitsOfBits_mul_lt hbits hpos
  rw [Nat.add_mul] at hlow hhigh
  by_cases hside : unitsOfBits bits * d.units.2 ≤ d.units.1
  · have hcases := nearestBits_cases hpos hside (by omega)
    rw [Nat.add_mul] at hcases
    omega
  · have hprevious : bits - 1 + 1 = bits := by omega
    have hcases := nearestBits_cases hpos
      (show unitsOfBits (bits - 1) * d.units.2 ≤ d.units.1 by omega) (by rw [hprevious]; omega)
    rw [hprevious, Nat.add_mul] at hcases
    omega

theorem digits_pos_of_readsBack (hbits : bits ≠ 0) (h : readsBack bits d = true) :
    0 < d.digits := by
  obtain ⟨hlow, -⟩ := readsBack_iff.mp h
  by_contra hzero
  have hunits : d.units.1 = 0 := by
    rw [Decimal.units, Nat.eq_zero_of_not_pos hzero, Nat.zero_mul, Nat.zero_mul]
  have hpos := Nat.mul_pos (Nat.add_pos_right (unitsOfBits (bits - 1)) (unitsOfBits_pos hbits))
    d.units_pos
  omega

theorem exponent_le_of_readsBack (hbits : bits ≠ 0) (hfinite : bits < infinityBits)
    (h : readsBack bits d = true) : d.exponent ≤ 400 := by
  have hdigits := digits_pos_of_readsBack hbits h
  obtain ⟨digits, exponent⟩ := d
  by_contra hlarge
  dsimp only at hdigits hlarge
  obtain ⟨places, rfl⟩ := Int.eq_ofNat_of_zero_le (show 0 ≤ exponent by omega)
  have hplaces : 401 ≤ places := by omega
  have hpower : 10 ^ 401 ≤ 10 ^ places := by gcongr; decide
  have hnum : 10 ^ 401 * unitsInOne ≤ digits * 10 ^ places * unitsInOne :=
    Nat.mul_le_mul_right _ (Nat.le_trans hpower (Nat.le_mul_of_pos_left _ hdigits))
  have hpast := unitsInOne_bounds.2.2.1
  have hunits := strictMono_unitsOfBits.monotone (Nat.le_of_lt hfinite)
  have hnext := strictMono_unitsOfBits.monotone (show bits + 1 ≤ infinityBits from hfinite)
  have hhigh := (readsBack_iff.mp h).2
  rw [Decimal.units_natCast] at hhigh
  dsimp only at hhigh
  generalize 10 ^ 401 * unitsInOne = least at hpast hnum
  omega

theorem le_exponent_of_readsBack (hbits : bits ≠ 0) (h : readsBack bits d = true) :
    -(400 + d.digits.log2 : Int) ≤ d.exponent := by
  obtain ⟨digits, exponent⟩ := d
  by_contra hsmall
  dsimp only at hsmall
  obtain ⟨places, hplaces⟩ := Int.eq_ofNat_of_zero_le (show 0 ≤ -exponent by omega)
  obtain rfl : exponent = -places := by omega
  have hlow := (readsBack_iff.mp h).1
  rw [Decimal.units_neg_natCast] at hlow
  dsimp only at hlow
  have hbelow : digits * (2 * unitsInOne) < 10 ^ places := by
    have hbound : digits < 2 ^ (digits.log2 + 1) := Nat.lt_log2_self
    have hone := unitsInOne_bounds.2.1
    have hexponent : 401 + digits.log2 ≤ places := by omega
    calc digits * (2 * unitsInOne)
        < 2 ^ (digits.log2 + 1) * (2 * unitsInOne) :=
          Nat.mul_lt_mul_of_pos_right hbound (Nat.mul_pos two_pos unitsInOne_bounds.1)
      _ = 4 * unitsInOne * 2 ^ digits.log2 := by rw [Nat.pow_succ]; ring
      _ ≤ 10 ^ 401 * 10 ^ digits.log2 := Nat.mul_le_mul hone (Nat.pow_le_pow_left (by decide) _)
      _ = 10 ^ (401 + digits.log2) := by rw [Nat.pow_add]
      _ ≤ 10 ^ places := Nat.pow_le_pow_right (by decide) hexponent
  have hunits := Nat.le_mul_of_pos_left (10 ^ places)
    (Nat.add_pos_right (unitsOfBits (bits - 1)) (unitsOfBits_pos hbits))
  rw [Nat.mul_left_comm] at hbelow
  omega

/-- A numeral that is read back has the double that it is read back as for its nearest one. -/
theorem nearestBits_of_readsBack (hbits : bits ≠ 0) (hfinite : bits < infinityBits)
    (h : readsBack bits d = true) : d.nearestBits = bits := by
  have hdigits := digits_pos_of_readsBack hbits h
  have hhigh := exponent_le_of_readsBack hbits hfinite h
  have hlow := le_exponent_of_readsBack hbits h
  rw [Decimal.nearestBits, if_neg (by omega), if_neg (by omega), if_neg (by omega),
    nearestBits_units hbits hfinite h]

theorem readsBack_of_nearestOnGrid? {tie : Tie} {exponent : Int}
    (h : nearestOnGrid? tie bits exponent = some d) : readsBack bits d = true := by
  rw [nearestOnGrid?] at h
  split at h
  · next hfirst => exact Option.some.inj h ▸ hfirst
  · split at h
    · next hsecond => exact Option.some.inj h ▸ hsecond
    · cases h

/-- A numeral without rounding is read back. -/
theorem readsBack_exact (hbits : bits ≠ 0) :
    readsBack bits ⟨unitsOfBits bits * Nat.pow 5 1074, -(1074 : Nat)⟩ = true := by
  have hnum : unitsOfBits bits * Nat.pow 5 1074 * unitsInOne = unitsOfBits bits * 10 ^ 1074 := by
    rw [Nat.mul_assoc, unitsInOne_bounds.2.2.2]
  have hpos : 0 < 10 ^ 1074 := by positivity
  obtain ⟨hbelow, habove⟩ := unitsOfBits_mul_lt hbits hpos
  rw [readsBack_iff, Decimal.units_neg_natCast, hnum]
  dsimp only
  generalize 10 ^ 1074 = power at *
  rw [Nat.add_mul, Nat.add_mul]
  omega

theorem readsBack_shortest (tie : Tie) (hbits : bits ≠ 0) :
    readsBack bits (shortest tie bits) = true := by
  rw [shortest]
  cases hfound : (List.range 22).findSome? fun i : Nat =>
      nearestOnGrid? tie bits (topExponent bits - i) with
  | none => exact readsBack_exact hbits
  | some d =>
    obtain ⟨i, -, hi⟩ := List.exists_of_findSome?_eq_some hfound
    exact readsBack_of_nearestOnGrid? hi

/-- The nearest double to the shortest numeral of a double is that double. -/
theorem nearestBits_shortest (tie : Tie) (hbits : bits ≠ 0) (hfinite : bits < infinityBits) :
    (shortest tie bits).nearestBits = bits :=
  nearestBits_of_readsBack hbits hfinite (readsBack_shortest tie hbits)

end FormLogic.Number
