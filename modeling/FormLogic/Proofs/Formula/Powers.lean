import FormLogic.Proofs.Formula.Exactness

/-! Powers of integers. They are exact for exponents of 32 bits, and past them for all bases whose
powers grow; the powers of minus one, zero and one fit whatever the exponent, but are refused. -/

namespace FormLogic

open Number

variable {base exponent : Int64}

namespace Arithmetic

theorem integerPower_of_nonneg (h : 0 ≤ exponent.toInt) : integerPower base exponent =
    match narrowPower? base exponent with
    | some w => .ok (.integer w)
    | none => .error (.overflow "**") := by
  have hnonneg : ¬ exponent < 0 := by
    rw [Int64.lt_iff_toInt_lt]
    exact Int.not_lt.mpr h
  exact if_neg hnonneg

theorem integerPower_eq_overflow (h : 2 ^ 32 ≤ exponent.toInt) :
    integerPower base exponent = .error (.overflow "**") := by
  rw [integerPower_of_nonneg (by omega), narrowPower?_eq_none_iff.mpr (.inr (.inl h))]

/-- A power that does not fit has a base of two or more, on either side of zero, and such a base
has no power past 32 bits that fits. -/
theorem isExact_integerPower_iff (h : 0 ≤ exponent.toInt) :
    IsExact "**" (base.toInt ^ exponent.toInt.toNat) (integerPower base exponent) ↔
      exponent.toInt < 2 ^ 32 ∨ 2 ≤ base.toInt.natAbs := by
  rw [integerPower_of_nonneg h]
  cases hpower : narrowPower? base exponent with
  | some w =>
    obtain ⟨-, hnarrow, hw⟩ := narrowPower?_eq_some_iff.mp hpower
    exact ⟨fun _ => .inl hnarrow, fun _ => .of_fits hw rfl⟩
  | none =>
    have hfailed := (narrowPower?_eq_none_iff.mp hpower).resolve_left (Int.not_lt.mpr h)
    constructor
    · intro hexact
      have hnot := hexact.overflow_iff.mp rfl
      right
      by_contra hsmall
      exact hnot (fits_pow_of_natAbs_le_one (by omega))
    · rintro (hnarrow | hbase)
      · exact .of_not_fits (hfailed.resolve_left (Int.not_le.mpr hnarrow)) rfl
      · refine .of_not_fits ?_ rfl
        rcases hfailed with hwide | hnot
        · exact not_fits_pow hbase (by omega)
        · exact hnot

end Arithmetic

namespace Expr

variable {ctx : Context} {x y : Expr}

/-- The operator and the function give the same power. It is the exact one unless the exponent has
more than 32 bits and the base is minus one, zero or one: then it overflows, as all powers with such
an exponent do. -/
theorem isExact_power_iff (hexponent : 0 ≤ exponent.toInt) (hx : x.eval ctx = .ok (.integer base))
    (hy : y.eval ctx = .ok (.integer exponent)) :
    (binary (.arithmetic .power) x y).eval ctx =
        Builtin.pow.apply [.integer base, .integer exponent] ∧
      (IsExact "**" (base.toInt ^ exponent.toInt.toNat)
          (Builtin.pow.apply [.integer base, .integer exponent]) ↔
        exponent.toInt < 2 ^ 32 ∨ 2 ≤ base.toInt.natAbs) ∧
      (2 ^ 32 ≤ exponent.toInt →
        Builtin.pow.apply [.integer base, .integer exponent] = .error (.overflow "**")) := by
  have hpow : Builtin.pow.apply [.integer base, .integer exponent] =
      Arithmetic.integerPower base exponent := rfl
  rw [eval_integers .power hx hy, hpow]
  exact ⟨rfl, Arithmetic.isExact_integerPower_iff hexponent, Arithmetic.integerPower_eq_overflow⟩

def minusTwo : Context := ⟨.ofList [("base", .integer (-2)), ("bits", .integer 63)], .empty⟩

theorem isExact_power_iff_minusTwo :
    (binary (.arithmetic .power) (.field "base") (.field "bits")).eval minusTwo =
        .ok (.integer Int64.minValue) ∧
      Builtin.pow.apply [.integer (-2), .integer 63] = .ok (.integer Int64.minValue) := by
  have hbase : (field "base").eval minusTwo = .ok (.integer (-2)) := rfl
  have hbits : (field "bits").eval minusTwo = .ok (.integer 63) := rfl
  have hnonneg : 0 ≤ (63 : Int64).toInt := by decide
  obtain ⟨hsame, hexact, -⟩ := isExact_power_iff hnonneg hbase hbits
  have hpower : Builtin.pow.apply [.integer (-2), .integer 63] = .ok (.integer Int64.minValue) :=
    ((hexact.mpr (.inl (by decide))).ok_iff Int64.minValue).mpr (by decide)
  exact ⟨hsame.trans hpower, hpower⟩

/-- One to the power `2 ^ 32` is one, but it overflows, and so for minus one. -/
theorem not_isExact_power :
    ¬ IsExact "**" (1 ^ 4294967296) (Builtin.pow.apply [.integer 1, .integer 4294967296]) ∧
      evalText minusTwo "1 ** 4294967296" = .error (.overflow "**") ∧
      evalText minusTwo "(-1) ** 4294967296" = .error (.overflow "**") := by
  refine ⟨fun hexact => ?_, by decide +kernel, by decide +kernel⟩
  have hone : Builtin.pow.apply [.integer 1, .integer 4294967296] = .ok (.integer 1) :=
    (hexact.ok_iff 1).mpr (one_pow _).symm
  exact absurd hone (by decide +kernel)

end Expr

end FormLogic
