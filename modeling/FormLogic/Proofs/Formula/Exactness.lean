import FormLogic.Formula.Eval
import FormLogic.Proofs.Except
import FormLogic.Proofs.Number.Range

/-! Exact integer arithmetic. Sums, differences, products and changes of sign are the integers they
should be or overflow; modulo is rounded down and fails for a single pair of operands, the least
integer and minus one. -/

namespace FormLogic

open Number

/-- What an exact operation answers: the integer if it has a 64-bit form, and if not the overflow
of the operation. -/
structure IsExact (operation : String) (n : Int) (answer : Except FormulaError Value) : Prop where
  ok_iff (w : Int64) : answer = .ok (.integer w) ↔ w.toInt = n
  overflow_iff : answer = .error (.overflow operation) ↔ ¬ Fits n

namespace IsExact

variable {operation : String} {n : Int} {answer : Except FormulaError Value}

theorem of_fits {w : Int64} (hw : w.toInt = n) (h : answer = .ok (.integer w)) :
    IsExact operation n answer where
  ok_iff v := by
    subst hw h
    simp [Int64.toInt_inj, eq_comm]
  overflow_iff := by
    subst hw h
    simp [fits_toInt]

theorem of_not_fits (hn : ¬ Fits n) (h : answer = .error (.overflow operation)) :
    IsExact operation n answer where
  ok_iff v := by
    have hne : v.toInt ≠ n := fun hv => hn (hv ▸ fits_toInt v)
    simp [h, hne]
  overflow_iff := by simp [h, hn]

theorem eq_fitOr_iff : answer = fitOr operation n ↔ IsExact operation n answer := by
  unfold fitOr
  cases hfit : fit? n with
  | some w =>
    have hw : w.toInt = n := toInt_of_fit? hfit
    exact ⟨of_fits hw, fun h => (h.ok_iff w).mpr hw⟩
  | none =>
    have hn : ¬ Fits n := fit?_eq_none_iff.mp hfit
    exact ⟨of_not_fits hn, fun h => h.overflow_iff.mpr hn⟩

end IsExact

theorem isExact_fitOr (operation : String) (n : Int) :
    IsExact operation n (fitOr operation n) := IsExact.eq_fitOr_iff.mp rfl

/-- What is left of an integer by a division rounded down: it differs from the integer by a multiple
of the divisor, is smaller than the divisor, and lies on its side of zero. -/
structure IsFlooredModulo (l r m : Int) : Prop where
  dvd : r ∣ l - m
  small : m.natAbs < r.natAbs
  side : m = 0 ∨ (m < 0 ↔ r < 0)

namespace IsFlooredModulo

variable {l r : Int}

theorem dvd_sub_tmod (l r : Int) : r ∣ l - l.tmod r :=
  ⟨l.tdiv r, by rw [Int.tmod_def]; ring⟩

theorem natAbs_tmod_lt (hr : r ≠ 0) : (l.tmod r).natAbs < r.natAbs := by
  rw [Int.natAbs_tmod]
  exact Nat.mod_lt _ (Int.natAbs_pos.mpr hr)

theorem of_same_side (hr : r ≠ 0) (hside : l.tmod r = 0 ∨ (l.tmod r < 0 ↔ r < 0)) :
    IsFlooredModulo l r (l.tmod r) :=
  ⟨dvd_sub_tmod l r, natAbs_tmod_lt hr, hside⟩

theorem of_opposite_side (hr : r ≠ 0) (hne : l.tmod r ≠ 0)
    (hside : ¬ (l.tmod r < 0 ↔ r < 0)) : IsFlooredModulo l r (l.tmod r + r) := by
  have hsmall := natAbs_tmod_lt (l := l) hr
  refine ⟨?_, by omega, by omega⟩
  rw [← sub_sub]
  exact dvd_sub_self_right.mpr (dvd_sub_tmod l r)

end IsFlooredModulo

namespace Arithmetic

variable {l r m : Int64}

theorem isOpposite_iff :
    isOpposite m r = true ↔ m.toInt ≠ 0 ∧ ¬ (m.toInt < 0 ↔ r.toInt < 0) := by
  have hzero : m = 0 ↔ m.toInt = 0 := Int64.toInt_inj.symm
  have hm : m < 0 ↔ m.toInt < 0 := Int64.lt_iff_toInt_lt
  have hr : r < 0 ↔ r.toInt < 0 := Int64.lt_iff_toInt_lt
  simp [isOpposite, hzero, hm, hr]

theorem toInt_add_of_isOpposite (h : isOpposite m r = true) :
    (m + r).toInt = m.toInt + r.toInt := by
  obtain ⟨hne, hside⟩ := isOpposite_iff.mp h
  exact toInt_add (fits_add_of_sides (fits_toInt m) (fits_toInt r) (by omega))

/-- From a remainder the modulo is made without leaving the range. -/
theorem integerModulo_of_remainder? (hr : r ≠ 0) (h : remainder? l r = some m) :
    ∃ w : Int64, integerModulo l r = .ok (.integer w) ∧
      IsFlooredModulo l.toInt r.toInt w.toInt := by
  have hm : m.toInt = l.toInt.tmod r.toInt := toInt_of_remainder? h
  refine ⟨if isOpposite m r then m + r else m, ?_, ?_⟩
  · rw [integerModulo, if_neg hr, h]
  · by_cases hopposite : isOpposite m r = true
    · obtain ⟨hne, hside⟩ := isOpposite_iff.mp hopposite
      rw [if_pos hopposite, toInt_add_of_isOpposite hopposite, hm]
      rw [hm] at hne hside
      exact .of_opposite_side (toInt_ne_zero hr) hne hside
    · have hside := isOpposite_iff.not.mp hopposite
      rw [if_neg hopposite, hm]
      rw [hm] at hside
      exact .of_same_side (toInt_ne_zero hr) (by omega)

theorem integerModulo_eq_overflow (hl : l = Int64.minValue) (hr : r = -1) :
    integerModulo l r = .error (.overflow "%") := by
  have hne : r ≠ 0 := by
    rw [hr]
    decide
  rw [integerModulo, if_neg hne, (remainder?_eq_none_iff hne).mpr ⟨hl, hr⟩]

theorem apply_integers (op : Arithmetic) (l r : Int64) :
    op.apply (.integer l) (.integer r) = op.onNumbers (.integers l r) := by
  cases op <;> rfl

end Arithmetic

namespace Expr

variable {ctx : Context} {x y : Expr} {l r : Int64}

theorem eval_integers (op : Arithmetic) (hx : x.eval ctx = .ok (.integer l))
    (hy : y.eval ctx = .ok (.integer r)) :
    (binary (.arithmetic op) x y).eval ctx = op.onNumbers (.integers l r) := by
  simp only [eval, hx, hy, ok_bind, BinaryOp.apply, Arithmetic.apply_integers]

/-- Sums, differences, products and changes of sign of integers are exact. Modulo by zero is a
division by zero; by any other integer it is rounded down, for which a remainder on the other side
of zero than the divisor is moved by it without leaving the range; only the least integer by minus
one overflows. -/
theorem eval_integers_exact (hx : x.eval ctx = .ok (.integer l))
    (hy : y.eval ctx = .ok (.integer r)) :
    IsExact "+" (l.toInt + r.toInt) ((binary (.arithmetic .add) x y).eval ctx) ∧
    IsExact "-" (l.toInt - r.toInt) ((binary (.arithmetic .subtract) x y).eval ctx) ∧
    IsExact "*" (l.toInt * r.toInt) ((binary (.arithmetic .multiply) x y).eval ctx) ∧
    IsExact "-" (-l.toInt) ((unary .negate x).eval ctx) ∧
    (r = 0 → (binary (.arithmetic .modulo) x y).eval ctx = .error .divisionByZero) ∧
    (r ≠ 0 → ¬ (l = Int64.minValue ∧ r = -1) →
      ∃ m : Int64, (binary (.arithmetic .modulo) x y).eval ctx = .ok (.integer m) ∧
        IsFlooredModulo l.toInt r.toInt m.toInt) ∧
    (l = Int64.minValue → r = -1 →
      (binary (.arithmetic .modulo) x y).eval ctx = .error (.overflow "%")) ∧
    (∀ m, remainder? l r = some m → Arithmetic.isOpposite m r = true →
      (m + r).toInt = m.toInt + r.toInt) := by
  rw [eval_integers .add hx hy, eval_integers .subtract hx hy, eval_integers .multiply hx hy,
    eval_integers .modulo hx hy]
  refine ⟨isExact_fitOr _ _, isExact_fitOr _ _, isExact_fitOr _ _, ?_, ?_, ?_,
    Arithmetic.integerModulo_eq_overflow, fun m _ => Arithmetic.toInt_add_of_isOpposite⟩
  · have hnegate : (unary .negate x).eval ctx = fitOr "-" (-l.toInt) := by
      rw [eval, hx]
      rfl
    rw [hnegate]
    exact isExact_fitOr _ _
  · intro hr
    rw [Arithmetic.onNumbers, Arithmetic.integerModulo, if_pos hr]
  · intro hr hcorner
    cases hremainder : remainder? l r with
    | none => exact absurd ((remainder?_eq_none_iff hr).mp hremainder) hcorner
    | some m => exact Arithmetic.integerModulo_of_remainder? hr hremainder

def leastByThree : Context :=
  ⟨.ofList [("least", .integer Int64.minValue), ("three", .integer 3)], .empty⟩

theorem eval_integers_exact_leastByThree :
    (binary (.arithmetic .modulo) (.field "least") (.field "three")).eval leastByThree =
        .ok (.integer 1) ∧
      (unary .negate (.field "least")).eval leastByThree = .error (.overflow "-") := by
  have hleast : (field "least").eval leastByThree = .ok (.integer Int64.minValue) := rfl
  have hthree : (field "three").eval leastByThree = .ok (.integer 3) := rfl
  obtain ⟨-, -, -, hnegate, -, hmodulo, -⟩ := eval_integers_exact hleast hthree
  obtain ⟨m, hm, hfloored⟩ := hmodulo (by decide) (by decide)
  refine ⟨?_, hnegate.overflow_iff.mpr (by decide)⟩
  obtain ⟨hdvd, hsmall, hside⟩ := hfloored
  have hleastInt : Int64.minValue.toInt = -9223372036854775808 := rfl
  have hthreeInt : (3 : Int64).toInt = 3 := rfl
  rw [hleastInt, hthreeInt] at hdvd
  rw [hthreeInt] at hsmall hside
  have hone : m = 1 := Int64.toInt_inj.mp (show m.toInt = 1 by omega)
  rw [hm, hone]

/-- The least integer modulo minus one is zero, which fits, but there is no answer. -/
theorem not_exact_leastModulo :
    IsFlooredModulo Int64.minValue.toInt (-1) 0 ∧ Fits 0 ∧
      evalText leastByThree "least % -1" = .error (.overflow "%") := by
  refine ⟨⟨by decide, by decide, .inl rfl⟩, by decide, by decide +kernel⟩

end Expr

end FormLogic
