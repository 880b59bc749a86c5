/-! Division to the nearest integer, a tie going to the even quotient. -/

namespace FormLogic.Number

/-- The natural number nearest to `n / d`; a tie goes to the even one. -/
def divHalfEven (n d : Nat) : Nat :=
  match compare (2 * (n % d)) d with
  | .lt => n / d
  | .gt => n / d + 1
  | .eq => n / d + n / d % 2

/-- The integer nearest to `n / d`; a tie goes to the even one, on either side of zero. -/
def roundQuotient (n : Int) (d : Nat) : Int :=
  if n < 0 then -(divHalfEven n.natAbs d : Int) else divHalfEven n.natAbs d

@[simp] theorem divHalfEven_one (n : Nat) : divHalfEven n 1 = n := by
  simp [divHalfEven, Nat.mod_one, Nat.compare_eq_lt.2]

end FormLogic.Number
