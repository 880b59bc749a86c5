/-! Exact integers kept in 64 bits: what fits is stored, what does not is an overflow. -/

namespace FormLogic.Number

/-- Whether an integer has a 64-bit form. -/
def Fits (n : Int) : Prop := -9223372036854775808 ≤ n ∧ n ≤ 9223372036854775807

instance (n : Int) : Decidable (Fits n) := inferInstanceAs (Decidable (_ ∧ _))

def fit? (n : Int) : Option Int64 := if Fits n then some (Int64.ofInt n) else none

theorem toInt_of_fit? {n : Int} {w : Int64} (h : fit? n = some w) : w.toInt = n := by
  unfold fit? at h
  split at h
  · next hf =>
    obtain rfl := Option.some.inj h
    exact Int64.toInt_ofInt_of_le (by have := hf.1; omega) (by have := hf.2; omega)
  · simp at h

theorem fit?_eq_none_iff {n : Int} : fit? n = none ↔ ¬ Fits n := by
  unfold fit?; split <;> simp_all

/-- The power of an integer, when it fits; an exponent past 63 leaves only the bases −1, 0 and 1
in range. -/
def power? (base : Int) (exponent : Nat) : Option Int64 :=
  if base.natAbs ≤ 1 then
    fit? (if exponent = 0 then 1 else if exponent % 2 = 0 then base * base else base)
  else if exponent ≤ 63 then fit? (Int.pow base exponent)
  else none

/-- The power of two words whose exponent has to have an unsigned 32-bit form. -/
def narrowPower? (base exponent : Int64) : Option Int64 :=
  if 0 ≤ exponent.toInt ∧ exponent.toInt ≤ 4294967295 then power? base.toInt exponent.toInt.toNat
  else none

/-- The remainder of a division whose quotient is cut toward zero; there is none by zero, and none
where the quotient has no 64-bit form. -/
def remainder? (l r : Int64) : Option Int64 :=
  if r ≠ 0 ∧ Fits (l.toInt.tdiv r.toInt) then some (l % r) else none

/-- The quotient of a division that leaves no negative remainder. -/
def euclideanQuotient (n d : Int64) : Int64 := Int64.ofInt (n.toInt / d.toInt)

def euclideanRemainder (n d : Int64) : Int64 := Int64.ofInt (n.toInt % d.toInt)

end FormLogic.Number
