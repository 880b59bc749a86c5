import Mathlib
import FormLogic.Proofs.Number.Words

/-! The double nearest to a number. Taking the nearest double keeps the order of numbers, though it
may make equal what was not, and it leaves every double where it is. -/

namespace FormLogic

namespace Number

theorem divHalfEven_cases (n d : Nat) :
    (2 * (n % d) < d ∧ divHalfEven n d = n / d) ∨
    (2 * (n % d) = d ∧ divHalfEven n d = n / d + n / d % 2) ∨
    (d < 2 * (n % d) ∧ divHalfEven n d = n / d + 1) := by
  unfold divHalfEven
  split
  · next h => exact .inl ⟨Nat.compare_eq_lt.mp h, rfl⟩
  · next h => exact .inr (.inr ⟨Nat.compare_eq_gt.mp h, rfl⟩)
  · next h => exact .inr (.inl ⟨Nat.compare_eq_eq.mp h, rfl⟩)

theorem div_le_divHalfEven (n d : Nat) : n / d ≤ divHalfEven n d := by
  have h := divHalfEven_cases n d
  omega

theorem divHalfEven_le (n d : Nat) : divHalfEven n d ≤ n / d + 1 := by
  have h := divHalfEven_cases n d
  omega

theorem divHalfEven_mono {m n d : Nat} (h : m ≤ n) : divHalfEven m d ≤ divHalfEven n d := by
  have hm := divHalfEven_cases m d
  have hn := divHalfEven_cases n d
  have hdiv : m / d ≤ n / d := Nat.div_le_div_right h
  rcases Nat.lt_or_eq_of_le hdiv with hlt | heq
  · omega
  · have hmod : m % d ≤ n % d := by
      have hmparts := Nat.div_add_mod m d
      have hnparts := Nat.div_add_mod n d
      rw [heq] at hmparts
      omega
    omega

end Number

namespace Binary64

open Number

/-- The exponent of a magnitude, from zero on. -/
def exponentOf (bits : Nat) : Nat := bits / exponentBit - 1

/-- The significand of a magnitude, with its leading bit. -/
def significandOf (bits : Nat) : Nat := bits - exponentOf bits * exponentBit

theorem exponentOf_mul_add_significandOf (bits : Nat) :
    exponentOf bits * 2 ^ 52 + significandOf bits = bits := by
  unfold significandOf exponentOf
  rw [exponentBit_eq]
  omega

theorem significandOf_lt (bits : Nat) : significandOf bits < 2 ^ 53 := by
  unfold significandOf exponentOf
  rw [exponentBit_eq]
  omega

theorem le_significandOf {bits : Nat} (h : 0 < exponentOf bits) : 2 ^ 52 ≤ significandOf bits := by
  unfold significandOf exponentOf at *
  rw [exponentBit_eq] at *
  omega

theorem unitsOfBits_eq (bits : Nat) :
    unitsOfBits bits = significandOf bits * 2 ^ exponentOf bits := by
  unfold unitsOfBits significandOf exponentOf
  rw [exponentBit_eq]
  split
  · have hshift : bits / 2 ^ 52 - 1 = 0 := by omega
    rw [hshift, Nat.pow_zero, Nat.zero_mul, Nat.sub_zero, Nat.mul_one]
  · have hlead : bits - (bits / 2 ^ 52 - 1) * 2 ^ 52 = 2 ^ 52 + bits % 2 ^ 52 := by omega
    rw [hlead, Nat.shiftLeft_eq]

theorem unitsOfBits_succ (bits : Nat) :
    unitsOfBits (bits + 1) = (significandOf bits + 1) * 2 ^ exponentOf bits := by
  have hlt := significandOf_lt bits
  by_cases hcarry : exponentOf (bits + 1) = exponentOf bits
  · have hsignificand : significandOf (bits + 1) = significandOf bits + 1 := by
      have hbits := exponentOf_mul_add_significandOf bits
      have hnext := exponentOf_mul_add_significandOf (bits + 1)
      rw [hcarry] at hnext
      omega
    rw [unitsOfBits_eq, hcarry, hsignificand]
  · -- the significand is full: the next one is the least of twice the unit
    have hparts : exponentOf (bits + 1) = exponentOf bits + 1 ∧
        significandOf (bits + 1) = 2 ^ 52 ∧ significandOf bits + 1 = 2 * 2 ^ 52 := by
      unfold significandOf exponentOf at *
      rw [exponentBit_eq] at *
      omega
    obtain ⟨hexponent, hnext, hfull⟩ := hparts
    rw [unitsOfBits_eq, hexponent, hnext, hfull, Nat.mul_assoc, Nat.mul_left_comm, ← Nat.pow_succ']

theorem strictMono_unitsOfBits : StrictMono unitsOfBits :=
  strictMono_nat_of_lt_succ fun bits => by
    rw [unitsOfBits_eq, unitsOfBits_succ]
    exact Nat.mul_lt_mul_of_pos_right (Nat.lt_succ_self _) (Nat.two_pow_pos _)

/-- How powers of ten compare with the units in one and with those past every double. -/
theorem unitsInOne_bounds :
    0 < unitsInOne ∧ 4 * unitsInOne ≤ 10 ^ 401 ∧
      unitsOfBits infinityBits < 10 ^ 401 * unitsInOne ∧
      Nat.pow 5 1074 * unitsInOne = 10 ^ 1074 := by
  decide +kernel

/-- How many bits a number has above those of a significand. -/
def excess (n : Nat) : Nat := n.log2 - 52

theorem excess_mono {m n : Nat} (h : m ≤ n) : excess m ≤ excess n := by
  have hlog : m.log2 ≤ n.log2 := by
    rw [Nat.log2_eq_log_two, Nat.log2_eq_log_two]
    exact Nat.log_mono_right h
  unfold excess
  omega

theorem lt_of_excess (n : Nat) : n < 2 ^ 53 * 2 ^ excess n := by
  have hlog : n < 2 ^ (n.log2 + 1) := Nat.lt_log2_self
  have hexponent : n.log2 + 1 ≤ 53 + excess n := by
    unfold excess
    omega
  have hpow : 2 ^ (n.log2 + 1) ≤ 2 ^ (53 + excess n) := Nat.pow_le_pow_right (by decide) hexponent
  rw [← Nat.pow_add]
  exact Nat.lt_of_lt_of_le hlog hpow

theorem le_of_excess {n : Nat} (h : 0 < excess n) : 2 ^ 52 * 2 ^ excess n ≤ n := by
  have hn : n ≠ 0 := by
    rintro rfl
    simp [excess] at h
  have hexponent : 52 + excess n = n.log2 := by
    unfold excess at h ⊢
    omega
  rw [← Nat.pow_add, hexponent]
  exact Nat.log2_self_le hn

/-- A number with more bits than a significand gives one of all its bits, or the next power. -/
theorem divHalfEven_excess (n : Nat) :
    divHalfEven n (2 ^ excess n) ≤ 2 ^ 53 ∧
      (0 < excess n → 2 ^ 52 ≤ divHalfEven n (2 ^ excess n)) := by
  have hpos : 0 < 2 ^ excess n := Nat.two_pow_pos _
  constructor
  · have hle := divHalfEven_le n (2 ^ excess n)
    have hlt : n / 2 ^ excess n < 2 ^ 53 := (Nat.div_lt_iff_lt_mul hpos).mpr (lt_of_excess n)
    omega
  · intro h
    have hge := div_le_divHalfEven n (2 ^ excess n)
    have hle : 2 ^ 52 ≤ n / 2 ^ excess n := (Nat.le_div_iff_mul_le hpos).mpr (le_of_excess h)
    omega

theorem nearestBits_eq (num den : Nat) :
    nearestBits num den = min (excess (num / den) * 2 ^ 52 +
      divHalfEven num (den * 2 ^ excess (num / den))) infinityBits := by
  simp only [nearestBits, excess, Nat.shiftLeft_eq]

theorem nearestBits_one (n : Nat) :
    nearestBits n 1 = min (excess n * 2 ^ 52 + divHalfEven n (2 ^ excess n)) infinityBits := by
  rw [nearestBits_eq, Nat.div_one, Nat.one_mul]

theorem nearestBits_le (n : Nat) : nearestBits n 1 ≤ infinityBits := by
  rw [nearestBits_one]
  exact Nat.min_le_right _ _

/-- A greater number has no lesser double. -/
theorem nearestBits_mono {m n : Nat} (h : m ≤ n) : nearestBits m 1 ≤ nearestBits n 1 := by
  have hvalue : excess m * 2 ^ 52 + divHalfEven m (2 ^ excess m) ≤
      excess n * 2 ^ 52 + divHalfEven n (2 ^ excess n) := by
    rcases Nat.lt_or_eq_of_le (excess_mono h) with hlt | heq
    · have hm := (divHalfEven_excess m).1
      have hn := (divHalfEven_excess n).2 (by omega)
      omega
    · have hsame : divHalfEven m (2 ^ excess m) ≤ divHalfEven n (2 ^ excess m) :=
        divHalfEven_mono h
      rw [← heq]
      omega
  rw [nearestBits_one, nearestBits_one]
  omega

/-- Between one magnitude and the next all numbers have the bits of its unit in excess. -/
theorem excess_eq_exponentOf {n bits : Nat} (hlow : unitsOfBits bits ≤ n)
    (hhigh : n < unitsOfBits (bits + 1)) : excess n = exponentOf bits := by
  have hsignificand := significandOf_lt bits
  rw [unitsOfBits_eq] at hlow
  rw [unitsOfBits_succ] at hhigh
  refine Nat.le_antisymm (Nat.le_of_not_lt fun hlt => ?_) (Nat.le_of_not_lt fun hlt => ?_)
  · have hle := le_of_excess (Nat.zero_lt_of_lt hlt)
    have hpow : 2 * 2 ^ exponentOf bits ≤ 2 ^ excess n := by
      rw [← Nat.pow_succ']
      exact Nat.pow_le_pow_right (by decide) hlt
    have hfull : (significandOf bits + 1) * 2 ^ exponentOf bits ≤ 2 ^ 53 * 2 ^ exponentOf bits :=
      Nat.mul_le_mul_right _ hsignificand
    omega
  · have hlead := Nat.mul_le_mul_right (2 ^ exponentOf bits) (le_significandOf (Nat.zero_lt_of_lt hlt))
    have hpow : 2 * 2 ^ excess n ≤ 2 ^ exponentOf bits := by
      rw [← Nat.pow_succ']
      exact Nat.pow_le_pow_right (by decide) hlt
    have hlt := lt_of_excess n
    omega

/-- Between one magnitude and the next the nearer one is taken, and halfway the even one. -/
theorem nearestBits_cases {num den bits : Nat} (hden : 0 < den)
    (hlow : unitsOfBits bits * den ≤ num) (hhigh : num < unitsOfBits (bits + 1) * den) :
    (2 * num < (unitsOfBits bits + unitsOfBits (bits + 1)) * den ∧
      nearestBits num den = min bits infinityBits) ∨
    (2 * num = (unitsOfBits bits + unitsOfBits (bits + 1)) * den ∧
      nearestBits num den = min (bits + bits % 2) infinityBits) ∨
    ((unitsOfBits bits + unitsOfBits (bits + 1)) * den < 2 * num ∧
      nearestBits num den = min (bits + 1) infinityBits) := by
  have hexcess : excess (num / den) = exponentOf bits :=
    excess_eq_exponentOf ((Nat.le_div_iff_mul_le hden).mpr hlow)
      ((Nat.div_lt_iff_lt_mul hden).mpr hhigh)
  have hbits := exponentOf_mul_add_significandOf bits
  rw [nearestBits_eq, hexcess]
  rw [unitsOfBits_succ, unitsOfBits_eq] at *
  generalize exponentOf bits = e at *
  generalize significandOf bits = s at *
  have hunit (q : Nat) : q * 2 ^ e * den = q * (den * 2 ^ e) := by
    rw [Nat.mul_assoc, Nat.mul_comm den]
  rw [hunit] at hlow hhigh
  have hquotient : num / (den * 2 ^ e) = s := Nat.div_eq_of_lt_le hlow hhigh
  have hparts := Nat.div_add_mod' num (den * 2 ^ e)
  have hsum : (s * 2 ^ e + (s + 1) * 2 ^ e) * den = 2 * (s * (den * 2 ^ e)) + den * 2 ^ e := by
    rw [Nat.add_mul, hunit, hunit, Nat.succ_mul]
    omega
  rw [hquotient] at hparts
  have hparity : s % 2 = bits % 2 := by omega
  rw [hsum]
  rcases divHalfEven_cases num (den * 2 ^ e) with ⟨hmod, hround⟩ | ⟨hmod, hround⟩ | ⟨hmod, hround⟩
  · exact .inl ⟨by omega, by rw [hround, hquotient, hbits]⟩
  · exact .inr (.inl ⟨by omega, by rw [hround, hquotient, ← Nat.add_assoc, hbits, hparity]⟩)
  · exact .inr (.inr ⟨by omega, by rw [hround, hquotient, ← Nat.add_assoc, hbits]⟩)

theorem nearestBits_unitsOfBits {bits : Nat} (h : bits ≤ infinityBits) :
    nearestBits (unitsOfBits bits) 1 = bits := by
  have hnext := strictMono_unitsOfBits (Nat.lt_add_one bits)
  have hcases := nearestBits_cases Nat.one_pos
    (show unitsOfBits bits * 1 ≤ unitsOfBits bits by omega) (by omega)
  omega

/-- A number whose bits fit a significand is the number of units of its nearest double. -/
theorem unitsOfBits_nearestBits {n : Nat} (hfits : 2 ^ excess n ∣ n)
    (hin : nearestBits n 1 < infinityBits) : unitsOfBits (nearestBits n 1) = n := by
  obtain ⟨q, hq⟩ := hfits
  have hpos : 0 < 2 ^ excess n := Nat.two_pow_pos _
  have hmod : n % 2 ^ excess n = 0 := Nat.mod_eq_zero_of_dvd ⟨q, hq⟩
  have hdiv : n / 2 ^ excess n = q := Nat.div_eq_of_eq_mul_right hpos hq
  have hround : divHalfEven n (2 ^ excess n) = q := by
    have hcases := divHalfEven_cases n (2 ^ excess n)
    omega
  have hbits : nearestBits n 1 = excess n * 2 ^ 52 + q := by
    rw [nearestBits_one, hround] at hin ⊢
    omega
  have hlt : q < 2 ^ 53 := by
    rw [← hdiv]
    exact (Nat.div_lt_iff_lt_mul hpos).mpr (lt_of_excess n)
  rw [hbits, unitsOfBits, exponentBit_eq]
  by_cases hzero : excess n = 0
  · rw [hzero, Nat.pow_zero, Nat.one_mul] at hq
    rw [hzero, if_pos (by omega)]
    omega
  · have hge : 2 ^ 52 ≤ q := by
      have h := (divHalfEven_excess n).2 (Nat.pos_of_ne_zero hzero)
      omega
    have hexponent : (excess n * 2 ^ 52 + q) / 2 ^ 52 - 1 = excess n := by omega
    have hsignificand : 2 ^ 52 + (excess n * 2 ^ 52 + q) % 2 ^ 52 = q := by omega
    rw [if_neg (by omega), hexponent, hsignificand, Nat.shiftLeft_eq, Nat.mul_comm, ← hq]

/-- A number of no more than 53 bits fits a significand, wherever its bits stand. -/
theorem two_pow_excess_dvd {k : Nat} (h : k < 2 ^ 53) (e : Nat) :
    excess (k * 1 <<< e) ≤ e ∧ 2 ^ excess (k * 1 <<< e) ∣ k * 1 <<< e := by
  rw [Nat.one_shiftLeft]
  have hexcess : excess (k * 2 ^ e) ≤ e := by
    by_cases hk : k = 0
    · simp [hk, excess]
    · have hne : k * 2 ^ e ≠ 0 := Nat.mul_ne_zero hk (Nat.two_pow_pos e).ne'
      have hlt : k * 2 ^ e < 2 ^ (53 + e) := by
        rw [Nat.pow_add]
        exact Nat.mul_lt_mul_of_pos_right h (Nat.two_pow_pos e)
      have hlog := (Nat.log2_lt hne).mpr hlt
      unfold excess
      omega
  exact ⟨hexcess, Dvd.dvd.mul_left (Nat.pow_dvd_pow 2 hexcess) k⟩

end Binary64

end FormLogic
