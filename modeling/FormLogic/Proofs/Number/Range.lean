import Mathlib
import FormLogic.Number.Word

/-! The range of 64-bit words: which integers are words, and which results of words are. Only one
quotient of words leaves the range, and a power past the 63rd does so unless its base is at most
one on either side of zero. -/

namespace FormLogic.Number

theorem fits_toInt (w : Int64) : Fits w.toInt := by
  have hlow := w.le_toInt
  have hhigh := w.toInt_lt
  constructor <;> omega

theorem toInt_ofInt {n : Int} (h : Fits n) : (Int64.ofInt n).toInt = n := by
  obtain ⟨hlow, hhigh⟩ := h
  exact Int64.toInt_ofInt_of_le (by omega) (by omega)

theorem fit?_eq_some_iff {n : Int} {w : Int64} : fit? n = some w ↔ w.toInt = n := by
  constructor
  · exact toInt_of_fit?
  · rintro rfl
    rw [fit?, if_pos (fits_toInt w), Int64.ofInt_toInt]

theorem toInt_add {a b : Int64} (h : Fits (a.toInt + b.toInt)) :
    (a + b).toInt = a.toInt + b.toInt := by
  obtain ⟨hlow, hhigh⟩ := h
  rw [Int64.toInt_add]
  exact Int.bmod_eq_of_le (by omega) (by omega)

theorem fits_add_of_sides {a b : Int} (ha : Fits a) (hb : Fits b)
    (h : 0 ≤ a ∧ b ≤ 0 ∨ a ≤ 0 ∧ 0 ≤ b) : Fits (a + b) := by
  obtain ⟨halow, hahigh⟩ := ha
  obtain ⟨hblow, hbhigh⟩ := hb
  constructor <;> omega

theorem toInt_neg {n : Int64} (h : n ≠ Int64.minValue) : (-n).toInt = -n.toInt := by
  have hmin : n.toInt ≠ -2 ^ 63 := fun hn => h (Int64.toInt_inj.mp hn)
  have hlow := n.le_toInt
  have hhigh := n.toInt_lt
  rw [Int64.toInt_neg]
  exact Int.bmod_eq_of_le (by omega) (by omega)

section Division

variable {l r : Int64}

theorem toInt_ne_zero (hr : r ≠ 0) : r.toInt ≠ 0 := fun h => hr (Int64.toInt_inj.mp h)

/-- The least word has no quotient by minus one, and every other quotient is a word. -/
theorem fits_tdiv_iff (hr : r ≠ 0) :
    Fits (l.toInt.tdiv r.toInt) ↔ ¬ (l = Int64.minValue ∧ r = -1) := by
  have hlow := l.le_toInt
  have hhigh := l.toInt_lt
  have hne := toInt_ne_zero hr
  have habs : (l.toInt.tdiv r.toInt).natAbs = l.toInt.natAbs / r.toInt.natAbs :=
    Int.natAbs_tdiv _ _
  constructor
  · rintro hfits ⟨rfl, rfl⟩
    exact absurd hfits (by decide)
  · intro hcorner
    by_cases hunit : r.toInt.natAbs = 1
    · rcases Int.natAbs_eq r.toInt with hr' | hr' <;> rw [hunit] at hr'
      · rw [hr', Nat.cast_one, Int.tdiv_one]
        exact fits_toInt l
      · have hleast : l.toInt ≠ -2 ^ 63 := fun hl =>
          hcorner ⟨Int64.toInt_inj.mp hl, Int64.toInt_inj.mp hr'⟩
        rw [hr', Nat.cast_one, Int.tdiv_neg, Int.tdiv_one]
        constructor <;> omega
    · -- a divisor of two or more halves the dividend at least
      have hhalf : l.toInt.natAbs / r.toInt.natAbs ≤ l.toInt.natAbs / 2 :=
        Nat.div_le_div_left (by omega) (by decide)
      constructor <;> omega

theorem remainder?_eq_none_iff (hr : r ≠ 0) :
    remainder? l r = none ↔ l = Int64.minValue ∧ r = -1 := by
  have hfits := fits_tdiv_iff (l := l) hr
  simp [remainder?, hr, hfits]

theorem toInt_of_remainder? {m : Int64} (h : remainder? l r = some m) :
    m.toInt = l.toInt.tmod r.toInt := by
  unfold remainder? at h
  split at h
  · cases h
    exact Int64.toInt_mod l r
  · cases h

variable {n d : Int64}

theorem toInt_euclideanQuotient (hd : 0 < d.toInt) :
    (euclideanQuotient n d).toInt = n.toInt / d.toInt := by
  have hlow := n.le_toInt
  have hhigh := n.toInt_lt
  have habs := Int.natAbs_ediv_le_natAbs n.toInt d.toInt
  have hhigher : n.toInt / d.toInt < 2 ^ 63 := Int.ediv_lt_of_lt_mul hd (by nlinarith)
  exact toInt_ofInt ⟨by omega, by omega⟩

theorem toInt_euclideanRemainder (hd : 0 < d.toInt) :
    (euclideanRemainder n d).toInt = n.toInt % d.toInt := by
  have hhigh := d.toInt_lt
  have hnonneg := Int.emod_nonneg n.toInt hd.ne'
  have hlt := Int.emod_lt_of_pos n.toInt hd
  exact toInt_ofInt ⟨by omega, by omega⟩

end Division

section Powers

variable {base : Int} {exponent : Nat}

theorem pow_of_natAbs_le_one (h : base.natAbs ≤ 1) :
    base ^ exponent =
      if exponent = 0 then 1 else if exponent % 2 = 0 then base * base else base := by
  have hbase : base = -1 ∨ base = 0 ∨ base = 1 := by omega
  rcases hbase with rfl | rfl | rfl
  · by_cases heven : exponent % 2 = 0
    · simp [(Nat.even_iff.mpr heven).neg_one_pow, heven]
    · have hodd : Odd exponent := Nat.odd_iff.mpr (by omega)
      simp [hodd.neg_one_pow, heven, hodd.pos.ne']
  · by_cases hzero : exponent = 0
    · simp [hzero]
    · simp [hzero]
  · simp

/-- Every factor of two or more, on either side of zero, doubles a power at least. -/
theorem two_pow_le_natAbs_pow (h : 2 ≤ base.natAbs) (exponent : Nat) :
    2 ^ exponent ≤ (base ^ exponent).natAbs := by
  rw [Int.natAbs_pow]
  exact Nat.pow_le_pow_left h exponent

theorem not_fits_pow (hbase : 2 ≤ base.natAbs) (hexponent : 64 ≤ exponent) :
    ¬ Fits (base ^ exponent) := by
  have hpow : 2 ^ 64 ≤ 2 ^ exponent := Nat.pow_le_pow_right (by decide) hexponent
  have habs := two_pow_le_natAbs_pow hbase exponent
  rintro ⟨hlow, hhigh⟩
  omega

theorem fits_pow_of_natAbs_le_one (h : base.natAbs ≤ 1) : Fits (base ^ exponent) := by
  have habs : (base ^ exponent).natAbs ≤ 1 := by
    rw [Int.natAbs_pow]
    exact pow_le_one₀ (Nat.zero_le _) h
  constructor <;> omega

/-- A power is found if it fits. -/
theorem power?_eq (base : Int) (exponent : Nat) : power? base exponent = fit? (base ^ exponent) := by
  unfold power?
  split
  · next hsmall => rw [pow_of_natAbs_le_one hsmall]
  · next hlarge =>
    split
    · rfl
    · exact (fit?_eq_none_iff.mpr (not_fits_pow (by omega) (by omega))).symm

variable {b e w : Int64}

theorem narrowPower?_eq_some_iff : narrowPower? b e = some w ↔
    0 ≤ e.toInt ∧ e.toInt < 2 ^ 32 ∧ w.toInt = b.toInt ^ e.toInt.toNat := by
  unfold narrowPower?
  split
  · next hrange =>
    rw [power?_eq, fit?_eq_some_iff]
    exact ⟨fun hw => ⟨hrange.1, by omega, hw⟩, fun h => h.2.2⟩
  · next hrange =>
    constructor
    · nofun
    · rintro ⟨hlow, hhigh, -⟩
      exact absurd ⟨hlow, by omega⟩ hrange

theorem narrowPower?_eq_none_iff : narrowPower? b e = none ↔
    e.toInt < 0 ∨ 2 ^ 32 ≤ e.toInt ∨ ¬ Fits (b.toInt ^ e.toInt.toNat) := by
  unfold narrowPower?
  split
  · next hrange =>
    rw [power?_eq, fit?_eq_none_iff]
    constructor
    · exact fun h => .inr (.inr h)
    · rintro (hlow | hhigh | hpow)
      · omega
      · omega
      · exact hpow
  · next hrange =>
    simp only [true_iff]
    omega

end Powers

end FormLogic.Number
