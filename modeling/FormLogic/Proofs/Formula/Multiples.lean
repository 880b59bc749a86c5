import FormLogic.Proofs.Formula.Exactness

/-! Integers rounded to tens, hundreds and so on. The answer is the nearest multiple, of two nearest
ones that with the even quotient, if it fits; but a power of ten that does not fit is taken to have
no multiple nearer than zero, which for `10 ^ 19` is not so. -/

namespace FormLogic

open Number

/-- Whether an integer is rounded to the multiple of a unit with the given quotient: none is nearer,
and if another one is as near, the quotient is even. -/
structure IsNearestQuotient (n unit q : Int) : Prop where
  nearest (k : Int) : (n - q * unit).natAbs ≤ (n - k * unit).natAbs
  even (k : Int) : (n - k * unit).natAbs = (n - q * unit).natAbs → k ≠ q → Even q

section Nearest

variable {n unit q k : Int}

theorem le_natAbs_mul {d : Nat} (hunit : 0 < unit) (h : d ≤ k.natAbs) :
    d * unit ≤ (k * unit).natAbs := by
  have hmul := Nat.mul_le_mul_right unit.natAbs h
  rw [Int.natAbs_mul]
  zify at hmul ⊢
  rwa [abs_of_pos hunit] at hmul ⊢

theorem isNearestQuotient_iff (hunit : 0 < unit) : IsNearestQuotient n unit q ↔
    2 * (n - q * unit).natAbs < unit ∨ 2 * (n - q * unit).natAbs = unit ∧ Even q := by
  constructor
  · intro h
    have habove : n - (q + 1) * unit = n - q * unit - unit := by ring
    have hbelow : n - (q - 1) * unit = n - q * unit + unit := by ring
    have hnearAbove := h.nearest (q + 1)
    have hnearBelow := h.nearest (q - 1)
    have hevenAbove := h.even (q + 1)
    have hevenBelow := h.even (q - 1)
    rw [habove] at hnearAbove hevenAbove
    rw [hbelow] at hnearBelow hevenBelow
    generalize n - q * unit = rest at *
    by_cases hhalf : 2 * rest.natAbs = unit
    · refine .inr ⟨hhalf, ?_⟩
      rcases Int.le_total 0 rest with hpos | hneg
      · exact hevenAbove (by omega) (by omega)
      · exact hevenBelow (by omega) (by omega)
    · exact .inl (by omega)
  · intro h
    have hfar : ∀ k, k ≠ q → unit ≤ ((q - k) * unit).natAbs := fun k hk => by
      simpa using le_natAbs_mul (d := 1) hunit (show 1 ≤ (q - k).natAbs by omega)
    have hsplit : ∀ k, n - k * unit = n - q * unit + (q - k) * unit := fun k => by ring
    constructor
    · intro k
      by_cases hk : k = q
      · rw [hk]
      · have hunits := hfar k hk
        rw [hsplit k]
        omega
    · intro k hsame hk
      have hunits := hfar k hk
      rw [hsplit k] at hsame
      rcases h with hlt | ⟨-, heven⟩
      · omega
      · exact heven

theorem IsNearestQuotient.two_mul_le (hunit : 0 < unit) (h : IsNearestQuotient n unit q) :
    2 * (n - q * unit).natAbs ≤ unit := by
  rcases (isNearestQuotient_iff hunit).mp h with hlt | ⟨heq, -⟩
  · exact hlt.le
  · exact heq.le

/-- Of two nearest multiples both would have even quotients and lie two units apart. -/
theorem IsNearestQuotient.unique (hunit : 0 < unit) (hq : IsNearestQuotient n unit q)
    (hk : IsNearestQuotient n unit k) : k = q := by
  by_contra hne
  have hsame : (n - k * unit).natAbs = (n - q * unit).natAbs :=
    Nat.le_antisymm (hk.nearest q) (hq.nearest k)
  have hqEven := Int.even_iff.mp (hq.even k hsame hne)
  have hkEven := Int.even_iff.mp (hk.even q hsame.symm (Ne.symm hne))
  have hapart : (2 : Nat) * unit ≤ ((q - k) * unit).natAbs := le_natAbs_mul hunit (by omega)
  have hsplit : (q - k) * unit = n - k * unit - (n - q * unit) := by ring
  have hqHalf := hq.two_mul_le hunit
  have hkHalf := hk.two_mul_le hunit
  omega

section Quotients

variable (hunit : 0 < unit)
include hunit

theorem isNearestQuotient_of_lt (h : 2 * (n % unit) < unit) :
    IsNearestQuotient n unit (n / unit) := by
  have hrest : n - n / unit * unit = n % unit := by rw [Int.emod_def]; ring
  have hnonneg := Int.emod_nonneg n hunit.ne'
  rw [isNearestQuotient_iff hunit, hrest]
  omega

theorem isNearestQuotient_of_gt (h : unit < 2 * (n % unit)) :
    IsNearestQuotient n unit (n / unit + 1) := by
  have hrest : n - (n / unit + 1) * unit = n % unit - unit := by rw [Int.emod_def]; ring
  have hlt := Int.emod_lt_of_pos n hunit
  rw [isNearestQuotient_iff hunit, hrest]
  omega

theorem isNearestQuotient_of_eq (h : 2 * (n % unit) = unit) :
    IsNearestQuotient n unit (n / unit + n / unit % 2) := by
  have hrest : n - (n / unit + n / unit % 2) * unit = n % unit - n / unit % 2 * unit := by
    rw [Int.emod_def n unit]
    ring
  have heven : Even (n / unit + n / unit % 2) := by
    rw [Int.even_iff]
    omega
  rw [isNearestQuotient_iff hunit, hrest]
  rcases Int.emod_two_eq_zero_or_one (n / unit) with hparity | hparity
  · rw [hparity] at heven ⊢
    exact .inr ⟨by omega, heven⟩
  · rw [hparity] at heven ⊢
    exact .inr ⟨by omega, heven⟩

theorem exists_isNearestQuotient (n : Int) : ∃ q, IsNearestQuotient n unit q := by
  rcases Int.lt_trichotomy (2 * (n % unit)) unit with hlt | heq | hgt
  · exact ⟨_, isNearestQuotient_of_lt hunit hlt⟩
  · exact ⟨_, isNearestQuotient_of_eq hunit heq⟩
  · exact ⟨_, isNearestQuotient_of_gt hunit hgt⟩

/-- Zero is the nearest multiple to everything within half a unit. -/
theorem isNearestQuotient_zero_iff : IsNearestQuotient n unit 0 ↔ 2 * n.natAbs ≤ unit := by
  rw [isNearestQuotient_iff hunit, Int.zero_mul, Int.sub_zero]
  have heven : Even (0 : Int) := by decide
  simp only [heven, and_true]
  omega

end Quotients

end Nearest

theorem fits_ten_pow_iff {k : Nat} : Fits (10 ^ k) ↔ k ≤ 18 := by
  constructor
  · intro h
    by_contra hk
    have hpow : (10 : Int) ^ 19 ≤ 10 ^ k := pow_le_pow_right₀ (by decide) (by omega)
    have hhigh := h.2
    omega
  · intro hk
    have hpow : (10 : Int) ^ k ≤ 10 ^ 18 := pow_le_pow_right₀ (by decide) hk
    have hpos : (0 : Int) < 10 ^ k := by positivity
    constructor <;> omega

namespace Builtin

variable {n factor zeros d : Int64}

theorem odd_quotient_iff {q : Int64} : (q % 2 != 0) = true ↔ q.toInt % 2 = 1 := by
  have hzero : q % 2 = 0 ↔ q.toInt.tmod 2 = 0 := by
    rw [← Int64.toInt_inj, Int64.toInt_mod]
    rfl
  rw [bne_iff_ne, Ne, hzero, ← Int.dvd_iff_tmod_eq_zero]
  omega

theorem toInt_euclideanQuotient_add_one (hfactor : 2 ≤ factor.toInt) :
    (euclideanQuotient n factor + 1).toInt = n.toInt / factor.toInt + 1 := by
  have hquotient : (euclideanQuotient n factor).toInt = n.toInt / factor.toInt :=
    toInt_euclideanQuotient (by omega)
  have hlow := (fits_toInt (euclideanQuotient n factor)).1
  have hhigh := n.toInt_lt
  have hhalf : n.toInt / factor.toInt < 2 ^ 62 := Int.ediv_lt_of_lt_mul (by omega) (by nlinarith)
  have hone : (1 : Int64).toInt = 1 := rfl
  rw [toInt_add, hquotient, hone]
  rw [hquotient] at hlow ⊢
  constructor <;> omega

/-- An integer is rounded to the nearest multiple of a factor. -/
theorem roundToMultiple_eq (hfactor : 2 ≤ factor.toInt) :
    ∃ q, IsNearestQuotient n.toInt factor.toInt q ∧
      roundToMultiple n factor = fitOr "round" (q * factor.toInt) := by
  have hpos : 0 < factor.toInt := by omega
  have hquotient : (euclideanQuotient n factor).toInt = n.toInt / factor.toInt :=
    toInt_euclideanQuotient hpos
  have hremainder : (euclideanRemainder n factor).toInt = n.toInt % factor.toInt :=
    toInt_euclideanRemainder hpos
  have hcarry : (euclideanQuotient n factor + 1).toInt = n.toInt / factor.toInt + 1 :=
    toInt_euclideanQuotient_add_one hfactor
  rw [roundToMultiple, hremainder]
  cases hhalf : compare (2 * (n.toInt % factor.toInt)) factor.toInt with
  | lt =>
    refine ⟨_, isNearestQuotient_of_lt hpos (Int.compare_eq_lt.mp hhalf), ?_⟩
    simp [hquotient]
  | gt =>
    refine ⟨_, isNearestQuotient_of_gt hpos (Int.compare_eq_gt.mp hhalf), ?_⟩
    simp [hcarry]
  | eq =>
    refine ⟨_, isNearestQuotient_of_eq hpos (Int.compare_eq_eq.mp hhalf), ?_⟩
    by_cases hodd : (euclideanQuotient n factor % 2 != 0) = true
    · have hparity := odd_quotient_iff.mp hodd
      rw [hquotient] at hparity
      simp [hodd, hcarry, hparity]
    · have hparity := odd_quotient_iff.not.mp hodd
      rw [hquotient] at hparity
      have heven : n.toInt / factor.toInt % 2 = 0 := by omega
      simp [hodd, hquotient, heven]

theorem exists_narrowPower?_ten (hnonneg : 0 ≤ zeros.toInt) (h : zeros.toInt ≤ 18) :
    ∃ factor, narrowPower? 10 zeros = some factor ∧ factor.toInt = 10 ^ zeros.toInt.toNat := by
  have hten : (10 : Int64).toInt = 10 := rfl
  have hvalue := toInt_ofInt (fits_ten_pow_iff.mpr (show zeros.toInt.toNat ≤ 18 by omega))
  refine ⟨_, narrowPower?_eq_some_iff.mpr ⟨hnonneg, by omega, ?_⟩, hvalue⟩
  rw [hten, hvalue]

theorem roundInteger_eq (n : Int64) (hone : 1 ≤ zeros.toInt) (h : zeros.toInt ≤ 18) :
    ∃ q, IsNearestQuotient n.toInt (10 ^ zeros.toInt.toNat) q ∧
      roundInteger n zeros = fitOr "round" (q * 10 ^ zeros.toInt.toNat) := by
  obtain ⟨factor, hpower, hvalue⟩ := exists_narrowPower?_ten (by omega) h
  have hlarge : (10 : Int) ^ 1 ≤ factor.toInt := by
    rw [hvalue]
    exact pow_le_pow_right₀ (by decide) (by omega)
  rw [roundInteger, hpower, ← hvalue]
  exact roundToMultiple_eq (by omega)

theorem roundInteger_eq_zero (h : 18 < zeros.toInt) : roundInteger n zeros = .ok (.integer 0) := by
  have hten : (10 : Int64).toInt = 10 := rfl
  have hnot : ¬ Fits (10 ^ zeros.toInt.toNat) := fits_ten_pow_iff.not.mpr (by omega)
  rw [roundInteger, narrowPower?_eq_none_iff.mpr (.inr (.inr (by rwa [hten])))]

/-- Zero is the exact answer for a power of ten that does not fit, but for `10 ^ 19` and an integer
past half of it. -/
theorem isExact_zero_iff {k : Nat} {q : Int} (hk : 18 < k)
    (hq : IsNearestQuotient n.toInt (10 ^ k) q) :
    IsExact "round" (q * 10 ^ k) (.ok (.integer 0)) ↔
      ¬ (k = 19 ∧ 5 * 10 ^ 18 < n.toInt.natAbs) := by
  have hpos : (0 : Int) < 10 ^ k := by positivity
  have hexact : IsExact "round" (q * 10 ^ k) (.ok (.integer 0)) ↔ q = 0 := by
    constructor
    · intro h
      have hzero : 0 = q * 10 ^ k := (h.ok_iff 0).mp rfl
      exact (mul_eq_zero.mp hzero.symm).resolve_right hpos.ne'
    · rintro rfl
      have hvalue : (0 : Int64).toInt = 0 * 10 ^ k := (Int.zero_mul _).symm
      exact .of_fits hvalue rfl
  have hzero : q = 0 ↔ 2 * (n.toInt.natAbs : Int) ≤ 10 ^ k := by
    rw [← isNearestQuotient_zero_iff hpos]
    constructor
    · rintro rfl
      exact hq
    · exact fun h => IsNearestQuotient.unique hpos h hq
  rw [hexact, hzero]
  have hlow := n.le_toInt
  have hhigh := n.toInt_lt
  by_cases hnineteen : k = 19
  · subst hnineteen
    omega
  · have hpow : (10 : Int) ^ 20 ≤ 10 ^ k := pow_le_pow_right₀ (by decide) (by omega)
    omega

theorem round_apply_of_neg (h : d.toInt < 0) :
    round.apply [.integer n, .integer d] = roundInteger n (-d) := by
  show (if 0 ≤ d.toInt then _ else _) = _
  rw [if_neg (Int.not_le.mpr h)]

/-- There is one multiple of the power of ten to round to. The answer is that multiple if it fits
and an overflow if not, unless the power is `10 ^ 19` and the integer past half of it: past
eighteen zeros the answer is zero. -/
theorem isExact_round_iff (hleast : Int64.minValue < d) (hd : d < 0) :
    ∃ q, (∀ k, IsNearestQuotient n.toInt (10 ^ d.toInt.natAbs) k ↔ k = q) ∧
      (IsExact "round" (q * 10 ^ d.toInt.natAbs) (round.apply [.integer n, .integer d]) ↔
        ¬ (d = -19 ∧ 5 * 10 ^ 18 < n.toInt.natAbs)) ∧
      (d < -18 → round.apply [.integer n, .integer d] = .ok (.integer 0)) := by
  have hneg : d.toInt < 0 := Int64.lt_iff_toInt_lt.mp hd
  have hzeros : (-d).toInt = -d.toInt := toInt_neg (by rintro rfl; exact absurd hleast (by decide))
  have hnat : (-d).toInt.toNat = d.toInt.natAbs := by omega
  have hpos : (0 : Int) < 10 ^ d.toInt.natAbs := by positivity
  have hround := round_apply_of_neg (n := n) hneg
  have hnineteen : d = -19 ↔ d.toInt.natAbs = 19 := by
    rw [← Int64.toInt_inj]
    have hvalue : (-19 : Int64).toInt = -19 := rfl
    omega
  have heighteen : d < -18 ↔ 18 < d.toInt.natAbs := by
    rw [Int64.lt_iff_toInt_lt]
    have hvalue : (-18 : Int64).toInt = -18 := rfl
    omega
  obtain ⟨q, hq⟩ := exists_isNearestQuotient hpos n.toInt
  refine ⟨q, fun k => ⟨fun hk => hq.unique hpos hk, fun hk => hk ▸ hq⟩, ?_, ?_⟩
  · rw [hround, hnineteen]
    by_cases hfew : d.toInt.natAbs ≤ 18
    · have hone : 1 ≤ (-d).toInt := by omega
      obtain ⟨k, hk, hanswer⟩ := roundInteger_eq n hone (by omega)
      rw [hnat] at hk hanswer
      rw [hanswer, hq.unique hpos hk]
      exact iff_of_true (isExact_fitOr _ _) (by omega)
    · rw [roundInteger_eq_zero (by omega)]
      exact isExact_zero_iff (by omega) hq
  · intro hmany
    have hpast := heighteen.mp hmany
    rw [hround]
    exact roundInteger_eq_zero (by omega)

theorem isExact_round_iff_tens :
    round.apply [.integer (-25), .integer (-1)] = .ok (.integer (-20)) ∧
      round.apply [.integer Int64.maxValue, .integer (-1)] = .error (.overflow "round") := by
  have hleast : Int64.minValue < (-1 : Int64) := by decide
  have hnegative : (-1 : Int64) < 0 := by decide
  have hten : (10 : Int) ^ (-1 : Int64).toInt.natAbs = 10 := rfl
  constructor
  · obtain ⟨q, hq, hexact, -⟩ := isExact_round_iff (n := -25) hleast hnegative
    rw [hten] at hq hexact
    have hnearest : IsNearestQuotient (-25) 10 (-2) :=
      (isNearestQuotient_iff (by decide)).mpr (.inr (by decide))
    obtain rfl := (hq (-2)).mp hnearest
    exact ((hexact.mpr (by decide)).ok_iff (-20)).mpr (by decide)
  · obtain ⟨q, hq, hexact, -⟩ := isExact_round_iff (n := Int64.maxValue) hleast hnegative
    rw [hten] at hq hexact
    have hnearest : IsNearestQuotient Int64.maxValue.toInt 10 922337203685477581 :=
      (isNearestQuotient_iff (by decide)).mpr (.inl (by decide))
    obtain rfl := (hq 922337203685477581).mp hnearest
    exact (hexact.mpr (by decide)).overflow_iff.mpr (by decide)

/-- The multiple of `10 ^ 19` nearest to the greatest integer is `10 ^ 19`, which does not fit, but
the answer is zero. -/
theorem not_isExact_round :
    IsNearestQuotient Int64.maxValue.toInt (10 ^ 19) 1 ∧ ¬ Fits (1 * 10 ^ 19) ∧
      round.apply [.integer Int64.maxValue, .integer (-19)] = .ok (.integer 0) :=
  ⟨(isNearestQuotient_iff (by decide)).mpr (.inl (by decide)), by decide, by decide +kernel⟩

end Builtin

end FormLogic
