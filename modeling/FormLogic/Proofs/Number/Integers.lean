import FormLogic.Proofs.Number.Places

/-! Integers among the doubles: where they lie, to which doubles they are taken, and when a double
is one of them. -/

namespace FormLogic.Binary64

def Place.ofInt (n : Int) : Place := .finite (n * unitsInOne)

theorem Place.ofInt_le_ofInt {m n : Int} : Place.ofInt m ≤ Place.ofInt n ↔ m ≤ n := by
  have hpos : (0 : Int) < unitsInOne := by decide
  rw [Place.ofInt, Place.ofInt, Place.finite_le_finite]
  constructor
  · exact fun h => Int.le_of_mul_le_mul_right h hpos
  · exact fun h => Int.mul_le_mul_of_nonneg_right h hpos.le

theorem Place.strictMono_ofInt : StrictMono Place.ofInt :=
  strictMono_of_le_iff_le fun _ _ => Place.ofInt_le_ofInt.symm

theorem Place.compare_ofInt (m n : Int) :
    (Place.ofInt m).compare (Place.ofInt n) = Ord.compare m n := by
  rcases lt_trichotomy m n with hlt | heq | hgt
  · rw [Int.compare_eq_lt.mpr hlt, ← Place.lt_def]
    exact Place.strictMono_ofInt hlt
  · rw [heq, Int.compare_eq_eq.mpr rfl, Place.compare_eq_eq]
  · rw [Int.compare_eq_gt.mpr hgt, Place.compare_eq_gt]
    exact Place.strictMono_ofInt hgt

/-- An integer is taken to the double nearest to it. -/
theorem place?_ofInt (n : Int) : place? (ofInt n) = some (Place.ofInt n).nearest := by
  have hpos : (0 : Int) < unitsInOne := by decide
  have hsign : n * unitsInOne < 0 ↔ n < 0 := by
    constructor
    · intro h
      by_contra hn
      have := Int.mul_nonneg (Int.not_lt.mp hn) hpos.le
      omega
    · exact fun h => Int.mul_neg_of_neg_of_pos h hpos
  have habs : (n * (unitsInOne : Int)).natAbs = n.natAbs * unitsInOne := by
    rw [Int.natAbs_mul, Int.natAbs_natCast]
  rw [ofInt, place?_ofMagnitude (nearestBits_le _), Place.ofInt, Place.nearest, habs]
  simp only [hsign]

theorem Place.nearest_ofInt {n : Int} (h : n.natAbs ≤ 2 ^ 53) :
    (Place.ofInt n).nearest = .ofInt n := by
  by_cases hlt : n.natAbs < 2 ^ 53
  · have hunit : unitsInOne = 1 <<< 1074 := rfl
    obtain ⟨hexcess, hfits⟩ := two_pow_excess_dvd hlt 1074
    rw [← hunit] at hexcess hfits
    have hin : nearestBits (n.natAbs * unitsInOne) 1 < infinityBits := by
      have hround := (divHalfEven_excess (n.natAbs * unitsInOne)).1
      rw [nearestBits_one, infinityBits_eq]
      omega
    have hunits := unitsOfBits_nearestBits hfits hin
    have habs : (n * (unitsInOne : Int)).natAbs = n.natAbs * unitsInOne := by
      rw [Int.natAbs_mul, Int.natAbs_natCast]
    rw [Place.ofInt, Place.nearest, habs, Place.ofBits, if_neg hin.ne, hunits, ← habs]
    by_cases hneg : n * (unitsInOne : Int) < 0
    · simp only [hneg, decide_true, if_true, Place.finite.injEq]
      omega
    · simp only [hneg, decide_false, Bool.false_eq_true, if_false, Place.finite.injEq]
      omega
  · have hn : n = 2 ^ 53 ∨ n = -2 ^ 53 := by omega
    rcases hn with rfl | rfl
    · decide +kernel
    · decide +kernel

/-- The least 64-bit integer is a double, and the greatest has none of its own. -/
theorem place?_ofInt_ends :
    place? (ofInt Int64.minValue.toInt) = some (.ofInt (-2 ^ 63)) ∧
      place? (ofInt Int64.maxValue.toInt) = some (.ofInt (2 ^ 63)) := by
  rw [place?_ofInt, place?_ofInt]
  decide +kernel

theorem isIntegral_iff {x : Float} : isIntegral x = true ↔ ∃ n, place? x = some (.ofInt n) := by
  unfold isIntegral Place.ofInt
  cases hp : place? x with
  | none => simp
  | some p =>
    cases p with
    | negativeEnd => simp
    | positiveEnd => simp
    | finite u =>
      simp only [decide_eq_true_eq, Option.some.injEq, Place.finite.injEq]
      rw [← Int.dvd_iff_emod_eq_zero]
      constructor
      · rintro ⟨n, hn⟩
        exact ⟨n, by rw [hn, Int.mul_comm]⟩
      · rintro ⟨n, hn⟩
        exact ⟨n, by rw [hn, Int.mul_comm]⟩

theorem compare?_eq {x y : Float} {p q : Place} (hx : place? x = some p) (hy : place? y = some q) :
    compare? x y = some (p.compare q) := by
  rw [compare?, hx, hy]

theorem truncate_of_place? {x : Float} {n : Int} (h : place? x = some (.ofInt n)) :
    truncate x = Int64.ofIntClamp n := by
  have hne : (unitsInOne : Int) ≠ 0 := by decide
  rw [truncate, h, Place.ofInt]
  simp only
  rw [Int.mul_tdiv_cancel _ hne]

theorem isExactly_iff {x : Float} {n : Int64} :
    isExactly x n = true ↔ place? x = some (.ofInt n.toInt) := by
  have hin : ∀ {m : Int}, place? x = some (.ofInt m) →
      (isExactly x n = true ↔ (-2 ^ 63 ≤ m ∧ m < 2 ^ 63) ∧ Int64.ofIntClamp m = n) := by
    intro m hm
    have hintegral : isIntegral x = true := isIntegral_iff.mpr ⟨m, hm⟩
    unfold isExactly
    rw [hintegral, compare?_eq hm place?_ofInt_ends.1, compare?_eq hm place?_ofInt_ends.2,
      truncate_of_place? hm]
    simp only [Bool.true_and, Option.any_some, Bool.and_eq_true, decide_eq_true_eq,
      Place.isGE_compare, Option.some.injEq, ← Place.lt_def, Place.ofInt_le_ofInt,
      Place.strictMono_ofInt.lt_iff_lt]
  have hmin : Int64.minValue.toInt = -2 ^ 63 := rfl
  have hmax : Int64.maxValue.toInt = 2 ^ 63 - 1 := rfl
  constructor
  · intro h
    have hintegral : isIntegral x = true := by
      simp only [isExactly, Bool.and_eq_true] at h
      exact h.1.1.1
    obtain ⟨m, hm⟩ := isIntegral_iff.mp hintegral
    obtain ⟨hrange, hcut⟩ := (hin hm).mp h
    rw [hm, ← hcut, Int64.toInt_ofIntClamp (by omega) (by omega)]
  · intro h
    have hlow := n.minValue_le_toInt
    have hhigh := n.toInt_le
    exact (hin h).mpr ⟨by omega, Int64.ofIntClamp_toInt n⟩

theorem Place.ofBits_eq_ofInt_zero_iff {negative : Bool} {bits : Nat} :
    Place.ofBits negative bits = .ofInt 0 ↔ bits = 0 := by
  have hzero : Place.ofInt 0 = .finite 0 := rfl
  have hunits : unitsOfBits bits = 0 ↔ bits = 0 := strictMono_unitsOfBits.injective.eq_iff' rfl
  rw [hzero, Place.ofBits]
  by_cases htop : bits = infinityBits
  · have hne : infinityBits ≠ 0 := by decide
    cases negative <;> simp [htop, hne]
  · cases negative <;> simp [htop, hunits]

theorem isZero_of_place? {x : Float} {p : Place} (h : place? x = some p) :
    isZero x = decide (p = .ofInt 0) := by
  rw [place?_eq] at h
  split at h
  · cases h
  · cases h
    rw [isZero, decide_eq_decide, Place.ofBits_eq_ofInt_zero_iff]

end FormLogic.Binary64
