import FormLogic.Proofs.Number.Nearest

/-! Places on the number line in their order, and the place of the double nearest to one. -/

namespace FormLogic.Binary64

namespace Place

instance : LE Place := ⟨fun p q => (p.compare q).isLE⟩

instance : LT Place := ⟨fun p q => p.compare q = .lt⟩

theorem le_def {p q : Place} : p ≤ q ↔ (p.compare q).isLE := Iff.rfl

theorem lt_def {p q : Place} : p < q ↔ p.compare q = .lt := Iff.rfl

instance : DecidableLE Place := fun p q => inferInstanceAs (Decidable ((p.compare q).isLE = true))

instance : DecidableLT Place := fun p q => inferInstanceAs (Decidable (p.compare q = .lt))

@[simp] theorem negativeEnd_le (p : Place) : negativeEnd ≤ p := by
  cases p <;> simp [le_def, compare]

@[simp] theorem le_positiveEnd (p : Place) : p ≤ positiveEnd := by
  cases p <;> simp [le_def, compare]

@[simp] theorem finite_le_finite {a b : Int} : finite a ≤ finite b ↔ a ≤ b := by
  simp [le_def, compare, Int.isLE_compare]

@[simp] theorem finite_le_negativeEnd {a : Int} : ¬ finite a ≤ negativeEnd := by
  simp [le_def, compare]

@[simp] theorem positiveEnd_le_finite {a : Int} : ¬ positiveEnd ≤ finite a := by
  simp [le_def, compare]

@[simp] theorem positiveEnd_le_negativeEnd : ¬ positiveEnd ≤ negativeEnd := by
  simp [le_def, compare]

protected theorem le_refl (p : Place) : p ≤ p := by
  cases p <;> simp

protected theorem le_trans {p q r : Place} (hpq : p ≤ q) (hqr : q ≤ r) : p ≤ r := by
  cases p <;> cases q <;> cases r <;> simp_all
  exact Int.le_trans hpq hqr

protected theorem le_antisymm {p q : Place} (hpq : p ≤ q) (hqp : q ≤ p) : p = q := by
  cases p <;> cases q <;> simp_all
  exact Int.le_antisymm hpq hqp

protected theorem le_total (p q : Place) : p ≤ q ∨ q ≤ p := by
  cases p <;> cases q <;> simp
  exact Int.le_total _ _

protected theorem lt_iff_le_not_ge {p q : Place} : p < q ↔ p ≤ q ∧ ¬ q ≤ p := by
  cases p <;> cases q <;> simp [lt_def, compare, Int.compare_eq_lt]
  omega

instance : LinearOrder Place where
  le_refl := Place.le_refl
  le_trans _ _ _ := Place.le_trans
  le_antisymm _ _ := Place.le_antisymm
  le_total := Place.le_total
  lt_iff_le_not_ge _ _ := Place.lt_iff_le_not_ge
  toDecidableLE := inferInstance

theorem compare_self (p : Place) : p.compare p = .eq := compare_eq_eq.mpr rfl

theorem compare_eq_gt {p q : Place} : p.compare q = .gt ↔ q < p := by
  rw [lt_def, ← compare_swap p q]
  cases p.compare q <;> simp

theorem isGE_compare {p q : Place} : (p.compare q).isGE ↔ q ≤ p := by
  rw [le_def, ← compare_swap p q]
  cases p.compare q <;> simp

/-- The place of a double by its sign and its other bits. -/
def ofBits (negative : Bool) (bits : Nat) : Place :=
  if bits = infinityBits then if negative then negativeEnd else positiveEnd
  else finite (if negative then -(unitsOfBits bits : Int) else unitsOfBits bits)

theorem ofBits_mono {a b : Nat} (hab : a ≤ b) (hb : b ≤ infinityBits) :
    ofBits false a ≤ ofBits false b := by
  have hunits := strictMono_unitsOfBits.monotone hab
  unfold ofBits
  by_cases hbtop : b = infinityBits
  · simp [hbtop]
  · have hatop : a ≠ infinityBits := by omega
    simpa [hatop, hbtop] using hunits

theorem ofBits_anti {a b : Nat} (hab : a ≤ b) (hb : b ≤ infinityBits) :
    ofBits true b ≤ ofBits true a := by
  have hunits := strictMono_unitsOfBits.monotone hab
  unfold ofBits
  by_cases hbtop : b = infinityBits
  · simp [hbtop]
  · have hatop : a ≠ infinityBits := by omega
    simpa [hatop, hbtop] using hunits

theorem ofBits_true_le_ofBits_false (a b : Nat) : ofBits true a ≤ ofBits false b := by
  unfold ofBits
  by_cases hatop : a = infinityBits
  · simp [hatop]
  · by_cases hbtop : b = infinityBits
    · simp [hbtop]
    · simp [hatop, hbtop]

/-- The place of the double nearest to a place. -/
def nearest : Place → Place
  | negativeEnd => negativeEnd
  | finite units => ofBits (units < 0) (nearestBits units.natAbs 1)
  | positiveEnd => positiveEnd

/-- The nearest doubles stand in the order of the places. -/
theorem nearest_mono : Monotone nearest := by
  intro p q h
  match p, q with
  | negativeEnd, _ => exact negativeEnd_le _
  | _, positiveEnd => exact le_positiveEnd _
  | finite a, negativeEnd => exact absurd h finite_le_negativeEnd
  | positiveEnd, negativeEnd => exact absurd h positiveEnd_le_negativeEnd
  | positiveEnd, finite b => exact absurd h positiveEnd_le_finite
  | finite a, finite b =>
    have hab : a ≤ b := finite_le_finite.mp h
    unfold nearest
    by_cases ha : a < 0
    · by_cases hb : b < 0
      · have habs : b.natAbs ≤ a.natAbs := by omega
        simpa [ha, hb] using ofBits_anti (nearestBits_mono habs) (nearestBits_le _)
      · simpa [ha, hb] using ofBits_true_le_ofBits_false _ _
    · have hb : ¬ b < 0 := by omega
      have habs : a.natAbs ≤ b.natAbs := by omega
      simpa [ha, hb] using ofBits_mono (nearestBits_mono habs) (nearestBits_le _)

/-- A place of a double is its own nearest one. -/
theorem nearest_ofBits {negative : Bool} {bits : Nat} (h : bits ≤ infinityBits) :
    (ofBits negative bits).nearest = ofBits negative bits := by
  have hbits := nearestBits_unitsOfBits h
  by_cases htop : bits = infinityBits
  · cases negative <;> simp [ofBits, htop, nearest]
  · cases negative with
    | false => simp [ofBits, htop, nearest, hbits]
    | true => simp [ofBits, htop, nearest, hbits]

end Place

theorem place?_eq (x : Float) :
    place? x = if infinityBits < magnitude x then none
      else some (.ofBits (isNegative x) (magnitude x)) := by
  unfold place? Place.ofBits
  split
  · rfl
  · split <;> rfl

theorem place?_ofMagnitude {negative : Bool} {bits : Nat} (h : bits ≤ infinityBits) :
    place? (ofMagnitude negative bits) = some (.ofBits negative bits) := by
  rw [place?_eq, magnitude_ofMagnitude h, isNegative_ofMagnitude h, if_neg (Nat.not_lt.mpr h)]

/-- Where a double lies, no other double is nearer. -/
theorem nearest_of_place? {x : Float} {p : Place} (h : place? x = some p) : p.nearest = p := by
  rw [place?_eq] at h
  split at h
  · cases h
  · next hle =>
    cases h
    exact Place.nearest_ofBits (Nat.not_lt.mp hle)

end FormLogic.Binary64
