import FormLogic.Proofs.Value.Meaning

/-! Amounts, the numbers that lie somewhere, and the doubles they are taken to. A float is its own
double; integers past `2 ^ 53` may share one with each other and with floats. -/

namespace FormLogic

open Binary64

/-- An integer, or a float other than the absence of a number. -/
structure Amount where
  quantity : Quantity
  isSome_place? : quantity.place?.isSome

namespace Amount

def ofInteger (n : Int64) : Amount := ⟨.integer n, rfl⟩

def value (a : Amount) : Value := .ofQuantity a.quantity

def place (a : Amount) : Place := a.quantity.place?.get a.isSome_place?

def double (a : Amount) : Place := a.place.nearest

variable {a b : Amount}

theorem place?_quantity (a : Amount) : a.quantity.place? = some a.place :=
  (Option.some_get a.isSome_place?).symm

theorem exists_value_eq_iff {v : Value} :
    (∃ a : Amount, a.value = v) ↔ v.isNumber = true ∧ v.hasNaN = false := by
  constructor
  · rintro ⟨⟨q, hq⟩, rfl⟩
    cases q with
    | integer n => exact ⟨rfl, rfl⟩
    | float x =>
      have hnumber : isNaN x = false := by simpa [Quantity.place?, isNaN] using hq
      exact ⟨rfl, hnumber⟩
  · rintro ⟨hnumber, hnan⟩
    cases v with
    | integer n => exact ⟨ofInteger n, rfl⟩
    | float x =>
      have hplace : (Quantity.float x).place?.isSome := by
        simpa [Quantity.place?, Value.hasNaN, isNaN] using hnan
      exact ⟨⟨.float x, hplace⟩, rfl⟩
    | _ => cases hnumber

theorem value_of_integer {n : Int64} (h : a.quantity = .integer n) : a.value = .integer n := by
  rw [value, h]
  rfl

theorem value_of_float {x : Float} (h : a.quantity = .float x) : a.value = .float x := by
  rw [value, h]
  rfl

theorem kind_value (a : Amount) : a.value.kind = .integer ∨ a.value.kind = .float := by
  cases h : a.quantity with
  | integer n =>
    left
    rw [value_of_integer h, Value.kind]
  | float x =>
    right
    rw [value_of_float h, Value.kind]

theorem exists_integer (h : a.value.kind = .integer) : ∃ n, a.quantity = .integer n := by
  cases hq : a.quantity with
  | integer n => exact ⟨n, rfl⟩
  | float x =>
    rw [value_of_float hq] at h
    cases h

theorem exists_float (h : a.value.kind = .float) : ∃ x, a.quantity = .float x := by
  cases hq : a.quantity with
  | integer n =>
    rw [value_of_integer hq] at h
    cases h
  | float x => exact ⟨x, rfl⟩

theorem place_of_integer {n : Int64} (h : a.quantity = .integer n) : a.place = .ofInt n.toInt := by
  have hplace := a.place?_quantity
  rw [h] at hplace
  exact (Option.some.inj hplace).symm

theorem double_eq_place_of_float (h : a.value.kind = .float) : a.double = a.place := by
  obtain ⟨x, hx⟩ := exists_float h
  have hplace := a.place?_quantity
  rw [hx] at hplace
  exact nearest_of_place? hplace

theorem double_eq_place_of_integer {n : Int64} (h : a.quantity = .integer n)
    (hn : n.toInt.natAbs ≤ 2 ^ 53) : a.double = a.place := by
  rw [double, place_of_integer h]
  exact Place.nearest_ofInt hn

theorem double_eq_place (h : ∀ n, a.value = .integer n → n.toInt.natAbs ≤ 2 ^ 53) :
    a.double = a.place := by
  rcases a.kind_value with hinteger | hfloat
  · obtain ⟨n, hn⟩ := exists_integer hinteger
    exact double_eq_place_of_integer hn (h n (value_of_integer hn))
  · exact double_eq_place_of_float hfloat

theorem double_mono (h : a.place ≤ b.place) : a.double ≤ b.double := Place.nearest_mono h

/-- Where the doubles of amounts differ they stand in the order of the amounts. -/
theorem compare_double (h : a.double = b.double → a.place = b.place) :
    a.double.compare b.double = a.place.compare b.place := by
  by_cases hdouble : a.double = b.double
  · rw [hdouble, h hdouble, Place.compare_self, Place.compare_self]
  · rcases lt_trichotomy a.place b.place with hlt | heq | hgt
    · have hle : a.double < b.double := lt_of_le_of_ne (double_mono hlt.le) hdouble
      rw [Place.lt_def.mp hlt, Place.lt_def.mp hle]
    · exact absurd (congrArg Place.nearest heq) hdouble
    · have hge : b.double < a.double := lt_of_le_of_ne (double_mono hgt.le) (Ne.symm hdouble)
      rw [Place.compare_eq_gt.mpr hgt, Place.compare_eq_gt.mpr hge]

theorem place?_toFloat (a : Amount) : Binary64.place? a.quantity.toFloat = some a.double := by
  cases hq : a.quantity with
  | integer n => rw [Quantity.toFloat, place?_ofInt, double, place_of_integer hq]
  | float x =>
    have hkind : a.value.kind = .float := by rw [value_of_float hq, Value.kind]
    have hplace := a.place?_quantity
    rw [hq] at hplace
    rw [double_eq_place_of_float hkind]
    exact hplace

theorem compare?_toFloat (a b : Amount) :
    compare? a.quantity.toFloat b.quantity.toFloat = some (a.double.compare b.double) :=
  compare?_eq a.place?_toFloat b.place?_toFloat

end Amount

end FormLogic
