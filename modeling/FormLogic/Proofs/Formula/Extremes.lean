import FormLogic.Formula.Builtin
import FormLogic.Proofs.Except
import FormLogic.Proofs.Value.Amounts

/-! The greatest and the least of numbers. The scan holds doubles against each other, so that it
ends at the first number with the double of the true extreme. -/

namespace FormLogic

open Binary64

namespace Binary64.Place

variable {p q r : Place} {wanted : Ordering}

theorem compare_self_ne (hwanted : wanted ≠ .eq) (p : Place) : p.compare p ≠ wanted := by
  rw [compare_self]
  exact hwanted.symm

theorem compare_ne_of_swap (hwanted : wanted ≠ .eq) (h : p.compare q = wanted) :
    q.compare p ≠ wanted := by
  rw [← compare_swap, h]
  cases wanted with
  | eq => exact absurd rfl hwanted
  | lt => decide
  | gt => decide

theorem eq_of_compare_ne (hwanted : wanted ≠ .eq) (hpq : p.compare q ≠ wanted)
    (hqp : q.compare p ≠ wanted) : p = q := by
  rw [← compare_swap] at hqp
  rw [← compare_eq_eq]
  cases hcompare : p.compare q <;> cases wanted <;> simp_all

theorem compare_trans_of_ne (hwanted : wanted ≠ .eq) (hpq : p.compare q = wanted)
    (hrq : r.compare q ≠ wanted) : p.compare r = wanted := by
  cases wanted with
  | eq => exact absurd rfl hwanted
  | lt =>
    rw [Ne, ← lt_def] at hrq
    rw [← lt_def] at hpq ⊢
    exact lt_of_lt_of_le hpq (not_lt.mp hrq)
  | gt =>
    rw [Ne, compare_eq_gt] at hrq
    rw [compare_eq_gt] at hpq ⊢
    exact lt_of_le_of_lt (not_lt.mp hrq) hpq

end Binary64.Place

namespace Amount

/-- Whether an amount is the first of a list in the wanted order of a key: it stands so to all
before it, and none after it stands so to it. -/
def IsFirst (key : Amount → Place) (wanted : Ordering) (as : List Amount) (a : Amount) : Prop :=
  ∃ front back, as = front ++ a :: back ∧ (∀ b ∈ front, (key a).compare (key b) = wanted) ∧
    ∀ b ∈ back, (key b).compare (key a) ≠ wanted

/-- The better of the best so far and the next amount. -/
def better (key : Amount → Place) (wanted : Ordering) (best a : Amount) : Amount :=
  if (key a).compare (key best) = wanted then a else best

variable {key : Amount → Place} {wanted : Ordering} {as : List Amount} {a b best : Amount}

namespace IsFirst

theorem mem (h : IsFirst key wanted as a) : a ∈ as := by
  obtain ⟨front, back, rfl, -⟩ := h
  simp

theorem singleton (key : Amount → Place) (wanted : Ordering) (a : Amount) :
    IsFirst key wanted [a] a := ⟨[], [], rfl, by simp, by simp⟩

variable (hwanted : wanted ≠ .eq) (h : IsFirst key wanted as best)
include hwanted h

theorem compare_ne (hb : b ∈ as) : (key b).compare (key best) ≠ wanted := by
  obtain ⟨front, back, rfl, hfront, hback⟩ := h
  rw [List.mem_append, List.mem_cons] at hb
  rcases hb with hb | rfl | hb
  · exact Place.compare_ne_of_swap hwanted (hfront b hb)
  · exact Place.compare_self_ne hwanted _
  · exact hback b hb

theorem step (a : Amount) : IsFirst key wanted (as ++ [a]) (better key wanted best a) := by
  unfold better
  by_cases hbetter : (key a).compare (key best) = wanted
  · rw [if_pos hbetter]
    refine ⟨as, [], rfl, fun b hb => ?_, by simp⟩
    exact Place.compare_trans_of_ne hwanted hbetter (h.compare_ne hwanted hb)
  · rw [if_neg hbetter]
    obtain ⟨front, back, rfl, hfront, hback⟩ := h
    refine ⟨front, back ++ [a], by simp, hfront, fun b hb => ?_⟩
    rw [List.mem_append, List.mem_singleton] at hb
    rcases hb with hb | rfl
    · exact hback b hb
    · exact hbetter

theorem foldl (more : List Amount) :
    IsFirst key wanted (as ++ more) (more.foldl (better key wanted) best) := by
  induction more generalizing as best with
  | nil => simpa using h
  | cons a more ih =>
    have hrest := ih (h.step hwanted a)
    rwa [List.append_assoc] at hrest

end IsFirst

theorem exists_isFirst (key : Amount → Place) (hwanted : wanted ≠ .eq) (hne : as ≠ []) :
    ∃ a, IsFirst key wanted as a := by
  cases as with
  | nil => exact absurd rfl hne
  | cons a rest => exact ⟨_, (IsFirst.singleton key wanted a).foldl hwanted rest⟩

theorem compare_place_of_double (hwanted : wanted ≠ .eq)
    (h : a.double.compare b.double = wanted) : a.place.compare b.place = wanted := by
  have hplaces : a.double = b.double → a.place = b.place := by
    intro hdouble
    rw [hdouble] at h
    exact absurd h (Place.compare_self_ne hwanted _)
  rw [← h, compare_double hplaces]

/-- The first by doubles is the first amount that has the double of the first by places. -/
theorem find?_double_eq_some {e : Amount} (hwanted : wanted ≠ .eq)
    (ha : IsFirst place wanted as a) (he : IsFirst double wanted as e) :
    as.find? (·.double = a.double) = some e := by
  have hea : e.double.compare a.double ≠ wanted := fun h =>
    ha.compare_ne hwanted he.mem (compare_place_of_double hwanted h)
  have hdouble : e.double = a.double :=
    Place.eq_of_compare_ne hwanted hea (he.compare_ne hwanted ha.mem)
  obtain ⟨front, back, rfl, hfront, -⟩ := he
  rw [List.find?_eq_some_iff_append]
  refine ⟨by simpa using hdouble, front, back, rfl, fun b hb => ?_⟩
  have hne : b.double ≠ a.double := by
    rintro hb'
    have h := hfront b hb
    rw [hdouble, hb'] at h
    exact Place.compare_self_ne hwanted _ h
  simpa using hne

end Amount

namespace Builtin

variable {wanted : Ordering} {as : List Amount}

theorem number_value (f : Builtin) (a : Amount) : f.number a.value = .ok a.quantity := by
  rw [number, Amount.value, Value.quantity?_ofQuantity]

/-- The scan keeps the better by doubles. -/
theorem extremeFrom_value (f : Builtin) (wanted : Ordering) (best : Amount) (as : List Amount) :
    f.extremeFrom wanted best.quantity (as.map Amount.value) =
      .ok (as.foldl (Amount.better Amount.double wanted) best).quantity := by
  induction as generalizing best with
  | nil => rfl
  | cons a as ih =>
    have hbest : (if compare? a.quantity.toFloat best.quantity.toFloat = some wanted then a.quantity
        else best.quantity) = (Amount.better Amount.double wanted best a).quantity := by
      rw [Amount.compare?_toFloat, Amount.better, apply_ite Amount.quantity]
      simp only [Option.some.injEq]
    rw [List.map_cons, extremeFrom, number_value, ok_bind, hbest, ih, List.foldl_cons]

theorem extreme_value (f : Builtin) (hwanted : wanted ≠ .eq) (hne : as ≠ []) :
    ∃ e, f.extreme wanted (as.map Amount.value) = .ok e.value ∧
      Amount.IsFirst Amount.double wanted as e := by
  cases as with
  | nil => exact absurd rfl hne
  | cons a rest =>
    refine ⟨_, ?_, (Amount.IsFirst.singleton Amount.double wanted a).foldl hwanted rest⟩
    rw [List.map_cons, extreme, number_value, ok_bind, extremeFrom_value, ok_bind]
    rfl

theorem items_value (as : List Amount) : items (as.map Amount.value) = as.map Amount.value := by
  cases as with
  | nil => rfl
  | cons a rest =>
    rw [List.map_cons]
    cases ha : a.quantity with
    | integer n =>
      rw [Amount.value_of_integer ha]
      rfl
    | float x =>
      rw [Amount.value_of_float ha]
      rfl

/-- Among numbers there is a first extreme, and the function gives the first number taken to the
same double; that is the first extreme itself exactly if no number before it is taken to its double,
and in particular if no integer is past `2 ^ 53`, on either side of zero. -/
theorem extremes_first_iff {f : Builtin} (hf : (f, wanted) ∈ [(max, Ordering.gt), (min, .lt)])
    (hne : as ≠ []) :
    ∃ front a back e, as = front ++ a :: back ∧
      (∀ b ∈ front, a.place.compare b.place = wanted) ∧
      (∀ b ∈ back, b.place.compare a.place ≠ wanted) ∧
      f.apply (as.map Amount.value) = .ok e.value ∧
      f.apply [.list (as.map Amount.value)] = .ok e.value ∧
      as.find? (·.double = a.double) = some e ∧
      (e = a ↔ ∀ b ∈ front, b.double ≠ a.double) ∧
      ((∀ n, Value.integer n ∈ as.map Amount.value → n.toInt.natAbs ≤ 2 ^ 53) → e = a) := by
  have hwanted : wanted ≠ .eq := by
    rintro rfl
    simp at hf
  obtain ⟨a, ha⟩ := Amount.exists_isFirst Amount.place hwanted hne
  obtain ⟨e, hextreme, he⟩ := f.extreme_value hwanted hne
  have hfind := Amount.find?_double_eq_some hwanted ha he
  have happly : ∀ vs, items vs = as.map Amount.value → f.apply vs = .ok e.value := by
    intro vs hitems
    simp only [List.mem_cons, Prod.mk.injEq, List.not_mem_nil, or_false] at hf
    rcases hf with ⟨rfl, rfl⟩ | ⟨rfl, rfl⟩
    · rw [apply, hitems, hextreme]
    · rw [apply, hitems, hextreme]
  have hexact : (∀ n, Value.integer n ∈ as.map Amount.value → n.toInt.natAbs ≤ 2 ^ 53) →
      ∀ b ∈ as, b.double = b.place := fun hsmall b hb =>
    Amount.double_eq_place fun n hn => hsmall n (hn ▸ List.mem_map_of_mem hb)
  obtain ⟨front, back, rfl, hfront, hback⟩ := ha
  have hfirst : e = a ↔ ∀ b ∈ front, b.double ≠ a.double := by
    constructor
    · -- a number before it with its double would be found in its stead
      rintro rfl b hb hdouble
      have hsome : (front.find? (·.double = e.double)).isSome := by
        rw [List.find?_isSome]
        exact ⟨b, hb, by simpa using hdouble⟩
      obtain ⟨c, hc⟩ := Option.isSome_iff_exists.mp hsome
      rw [List.find?_append, hc, Option.some_or] at hfind
      cases hfind
      exact Place.compare_self_ne hwanted _ (hfront _ (List.mem_of_find?_eq_some hc))
    · intro hdoubles
      have hnone : front.find? (·.double = a.double) = none := by
        rw [List.find?_eq_none]
        simpa using hdoubles
      rw [List.find?_append, hnone, Option.none_or, List.find?_cons_of_pos (by simp)] at hfind
      exact (Option.some.inj hfind).symm
  refine ⟨front, a, back, e, rfl, hfront, hback, happly _ (items_value _), happly _ rfl, hfind,
    hfirst, fun hsmall => hfirst.mpr fun b hb hdouble => ?_⟩
  have hplace : b.place = a.place := by
    rw [← hexact hsmall b (by simp [hb]), ← hexact hsmall a (by simp), hdouble]
  have hcompare := hfront b hb
  rw [hplace] at hcompare
  exact Place.compare_self_ne hwanted _ hcompare

def prices : List Amount :=
  [.ofInteger 3, .ofInteger 7, ⟨.float (Float.ofBits 0x401C000000000000), by decide +kernel⟩]

theorem extremes_first_iff_prices :
    ∃ e ∈ prices, max.apply (prices.map Amount.value) = .ok e.value ∧
      ∀ b ∈ prices, b.place ≤ e.place := by
  have hmax : (max, Ordering.gt) ∈ [(max, Ordering.gt), (min, .lt)] := by simp
  have hne : prices ≠ [] := by simp [prices]
  have hsmall : ∀ n, Value.integer n ∈ prices.map Amount.value → n.toInt.natAbs ≤ 2 ^ 53 := by
    intro n hn
    have hvalues : prices.map Amount.value =
        [.integer 3, .integer 7, .float (Float.ofBits 0x401C000000000000)] := rfl
    simp only [hvalues, List.mem_cons, Value.integer.injEq, reduceCtorEq, List.not_mem_nil,
      or_false] at hn
    rcases hn with rfl | rfl
    · decide
    · decide
  obtain ⟨front, a, back, e, hsplit, hfront, hback, happly, -, -, -, hexact⟩ :=
    extremes_first_iff hmax hne
  obtain rfl := hexact hsmall
  refine ⟨e, by simp [hsplit], happly, fun b hb => ?_⟩
  rw [hsplit, List.mem_append, List.mem_cons] at hb
  rcases hb with hb | rfl | hb
  · exact (Place.compare_eq_gt.mp (hfront b hb)).le
  · exact le_rfl
  · exact not_lt.mp fun hlt => hback b hb (Place.compare_eq_gt.mpr hlt)

def neighbours : List Amount := [.ofInteger 9007199254740992, .ofInteger 9007199254740993]

/-- Of two integers with one double the first one is the greatest to the scan, and the least. -/
theorem not_extremes_first :
    (¬ ∃ a, Amount.IsFirst Amount.place .gt neighbours a ∧
      max.apply (neighbours.map Amount.value) = .ok a.value) ∧
    ¬ ∃ a, Amount.IsFirst Amount.place .lt neighbours.reverse a ∧
      min.apply (neighbours.reverse.map Amount.value) = .ok a.value := by
  constructor
  · rintro ⟨a, ha, happly⟩
    have hmem := ha.mem
    have hgreater : Amount.ofInteger 9007199254740993 ∈ neighbours := by simp [neighbours]
    have hbeaten := ha.compare_ne (by decide) hgreater
    simp only [neighbours, List.mem_cons, List.not_mem_nil, or_false] at hmem
    rcases hmem with rfl | rfl
    · exact hbeaten (by decide +kernel)
    · exact absurd happly (by decide +kernel)
  · rintro ⟨a, ha, happly⟩
    have hmem := ha.mem
    have hlesser : Amount.ofInteger 9007199254740992 ∈ neighbours.reverse := by simp [neighbours]
    have hbeaten := ha.compare_ne (by decide) hlesser
    simp only [neighbours, List.reverse_cons, List.reverse_nil, List.nil_append, List.cons_append,
      List.mem_cons, List.not_mem_nil, or_false] at hmem
    rcases hmem with rfl | rfl
    · exact hbeaten (by decide +kernel)
    · exact absurd happly (by decide +kernel)

end Builtin

end FormLogic
