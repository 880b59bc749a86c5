import FormLogic.Proofs.Value.Meaning

/-! Agreement is an equivalence of values but for the absence of a number: what contains it agrees
with nothing, itself included. -/

namespace FormLogic

open Binary64

namespace Value

variable {v : Value} {m : Meaning} {items : List Value} {entries : List (String × Value)}

theorem isEmpty_of_itemMeanings? {ms : List Meaning} (h : itemMeanings? items = some ms) :
    items.isEmpty = ms.isEmpty := by
  cases items with
  | nil =>
    cases h
    rfl
  | cons v vs =>
    obtain ⟨m, ns, -, -, rfl⟩ := itemMeanings?_cons_eq_some_iff.mp h
    rfl

theorem isEmpty_of_entryMeanings? {ms : List (String × Meaning)}
    (h : entryMeanings? entries = some ms) : entries.isEmpty = ms.isEmpty := by
  cases entries with
  | nil =>
    cases h
    rfl
  | cons e es =>
    obtain ⟨m, ns, -, -, rfl⟩ := entryMeanings?_cons_eq_some_iff.mp h
    rfl

/-- Whether a value counts as true lies in what it means. -/
theorem isTruthy_of_meaning? (h : v.meaning? = some m) : v.isTruthy = m.isTruthy := by
  cases v with
  | null =>
    cases h
    rfl
  | boolean b =>
    cases h
    rfl
  | integer n =>
    cases h
    have hzero : n.toInt = 0 ↔ n = 0 := by
      rw [← Int64.toInt_zero, Int64.toInt_inj]
    simp [isTruthy, Meaning.isTruthy, Place.strictMono_ofInt.injective.eq_iff, hzero]
  | float x =>
    rw [meaning?, Option.map_eq_some_iff] at h
    obtain ⟨p, hp, rfl⟩ := h
    simp [isTruthy, Meaning.isTruthy, isZero_of_place? hp]
  | text s =>
    cases h
    rfl
  | list items =>
    rw [meaning?, Option.map_eq_some_iff] at h
    obtain ⟨ms, hms, rfl⟩ := h
    rw [isTruthy, Meaning.isTruthy, isEmpty_of_itemMeanings? hms]
  | map entries =>
    rw [meaning?, Option.map_eq_some_iff] at h
    obtain ⟨ms, hms, rfl⟩ := h
    rw [isTruthy, Meaning.isTruthy, isEmpty_of_entryMeanings? hms]

/-- Agreement of values is symmetric and transitive, and a value agrees with itself exactly if no
float in it is the absence of a number; an integer agrees with a float that lies exactly in its
place; and values that agree both count as true or both do not. -/
theorem agrees_equivalence :
    (∀ v : Value, v.agrees v = true ↔ v.hasNaN = false) ∧
    (∀ v w : Value, v.agrees w = w.agrees v) ∧
    (∀ u v w : Value, u.agrees v = true → v.agrees w = true → u.agrees w = true) ∧
    (∀ (n : Int64) (x : Float), (integer n).agrees (float x) = true ↔
      Binary64.place? x = some (.finite (n.toInt * unitsInOne))) ∧
    ∀ v w : Value, v.agrees w = true → v.isTruthy = w.isTruthy := by
  refine ⟨fun v => ?_, fun v w => ?_, fun u v w huv hvw => ?_, fun n x => isExactly_iff,
    fun v w h => ?_⟩
  · have hmeans := isSome_meaning? v
    rw [agrees_iff]
    cases hv : v.meaning? with
    | none => simp_all
    | some m => simp_all
  · rw [Bool.eq_iff_iff, agrees_iff, agrees_iff]
    exact exists_congr fun m => and_comm
  · obtain ⟨m, hu, hv⟩ := (agrees_iff u v).mp huv
    obtain ⟨l, hv', hw⟩ := (agrees_iff v w).mp hvw
    have hml : m = l := Option.some.inj (hv.symm.trans hv')
    exact (agrees_iff u w).mpr ⟨m, hu, hml ▸ hw⟩
  · obtain ⟨m, hv, hw⟩ := (agrees_iff v w).mp h
    rw [isTruthy_of_meaning? hv, isTruthy_of_meaning? hw]

def twoTo53 : Value := .float (Float.ofBits 0x4340000000000000)

theorem agrees_equivalence_mixedChain :
    (list [twoTo53, .float (Float.ofBits 0)]).agrees
        (list [.integer 9007199254740992, .integer 0]) = true ∧
      (list [.integer 9007199254740992, .integer 0]).agrees
        (list [twoTo53, .float (Float.ofBits 0x8000000000000000)]) = true ∧
      (list [twoTo53, .float (Float.ofBits 0)]).agrees
        (list [twoTo53, .float (Float.ofBits 0x8000000000000000)]) = true := by
  have hleft : (list [twoTo53, .float (Float.ofBits 0)]).agrees
      (list [.integer 9007199254740992, .integer 0]) = true := by
    decide +kernel
  have hright : (list [.integer 9007199254740992, .integer 0]).agrees
      (list [twoTo53, .float (Float.ofBits 0x8000000000000000)]) = true := by
    decide +kernel
  exact ⟨hleft, hright, agrees_equivalence.2.2.1 _ _ _ hleft hright⟩

example : twoTo53.agrees (.integer 9007199254740993) = false := by
  decide +kernel

end Value

end FormLogic
