import FormLogic.Formula.Eval
import FormLogic.Proofs.Except
import FormLogic.Proofs.Value.Amounts

/-! Formulas that compare numbers. Equality is exact, and so is the order of two integers or two
floats; but an integer is ordered beside a float by its double, which merges it with a float that
it does not equal. -/

namespace FormLogic

open Binary64

namespace Amount

variable {a b : Amount}

/-- Whether amounts of different kinds and in different places are taken to one double. -/
def Merges (a b : Amount) : Prop :=
  a.value.kind ≠ b.value.kind ∧ a.place ≠ b.place ∧ a.double = b.double

instance : DecidableRel Merges := fun _ _ => inferInstanceAs (Decidable (_ ∧ _ ∧ _))

theorem Merges.exists_integer (h : a.Merges b) :
    ∃ n : Int64, (a.value = .integer n ∨ b.value = .integer n) ∧ 2 ^ 53 < n.toInt.natAbs := by
  by_contra hnone
  have hsmall : ∀ n : Int64, a.value = .integer n ∨ b.value = .integer n →
      n.toInt.natAbs ≤ 2 ^ 53 := fun n hn =>
    Nat.not_lt.mp fun hlt => hnone ⟨n, hn, hlt⟩
  have hdouble := h.2.2
  rw [double_eq_place fun n hn => hsmall n (.inl hn),
    double_eq_place fun n hn => hsmall n (.inr hn)] at hdouble
  exact h.2.1 hdouble

theorem double_le (h : a.Merges b ∨ a.place ≤ b.place) : a.double ≤ b.double := by
  rcases h with hmerges | hle
  · exact hmerges.2.2.le
  · exact double_mono hle

theorem merges_or_le (hkind : a.value.kind ≠ b.value.kind) (hdouble : a.double = b.double) :
    a.Merges b ∨ a.place ≤ b.place := by
  by_cases hplace : a.place = b.place
  · exact .inr hplace.le
  · exact .inl ⟨hkind, hplace, hdouble⟩

end Amount

namespace Relation

theorem order?_of_integers (relation : Relation) {a b : Amount} (ha : a.value.kind = .integer)
    (hb : b.value.kind = .integer) :
    relation.order? a.value b.value = .ok (some (a.place.compare b.place)) := by
  obtain ⟨m, hm⟩ := Amount.exists_integer ha
  obtain ⟨n, hn⟩ := Amount.exists_integer hb
  rw [Amount.place_of_integer hm, Amount.place_of_integer hn, Place.compare_ofInt,
    Amount.value_of_integer hm, Amount.value_of_integer hn]
  rfl

theorem order?_of_float (relation : Relation) {a b : Amount}
    (h : a.value.kind = .float ∨ b.value.kind = .float) :
    relation.order? a.value b.value = .ok (some (a.double.compare b.double)) := by
  rw [← Amount.compare?_toFloat, Amount.value, Amount.value]
  cases ha : a.quantity with
  | integer m =>
    cases hb : b.quantity with
    | integer n => simp [Amount.value, ha, hb] at h
    | float y => rfl
  | float x => cases b.quantity <;> rfl

/-- Amounts are ordered by their places unless they merge, and are level if they do. -/
theorem order?_value (relation : Relation) (a b : Amount) :
    relation.order? a.value b.value =
      .ok (some (if a.Merges b then .eq else a.place.compare b.place)) := by
  by_cases hfloat : a.value.kind = .float ∨ b.value.kind = .float
  · rw [order?_of_float relation hfloat]
    by_cases hmerges : a.Merges b
    · rw [if_pos hmerges, hmerges.2.2, Place.compare_self]
    · have hexact : a.double = b.double → a.place = b.place := by
        intro hdouble
        by_cases hkind : a.value.kind = b.value.kind
        · have ha : a.value.kind = .float := hfloat.elim id hkind.trans
          rwa [Amount.double_eq_place_of_float ha,
            Amount.double_eq_place_of_float (hkind.symm.trans ha)] at hdouble
        · by_contra hplace
          exact hmerges ⟨hkind, hplace, hdouble⟩
      rw [if_neg hmerges, Amount.compare_double hexact]
  · have ha : a.value.kind = .integer := a.kind_value.resolve_right fun h => hfloat (.inl h)
    have hb : b.value.kind = .integer := b.kind_value.resolve_right fun h => hfloat (.inr h)
    have hmerges : ¬ a.Merges b := fun h => h.1 (ha.trans hb.symm)
    rw [order?_of_integers relation ha hb, if_neg hmerges]

end Relation

def BinaryOp.ofOrdering : Ordering → BinaryOp
  | .lt => .order .less
  | .eq => .equal
  | .gt => .order .greater

namespace Expr

variable {ctx : Context} {x y z : Expr} {a b c : Amount}

def Holds (ctx : Context) (x : Expr) : Prop := x.eval ctx = .ok (.boolean true)

instance : Decidable (x.Holds ctx) := inferInstanceAs (Decidable (_ = _))

theorem eval_equal (hx : x.eval ctx = .ok a.value) (hy : y.eval ctx = .ok b.value) :
    (binary .equal x y).eval ctx = .ok (.boolean (a.place = b.place)) := by
  have hagrees : a.value.agrees b.value = decide (a.place = b.place) := by
    rw [Bool.eq_iff_iff, decide_eq_true_eq, Amount.value, Amount.value,
      Value.agrees_ofQuantity_iff, a.place?_quantity, b.place?_quantity]
    simp [eq_comm]
  simp only [eval, hx, hy, ok_bind, BinaryOp.apply, hagrees]

theorem eval_order (relation : Relation) (hx : x.eval ctx = .ok a.value)
    (hy : y.eval ctx = .ok b.value) :
    (binary (.order relation) x y).eval ctx =
      .ok (.boolean (relation.holds (if a.Merges b then .eq else a.place.compare b.place))) := by
  simp only [eval, hx, hy, ok_bind, BinaryOp.apply, Relation.apply, Relation.order?_value,
    Option.any_some]

section

variable (hx : x.eval ctx = .ok a.value) (hy : y.eval ctx = .ok b.value)
include hx hy

theorem holds_equal_iff : (binary .equal x y).Holds ctx ↔ a.place = b.place := by
  rw [Holds, eval_equal hx hy]
  simp

theorem holds_less_iff :
    (binary (.order .less) x y).Holds ctx ↔ ¬ a.Merges b ∧ a.place < b.place := by
  rw [Holds, eval_order .less hx hy, Place.lt_def]
  by_cases hmerges : a.Merges b
  · simp [hmerges, Relation.holds]
  · simp [hmerges, Relation.holds]

theorem holds_greater_iff :
    (binary (.order .greater) x y).Holds ctx ↔ ¬ a.Merges b ∧ b.place < a.place := by
  rw [Holds, eval_order .greater hx hy, ← Place.compare_eq_gt]
  by_cases hmerges : a.Merges b
  · simp [hmerges, Relation.holds]
  · simp [hmerges, Relation.holds]

theorem holds_lessEqual_iff :
    (binary (.order .lessEqual) x y).Holds ctx ↔ a.Merges b ∨ a.place ≤ b.place := by
  rw [Holds, eval_order .lessEqual hx hy, Place.le_def]
  by_cases hmerges : a.Merges b
  · simp [hmerges, Relation.holds]
  · simp [hmerges, Relation.holds]

theorem holds_greaterEqual_iff :
    (binary (.order .greaterEqual) x y).Holds ctx ↔ a.Merges b ∨ b.place ≤ a.place := by
  rw [Holds, eval_order .greaterEqual hx hy, ← Place.isGE_compare]
  by_cases hmerges : a.Merges b
  · simp [hmerges, Relation.holds]
  · simp [hmerges, Relation.holds]

theorem holds_ofOrdering_iff (o : Ordering) :
    (binary (.ofOrdering o) x y).Holds ctx ↔ ¬ a.Merges b ∧ a.place.compare b.place = o := by
  cases o with
  | lt => exact holds_less_iff hx hy
  | eq =>
    rw [BinaryOp.ofOrdering, holds_equal_iff hx hy, Place.compare_eq_eq, iff_and_self]
    exact fun hplace hmerges => hmerges.2.1 hplace
  | gt =>
    rw [BinaryOp.ofOrdering, holds_greater_iff hx hy, Place.compare_eq_gt]

theorem existsUnique_holds_iff :
    (∃! o, (binary (.ofOrdering o) x y).Holds ctx) ↔ ¬ a.Merges b := by
  simp only [holds_ofOrdering_iff hx hy]
  constructor
  · rintro ⟨o, ⟨hmerges, -⟩, -⟩
    exact hmerges
  · intro hmerges
    exact ⟨a.place.compare b.place, ⟨hmerges, rfl⟩, fun o ho => ho.2.symm⟩

/-- Merged amounts are level without being equal. -/
theorem lessEqual_splits_iff :
    ((binary (.order .lessEqual) x y).Holds ctx ↔
      (binary (.order .less) x y).Holds ctx ∨ (binary .equal x y).Holds ctx) ↔ ¬ a.Merges b := by
  rw [holds_lessEqual_iff hx hy, holds_less_iff hx hy, holds_equal_iff hx hy, le_iff_lt_or_eq]
  by_cases hmerges : a.Merges b
  · simp [hmerges, hmerges.2.1]
  · simp [hmerges]

theorem greaterEqual_splits_iff :
    ((binary (.order .greaterEqual) x y).Holds ctx ↔
      (binary (.order .greater) x y).Holds ctx ∨ (binary .equal x y).Holds ctx) ↔
      ¬ a.Merges b := by
  rw [holds_greaterEqual_iff hx hy, holds_greater_iff hx hy, holds_equal_iff hx hy,
    le_iff_lt_or_eq, eq_comm (a := b.place)]
  by_cases hmerges : a.Merges b
  · simp [hmerges, hmerges.2.1]
  · simp [hmerges]

end

/-- Two integers, of which the greater one comes first, are level with the float that both are
taken to; every other chain of `<=` is closed. -/
theorem lessEqual_trans_iff (hx : x.eval ctx = .ok a.value) (hy : y.eval ctx = .ok b.value)
    (hz : z.eval ctx = .ok c.value) :
    ((binary (.order .lessEqual) x y).Holds ctx → (binary (.order .lessEqual) y z).Holds ctx →
      (binary (.order .lessEqual) x z).Holds ctx) ↔
      ¬ (a.value.kind = .integer ∧ b.value.kind = .float ∧ c.value.kind = .integer ∧
        c.place < a.place ∧ a.double = b.place ∧ c.double = b.place) := by
  rw [holds_lessEqual_iff hx hy, holds_lessEqual_iff hy hz, holds_lessEqual_iff hx hz]
  constructor
  · rintro htrans ⟨ha, hb, hc, hlt, hab, hcb⟩
    have hdouble : b.double = b.place := Amount.double_eq_place_of_float hb
    have hfirst : a.Merges b ∨ a.place ≤ b.place :=
      Amount.merges_or_le (by rw [ha, hb]; decide) (hab.trans hdouble.symm)
    have hsecond : b.Merges c ∨ b.place ≤ c.place :=
      Amount.merges_or_le (by rw [hb, hc]; decide) (hdouble.trans hcb.symm)
    rcases htrans hfirst hsecond with hmerges | hle
    · exact hmerges.1 (ha.trans hc.symm)
    · exact hlt.not_ge hle
  · intro hchain hxy hyz
    by_contra hnot
    rw [not_or, not_le] at hnot
    obtain ⟨hmerges, hlt⟩ := hnot
    -- the doubles go round in a circle
    have hfirst : a.double ≤ b.double := Amount.double_le hxy
    have hsecond : b.double ≤ c.double := Amount.double_le hyz
    have hthird : c.double ≤ a.double := Amount.double_mono hlt.le
    have hac : a.double = c.double := le_antisymm (hfirst.trans hsecond) hthird
    have hbc : b.double = c.double := le_antisymm hsecond (hthird.trans hfirst)
    have hkind : a.value.kind = c.value.kind := by
      by_contra hkind
      exact hmerges ⟨hkind, hlt.ne', hac⟩
    have ha : a.value.kind = .integer := by
      refine a.kind_value.resolve_right fun ha => hlt.ne' ?_
      rwa [Amount.double_eq_place_of_float ha,
        Amount.double_eq_place_of_float (hkind.symm.trans ha)] at hac
    have hb : b.value.kind = .float := by
      refine b.kind_value.resolve_left fun hb => hlt.not_ge ?_
      have hle := hxy.resolve_left fun h => h.1 (ha.trans hb.symm)
      have hle' := hyz.resolve_left fun h => h.1 (hb.trans (hkind.symm.trans ha).symm)
      exact hle.trans hle'
    have hdouble : b.double = b.place := Amount.double_eq_place_of_float hb
    exact hchain ⟨ha, hb, hkind.symm.trans ha, hlt, (hac.trans hbc.symm).trans hdouble,
      hbc.symm.trans hdouble⟩

/-- Comparisons of amounts come to true or false. One of less, equal and greater holds, and the two
others hold if either of their parts does, exactly unless the amounts merge, for which one has to be
an integer past `2 ^ 53`. And `<=` is transitive but from an integer through a float to a lesser
integer, both taken to that float. -/
theorem comparisons_lawful_iff (hx : x.eval ctx = .ok a.value) (hy : y.eval ctx = .ok b.value)
    (hz : z.eval ctx = .ok c.value) :
    (∀ op, (op = .equal ∨ ∃ relation, op = .order relation) →
      ∃ t, (binary op x y).eval ctx = .ok (.boolean t)) ∧
    ((∃! o, (binary (.ofOrdering o) x y).Holds ctx) ↔ ¬ a.Merges b) ∧
    (((binary (.order .lessEqual) x y).Holds ctx ↔
      (binary (.order .less) x y).Holds ctx ∨ (binary .equal x y).Holds ctx) ↔ ¬ a.Merges b) ∧
    (((binary (.order .greaterEqual) x y).Holds ctx ↔
      (binary (.order .greater) x y).Holds ctx ∨ (binary .equal x y).Holds ctx) ↔
      ¬ a.Merges b) ∧
    (((binary (.order .lessEqual) x y).Holds ctx → (binary (.order .lessEqual) y z).Holds ctx →
      (binary (.order .lessEqual) x z).Holds ctx) ↔
      ¬ (a.value.kind = .integer ∧ b.value.kind = .float ∧ c.value.kind = .integer ∧
        c.place < a.place ∧ a.double = b.place ∧ c.double = b.place)) ∧
    (a.Merges b →
      ∃ n : Int64, (a.value = .integer n ∨ b.value = .integer n) ∧ 2 ^ 53 < n.toInt.natAbs) := by
  refine ⟨?_, existsUnique_holds_iff hx hy, lessEqual_splits_iff hx hy,
    greaterEqual_splits_iff hx hy, lessEqual_trans_iff hx hy hz, Amount.Merges.exists_integer⟩
  rintro op (rfl | ⟨relation, rfl⟩)
  · exact ⟨_, eval_equal hx hy⟩
  · exact ⟨_, eval_order relation hx hy⟩

def edgeFloat : Amount := ⟨.float (Float.ofBits 0x4340000000000000), by decide +kernel⟩

def edge : Context :=
  ⟨.ofList [("exact", .integer 9007199254740992), ("float", edgeFloat.value),
    ("next", .integer 9007199254740993)], .empty⟩

theorem comparisons_lawful_iff_edge :
    (∃! o, (binary (.ofOrdering o) (.field "exact") (.field "float")).Holds edge) ∧
      ((binary (.order .lessEqual) (.field "exact") (.field "float")).Holds edge →
        (binary (.order .lessEqual) (.field "float") (.field "next")).Holds edge →
        (binary (.order .lessEqual) (.field "exact") (.field "next")).Holds edge) := by
  have hexact : (field "exact").eval edge = .ok (Amount.ofInteger 9007199254740992).value := rfl
  have hfloat : (field "float").eval edge = .ok edgeFloat.value := rfl
  have hnext : (field "next").eval edge = .ok (Amount.ofInteger 9007199254740993).value := rfl
  obtain ⟨-, hunique, -, -, htrans, -⟩ := comparisons_lawful_iff hexact hfloat hnext
  have hmerges : ¬ (Amount.ofInteger 9007199254740992).Merges edgeFloat := by
    decide +kernel
  have hupward : ¬ (Amount.ofInteger 9007199254740993).place <
      (Amount.ofInteger 9007199254740992).place := by
    decide +kernel
  exact ⟨hunique.mpr hmerges, htrans.mpr fun h => hupward h.2.2.2.1⟩

/-- The next integer is neither less than the float nor equal to it nor greater; it is no more than
the float, which is no more than the exact integer, but it is more than that. -/
theorem not_comparisons_lawful :
    (¬ ∃ o, (binary (.ofOrdering o) (.field "next") (.field "float")).Holds edge) ∧
    evalText edge "next < float or next == float or next > float" = .ok (.boolean false) ∧
    evalText edge "next <= float and next >= float" = .ok (.boolean true) ∧
    evalText edge "next <= float and float <= exact and next > exact" = .ok (.boolean true) := by
  refine ⟨?_, by decide +kernel, by decide +kernel, by decide +kernel⟩
  rintro ⟨o, ho⟩
  cases o with
  | lt => exact absurd ho (by decide +kernel)
  | eq => exact absurd ho (by decide +kernel)
  | gt => exact absurd ho (by decide +kernel)

end Expr

end FormLogic
