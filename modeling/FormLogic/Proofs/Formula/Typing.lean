import FormLogic.Formula.Validation
import FormLogic.Proofs.Formula.Functions
import FormLogic.Proofs.Formula.Outcomes

/-! Types of values, and of what operators and standard functions make of them. -/

namespace FormLogic

/-- A value is of a type; every value is of the unknown one. -/
def Value.HasType (v : Value) : ResultType → Prop
  | .boolean => v.kind = .boolean
  | .number => v.kind = .integer ∨ v.kind = .float
  | .text => v.kind = .text
  | .unknown => True

def Value.Joins (l r : Value) : Prop :=
  (l.kind = .text ∧ r.kind = .text) ∨ (l.kind = .list ∧ r.kind = .list)

namespace Value

theorem hasType_ofQuantity (q : Quantity) : (ofQuantity q).HasType .number := by
  cases q with
  | integer n => exact .inl rfl
  | float x => exact .inr rfl

theorem hasType_integer (n : Int64) : (integer n).HasType .number := .inl rfl

theorem hasType_float (x : Float) : (float x).HasType .number := .inr rfl

theorem hasType_boolean (b : Bool) : (boolean b).HasType .boolean := rfl

theorem hasType_text (s : String) : (text s).HasType .text := rfl

theorem hasType_of_quantity? {v : Value} {q : Quantity} (h : v.quantity? = some q) :
    v.HasType .number := by
  cases v with
  | integer n => exact hasType_integer n
  | float x => exact hasType_float x
  | _ => cases h

theorem Joins.kind_left {l r : Value} (h : l.Joins r) : l.kind = .text ∨ l.kind = .list :=
  h.imp And.left And.left

theorem Joins.kind_right {l r : Value} (h : l.Joins r) : r.kind = .text ∨ r.kind = .list :=
  h.imp And.right And.right

theorem not_hasType_number {v : Value} (hkind : v.kind = .text ∨ v.kind = .list) :
    ¬ v.HasType .number := by
  rintro (h | h) <;> rcases hkind with hk | hk <;> cases h.symm.trans hk

end Value

theorem Literal.hasType_value (l : Literal) : l.value.HasType l.resultType := by
  cases l with
  | integer n => exact .inl rfl
  | float x => exact .inr rfl
  | text s => rfl
  | boolean b => rfl
  | none => trivial

open Value

theorem hasType_fitOr {operation : String} {n : Int} {v : Value}
    (h : fitOr operation n = .ok v) : v.HasType .number := by
  unfold fitOr at h
  split at h
  · cases h
    exact hasType_integer _
  · cases h

namespace Arithmetic

variable {v : Value}

theorem hasType_quotient {l r : Float} (h : quotient l r = .ok v) : v.HasType .number := by
  unfold quotient at h
  split at h
  · cases h
  · cases h
    exact hasType_float _

theorem hasType_integerModulo {l r : Int64} (h : integerModulo l r = .ok v) :
    v.HasType .number := by
  unfold integerModulo at h
  split at h
  · cases h
  · split at h
    · cases h
      exact hasType_integer _
    · cases h

theorem hasType_floatModulo {l r : Float} (h : floatModulo l r = .ok v) : v.HasType .number := by
  unfold floatModulo at h
  split at h
  · cases h
  · cases h
    exact hasType_float _

theorem hasType_floatPower {base exponent : Float} (h : floatPower base exponent = .ok v) :
    v.HasType .number := by
  unfold floatPower at h
  split at h
  · cases h
  · dsimp only at h
    split at h
    · cases h
    · split at h
      · cases h
      · cases h
        exact hasType_float _

theorem hasType_integerPower {base exponent : Int64} (h : integerPower base exponent = .ok v) :
    v.HasType .number := by
  unfold integerPower at h
  split at h
  · exact hasType_floatPower h
  · split at h
    · cases h
      exact hasType_integer _
    · cases h

theorem hasType_onNumbers {op : Arithmetic} {operands : Operands}
    (h : op.onNumbers operands = .ok v) : v.HasType .number := by
  cases operands with
  | integers l r =>
    cases op with
    | add => exact hasType_fitOr h
    | subtract => exact hasType_fitOr h
    | multiply => exact hasType_fitOr h
    | divide => exact hasType_quotient h
    | modulo => exact hasType_integerModulo h
    | power => exact hasType_integerPower h
  | floats l r =>
    cases op with
    | add => cases h; exact hasType_float _
    | subtract => cases h; exact hasType_float _
    | multiply => cases h; exact hasType_float _
    | divide => exact hasType_quotient h
    | modulo => exact hasType_floatModulo h
    | power => exact hasType_floatPower h

theorem hasType_of_operands {op : Arithmetic} {l r : Value} {numbers : Operands}
    (h : op.operands l r = .ok numbers) : l.HasType .number ∧ r.HasType .number := by
  unfold operands at h
  split at h
  · next hl hr => exact ⟨hasType_of_quantity? hl, hasType_of_quantity? hr⟩
  · cases h

theorem hasType_apply {op : Arithmetic} {l r : Value} (h : op.apply l r = .ok v) :
    (l.HasType .number ∧ r.HasType .number ∧ v.HasType .number) ∨
      (op = .add ∧ l.Joins r ∧ v.kind = l.kind) := by
  unfold apply at h
  split at h
  · cases h
    exact .inr ⟨rfl, .inl ⟨rfl, rfl⟩, rfl⟩
  · cases h
    exact .inr ⟨rfl, .inr ⟨rfl, rfl⟩, rfl⟩
  · obtain ⟨numbers, hnumbers, hv⟩ := bind_eq_ok_iff.mp h
    obtain ⟨hl, hr⟩ := hasType_of_operands hnumbers
    exact .inl ⟨hl, hr, hasType_onNumbers hv⟩

theorem kind_apply_of_text {op : Arithmetic} {l r : Value} (h : op.apply l r = .ok v)
    (htext : l.kind = .text ∨ r.kind = .text) : v.kind = .text := by
  rcases hasType_apply h with ⟨hl, hr, -⟩ | ⟨-, ⟨hl, -⟩ | ⟨hl, hr⟩, hkind⟩
  · rcases htext with ht | ht
    · exact absurd hl (not_hasType_number (.inl ht))
    · exact absurd hr (not_hasType_number (.inl ht))
  · exact hkind.trans hl
  · rcases htext with ht | ht
    · cases hl.symm.trans ht
    · cases hr.symm.trans ht

theorem kind_apply_of_joins {op : Arithmetic} {l r : Value} (h : op.apply l r = .ok v)
    (hjoins : l.Joins r) : v.kind = l.kind := by
  rcases hasType_apply h with ⟨hl, -, -⟩ | ⟨-, -, hkind⟩
  · exact absurd hl (not_hasType_number hjoins.kind_left)
  · exact hkind

end Arithmetic

theorem UnaryOp.hasType_apply {op : UnaryOp} {v w : Value} (h : op.apply v = .ok w) :
    w.HasType op.resultType := by
  unfold UnaryOp.apply at h
  split at h
  · cases h
    exact hasType_boolean _
  · exact hasType_fitOr h
  · cases h
    exact hasType_float _
  · next hq =>
    cases h
    exact hasType_of_quantity? hq
  · cases h

theorem BinaryOp.hasType_apply {op : BinaryOp} {l r v : Value}
    (hop : ∀ a, op ≠ .arithmetic a) (h : op.apply l r = .ok v) : v.HasType .boolean := by
  cases op with
  | arithmetic a => exact absurd rfl (hop a)
  | order relation =>
    obtain ⟨order, -, hv⟩ := bind_eq_ok_iff.mp h
    cases hv
    exact hasType_boolean _
  | _ =>
    cases h
    exact hasType_boolean _

namespace Builtin

variable {f : Builtin} {args : List Value} {v : Value}

theorem hasType_absolute {q : Quantity} (h : absolute q = .ok v) : v.HasType .number := by
  cases q with
  | integer n => exact hasType_fitOr h
  | float x =>
    cases h
    exact hasType_float _

theorem hasType_extreme {wanted : Ordering} (h : f.extreme wanted args = .ok v) :
    v.HasType .number := by
  cases args with
  | nil => cases h
  | cons first rest =>
    obtain ⟨q, -, hbest⟩ := bind_eq_ok_iff.mp h
    obtain ⟨best, -, hv⟩ := bind_eq_ok_iff.mp hbest
    cases hv
    exact hasType_ofQuantity best

theorem hasType_rounded {q : Quantity} {d : Option Int64} (h : rounded q d = .ok v) :
    v.HasType .number := by
  unfold rounded at h
  split at h
  · cases h
    exact hasType_integer _
  · split at h
    · cases h
      exact hasType_integer _
    · unfold roundInteger at h
      split at h
      · exact hasType_fitOr h
      · cases h
        exact hasType_integer _
  · unfold roundToInteger at h
    split at h
    · exact hasType_fitOr h
    · cases h
  · cases h
    exact hasType_float _

theorem hasType_of_text {g : String → String}
    (h : (do
      let v ← f.argument args 0
      let s ← f.text v
      .ok (.text (g s))) = Except.ok v) : v.HasType .text := by
  obtain ⟨w, -, hw⟩ := bind_eq_ok_iff.mp h
  obtain ⟨s, -, hv⟩ := bind_eq_ok_iff.mp hw
  cases hv
  exact hasType_text _

/-- Every standard function keeps to the type of its signature. -/
theorem hasType_apply (h : f.apply args = .ok v) : v.HasType f.signature.returns := by
  cases f with
  | abs =>
    obtain ⟨w, -, hw⟩ := bind_eq_ok_iff.mp h
    obtain ⟨q, -, hv⟩ := bind_eq_ok_iff.mp hw
    exact hasType_absolute hv
  | coalesce => trivial
  | concat =>
    cases h
    exact hasType_text _
  | ifElse => trivial
  | isEmpty =>
    obtain ⟨w, -, hv⟩ := bind_eq_ok_iff.mp h
    cases hv
    exact hasType_boolean _
  | lower => exact hasType_of_text h
  | max => exact hasType_extreme h
  | min => exact hasType_extreme h
  | pow =>
    obtain ⟨base, -, hbase⟩ := bind_eq_ok_iff.mp h
    obtain ⟨exponent, -, hexponent⟩ := bind_eq_ok_iff.mp hbase
    obtain ⟨b, -, hb⟩ := bind_eq_ok_iff.mp hexponent
    obtain ⟨e, -, hv⟩ := bind_eq_ok_iff.mp hb
    exact Arithmetic.hasType_onNumbers hv
  | round =>
    obtain ⟨w, -, hw⟩ := bind_eq_ok_iff.mp h
    obtain ⟨d, -, hd⟩ := bind_eq_ok_iff.mp hw
    obtain ⟨q, -, hv⟩ := bind_eq_ok_iff.mp hd
    exact hasType_rounded hv
  | strip => exact hasType_of_text h
  | sum =>
    obtain ⟨total, -, hv⟩ := bind_eq_ok_iff.mp h
    cases hv
    exact hasType_ofQuantity total
  | upper => exact hasType_of_text h

theorem hasType_body {arity : Arity} (h : f.body arity args = .value v) :
    v.HasType f.signature.returns :=
  hasType_apply (body_eq_value_iff.mp h).2

end Builtin

end FormLogic
