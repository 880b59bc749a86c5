import FormLogic.Proofs.Calculation.Sources

/-! What a calculation takes from its inputs: what is stored for calculated fields has no part in
it. -/

namespace FormLogic

theorem Calculation.ext {c d : Calculation} (hvalues : c.values = d.values)
    (herrors : c.errors = d.errors) (horder : c.order = d.order) : c = d := by
  cases c
  cases d
  cases hvalues
  cases herrors
  cases horder
  rfl

namespace Entity

variable {e : Entity} {inputs others : FieldValues} {functions : Registry} {name formula : String}

/-- Inputs that differ at most in what is stored for calculated fields. -/
def SameGivens (e : Entity) (inputs others : FieldValues) : Prop :=
  ∀ name, e.formula? name = none → inputs.get? name = others.get? name

theorem sameGivens_insert (hf : e.formula? name = some formula) (inputs : FieldValues)
    (v w : Value) : e.SameGivens (inputs.insert name v) (inputs.insert name w) := by
  intro other hother
  have hne : other ≠ name := by
    rintro rfl
    cases hf.symm.trans hother
  rw [Dictionary.get?_insert, Dictionary.get?_insert, if_neg hne, if_neg hne]

theorem SameGivens.sameSources (h : e.SameGivens inputs others) (field : String) :
    e.SameSources inputs others field :=
  fun name _ hnone => h name hnone

/-- The whole result of a calculation depends on the givens only. -/
theorem calculate_congr (h : e.SameGivens inputs others) :
    e.calculate inputs functions = e.calculate others functions := by
  have key : ∀ name,
      (e.calculate inputs functions).values.get? name =
        (e.calculate others functions).values.get? name ∧
      (e.calculate inputs functions).errors.get? name =
        (e.calculate others functions).errors.get? name := by
    intro name
    cases hf : e.formula? name with
    | none =>
      constructor
      · rw [(outcome_of_uncalculated hf).2.1, (outcome_of_uncalculated hf).2.1]
      · rw [(outcome_of_uncalculated hf).2.2, (outcome_of_uncalculated hf).2.2]
    | some formula =>
      exact ⟨get?_values_of_sameSources hf (h.sameSources name),
        get?_errors_of_sameSources hf (h.sameSources name)⟩
  refine Calculation.ext (Dictionary.ext_get? fun name => (key name).1)
    (Dictionary.ext_get? fun name => (key name).2) ?_
  rw [order_calculate, order_calculate]

end Entity

end FormLogic
