import FormLogic.Controls
import FormLogic.Proofs.Formula.Locality
import FormLogic.Proofs.Formula.Names

/-! What comes of a rule depends only on the fields that its formulas name. -/

namespace FormLogic

variable {e : Entity} {options : ControlOptions} {values others : FieldValues}
  {functions : Registry}

namespace Rule

/-- The condition of a rule names a field, or the formula of its value does. -/
def Reads (r : Rule) (name : String) : Prop :=
  Refers r.condition name ∨ ∃ text, r.effect.source = .formula text ∧ Refers text name

variable {r : Rule}

theorem holds_congr (h : ∀ name, Refers r.condition name → values.get? name = others.get? name) :
    r.holds ⟨e, options, values, functions⟩ = r.holds ⟨e, options, others, functions⟩ := by
  unfold holds
  cases hx : Expr.parse r.condition with
  | error _ => rfl
  | ok x =>
    have heval : x.eval ⟨values, functions⟩ = x.eval ⟨others, functions⟩ :=
      x.eval_congr (.of_fields fun name hn => h name ⟨x, hx, Expr.mem_fieldNames_iff.mp hn⟩)
    simp only [Except.mapError, bind, Except.bind, heval]

theorem fire_congr (h : ∀ name, r.Reads name → values.get? name = others.get? name) :
    r.fire ⟨e, options, values, functions⟩ = r.fire ⟨e, options, others, functions⟩ := by
  have hsource : r.effect.source.eval ⟨values, functions⟩ =
      r.effect.source.eval ⟨others, functions⟩ := by
    cases hs : r.effect.source with
    | literal v => rfl
    | formula text =>
      have heval : evalText ⟨values, functions⟩ text = evalText ⟨others, functions⟩ text :=
        evalText_congr fun x hx name hn =>
          h name (.inr ⟨text, hs, x, hx, Expr.mem_fieldNames_iff.mp hn⟩)
      simp only [EffectSource.eval, heval]
  simp only [fire, hsource]

theorem verdict_congr (h : ∀ name, r.Reads name → values.get? name = others.get? name) :
    r.verdict ⟨e, options, values, functions⟩ = r.verdict ⟨e, options, others, functions⟩ := by
  have hholds : r.holds ⟨e, options, values, functions⟩ = r.holds ⟨e, options, others, functions⟩ :=
    holds_congr fun name hn => h name (.inl hn)
  simp only [verdict, hholds, fire_congr h]

end Rule

theorem Refers.isFieldName {text name : String} (h : Refers text name) : IsFieldName name := by
  obtain ⟨x, hx, hn⟩ := h
  exact isFieldName_of_parse hx (Expr.mem_fieldNames_iff.mpr hn)

/-- Values that no formula can tell apart. -/
def FieldValues.Alike (values others : FieldValues) : Prop :=
  ∀ name, IsFieldName name → values.get? name = others.get? name

theorem FieldValues.Alike.controls (h : FieldValues.Alike values others) (e : Entity)
    (options : ControlOptions) :
    e.controls options ⟨values, functions⟩ = e.controls options ⟨others, functions⟩ := by
  have hverdict : ∀ r : Rule,
      r.verdict ⟨e, options, values, functions⟩ = r.verdict ⟨e, options, others, functions⟩ := by
    intro r
    refine Rule.verdict_congr fun name hn => h name ?_
    rcases hn with hn | ⟨text, -, hn⟩
    · exact hn.isFieldName
    · exact hn.isFieldName
  simp only [Entity.controls, hverdict]

end FormLogic
