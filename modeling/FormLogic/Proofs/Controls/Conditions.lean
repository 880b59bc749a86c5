import FormLogic.Proofs.Controls.FieldStates
import FormLogic.Proofs.Formula.TypeSoundness
import Mathlib.Data.List.Forall2

/-! When the condition of a rule holds. Checking the type of a condition first is only an early
rejection: what is taken for a number or a text never turns out a boolean, unless a field or a
function of such a type gives one, so the rules that the check skips would be skipped without it. -/

namespace FormLogic

/-- A type that is known and is not that of conditions. -/
def ResultType.Excluded (t : ResultType) : Prop := t = .number ∨ t = .text

instance (t : ResultType) : Decidable t.Excluded := inferInstanceAs (Decidable (_ ∨ _))

theorem ResultType.excluded_iff {t : ResultType} : t.Excluded ↔ t ≠ .boolean ∧ t ≠ .unknown := by
  cases t <;> simp [Excluded]

theorem ResultType.Excluded.kind_ne {t : ResultType} (ht : t.Excluded) {v : Value}
    (hv : v.HasType t) : v.kind ≠ .boolean := by
  intro hkind
  rcases ht with rfl | rfl
  · rcases hv with h | h <;> cases hkind.symm.trans h
  · cases hkind.symm.trans hv

/-- No number or text field holds a boolean. -/
def FieldValues.KeepsBooleansOut (values : FieldValues) (schema : Schema) : Prop :=
  ∀ name t v, schema.typeOf? name = some t → t.Excluded → values.get? name = some v →
    v.kind ≠ .boolean

/-- No function under the name of a standard one that returns a number or a text returns a
boolean. -/
def Registry.KeepsBooleansOut (functions : Registry) : Prop :=
  ∀ name signature body, Catalog.standard.find? name = some signature →
    signature.returns.Excluded → functions.get? name = some body →
    ∀ args v, body args = .value v → v.kind ≠ .boolean

theorem Registry.keepsBooleansOut_standard : Registry.standard.KeepsBooleansOut := by
  intro name signature body hsignature hreturns hbody args v hv
  obtain ⟨f, hf, rfl⟩ := Catalog.exists_builtin_of_find?_standard hsignature
  obtain ⟨g, hg, rfl⟩ := Registry.exists_builtin_of_get?_standard hbody
  obtain rfl := Builtin.eq_of_name_eq (hg.trans hf.symm)
  exact hreturns.kind_ne (Builtin.hasType_body hv)

namespace Expr

variable {schema : Schema} {values : FieldValues} {functions : Registry} {x y z : Expr} {v : Value}

theorem kind_ne_boolean (hvalues : values.KeepsBooleansOut schema)
    (hfunctions : functions.KeepsBooleansOut) (ht : (x.resultType ⟨schema, .standard⟩).Excluded)
    (h : x.eval ⟨values, functions⟩ = .ok v) : v.kind ≠ .boolean := by
  cases x with
  | literal l =>
    cases h
    exact ht.kind_ne l.hasType_value
  | field name =>
    rw [resultType] at ht
    cases htype : schema.typeOf? name with
    | none =>
      rw [htype] at ht
      exact absurd rfl (ResultType.excluded_iff.mp ht).2
    | some t =>
      rw [htype] at ht
      exact hvalues name t v htype ht (eval_field_eq_ok_iff.mp h)
  | unary op y =>
    simp only [eval] at h
    obtain ⟨w, -, hw⟩ := bind_eq_ok_iff.mp h
    exact ht.kind_ne (UnaryOp.hasType_apply hw)
  | binary op y z =>
    rcases eval_binary_eq_ok h with ⟨-, hop⟩ | ⟨a, l, r, rfl, -, -, happly⟩
    · cases op with
      | arithmetic a => exact absurd rfl (hop a)
      | _ => exact absurd rfl (ResultType.excluded_iff.mp ht).1
    · -- arithmetic gives a number, or joins two texts or two lists and keeps their kind
      rcases Arithmetic.hasType_apply happly with ⟨-, -, hv⟩ | ⟨-, hjoins, hkind⟩
      · exact ResultType.Excluded.kind_ne (.inl rfl) hv
      · rw [hkind]
        rcases hjoins.kind_left with hl | hl <;> simp [hl]
  | call function args =>
    obtain ⟨body, vs, hbody, -, hvalue⟩ := eval_call_eq_ok_iff.mp h
    rw [resultType] at ht
    split at ht
    · next signature hsignature =>
      exact hfunctions function signature body hsignature ht hbody vs v hvalue
    · exact absurd rfl (ResultType.excluded_iff.mp ht).2

end Expr

namespace Rule

variable {scope : RuleScope} {r : Rule} {x : Expr}

/-- What the value of a condition says about a rule. -/
def judge : Except FormulaError Value → Except RuleFault Bool
  | .ok (.boolean b) => .ok b
  | .ok v => .error (.conditionNotBoolean v.kind)
  | .error e => .error (.conditionFailed e)

theorem judge_eq_ok_iff {outcome : Except FormulaError Value} {b : Bool} :
    judge outcome = .ok b ↔ outcome = .ok (.boolean b) := by
  cases outcome with
  | error err => simp [judge]
  | ok v => cases v <;> simp [judge]

theorem holds_of_parse (hx : Expr.parse r.condition = .ok x) : r.holds scope =
    if scope.options.inferConditionTypes = true ∧
        (x.resultType ⟨scope.entity.schema, .standard⟩).Excluded then
      .error (.conditionType (x.resultType ⟨scope.entity.schema, .standard⟩))
    else judge (x.eval scope.context) := by
  rw [holds, hx]
  simp only [ResultType.excluded_iff]
  split
  · next h => simp [h, Except.mapError, bind, Except.bind, throw, throwThe, MonadExceptOf.throw]
  · next h =>
    simp only [Except.mapError, ok_bind, h, if_false]
    cases x.eval scope.context with
    | error err => rfl
    | ok v => cases v <;> rfl

theorem holds_of_parse_error {err : SyntaxError} (hx : Expr.parse r.condition = .error err) :
    r.holds scope = .error (.conditionFailed (.malformed err)) := by
  rw [holds, hx]
  rfl

theorem evalText_of_idle (h : r.verdict scope = .idle) :
    evalText scope.context r.condition = .ok (.boolean false) := by
  have hholds : r.holds scope = .ok false := by
    unfold verdict at h
    split at h
    · cases h
    · next hholds => exact hholds
    · split at h <;> cases h
  cases hx : Expr.parse r.condition with
  | error err =>
    rw [holds_of_parse_error hx] at hholds
    cases hholds
  | ok x =>
    rw [holds_of_parse hx] at hholds
    split at hholds
    · cases hholds
    · rw [evalText, hx]
      exact judge_eq_ok_iff.mp hholds

end Rule

/-- Two verdicts differ at most in why the rule is skipped. -/
def Verdict.SameButFault (v w : Verdict) : Prop :=
  v = w ∨ ∃ fault other, v = .skipped fault ∧ w = .skipped other

namespace Rule

variable {e : Entity} {options : ControlOptions} {values : FieldValues} {functions : Registry}
  {r : Rule}

theorem judge_of_kind_ne {outcome : Except FormulaError Value}
    (h : ∀ v, outcome = .ok v → v.kind ≠ .boolean) : ∃ fault, judge outcome = .error fault := by
  cases outcome with
  | error err => exact ⟨_, rfl⟩
  | ok v =>
    cases v with
    | boolean b => exact absurd rfl (h (.boolean b) rfl)
    | _ => exact ⟨_, rfl⟩

theorem verdict_of_holds {scope : RuleScope} {fault : RuleFault}
    (h : r.holds scope = .error fault) : r.verdict scope = .skipped fault := by
  rw [verdict, h]

/-- What comes of a rule is the same with its condition's type checked first or not. -/
theorem sameButFault_verdict (hvalues : values.KeepsBooleansOut e.schema)
    (hfunctions : functions.KeepsBooleansOut) (r : Rule) :
    (r.verdict ⟨e, { options with inferConditionTypes := true }, values, functions⟩).SameButFault
      (r.verdict ⟨e, { options with inferConditionTypes := false }, values, functions⟩) := by
  cases hx : Expr.parse r.condition with
  | error err =>
    exact .inr ⟨_, _, verdict_of_holds (holds_of_parse_error hx),
      verdict_of_holds (holds_of_parse_error hx)⟩
  | ok x =>
    by_cases ht : (x.resultType ⟨e.schema, .standard⟩).Excluded
    · right
      obtain ⟨fault, hfault⟩ := judge_of_kind_ne fun v =>
        x.kind_ne_boolean (v := v) hvalues hfunctions ht
      refine ⟨_, _, verdict_of_holds ((holds_of_parse hx).trans (if_pos ⟨rfl, ht⟩)),
        verdict_of_holds ((holds_of_parse hx).trans ((if_neg nofun).trans hfault))⟩
    · left
      have hholds : r.holds ⟨e, { options with inferConditionTypes := true }, values, functions⟩ =
          r.holds ⟨e, { options with inferConditionTypes := false }, values, functions⟩ := by
        rw [holds_of_parse hx, holds_of_parse hx, if_neg fun h => ht h.2, if_neg nofun]
      rw [verdict, verdict, hholds]
      rfl

end Rule

/-- How an error names the rule that is skipped, before it says why. -/
def Rule.heading (r : Rule) : String := "Rule '" ++ r.name ++ "' (" ++ r.id ++ "): "

namespace Controls

/-- The same effects and the same skipped rules, named in the same order by errors that may give
other reasons. -/
structure SameButReasons (c d : Controls) : Prop where
  effects : c.effects = d.effects
  skipped : c.skipped.map (·.1) = d.skipped.map (·.1)
  length : c.errors.length = d.errors.length
  errors : List.Forall₂ (fun text other => ∃ (r : Rule) (reason reason' : String),
    text = r.heading ++ reason ∧ other = r.heading ++ reason') c.errors d.errors

variable {rules : List Rule} {v w : Rule → Verdict}

theorem effects_of_sameButFault (h : ∀ r, (v r).SameButFault (w r)) :
    effects ⟨rules.map fun r => (r, v r)⟩ = effects ⟨rules.map fun r => (r, w r)⟩ := by
  rw [effects, effects, List.filterMap_map, List.filterMap_map]
  refine List.filterMap_congr fun r _ => ?_
  rcases h r with heq | ⟨fault, other, hv, hw⟩
  · simp only [Function.comp_apply, heq]
  · simp only [Function.comp_apply, hv, hw]

theorem skipped_of_sameButFault (h : ∀ r, (v r).SameButFault (w r)) :
    (skipped ⟨rules.map fun r => (r, v r)⟩).map (·.1) =
      (skipped ⟨rules.map fun r => (r, w r)⟩).map (·.1) := by
  rw [skipped, skipped, List.filterMap_map, List.filterMap_map, List.map_filterMap,
    List.map_filterMap]
  refine List.filterMap_congr fun r _ => ?_
  rcases h r with heq | ⟨fault, other, hv, hw⟩
  · simp only [Function.comp_apply, heq]
  · simp only [Function.comp_apply, hv, hw, Option.map_some]

theorem sameButReasons_of_verdicts (h : ∀ r, (v r).SameButFault (w r)) :
    SameButReasons ⟨rules.map fun r => (r, v r)⟩ ⟨rules.map fun r => (r, w r)⟩ := by
  have hskipped : (skipped ⟨rules.map fun r => (r, v r)⟩).map (·.1) =
      (skipped ⟨rules.map fun r => (r, w r)⟩).map (·.1) := skipped_of_sameButFault h
  refine ⟨effects_of_sameButFault h, hskipped, ?_, ?_⟩
  · simpa [errors] using congrArg List.length hskipped
  · rw [← List.forall₂_eq_eq_eq, List.forall₂_map_left_iff, List.forall₂_map_right_iff] at hskipped
    rw [errors, errors, List.forall₂_map_left_iff, List.forall₂_map_right_iff]
    refine hskipped.imp ?_
    rintro ⟨r, fault⟩ ⟨s, other⟩ hrs
    obtain rfl : r = s := hrs
    exact ⟨r, fault.message, other.message, rfl, rfl⟩

end Controls

namespace Entity

/-- Checking the types of conditions first only rejects early: where no boolean turns up in place of
a number or a text, as none does from the standard functions, the effects are the same without the
check, and the same rules are skipped. -/
theorem controls_sameButReasons : Registry.standard.KeepsBooleansOut ∧
    ∀ (e : Entity) (options : ControlOptions) (values : FieldValues) (functions : Registry),
      values.KeepsBooleansOut e.schema → functions.KeepsBooleansOut →
      (e.controls { options with inferConditionTypes := true } ⟨values, functions⟩).SameButReasons
        (e.controls { options with inferConditionTypes := false } ⟨values, functions⟩) := by
  refine ⟨Registry.keepsBooleansOut_standard, fun e options values functions hvalues hregistry => ?_⟩
  exact Controls.sameButReasons_of_verdicts fun r => r.sameButFault_verdict hvalues hregistry

theorem controls_sameButReasons_ratedOrder :
    let e := ratedOrder [rateRule "next" "qty + 1" 10 1] [rateRule "bulk" "qty > 5" 8 2]
    let values : FieldValues := .ofList [("qty", .integer 9)]
    let checked := e.controls { inferConditionTypes := true } ⟨values, .standard⟩
    let unchecked := e.controls { inferConditionTypes := false } ⟨values, .standard⟩
    values.KeepsBooleansOut e.schema ∧ checked.SameButReasons unchecked ∧
      checked.errors = ["Rule 'next' (next): condition must be BOOLEAN, inferred NUMBER"] ∧
      unchecked.errors =
        ["Rule 'next' (next): condition evaluated to integer, expected boolean"] := by
  intro e values checked unchecked
  have hvalues : values.KeepsBooleansOut e.schema := by
    intro name t v _ _ hv
    have hget : values.get? name = if name = "qty" then some (.integer 9) else none :=
      Dictionary.get?_insert ..
    rw [hget] at hv
    split at hv
    · cases hv
      exact nofun
    · cases hv
  have hactive : e.activeRules = [rateRule "next" "qty + 1" 10 1, rateRule "bulk" "qty > 5" 8 2] :=
    List.mergeSort_of_pairwise (by decide)
  obtain ⟨hstandard, hcontrols⟩ := controls_sameButReasons
  refine ⟨hvalues, hcontrols e {} values .standard hvalues hstandard, ?_, ?_⟩
  · simp only [checked, controls, hactive]
    decide +kernel
  · simp only [unchecked, controls, hactive]
    decide +kernel

end Entity

end FormLogic
