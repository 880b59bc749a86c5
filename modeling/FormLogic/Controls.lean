import FormLogic.Entity
import FormLogic.Formula.Eval
import FormLogic.Formula.Validation

/-! What the rules of an entity do to its fields. Rules do not see one another's effects, and a rule
that cannot be evaluated does not keep the others from firing. -/

namespace FormLogic

structure ControlOptions where
  /-- Rules whose condition cannot be a boolean are skipped without being evaluated. -/
  inferConditionTypes : Bool := true
  /-- Fields on a cycle are reported first. -/
  warnOnCycles : Bool := true
deriving DecidableEq

def ControlOptions.summary (o : ControlOptions) : String :=
  "ControlOptions \x7b infer_condition_types: " ++ toString o.inferConditionTypes ++
    ", warn_on_cycles: " ++ toString o.warnOnCycles ++ " \x7d"

inductive RuleFault where
  | conditionType (inferred : ResultType)
  | conditionFailed (e : FormulaError)
  | conditionNotBoolean (kind : Kind)
  | unknownTarget (field : String)
  | valueFailed (e : FormulaError)
  | flagNotBoolean (control : Control) (kind : Kind)
deriving DecidableEq

namespace RuleFault

def message : RuleFault → String
  | conditionType inferred => "condition must be BOOLEAN, inferred " ++ inferred.name
  | conditionFailed e => e.message
  | conditionNotBoolean kind => "condition evaluated to " ++ kind.name ++ ", expected boolean"
  | unknownTarget field => "effect target '" ++ field ++ "' is not a field of this entity"
  | valueFailed e => "effect value: " ++ e.message
  | flagNotBoolean control kind =>
    control.name ++ " effect requires a boolean value, got " ++ kind.name

def cause? : RuleFault → Option FormulaError
  | conditionFailed e | valueFailed e => some e
  | _ => none

end RuleFault

/-- What came of a rule. -/
inductive Verdict where
  | fired (e : Effect)
  | idle
  | skipped (fault : RuleFault)

structure RuleScope where
  entity : Entity
  options : ControlOptions
  context : Context

def EffectSource.eval (ctx : Context) : EffectSource → Except RuleFault Value
  | literal v => .ok v
  | formula text => (evalText ctx text).mapError .valueFailed

namespace Rule

def holds (scope : RuleScope) (r : Rule) : Except RuleFault Bool := do
  let condition ← (Expr.parse r.condition).mapError fun e => .conditionFailed (.malformed e)
  let inferred := condition.resultType ⟨scope.entity.schema, .standard⟩
  if scope.options.inferConditionTypes ∧ inferred ≠ .boolean ∧ inferred ≠ .unknown then
    throw (.conditionType inferred)
  match ← (condition.eval scope.context).mapError .conditionFailed with
  | .boolean b => return b
  | v => throw (.conditionNotBoolean v.kind)

def fire (scope : RuleScope) (r : Rule) : Except RuleFault Effect := do
  if !scope.entity.hasField r.effect.target then throw (.unknownTarget r.effect.target)
  let value ← r.effect.source.eval scope.context
  if r.effect.control.isFlag ∧ value.kind ≠ .boolean then
    throw (.flagNotBoolean r.effect.control value.kind)
  return ⟨r.effect.control, r.effect.target, value, r.id⟩

def verdict (scope : RuleScope) (r : Rule) : Verdict :=
  match r.holds scope with
  | .error fault => .skipped fault
  | .ok false => .idle
  | .ok true =>
    match r.fire scope with
    | .ok e => .fired e
    | .error fault => .skipped fault

end Rule

/-- The enabled rules in the order of evaluation: by priority, then as they stand. -/
def Entity.activeRules (e : Entity) : List Rule :=
  (e.rules.filter (·.enabled)).mergeSort fun r s => decide (r.priority ≤ s.priority)

/-- A field that is shown, can be edited and may stay empty, unless a rule says otherwise. -/
structure FieldState where
  visible : Bool := true
  enabled : Bool := true
  required : Bool := false
  value : Option Value := none
deriving DecidableEq

/-- Puts an effect in the place of an earlier one that it competes with, or at the end. -/
def Effect.settle (effects : List Effect) (e : Effect) : List Effect :=
  if effects.any (e.Competes ·) then effects.map fun f => if e.Competes f then e else f
  else effects ++ [e]

structure Controls where
  verdicts : List (Rule × Verdict)

namespace Controls

def effects (c : Controls) : List Effect :=
  c.verdicts.filterMap fun
    | (_, .fired e) => some e
    | _ => none

def skipped (c : Controls) : List (Rule × RuleFault) :=
  c.verdicts.filterMap fun
    | (r, .skipped fault) => some (r, fault)
    | _ => none

def errors (c : Controls) : List String :=
  c.skipped.map fun (r, fault) => "Rule '" ++ r.name ++ "' (" ++ r.id ++ "): " ++ fault.message

def isOk (c : Controls) : Bool := c.skipped.isEmpty

/-- One effect for each control of a field, the last one, in the place of the first. -/
def resolved (c : Controls) : List Effect := c.effects.foldl Effect.settle []

def winner? (c : Controls) (field : String) (control : Control) : Option Effect :=
  c.resolved.find? fun e => e.target = field ∧ e.control = control

/-- What the rules make of a field. -/
def fieldState (c : Controls) (field : String) : FieldState :=
  let flag? control := (c.winner? field control).bind (·.value.boolean?)
  { visible := (flag? .visibility).getD true
    enabled := (flag? .enable).getD true
    required := (flag? .required).getD false
    value := (c.winner? field .valueSet).map (·.value) }

end Controls

/-- Evaluates every enabled rule of an entity. -/
def Entity.controls (e : Entity) (options : ControlOptions) (ctx : Context) : Controls :=
  ⟨e.activeRules.map fun r => (r, r.verdict ⟨e, options, ctx⟩)⟩

end FormLogic
