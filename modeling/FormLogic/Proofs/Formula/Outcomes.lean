import FormLogic.Formula.Eval
import FormLogic.Proofs.Except
import Mathlib.Data.List.Forall2

/-! How a formula comes to its value or to its error, one lemma for each way of building it from its
parts. What is shown about evaluation elsewhere starts from these. -/

namespace FormLogic

/-- Whether the left operand decides, so that the right one is left out. -/
def BinaryOp.settledBy : BinaryOp → Value → Bool
  | .and, v => !v.isTruthy
  | .or, v => v.isTruthy
  | _, _ => false

theorem BinaryOp.settledBy_of_apply_eq_error {op : BinaryOp} {v w : Value} {e : FormulaError}
    (h : op.apply v w = .error e) : op.settledBy v = false := by
  cases op with
  | and => cases h
  | or => cases h
  | _ => rfl

namespace Outcome

variable {outcome : Outcome} {result : Except FormulaError Value} {function : String} {v : Value}
  {e : FormulaError}

theorem ofExcept_eq_value_iff : ofExcept result = .value v ↔ result = .ok v := by
  cases result <;> simp [ofExcept]

theorem ofExcept_eq_refused_iff : ofExcept result = .refused e ↔ result = .error e := by
  cases result <;> simp [ofExcept]

theorem ofCall_eq_ok_iff : outcome.ofCall function = .ok v ↔ outcome = .value v := by
  cases outcome <;> simp [ofCall]

theorem ofCall_eq_error_iff : outcome.ofCall function = .error e ↔
    (∃ cause, outcome = .refused cause ∧ e = .functionRefused function cause) ∨
      ∃ text, outcome = .broke text ∧ e = .functionBroke function text := by
  cases outcome <;> simp [ofCall, eq_comm]

end Outcome

namespace Builtin

variable {f : Builtin} {arity : Arity} {args : List Value} {v : Value}

/-- A standard function has a value only for as many arguments as it takes. -/
theorem body_eq_value_iff :
    f.body arity args = .value v ↔ arity.accepts args.length = true ∧ f.apply args = .ok v := by
  rw [body]
  split
  · next haccepts => simp [haccepts, Outcome.ofExcept_eq_value_iff]
  · next hrejects => simp [hrejects]

end Builtin

namespace Expr

variable {ctx : Context} {args : List Expr} {name function : String} {v : Value}
  {vs : List Value} {e : FormulaError}

theorem eval_field_eq_ok_iff : (field name).eval ctx = .ok v ↔ ctx.fields.get? name = some v := by
  rw [eval]
  cases ctx.fields.get? name <;> simp

theorem eval_field_eq_error_iff : (field name).eval ctx = .error e ↔
    ctx.fields.get? name = none ∧ e = .fieldNotFound name := by
  rw [eval]
  cases ctx.fields.get? name <;> simp [eq_comm]

/-- Every operator takes the values of its operands, unless the left one decides. -/
theorem eval_binary (ctx : Context) (op : BinaryOp) (x y : Expr) :
    (binary op x y).eval ctx = x.eval ctx >>= fun v =>
      if op.settledBy v then .ok (.boolean v.isTruthy)
      else y.eval ctx >>= fun w => op.apply v w := by
  cases op with
  | and =>
    simp only [eval, BinaryOp.settledBy, BinaryOp.apply]
    refine bind_congr fun v => ?_
    by_cases hv : v.isTruthy = true
    · simp [hv]
    · simp [hv]
  | or =>
    simp only [eval, BinaryOp.settledBy, BinaryOp.apply]
    refine bind_congr fun v => ?_
    by_cases hv : v.isTruthy = true
    · simp [hv]
    · simp [hv]
  | _ => simp only [eval, BinaryOp.settledBy, Bool.false_eq_true, if_false]

theorem eval_call_eq_ok_iff : (call function args).eval ctx = .ok v ↔
    ∃ body vs, ctx.functions.get? function = some body ∧ evalArgs ctx args = .ok vs ∧
      body vs = .value v := by
  rw [eval]
  cases ctx.functions.get? function with
  | none => simp
  | some body => simp [bind_eq_ok_iff, Outcome.ofCall_eq_ok_iff]

theorem eval_call_eq_error_iff : (call function args).eval ctx = .error e ↔
    (ctx.functions.get? function = none ∧ e = .functionNotFound function) ∨
      ∃ body, ctx.functions.get? function = some body ∧
        (evalArgs ctx args = .error e ∨
          ∃ vs, evalArgs ctx args = .ok vs ∧ (body vs).ofCall function = .error e) := by
  rw [eval]
  cases ctx.functions.get? function with
  | none => simp [eq_comm]
  | some body => simp [bind_eq_error_iff]

theorem forall₂_of_evalArgs (h : evalArgs ctx args = .ok vs) :
    List.Forall₂ (fun x v => x.eval ctx = .ok v) args vs := by
  induction args generalizing vs with
  | nil =>
    cases h
    exact .nil
  | cons x xs ih =>
    obtain ⟨v, hv, hstep⟩ := bind_eq_ok_iff.mp h
    obtain ⟨vs, hvs, heq⟩ := bind_eq_ok_iff.mp hstep
    cases heq
    exact .cons hv (ih hvs)

theorem length_of_evalArgs (h : evalArgs ctx args = .ok vs) : vs.length = args.length :=
  (forall₂_of_evalArgs h).length_eq.symm

theorem evalArgs_eq_error_iff : evalArgs ctx args = .error e ↔ ∃ before y after vs,
    args = before ++ y :: after ∧ evalArgs ctx before = .ok vs ∧ y.eval ctx = .error e := by
  induction args with
  | nil => simp [evalArgs]
  | cons x xs ih =>
    rw [evalArgs, bind_eq_error_iff]
    constructor
    · rintro (hx | ⟨v, hv, hrest⟩)
      · exact ⟨[], x, xs, [], rfl, rfl, hx⟩
      · rcases bind_eq_error_iff.mp hrest with hxs | ⟨vs, -, hok⟩
        · obtain ⟨before, y, after, vs, rfl, hvs, hy⟩ := ih.mp hxs
          exact ⟨x :: before, y, after, v :: vs, rfl, by rw [evalArgs, hv, ok_bind, hvs]; rfl, hy⟩
        · cases hok
    · rintro ⟨before, y, after, vs, heq, hvs, hy⟩
      cases before with
      | nil =>
        simp only [List.nil_append, List.cons.injEq] at heq
        exact .inl (heq.1 ▸ hy)
      | cons first before =>
        simp only [List.cons_append, List.cons.injEq] at heq
        obtain ⟨rfl, rfl⟩ := heq
        obtain ⟨v, hv, hstep⟩ := bind_eq_ok_iff.mp hvs
        obtain ⟨vs, hvs, -⟩ := bind_eq_ok_iff.mp hstep
        have hrest : evalArgs ctx (before ++ y :: after) = .error e :=
          ih.mpr ⟨before, y, after, vs, rfl, hvs, hy⟩
        exact .inr ⟨v, hv, by rw [hrest]; rfl⟩

end Expr

end FormLogic
