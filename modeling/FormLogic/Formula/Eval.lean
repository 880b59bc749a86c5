import FormLogic.Formula.Parser
import FormLogic.Formula.Registry

/-! The value of a formula over the values of fields. -/

namespace FormLogic

/-- What the names of a formula mean. -/
structure Context where
  fields : FieldValues
  functions : Registry

def Outcome.ofCall (function : String) : Outcome → Except FormulaError Value
  | .value v => .ok v
  | .refused e => .error (.functionRefused function e)
  | .broke message => .error (.functionBroke function message)

namespace Expr

mutual

/-- The value of a formula. Operands and arguments are evaluated from left to right; `and` and
`or` leave out the right operand if the left one decides; the name of a function is looked up
before its arguments are evaluated. -/
def eval (ctx : Context) : Expr → Except FormulaError Value
  | literal l => .ok l.value
  | field name =>
    match ctx.fields.get? name with
    | some v => .ok v
    | none => .error (.fieldNotFound name)
  | unary op x => do
    let v ← eval ctx x
    op.apply v
  | binary .and x y => do
    let v ← eval ctx x
    if v.isTruthy then do
      let w ← eval ctx y
      .ok (.boolean w.isTruthy)
    else .ok (.boolean false)
  | binary .or x y => do
    let v ← eval ctx x
    if v.isTruthy then .ok (.boolean true)
    else do
      let w ← eval ctx y
      .ok (.boolean w.isTruthy)
  | binary op x y => do
    let v ← eval ctx x
    let w ← eval ctx y
    op.apply v w
  | call function args =>
    match ctx.functions.get? function with
    | some body => do
      let vs ← evalArgs ctx args
      (body vs).ofCall function
    | none => .error (.functionNotFound function)

def evalArgs (ctx : Context) : List Expr → Except FormulaError (List Value)
  | [] => .ok []
  | x :: xs => do
    let v ← eval ctx x
    let vs ← evalArgs ctx xs
    .ok (v :: vs)

end

end Expr

def evalText (ctx : Context) (text : String) : Except FormulaError Value :=
  match Expr.parse text with
  | .ok x => x.eval ctx
  | .error e => .error (.malformed e)

end FormLogic
