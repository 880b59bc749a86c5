import FormLogic.Formula.Error
import FormLogic.Number.Word
import FormLogic.Value.Equality

/-! Operators on values. Two integers give an integer, computed exactly and refused if it does not
fit in 64 bits; an integer beside a float is taken to the nearest float. -/

namespace FormLogic

open Number Binary64

def fitOr (operation : String) (n : Int) : Except FormulaError Value :=
  match fit? n with
  | some w => .ok (.integer w)
  | none => .error (.overflow operation)

namespace Arithmetic

/-- Two numbers brought to one kind. -/
inductive Operands where
  | integers (l r : Int64)
  | floats (l r : Float)

def Operands.of : Quantity → Quantity → Operands
  | .integer l, .integer r => .integers l r
  | l, r => .floats l.toFloat r.toFloat

def operands (op : Arithmetic) (left right : Value) : Except FormulaError Operands :=
  match left.quantity?, right.quantity? with
  | some l, some r => .ok (.of l r)
  | _, _ => .error (.typeMismatch (.operands op left.kind right.kind))

def isOpposite (m r : Int64) : Bool := m != 0 && decide (m < 0) != decide (r < 0)

/-- Modulo with the sign of the divisor, from the remainder with that of the dividend. -/
def integerModulo (l r : Int64) : Except FormulaError Value :=
  if r = 0 then .error .divisionByZero
  else match remainder? l r with
    | some m => .ok (.integer (if isOpposite m r then m + r else m))
    | none => .error (.overflow "%")

def floatModulo (l r : Float) : Except FormulaError Value :=
  if isZero r then .error .divisionByZero
  else
    let m := remainder l r
    .ok (.float (if !isZero m && isBelowZero m != isBelowZero r then m + r else m))

/-- A power of floats, which has to be a finite real number if its operands are. -/
def floatPower (base exponent : Float) : Except FormulaError Value :=
  if isZero base && isBelowZero exponent then .error .divisionByZero
  else
    let result := base.pow exponent
    if isNaN result && !isNaN base && !isNaN exponent then
      .error (.invalidArgument (.noRealPower base exponent))
    else if isInfinite result && isFinite base && isFinite exponent then .error (.overflow "**")
    else .ok (.float result)

/-- A power of integers is an integer unless the exponent is negative; exponents past 32 bits are
refused whatever the base. -/
def integerPower (base exponent : Int64) : Except FormulaError Value :=
  if exponent < 0 then floatPower (ofInt base.toInt) (ofInt exponent.toInt)
  else match narrowPower? base exponent with
    | some w => .ok (.integer w)
    | none => .error (.overflow "**")

def quotient (l r : Float) : Except FormulaError Value :=
  if isZero r then .error .divisionByZero else .ok (.float (l / r))

def onNumbers (op : Arithmetic) : Operands → Except FormulaError Value
  | .integers l r =>
    match op with
    | add => fitOr "+" (l.toInt + r.toInt)
    | subtract => fitOr "-" (l.toInt - r.toInt)
    | multiply => fitOr "*" (l.toInt * r.toInt)
    | divide => quotient (ofInt l.toInt) (ofInt r.toInt)
    | modulo => integerModulo l r
    | power => integerPower l r
  | .floats l r =>
    match op with
    | add => .ok (.float (l + r))
    | subtract => .ok (.float (l - r))
    | multiply => .ok (.float (l * r))
    | divide => quotient l r
    | modulo => floatModulo l r
    | power => floatPower l r

/-- The operator on two values: `add` joins two texts or two lists, and everything else takes
numbers. -/
def apply (op : Arithmetic) (left right : Value) : Except FormulaError Value :=
  match op, left, right with
  | add, .text l, .text r => .ok (.text (l ++ r))
  | add, .list l, .list r => .ok (.list (l ++ r))
  | op, left, right => do
    let numbers ← op.operands left right
    op.onNumbers numbers

end Arithmetic

/-- The order of two values of one sort; none between numbers if one of them is not a number. -/
def Relation.order? (relation : Relation) (left right : Value) :
    Except FormulaError (Option Ordering) :=
  match left, right with
  | .text l, .text r => .ok (some (compare l r))
  | .boolean l, .boolean r => .ok (some (compare l r))
  | left, right =>
    match left.quantity?, right.quantity? with
    | some (.integer l), some (.integer r) => .ok (some (compare l.toInt r.toInt))
    | some l, some r => .ok (compare? l.toFloat r.toFloat)
    | _, _ => .error (.typeMismatch (.unordered relation left.kind right.kind))

def Relation.apply (relation : Relation) (left right : Value) : Except FormulaError Value := do
  let order ← relation.order? left right
  .ok (.boolean (order.any relation.holds))

def BinaryOp.apply (op : BinaryOp) (left right : Value) : Except FormulaError Value :=
  match op with
  | .arithmetic op => op.apply left right
  | .equal => .ok (.boolean (left.agrees right))
  | .notEqual => .ok (.boolean (!left.agrees right))
  | .order relation => relation.apply left right
  | .and => .ok (.boolean (left.isTruthy && right.isTruthy))
  | .or => .ok (.boolean (left.isTruthy || right.isTruthy))

def UnaryOp.apply (op : UnaryOp) (v : Value) : Except FormulaError Value :=
  match op, v.quantity? with
  | .not, _ => .ok (.boolean (!v.isTruthy))
  | .negate, some (.integer n) => fitOr "-" (-n.toInt)
  | .negate, some (.float x) => .ok (.float (-x))
  | .plus, some _ => .ok v
  | op, none => .error (.typeMismatch (.operand op v.kind))

end FormLogic
