import FormLogic.Formula.Arithmetic
import FormLogic.Text.Blank
import FormLogic.Text.Letters
import FormLogic.Value.Printer

/-! The standard functions. -/

namespace FormLogic

open Number Binary64

inductive Builtin where
  | abs
  | coalesce
  | concat
  | ifElse
  | isEmpty
  | lower
  | max
  | min
  | pow
  | round
  | strip
  | sum
  | upper
deriving DecidableEq, Repr

namespace Builtin

/-- The standard functions in the order in which they are registered. -/
def all : List Builtin :=
  [abs, min, max, round, sum, pow, upper, lower, strip, concat, ifElse, isEmpty, coalesce]

/-- The name that a function is registered under, and gives in its errors. -/
def name : Builtin → String
  | abs => "abs"
  | coalesce => "coalesce"
  | concat => "concat"
  | ifElse => "if_else"
  | isEmpty => "is_empty"
  | lower => "lower"
  | max => "max"
  | min => "min"
  | pow => "pow"
  | round => "round"
  | strip => "strip"
  | sum => "sum"
  | upper => "upper"

/-- The standard function of a name. -/
def ofName? (s : String) : Option Builtin := all.find? (·.name = s)

def argument (f : Builtin) (args : List Value) (position : Nat) : Except FormulaError Value :=
  match args[position]? with
  | some v => .ok v
  | none => .error (.invalidArgument (.missing f.name (position + 1)))

def number (f : Builtin) (v : Value) : Except FormulaError Quantity :=
  match v.quantity? with
  | some q => .ok q
  | none => .error (.invalidArgument (.numberRequired f.name v.kind))

def text (f : Builtin) (v : Value) : Except FormulaError String :=
  match v with
  | .text s => .ok s
  | v => .error (.invalidArgument (.textRequired f.name v.kind))

/-- What a function over many values runs over: the items of a list that is the only argument, and
else the arguments. -/
def items : List Value → List Value
  | [.list vs] => vs
  | vs => vs

def absolute : Quantity → Except FormulaError Value
  | .integer n => fitOr "abs" n.toInt.natAbs
  | .float x => .ok (.float x.abs)

/-- Runs through values with the best number so far: a later one takes its place only if it stands
in the wanted order to it. -/
def extremeFrom (f : Builtin) (wanted : Ordering) : Quantity → List Value →
    Except FormulaError Quantity
  | best, [] => .ok best
  | best, v :: vs => do
    let q ← f.number v
    extremeFrom f wanted (if compare? q.toFloat best.toFloat = some wanted then q else best) vs

def extreme (f : Builtin) (wanted : Ordering) : List Value → Except FormulaError Value
  | [] => .error (.invalidArgument (.emptySequence f.name))
  | v :: vs => do
    let q ← f.number v
    let best ← f.extremeFrom wanted q vs
    .ok (.ofQuantity best)

/-- Adds one more number to a total, which stays an integer until a float joins it. -/
def addTo : Quantity → Quantity → Except FormulaError Quantity
  | .integer a, .integer b =>
    match fit? (a.toInt + b.toInt) with
    | some n => .ok (.integer n)
    | none => .error (.overflow "sum")
  | a, b => .ok (.float (a.toFloat + b.toFloat))

def sumFrom (f : Builtin) : Quantity → List Value → Except FormulaError Quantity
  | total, [] => .ok total
  | total, v :: vs => do
    let q ← f.number v
    let total ← addTo total q
    sumFrom f total vs

/-- Powers of ten by repeated squaring in floats. -/
def tenTo (result base : Float) (exponent : Nat) : Float :=
  if exponent = 0 then result
  else tenTo (if exponent % 2 = 1 then result * base else result) (base * base) (exponent / 2)

def clampDigits (d : Int) : Int := Max.max (-308) (Min.min 308 d)

/-- The float by which a number is scaled to keep the given number of digits. -/
def roundingScale (d : Int) : Float :=
  let scale := tenTo (ofInt 1) (ofInt 10) (clampDigits d).natAbs
  if d < 0 then ofInt 1 / scale else scale

/-- A float rounded to digits after the point; one too large to scale stays as it is. -/
def roundFloat (x : Float) (d : Int) : Float :=
  let scale := roundingScale d
  let rounded := roundToIntegral (x * scale) / scale
  if isFinite rounded then rounded else x

/-- An integer rounded to a multiple of a positive factor: to the next one below it, or to the one
above if that is closer, or as close and of an even quotient. -/
def roundToMultiple (n factor : Int64) : Except FormulaError Value :=
  let quotient := euclideanQuotient n factor
  let roundsUp := match compare (2 * (euclideanRemainder n factor).toInt) factor.toInt with
    | .lt => false
    | .gt => true
    | .eq => quotient % 2 != 0
  let rounded := if roundsUp then quotient + 1 else quotient
  fitOr "round" (rounded.toInt * factor.toInt)

/-- An integer rounded to tens, hundreds and so on; it is zero if the power of ten does not fit. -/
def roundInteger (n zeros : Int64) : Except FormulaError Value :=
  match narrowPower? 10 zeros with
  | some factor => roundToMultiple n factor
  | none => .ok (.integer 0)

def roundToInteger (x : Float) : Except FormulaError Value :=
  match nearestInt? x with
  | some n => fitOr "round" n
  | none => .error (.invalidArgument (.notIntegral x))

/-- A number rounded half to even: without digits to an integer, with digits to as many places,
which may lie before the point. -/
def rounded : Quantity → Option Int64 → Except FormulaError Value
  | .integer n, none => .ok (.integer n)
  | .integer n, some d =>
    if 0 ≤ d.toInt then .ok (.integer n) else roundInteger n (-d)
  | .float x, none => roundToInteger x
  | .float x, some d => .ok (.float (roundFloat x d.toInt))

def digits? : Option Value → Except FormulaError (Option Int64)
  | none | some .null => .ok none
  | some (.integer d) => .ok (some d)
  | some v => .error (.invalidArgument (.digitsNotInteger v.kind))

/-- Whether a value is null, blank text or a collection of nothing. -/
def isVoid : Value → Bool
  | .null => true
  | .text s => Text.isBlankText s
  | .list vs => vs.isEmpty
  | .map es => es.isEmpty
  | _ => false

/-- The text of a value inside a larger one, where null leaves no trace. -/
def piece : Value → String
  | .null => ""
  | v => v.display

/-- The function on its arguments, whose number is not checked here. -/
def apply (f : Builtin) (args : List Value) : Except FormulaError Value :=
  match f with
  | abs => do
    let v ← f.argument args 0
    let q ← f.number v
    absolute q
  | coalesce => .ok ((args.find? (!·.isNull)).getD .null)
  | concat => .ok (.text (String.join (args.map piece)))
  | ifElse => do
    let condition ← f.argument args 0
    f.argument args (if condition.isTruthy then 1 else 2)
  | isEmpty => do
    let v ← f.argument args 0
    .ok (.boolean (isVoid v))
  | lower => do
    let v ← f.argument args 0
    let s ← f.text v
    .ok (.text (Text.lower s))
  | max => f.extreme .gt (items args)
  | min => f.extreme .lt (items args)
  | pow => do
    let base ← f.argument args 0
    let exponent ← f.argument args 1
    let b ← f.number base
    let e ← f.number exponent
    Arithmetic.power.onNumbers (.of b e)
  | round => do
    let v ← f.argument args 0
    let d ← digits? args[1]?
    let q ← f.number v
    rounded q d
  | strip => do
    let v ← f.argument args 0
    let s ← f.text v
    .ok (.text (Text.trim s))
  | sum => do
    let total ← f.sumFrom (.integer 0) (items args)
    .ok (.ofQuantity total)
  | upper => do
    let v ← f.argument args 0
    let s ← f.text v
    .ok (.text (Text.upper s))

end Builtin

end FormLogic
