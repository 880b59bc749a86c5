import FormLogic.Formula.Arithmetic
import FormLogic.Formula.Catalog
import FormLogic.Formula.Parser

/-! Formulas checked against a schema and a catalog, without values: the type of the result, every
name that means nothing, and arithmetic on text. -/

namespace FormLogic

/-- What is checked against. -/
structure Scope where
  schema : Schema
  catalog : Catalog

/-- What makes a formula invalid. -/
inductive Problem where
  | malformed (e : SyntaxError)
  | unknownField (name : String)
  | unknownFunction (name : String) (allowed : List String)
  | wrongCount (function : String) (arity : Arity) (count : Nat)
deriving DecidableEq

def Problem.message : Problem → String
  | .malformed e => "Syntax error: " ++ e.message
  | .unknownField name => "Unknown field: '" ++ name ++ "'"
  | .unknownFunction name allowed =>
    "Unknown function: '" ++ name ++ "'. Allowed functions: " ++ ", ".intercalate allowed
  | .wrongCount function arity count =>
    "Function '" ++ function ++ "' expects " ++ arity.describe ++ ", got " ++ toString count

/-- What looks wrong in a formula that may still have a value. -/
inductive Doubt where
  | signedText (op : UnaryOp)
  | arithmeticOnText (op : Arithmetic)
deriving DecidableEq

def Doubt.message : Doubt → String
  | .signedText op => "Unary '" ++ op.symbol ++ "' applied to a TEXT operand"
  | .arithmeticOnText op =>
    "Arithmetic operator '" ++ op.symbol ++ "' applied to a TEXT operand"

def Literal.resultType : Literal → ResultType
  | .integer _ | .float _ => .number
  | .text _ => .text
  | .boolean _ => .boolean
  | .none => .unknown

/-- The type of a binary operator's result: `+` with a text gives text, other arithmetic a number,
and every question a truth value. -/
def BinaryOp.resultType : BinaryOp → ResultType → ResultType → ResultType
  | .arithmetic .add, left, right => if left = .text ∨ right = .text then .text else .number
  | .arithmetic _, _, _ => .number
  | .equal, _, _ | .notEqual, _, _ | .order _, _, _ | .and, _, _ | .or, _, _ => .boolean

def UnaryOp.resultType : UnaryOp → ResultType
  | .not => .boolean
  | .negate | .plus => .number

namespace Expr

def resultType (scope : Scope) : Expr → ResultType
  | literal l => l.resultType
  | field name => (scope.schema.typeOf? name).getD .unknown
  | unary op _ => op.resultType
  | binary op x y => op.resultType (resultType scope x) (resultType scope y)
  | call function _ =>
    match scope.catalog.find? function with
    | some signature => signature.returns
    | none => .unknown

def callProblems (scope : Scope) (function : String) (count : Nat) : List Problem :=
  match scope.catalog.find? function with
  | some signature =>
    if signature.arity.accepts count then [] else [.wrongCount function signature.arity count]
  | none => [.unknownFunction function scope.catalog.names]

mutual

/-- Everything wrong in a formula, inner parts first, as often as it occurs. -/
def problems (scope : Scope) : Expr → List Problem
  | literal _ => []
  | field name => if (scope.schema.typeOf? name).isSome then [] else [.unknownField name]
  | unary _ x => problems scope x
  | binary _ x y => problems scope x ++ problems scope y
  | call function args =>
    problemsOfArgs scope args ++ callProblems scope function args.length

def problemsOfArgs (scope : Scope) : List Expr → List Problem
  | [] => []
  | x :: xs => problems scope x ++ problemsOfArgs scope xs

end

def unaryDoubts (op : UnaryOp) (operand : ResultType) : List Doubt :=
  if op ≠ .not ∧ operand = .text then [.signedText op] else []

def binaryDoubts (op : BinaryOp) (left right : ResultType) : List Doubt :=
  match op with
  | .arithmetic op =>
    if op ≠ .add ∧ (left = .text ∨ right = .text) then [.arithmeticOnText op] else []
  | _ => []

mutual

def doubts (scope : Scope) : Expr → List Doubt
  | literal _ => []
  | field _ => []
  | unary op x => doubts scope x ++ unaryDoubts op (x.resultType scope)
  | binary op x y =>
    doubts scope x ++ doubts scope y ++ binaryDoubts op (x.resultType scope) (y.resultType scope)
  | call _ args => doubtsOfArgs scope args

def doubtsOfArgs (scope : Scope) : List Expr → List Doubt
  | [] => []
  | x :: xs => doubts scope x ++ doubtsOfArgs scope xs

end

end Expr

/-- The outcome of checking a formula; each problem and each doubt is listed once. -/
structure Validation where
  problems : List Problem
  doubts : List Doubt
  resultType : ResultType
  references : NameSet

namespace Validation

def isValid (v : Validation) : Bool := v.problems.isEmpty

def ofExpr (scope : Scope) (x : Expr) : Validation where
  problems := (x.problems scope).eraseDups
  doubts := (x.doubts scope).eraseDups
  resultType := x.resultType scope
  references := x.fieldReferences

def ofText (scope : Scope) (text : String) : Validation :=
  match Expr.parse text with
  | .ok x => ofExpr scope x
  | .error e => ⟨[.malformed e], [], .unknown, .empty⟩

end Validation

end FormLogic
