import FormLogic.Formula.Operator
import FormLogic.Value.Basic

/-! The tree of a formula, and the names in it. -/

namespace FormLogic

inductive Literal where
  | integer (n : Int64)
  | float (x : Float)
  | text (s : String)
  | boolean (b : Bool)
  | none
deriving DecidableEq

def Literal.value : Literal → Value
  | .integer n => .integer n
  | .float x => .float x
  | .text s => .text s
  | .boolean b => .boolean b
  | .none => .null

inductive Expr where
  | literal (value : Literal)
  | field (name : String)
  | unary (op : UnaryOp) (operand : Expr)
  | binary (op : BinaryOp) (left right : Expr)
  | call (function : String) (args : List Expr)
deriving Inhabited

namespace Expr

mutual

/-- Field names from left to right, as often as they occur. -/
def fieldNames : Expr → List String
  | .literal _ => []
  | .field name => [name]
  | .unary _ x => fieldNames x
  | .binary _ x y => fieldNames x ++ fieldNames y
  | .call _ args => fieldNamesOfArgs args

def fieldNamesOfArgs : List Expr → List String
  | [] => []
  | x :: xs => fieldNames x ++ fieldNamesOfArgs xs

end

mutual

def callNames : Expr → List String
  | .literal _ => []
  | .field _ => []
  | .unary _ x => callNames x
  | .binary _ x y => callNames x ++ callNames y
  | .call f args => f :: callNamesOfArgs args

def callNamesOfArgs : List Expr → List String
  | [] => []
  | x :: xs => callNames x ++ callNamesOfArgs xs

end

def fieldReferences (x : Expr) : NameSet := .ofNames x.fieldNames

def functionNames (x : Expr) : NameSet := .ofNames x.callNames

end Expr

end FormLogic
