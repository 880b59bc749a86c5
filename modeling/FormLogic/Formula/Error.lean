import FormLogic.Formula.Arity
import FormLogic.Formula.Operator
import FormLogic.Formula.Token
import FormLogic.Value.Basic

/-! Why a formula has no value. -/

namespace FormLogic

inductive TypeFault where
  | operands (op : Arithmetic) (left right : Kind)
  | operand (op : UnaryOp) (kind : Kind)
  | unordered (relation : Relation) (left right : Kind)
  /-- A fault in the words of a function that is not a standard one. -/
  | other (message : String)
deriving DecidableEq

def TypeFault.message : TypeFault → String
  | .operands op left right =>
    "unsupported operand types for '" ++ op.symbol ++ "': " ++ left.name ++ " and " ++ right.name
  | .operand op kind => "bad operand type for unary '" ++ op.symbol ++ "': " ++ kind.name
  | .unordered relation left right =>
    "'" ++ relation.symbol ++ "' not supported between " ++ left.name ++ " and " ++ right.name
  | .other message => message

inductive ArgumentFault where
  | noRealPower (base exponent : Float)
  | wrongCount (arity : Arity) (count : Nat)
  | missing (function : String) (position : Nat)
  | numberRequired (function : String) (kind : Kind)
  | textRequired (function : String) (kind : Kind)
  | digitsNotInteger (kind : Kind)
  | emptySequence (function : String)
  | notIntegral (x : Float)
  /-- A fault in the words of a function that is not a standard one. -/
  | other (message : String)
deriving DecidableEq

def ArgumentFault.message : ArgumentFault → String
  | .noRealPower base exponent =>
    Number.floatText base ++ " ** " ++ Number.floatText exponent ++ " has no real result"
  | .wrongCount arity count => "expects " ++ arity.describe ++ ", got " ++ toString count
  | .missing function position => function ++ "() missing argument " ++ toString position
  | .numberRequired function kind => function ++ "() requires a number, got " ++ kind.name
  | .textRequired function kind => function ++ "() requires text, got " ++ kind.name
  | .digitsNotInteger kind => "round() ndigits must be an integer, got " ++ kind.name
  | .emptySequence function => function ++ "() arg is an empty sequence"
  | .notIntegral x => "cannot convert " ++ Number.floatText x ++ " to an integer"
  | .other message => message

inductive FormulaError where
  | malformed (e : SyntaxError)
  | fieldNotFound (name : String)
  | functionNotFound (name : String)
  | divisionByZero
  | typeMismatch (fault : TypeFault)
  | invalidArgument (fault : ArgumentFault)
  /-- An integer result that does not fit in 64 bits, or a float one past the largest float. -/
  | overflow (operation : String)
  /-- A function answered with an error of its own. -/
  | functionRefused (function : String) (cause : FormulaError)
  /-- A function broke off, perhaps with a message. -/
  | functionBroke (function : String) (message : Option String)
deriving DecidableEq

namespace FormulaError

def breakMessage (message : Option String) : String := message.getD "function panicked"

def message : FormulaError → String
  | malformed e => "Syntax error: " ++ e.message
  | fieldNotFound name => "Field '" ++ name ++ "' not found"
  | functionNotFound name => "Function '" ++ name ++ "' not found"
  | divisionByZero => "Division by zero"
  | typeMismatch fault => "Type error: " ++ fault.message
  | invalidArgument fault => "Invalid argument: " ++ fault.message
  | overflow operation => "Integer overflow in '" ++ operation ++ "'"
  | functionRefused function cause => "Function '" ++ function ++ "' failed: " ++ cause.message
  | functionBroke function text =>
    "Function '" ++ function ++ "' failed: " ++ breakMessage text

end FormulaError

end FormLogic
