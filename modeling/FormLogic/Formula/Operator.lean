/-! Operators of formulas. -/

namespace FormLogic

/-- Operators on numbers; `add` also joins texts and lists. -/
inductive Arithmetic where
  | add
  | subtract
  | multiply
  | divide
  | modulo
  | power
deriving DecidableEq, Repr

def Arithmetic.symbol : Arithmetic → String
  | .add => "+"
  | .subtract => "-"
  | .multiply => "*"
  | .divide => "/"
  | .modulo => "%"
  | .power => "**"

inductive Relation where
  | less
  | lessEqual
  | greater
  | greaterEqual
deriving DecidableEq, Repr

def Relation.symbol : Relation → String
  | .less => "<"
  | .lessEqual => "<="
  | .greater => ">"
  | .greaterEqual => ">="

def Relation.holds : Relation → Ordering → Bool
  | .less, o => o.isLT
  | .lessEqual, o => o.isLE
  | .greater, o => o.isGT
  | .greaterEqual, o => o.isGE

inductive BinaryOp where
  | arithmetic (op : Arithmetic)
  | equal
  | notEqual
  | order (relation : Relation)
  | and
  | or
deriving DecidableEq, Repr

def BinaryOp.symbol : BinaryOp → String
  | .arithmetic op => op.symbol
  | .equal => "=="
  | .notEqual => "!="
  | .order relation => relation.symbol
  | .and => "and"
  | .or => "or"

inductive UnaryOp where
  | not
  | negate
  | plus
deriving DecidableEq, Repr

def UnaryOp.symbol : UnaryOp → String
  | .not => "not"
  | .negate => "-"
  | .plus => "+"

end FormLogic
