import FormLogic.Formula.Expr
import FormLogic.Formula.Lexer

/-! Formula text read as a tree. From loose to tight: `or`, `and`, `not`, equality, order, sums,
products, signs, powers. Chains of one level lean to the left, powers to the right. Every step
inward (a parenthesis, an argument, an exponent, the operand of `not` or of a sign) uses up one of
`nestingLimit` levels, and the recursion of the reader is on the levels left. -/

namespace FormLogic

/-- How deep formulas may nest; the whole formula is the first level. -/
def nestingLimit : Nat := 64

namespace Parser

/-- Reads an expression off the front of the tokens. -/
abbrev Reader := List Located → Except SyntaxError (Expr × List Located)

/-- The tokens after the first one. A fault right behind it is raised at once. -/
def advance (ending : Ending) : List Located → Except SyntaxError (List Located)
  | _ :: next :: rest => .ok (next :: rest)
  | _ =>
    match ending with
    | .endOfText _ => .ok []
    | .fault e => .error e

def expect (ending : Ending) (wanted : Token) : List Located → Except SyntaxError (List Located)
  | [] =>
    match ending with
    | .endOfText column => .error (.expected wanted none column)
    | .fault e => .error e
  | found :: rest =>
    if found.token = wanted then advance ending (found :: rest)
    else .error (.expected wanted (some found.token) found.column)

/-- Goes on with a chain whose left part is read, for at most the given number of operators. -/
def chainFrom (ending : Ending) (operator? : Token → Option BinaryOp) (operand : Reader) :
    Nat → Expr → Reader
  | 0, left, ts => .ok (left, ts)
  | _ + 1, left, [] => .ok (left, [])
  | bound + 1, left, t :: ts =>
    match operator? t.token with
    | none => .ok (left, t :: ts)
    | some op => do
      let ts ← advance ending (t :: ts)
      let (right, ts) ← operand ts
      chainFrom ending operator? operand bound (.binary op left right) ts

/-- Operands joined by operators of one level, grouped to the left. There are never more operators
than tokens. -/
def chain (ending : Ending) (operator? : Token → Option BinaryOp) (operand : Reader) : Reader :=
  fun ts => do
    let (left, ts) ← operand ts
    chainFrom ending operator? operand ts.length left ts

def or? : Token → Option BinaryOp
  | .or => some .or
  | _ => none

def and? : Token → Option BinaryOp
  | .and => some .and
  | _ => none

def equality? : Token → Option BinaryOp
  | .equal => some .equal
  | .notEqual => some .notEqual
  | _ => none

def relation? : Token → Option BinaryOp
  | .less => some (.order .less)
  | .lessEqual => some (.order .lessEqual)
  | .greater => some (.order .greater)
  | .greaterEqual => some (.order .greaterEqual)
  | _ => none

def additive? : Token → Option BinaryOp
  | .plus => some (.arithmetic .add)
  | .minus => some (.arithmetic .subtract)
  | _ => none

def multiplicative? : Token → Option BinaryOp
  | .star => some (.arithmetic .multiply)
  | .slash => some (.arithmetic .divide)
  | .percent => some (.arithmetic .modulo)
  | _ => none

def sign? : Token → Option UnaryOp
  | .minus => some .negate
  | .plus => some .plus
  | _ => none

/-- The readers for what stands one level further inside. -/
structure Inner where
  expression : Reader
  negatable : Reader
  signed : Reader

def moreArguments (ending : Ending) (inner : Inner) :
    Nat → List Located → Except SyntaxError (List Expr × List Located)
  | 0, ts => .ok ([], ts)
  | _ + 1, [] => .ok ([], [])
  | bound + 1, t :: ts =>
    if t.token = .comma then do
      let ts ← advance ending (t :: ts)
      let (arg, ts) ← inner.expression ts
      let (args, ts) ← moreArguments ending inner bound ts
      .ok (arg :: args, ts)
    else .ok ([], t :: ts)

def arguments (ending : Ending) (inner : Inner) (ts : List Located) :
    Except SyntaxError (List Expr × List Located) :=
  if (ts.head?.map (·.token)) = some .rightParen then .ok ([], ts)
  else do
    let (arg, ts) ← inner.expression ts
    let (args, ts) ← moreArguments ending inner ts.length ts
    .ok (arg :: args, ts)

def primary (ending : Ending) (inner : Inner) : Reader
  | [] =>
    match ending with
    | .endOfText _ => .error .unexpectedEnd
    | .fault e => .error e
  | t :: ts =>
    let literal (value : Literal) : Except SyntaxError (Expr × List Located) := do
      let ts ← advance ending (t :: ts)
      .ok (.literal value, ts)
    match t.token with
    | .integer n => literal (.integer n)
    | .float x => literal (.float x)
    | .text s => literal (.text s)
    | .boolean b => literal (.boolean b)
    | .none => literal .none
    | .leftParen => do
      let ts ← advance ending (t :: ts)
      let (x, ts) ← inner.expression ts
      let ts ← expect ending .rightParen ts
      .ok (x, ts)
    | .identifier name => do
      let ts ← advance ending (t :: ts)
      if (ts.head?.map (·.token)) = some .leftParen then do
        let ts ← advance ending ts
        let (args, ts) ← arguments ending inner ts
        let ts ← expect ending .rightParen ts
        .ok (.call name args, ts)
      else .ok (.field name, ts)
    | token => .error (.unexpectedToken token t.column)

def power (ending : Ending) (inner : Inner) : Reader := fun ts => do
  let (base, ts) ← primary ending inner ts
  if (ts.head?.map (·.token)) = some .doubleStar then do
    let ts ← advance ending ts
    let (exponent, ts) ← inner.signed ts
    .ok (.binary (.arithmetic .power) base exponent, ts)
  else .ok (base, ts)

def signed (ending : Ending) (inner : Inner) : Reader := fun ts =>
  match ts.head?.bind (sign? ·.token) with
  | some op => do
    let ts ← advance ending ts
    let (x, ts) ← inner.signed ts
    .ok (.unary op x, ts)
  | none => power ending inner ts

def product (ending : Ending) (inner : Inner) : Reader :=
  chain ending multiplicative? (signed ending inner)

def sum (ending : Ending) (inner : Inner) : Reader :=
  chain ending additive? (product ending inner)

def relation (ending : Ending) (inner : Inner) : Reader :=
  chain ending relation? (sum ending inner)

def equality (ending : Ending) (inner : Inner) : Reader :=
  chain ending equality? (relation ending inner)

def negatable (ending : Ending) (inner : Inner) : Reader := fun ts =>
  if (ts.head?.map (·.token)) = some .not then do
    let ts ← advance ending ts
    let (x, ts) ← inner.negatable ts
    .ok (.unary .not x, ts)
  else equality ending inner ts

def conjunction (ending : Ending) (inner : Inner) : Reader :=
  chain ending and? (negatable ending inner)

def disjunction (ending : Ending) (inner : Inner) : Reader :=
  chain ending or? (conjunction ending inner)

def inner (ending : Ending) : Nat → Inner
  | 0 =>
    let tooDeep : Reader := fun _ => .error (.tooDeep nestingLimit)
    ⟨tooDeep, tooDeep, tooDeep⟩
  | levels + 1 =>
    let deeper := inner ending levels
    ⟨disjunction ending deeper, negatable ending deeper, signed ending deeper⟩

def parseStream (stream : TokenStream) : Except SyntaxError Expr := do
  let (x, rest) ← (inner stream.ending nestingLimit).expression stream.tokens
  match rest with
  | [] => .ok x
  | t :: _ => .error (.trailing t.token t.column)

end Parser

def Expr.parse (text : String) : Except SyntaxError Expr :=
  if Text.isBlankText text then .error .emptyFormula
  else Parser.parseStream (Lexer.tokenize text)

end FormLogic
