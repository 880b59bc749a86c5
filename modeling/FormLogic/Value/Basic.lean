import FormLogic.Dictionary
import FormLogic.Number.Binary64

/-! Values that fields hold and formulas produce. -/

namespace FormLogic

/-- A value; the keys of a map stand in ascending order. -/
inductive Value where
  | null
  | boolean (b : Bool)
  | integer (n : Int64)
  | float (x : Float)
  | text (s : String)
  | list (items : List Value)
  | map (entries : List (String × Value))
deriving Inhabited

abbrev FieldValues := Dictionary Value

inductive Kind where
  | null
  | boolean
  | integer
  | float
  | text
  | list
  | map
deriving DecidableEq, Repr

def Kind.name : Kind → String
  | .null => "null"
  | .boolean => "boolean"
  | .integer => "integer"
  | .float => "float"
  | .text => "text"
  | .list => "list"
  | .map => "map"

inductive Quantity where
  | integer (n : Int64)
  | float (x : Float)

def Quantity.toFloat : Quantity → Float
  | .integer n => Binary64.ofInt n.toInt
  | .float x => x

namespace Value

def kind : Value → Kind
  | .null => .null
  | .boolean _ => .boolean
  | .integer _ => .integer
  | .float _ => .float
  | .text _ => .text
  | .list _ => .list
  | .map _ => .map

def ofQuantity : Quantity → Value
  | .integer n => .integer n
  | .float x => .float x

def ofEntries (entries : List (String × Value)) : Value := .map (Dictionary.ofList entries).entries

def isNull : Value → Bool
  | .null => true
  | _ => false

def quantity? : Value → Option Quantity
  | .integer n => some (.integer n)
  | .float x => some (.float x)
  | _ => none

def isNumber (v : Value) : Bool := v.quantity?.isSome

def boolean? : Value → Option Bool
  | .boolean b => some b
  | _ => none

def integer? : Value → Option Int64
  | .integer n => some n
  | _ => none

def float? (v : Value) : Option Float := v.quantity?.map (·.toFloat)

def text? : Value → Option String
  | .text s => some s
  | _ => none

/-- Whether the value counts as true: null, false, zero and everything empty do not. -/
def isTruthy : Value → Bool
  | .null => false
  | .boolean b => b
  | .integer n => n ≠ 0
  | .float x => !Binary64.isZero x
  | .text s => s ≠ ""
  | .list items => !items.isEmpty
  | .map entries => !entries.isEmpty

@[simp] theorem kind_ofQuantity_integer (n : Int64) : (ofQuantity (.integer n)).kind = .integer :=
  rfl
@[simp] theorem kind_ofQuantity_float (x : Float) : (ofQuantity (.float x)).kind = .float := rfl
@[simp] theorem quantity?_ofQuantity (q : Quantity) : (ofQuantity q).quantity? = some q := by
  cases q <;> rfl

end Value

end FormLogic
