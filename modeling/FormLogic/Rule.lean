import FormLogic.ModelError
import FormLogic.Value.Equality

/-! Rules: a condition over the values of fields, and what is done to a field while it holds. -/

namespace FormLogic

inductive Control where
  | visibility
  | enable
  | required
  | valueSet
deriving DecidableEq, Repr

namespace Control

def all : List Control := [visibility, enable, required, valueSet]

def name : Control → String
  | visibility => "VISIBILITY"
  | enable => "ENABLE"
  | required => "REQUIRED"
  | valueSet => "VALUE_SET"

def ofName? (s : String) : Option Control := all.find? (·.name = s)

def isFlag (c : Control) : Bool := c ≠ valueSet

theorem ofName?_name (c : Control) : ofName? c.name = some c := by cases c <;> decide

end Control

/-- Where the value of an effect comes from. -/
inductive EffectSource where
  | literal (value : Value)
  | formula (text : String)
deriving DecidableEq

/-- An effect that does not say its value switches its control on. -/
instance : Inhabited EffectSource := ⟨.literal (.boolean true)⟩

structure RuleEffect where
  control : Control
  target : String
  source : EffectSource := default
deriving DecidableEq

/-- A rule. Rules of lower priority come first. -/
structure Rule where
  id : String
  name : String
  condition : String
  effect : RuleEffect
  enabled : Bool := true
  priority : Int32 := 0
deriving DecidableEq

structure Effect where
  control : Control
  target : String
  value : Value
  rule : String
deriving DecidableEq

namespace Effect

def flag (e : Effect) : Except ModelError Bool :=
  match e.value.boolean? with
  | some b => .ok b
  | none => .error (.invalidValueType .boolean e.value.kind)

/-- Whether two effects set the same control of the same field. -/
def Competes (e f : Effect) : Prop := e.target = f.target ∧ e.control = f.control

instance (e f : Effect) : Decidable (Competes e f) := inferInstanceAs (Decidable (_ ∧ _))

end Effect

end FormLogic
