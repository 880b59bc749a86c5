import FormLogic.Override.State
import FormLogic.Text.Quoted
import FormLogic.Value.Basic

/-! Why something is refused outside of formulas. -/

namespace FormLogic

structure InvalidFieldId where
  id : String
deriving DecidableEq

def InvalidFieldId.message (e : InvalidFieldId) : String := "Invalid field id: " ++ Text.quoted e.id

inductive ModelError where
  | invalidTransition (step : Transition) (state : OverrideState)
  | invalidFieldType (name : String)
  | invalidFieldId (e : InvalidFieldId)
  | invalidValueType (expected actual : Kind)
  | other (message : String)
deriving DecidableEq

def ModelError.message : ModelError → String
  | invalidTransition step state => "Cannot " ++ step.verb ++ " override in state " ++ state.name
  | invalidFieldType name => "Invalid field type: " ++ name
  | invalidFieldId e => e.message
  | invalidValueType expected actual =>
    "Invalid value type: expected " ++ expected.name ++ ", got " ++ actual.name
  | other message => message

end FormLogic
