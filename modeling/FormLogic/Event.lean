import FormLogic.Controls
import FormLogic.Conflict

/-! What is reported while formulas and rules are evaluated, one line an event. -/

namespace FormLogic

inductive Event where
  | functionBroke (function : String) (message : Option String)
  | circularFormula (entity field : String)
  | calculated (field : String) (value : Value)
  | notCalculated (field : String) (e : FormulaError)
  | onCycle (entity field : String)
  | fired (e : Effect)
  | idle (rule : String)
  | skipped (rule : String) (fault : RuleFault)
  | evaluatingProject (project entity : String)
  | evaluatingEntity (entity : String)
  | calculatingProject (project entity : String)
  | refreshed (override field : String) (conflict : Option ConflictKind)

inductive Severity where
  | debug
  | info
  | warn
deriving DecidableEq, Repr

def Severity.name : Severity → String
  | debug => "DEBUG"
  | info => "INFO"
  | warn => "WARN"

namespace Event

def severity : Event → Severity
  | functionBroke .. | circularFormula .. | notCalculated .. | onCycle .. | skipped .. => .warn
  | calculated .. | fired .. | idle .. => .debug
  | evaluatingProject .. | evaluatingEntity .. | calculatingProject .. | refreshed .. => .info

def message : Event → String
  | functionBroke .. => "formula function panicked"
  | circularFormula .. => "circular reference in formula"
  | calculated .. => "calculated field"
  | notCalculated .. => "failed to calculate field"
  | onCycle .. => "field is part of a dependency cycle"
  | fired .. => "rule fired"
  | idle .. => "rule condition is false"
  | skipped .. => "skipping rule"
  | evaluatingProject .. => "evaluating project controls"
  | evaluatingEntity .. => "evaluating entity controls"
  | calculatingProject .. => "calculating project fields"
  | refreshed .. => "refreshed override conflict"

def conflictText : Option ConflictKind → String
  | some kind => "Some(" ++ kind.label ++ ")"
  | none => "None"

def details : Event → List (String × String)
  | functionBroke function message =>
    [("function", function), ("message", FormulaError.breakMessage message)]
  | circularFormula entity field => [("entity", entity), ("field", field)]
  | calculated field value => [("field", field), ("value", value.repr)]
  | notCalculated field e => [("field", field), ("error", e.message)]
  | onCycle entity field => [("entity", entity), ("field", field)]
  | fired e =>
    [("rule", e.rule), ("target", e.target), ("control", e.control.name), ("value", e.value.repr)]
  | idle rule => [("rule", rule)]
  | skipped rule fault => [("rule", rule), ("reason", fault.message)]
  | evaluatingProject project entity => [("project", project), ("entity", entity)]
  | evaluatingEntity entity => [("entity", entity)]
  | calculatingProject project entity => [("project", project), ("entity", entity)]
  | refreshed override field conflict =>
    [("override_id", override), ("field", field), ("conflict", conflictText conflict)]

def line (e : Event) : String :=
  " ".intercalate ((e.severity.name :: ("message=" ++ e.message) ::
    e.details.map fun (name, text) => name ++ "=" ++ text))

end Event

end FormLogic
