import FormLogic.Dependencies
import FormLogic.Formula.Eval

/-! The values of calculated fields. Each formula sees the values of the calculated fields before
it, and none that was stored for a calculated field which has no value now. -/

namespace FormLogic

/-- Why a calculated field has no value. -/
inductive CalculationError where
  | circular
  | failed (e : FormulaError)
deriving DecidableEq

def CalculationError.message : CalculationError → String
  | circular => "Circular reference"
  | failed e => e.message

/-- What came of the calculated fields, and in which order their formulas were evaluated. -/
structure Calculation where
  values : FieldValues
  errors : Dictionary CalculationError
  order : List String

namespace Calculation

def isOk (c : Calculation) : Bool := c.errors.entries.isEmpty

/-- The inputs with the calculated values laid over them. -/
def merged (c : Calculation) (inputs : FieldValues) : FieldValues := inputs.overlay c.values

structure Progress where
  working : FieldValues
  result : Calculation

namespace Progress

def start (inputs : FieldValues) : Progress := ⟨inputs, ⟨.empty, .empty, []⟩⟩

/-- Leaves out a field that depends on itself. -/
def exclude (p : Progress) (field : String) : Progress where
  working := p.working.erase field
  result := { p.result with errors := p.result.errors.insert field .circular }

def evaluate (functions : Registry) (p : Progress) (field formula : String) : Progress :=
  let order := p.result.order ++ [field]
  match evalText ⟨p.working, functions⟩ formula with
  | .ok v =>
    ⟨p.working.insert field v, { p.result with values := p.result.values.insert field v, order }⟩
  | .error e =>
    ⟨p.working.erase field,
      { p.result with errors := p.result.errors.insert field (.failed e), order }⟩

end Progress

end Calculation

namespace Entity

def circularFormulas (e : Entity) : List String :=
  e.formulaGraph.circularFields.filter fun id => (e.formula? id).isSome

/-- The other calculated fields with their formulas, each after those it depends on. -/
def orderedFormulas (e : Entity) : List (String × String) :=
  e.formulaGraph.calculationOrder.filterMap fun id =>
    (e.formula? id).map fun formula => (id, formula)

/-- Calculates every field that has a formula. -/
def calculate (e : Entity) (inputs : FieldValues) (functions : Registry) : Calculation :=
  let start := e.circularFormulas.foldl Calculation.Progress.exclude (.start inputs)
  (e.orderedFormulas.foldl (fun p f => p.evaluate functions f.1 f.2) start).result

end Entity

end FormLogic
