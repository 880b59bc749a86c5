import FormLogic.DependencyGraph
import FormLogic.Entity
import FormLogic.Formula.Parser

/-! The formulas of an entity as a graph. A field depends on the fields that its own formula names,
and on those that a rule which sets its value names, in the condition or in the value. Names that
are no fields of the entity have no part in the graph. -/

namespace FormLogic

inductive FormulaPlace where
  | field (id : String)
  | condition (ruleName rule : String)
  | value (ruleName rule : String)
deriving DecidableEq

def FormulaPlace.describe : FormulaPlace → String
  | field id => "Formula of field '" ++ id ++ "'"
  | condition name rule => "Rule '" ++ name ++ "' (" ++ rule ++ ") condition"
  | value name rule => "Rule '" ++ name ++ "' (" ++ rule ++ ") value"

/-- A formula that takes part in the value of a field. -/
structure Influence where
  place : FormulaPlace
  formula : String
  target : String
deriving DecidableEq

def Field.influences (f : Field) : List Influence :=
  f.formula.toList.map fun formula => ⟨.field f.id, formula, f.id⟩

/-- A rule that sets a value takes part in it by its condition and its value formula; other rules
leave values alone. -/
def Rule.influences (r : Rule) : List Influence :=
  if r.enabled ∧ r.effect.control = .valueSet then
    ⟨.condition r.name r.id, r.condition, r.effect.target⟩ ::
      match r.effect.source with
      | .formula text => [⟨.value r.name r.id, text, r.effect.target⟩]
      | .literal _ => []
  else []

/-- The fields of an entity that an influence names, in ascending order; none if its formula cannot
be read. -/
def Influence.precedents (i : Influence) (e : Entity) : List String :=
  match Expr.parse i.formula with
  | .ok x => x.fieldReferences.names.filter e.hasField
  | .error _ => []

/-- A formula that cannot be read, so that what it names is not known. -/
structure UnreadFormula where
  place : FormulaPlace
  error : SyntaxError
deriving DecidableEq

def UnreadFormula.message (u : UnreadFormula) : String :=
  u.place.describe ++ ": Syntax error: " ++ u.error.message

def Influence.unread? (i : Influence) : Option UnreadFormula :=
  match Expr.parse i.formula with
  | .ok _ => none
  | .error e => some ⟨i.place, e⟩

namespace Entity

/-- The influences of the fields' own formulas. -/
def formulaInfluences (e : Entity) : List Influence := e.fields.flatMap (·.influences)

def ruleInfluences (e : Entity) : List Influence :=
  e.rules.flatMap fun r => r.influences.filter fun i => e.hasField i.target

def graphOf (e : Entity) (influences : List Influence) : DependencyGraph :=
  influences.foldl
    (fun g i => (i.precedents e).foldl (fun g p => g.addDependency p i.target) g)
    (e.fields.foldl (fun g f => g.addField f.id) .empty)

def formulaGraph (e : Entity) : DependencyGraph := e.graphOf e.formulaInfluences

end Entity

/-- What is known of the dependencies of an entity. -/
structure Dependencies where
  graph : DependencyGraph
  unread : List UnreadFormula
deriving DecidableEq

namespace Dependencies

def circular (d : Dependencies) : List String := d.graph.circularFields

def hasCycles (d : Dependencies) : Bool := !d.circular.isEmpty

def order (d : Dependencies) : List String := d.graph.calculationOrder

end Dependencies

/-- The dependencies that formulas and rules bring. -/
def Entity.dependencies (e : Entity) : Dependencies :=
  let influences := e.formulaInfluences ++ e.ruleInfluences
  ⟨e.graphOf influences, influences.filterMap (·.unread?)⟩

end FormLogic
