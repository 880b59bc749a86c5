import FormLogic.Rule
import FormLogic.Schema

/-! Entities, the fields and rules that they consist of, and projects that hold values for them. -/

namespace FormLogic

/-- A field; one with a formula is calculated. Its rules may have any field for a target. -/
structure Field where
  id : String
  label : String
  type : FieldType
  formula : Option String
  rules : List Rule
deriving DecidableEq

/-- An entity. Of several fields with one id the first is meant. -/
structure Entity where
  id : String
  name : String
  fields : List Field
deriving DecidableEq

namespace Entity

def field? (e : Entity) (id : String) : Option Field := e.fields.find? (·.id = id)

def hasField (e : Entity) (id : String) : Bool := (e.field? id).isSome

def formula? (e : Entity) (id : String) : Option String := (e.field? id).bind (·.formula)

/-- All rules, each with the field that it stands with, in the order of the fields. -/
def ownedRules (e : Entity) : List (Field × Rule) :=
  e.fields.flatMap fun f => f.rules.map fun r => (f, r)

def rules (e : Entity) : List Rule := e.fields.flatMap (·.rules)

def schema (e : Entity) : Schema := e.fields.map fun f => ⟨f.id, f.type.name⟩

theorem hasField_iff {e : Entity} {id : String} :
    e.hasField id = true ↔ ∃ f ∈ e.fields, f.id = id := by
  simp [hasField, field?, List.find?_isSome]

end Entity

structure Project where
  id : String
  name : String
  entity : String
  values : FieldValues
deriving DecidableEq

end FormLogic
