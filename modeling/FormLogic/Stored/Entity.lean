import FormLogic.Entity
import FormLogic.Stored.Value

/-! Entities and projects as they are stored. -/

namespace FormLogic

open Json

namespace EffectSource

def toJson : EffectSource → Json
  | literal v => .object [("literal", v.toJson)]
  | formula s => .object [("formula", .text s)]

def ofJson? (depth : Nat) : Json → Option EffectSource
  | .object [("literal", j)] => (Value.ofJson? (depth - 1) j).map .literal
  | .object [("formula", .text s)] => some (.formula s)
  | _ => none

end EffectSource

namespace RuleEffect

def toJson (e : RuleEffect) : Json :=
  .object [("control_type", .text e.control.name), ("target_field_id", .text e.target),
    ("value", e.source.toJson)]

def ofJson? (depth : Nat) (j : Json) : Option RuleEffect := do
  let members ← j.members? ["control_type", "target_field_id", "value"]
  let control ← members.required "control_type" (named? Control.ofName?)
  let target ← members.required "target_field_id" text?
  let source ← members.orElse "value" (EffectSource.ofJson? (depth - 1)) default
  some ⟨control, target, source⟩

end RuleEffect

namespace Rule

def toJson (r : Rule) : Json :=
  .object [("id", .text r.id), ("name", .text r.name), ("condition", .text r.condition),
    ("effect", r.effect.toJson), ("enabled", .boolean r.enabled),
    ("priority", .integer r.priority.toInt)]

def ofJson? (depth : Nat) (j : Json) : Option Rule := do
  let members ← j.members? ["id", "name", "condition", "effect", "enabled", "priority"]
  let id ← members.required "id" text?
  let name ← members.required "name" text?
  let condition ← members.required "condition" text?
  let effect ← members.required "effect" (RuleEffect.ofJson? (depth - 1))
  let enabled ← members.orElse "enabled" boolean? true
  let priority ← members.orElse "priority" int32? 0
  some ⟨id, name, condition, effect, enabled, priority⟩

end Rule

namespace FieldType

def ofStoredName? (s : String) : Option FieldType :=
  if s = "checkbox" then some boolean else ofName? s

end FieldType

namespace Field

def toJson (f : Field) : Json :=
  .object [("id", .text f.id), ("label", .text f.label), ("field_type", .text f.type.name),
    ("formula", ofOption .text f.formula), ("control_rules", .array (f.rules.map (·.toJson)))]

def ofJson? (depth : Nat) (j : Json) : Option Field := do
  let members ← j.members? ["id", "label", "field_type", "formula", "control_rules"]
  let id ← members.required "id" text?
  let label ← members.orElse "label" text? ""
  let type ← members.required "field_type" (named? FieldType.ofStoredName?)
  let formula ← members.optional "formula" text?
  let rules ← members.orElse "control_rules" (items? (Rule.ofJson? (depth - 2))) []
  some ⟨id, label, type, formula, rules⟩

end Field

namespace Entity

def toJson (e : Entity) : Json :=
  .object [("id", .text e.id), ("name", .text e.name), ("fields", .array (e.fields.map (·.toJson)))]

def ofJson? (depth : Nat) (j : Json) : Option Entity := do
  let members ← j.members? ["id", "name", "fields"]
  let id ← members.required "id" text?
  let name ← members.orElse "name" text? ""
  let fields ← members.orElse "fields" (items? (Field.ofJson? (depth - 2))) []
  some ⟨id, name, fields⟩

end Entity

namespace Project

def toJson (p : Project) : Json :=
  .object [("id", .text p.id), ("name", .text p.name), ("entity_definition_id", .text p.entity),
    ("field_values", p.values.toJson)]

def ofJson? (depth : Nat) (j : Json) : Option Project := do
  let members ← j.members? ["id", "name", "entity_definition_id", "field_values"]
  let id ← members.required "id" text?
  let name ← members.orElse "name" text? ""
  let entity ← members.required "entity_definition_id" text?
  let values ← members.orElse "field_values" (FieldValues.ofJson? (depth - 1)) .empty
  some ⟨id, name, entity, values⟩

end Project

namespace Effect

def toJson (e : Effect) : Json :=
  .object [("control_type", .text e.control.name), ("target_field_id", .text e.target),
    ("value", e.value.toJson), ("rule_id", .text e.rule)]

def ofJson? (depth : Nat) (j : Json) : Option Effect := do
  let members ← j.members? ["control_type", "target_field_id", "value", "rule_id"]
  let control ← members.required "control_type" (named? Control.ofName?)
  let target ← members.required "target_field_id" text?
  let value ← members.required "value" (Value.ofJson? (depth - 1))
  let rule ← members.required "rule_id" text?
  some ⟨control, target, value, rule⟩

end Effect

namespace SchemaField

def toJson (f : SchemaField) : Json :=
  .object [("field_id", .text f.field), ("field_type", .text f.typeName)]

def ofJson? (j : Json) : Option SchemaField := do
  let members ← j.members? ["field_id", "field_type"]
  let field ← members.required "field_id" text?
  let typeName ← members.required "field_type" text?
  some ⟨field, typeName⟩

end SchemaField

end FormLogic
