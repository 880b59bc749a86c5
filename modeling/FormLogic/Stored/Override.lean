import FormLogic.Override.Basic
import FormLogic.Stored.Value
import FormLogic.Timestamp.Reader

/-! Overrides and conflicts as they are stored. -/

namespace FormLogic

open Json

namespace Timestamp

def toJson (t : Timestamp) : Json := .text t.text

def ofJson? (j : Json) : Option Timestamp := j.text?.bind read?

end Timestamp

namespace ConflictKind

def toJson (k : ConflictKind) : Json := .text k.name

def ofJson? : Json → Option ConflictKind := named? ofName?

end ConflictKind

namespace Override

def toJson (o : Override) : Json :=
  .object [("id", .text o.id), ("project_id", .text o.project), ("field_id", .text o.field),
    ("override_value", o.given.toJson), ("original_value", o.replaced.toJson),
    ("state", .text o.state.name), ("reason", ofOption .text o.reason),
    ("conflict_type", ofOption ConflictKind.toJson o.conflict),
    ("created_at", o.createdAt.toJson), ("updated_at", o.updatedAt.toJson)]

def ofJson? (depth : Nat) (j : Json) : Option Override := do
  let members ← j.members? ["id", "project_id", "field_id", "override_value", "original_value",
    "state", "reason", "conflict_type", "created_at", "updated_at"]
  let id ← members.required "id" text?
  let project ← members.required "project_id" text?
  let field ← members.required "field_id" text?
  let given ← members.required "override_value" (Value.ofJson? (depth - 1))
  let replaced ← members.required "original_value" (Value.ofJson? (depth - 1))
  let state ← members.required "state" (named? OverrideState.ofName?)
  let reason ← members.optional "reason" text?
  let conflict ← members.optional "conflict_type" ConflictKind.ofJson?
  let createdAt ← members.required "created_at" Timestamp.ofJson?
  let updatedAt ← members.required "updated_at" Timestamp.ofJson?
  some ⟨id, project, field, given, replaced, state, reason, conflict, createdAt, updatedAt⟩

end Override

namespace Conflict

def toJson (c : Conflict) : Json :=
  .object [("field_id", .text c.field), ("conflict_type", c.kind.toJson),
    ("override_value", c.given.toJson), ("computed_value", ofOption Value.toJson c.computed),
    ("control_value", ofOption Value.toJson c.control), ("description", .text c.description)]

def ofJson? (depth : Nat) (j : Json) : Option Conflict := do
  let members ← j.members? ["field_id", "conflict_type", "override_value", "computed_value",
    "control_value", "description"]
  let field ← members.required "field_id" text?
  let kind ← members.required "conflict_type" ConflictKind.ofJson?
  let given ← members.required "override_value" (Value.ofJson? (depth - 1))
  let computed ← members.optional "computed_value" (Value.ofJson? (depth - 1))
  let control ← members.optional "control_value" (Value.ofJson? (depth - 1))
  let description ← members.required "description" text?
  some ⟨field, kind, given, computed, control, description⟩

end Conflict

end FormLogic
