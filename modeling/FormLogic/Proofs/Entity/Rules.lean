import FormLogic.Proofs.Entity.Rearrangement

/-! Entities with the same fields and formulas, but other rules. -/

namespace FormLogic

/-- What is done to a rule when the rules of an entity are edited. -/
inductive RuleEdit where
  | keep
  | disable
  | delete
deriving DecidableEq

/-- What is left of a rule. -/
def RuleEdit.apply : RuleEdit → Rule → Option Rule
  | keep, r => some r
  | disable, r => some { r with enabled := false }
  | delete, _ => none

/-- Fields with their rules edited by number, the first rule having the given one. -/
def Field.editRules (edit : Nat → RuleEdit) : Nat → List Field → List Field
  | _, [] => []
  | first, f :: fields =>
    { f with rules := (f.rules.zipIdx first).filterMap fun (r, i) => (edit i).apply r } ::
      editRules edit (first + f.rules.length) fields

namespace Field

variable (edit : Nat → RuleEdit) (first : Nat) (fields : List Field)

theorem rules_editRules : (editRules edit first fields).flatMap (·.rules) =
    ((fields.flatMap (·.rules)).zipIdx first).filterMap fun (r, i) => (edit i).apply r := by
  induction fields generalizing first with
  | nil => rfl
  | cons f fields ih =>
    rw [editRules, List.flatMap_cons, List.flatMap_cons, ih, List.zipIdx_append,
      List.filterMap_append]

theorem schema_editRules :
    (editRules edit first fields).map (fun f => (⟨f.id, f.type.name⟩ : SchemaField)) =
      fields.map fun f => ⟨f.id, f.type.name⟩ := by
  induction fields generalizing first with
  | nil => rfl
  | cons f fields ih => rw [editRules, List.map_cons, List.map_cons, ih]

end Field

namespace Entity

/-- The entity with its rules edited by their numbers, in the order in which it declares them. -/
def edited (e : Entity) (edit : Nat → RuleEdit) : Entity :=
  { e with fields := Field.editRules edit 0 e.fields }

theorem rules_edited (e : Entity) (edit : Nat → RuleEdit) :
    (e.edited edit).rules = e.rules.zipIdx.filterMap fun (r, i) => (edit i).apply r :=
  Field.rules_editRules edit 0 e.fields

theorem schema_edited (e : Entity) (edit : Nat → RuleEdit) : (e.edited edit).schema = e.schema :=
  Field.schema_editRules edit 0 e.fields

def withRules (e : Entity) (rules : Field → List Rule) : Entity :=
  { e with fields := e.fields.map fun f => { f with rules := rules f } }

variable {e : Entity} (rules : Field → List Rule)

theorem rules_withRules : (e.withRules rules).rules = e.fields.flatMap rules := by
  rw [Entity.rules, withRules, List.flatMap_map]

theorem rearranges_withRules : e.Rearranges (e.withRules rules) := by
  have hfields : (e.withRules rules).bareFields = e.bareFields := by
    rw [bareFields, withRules, List.map_map]
    rfl
  exact ⟨hfields ▸ .refl _, fun id => by rw [hfields]⟩

@[simp] theorem hasField_withRules (id : String) :
    (e.withRules rules).hasField id = e.hasField id :=
  congrFun (rearranges_withRules rules).hasField_eq id

@[simp] theorem formula?_withRules (id : String) :
    (e.withRules rules).formula? id = e.formula? id :=
  congrFun (rearranges_withRules rules).formula?_eq id

@[simp] theorem calculate_withRules (inputs : FieldValues) (functions : Registry) :
    (e.withRules rules).calculate inputs functions = e.calculate inputs functions :=
  (rearranges_withRules rules).calculate_eq inputs functions

end Entity

end FormLogic
