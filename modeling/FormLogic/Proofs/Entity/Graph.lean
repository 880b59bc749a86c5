import FormLogic.Dependencies
import FormLogic.Proofs.DependencyGraph.Additions
import FormLogic.Proofs.Formula.Locality

/-! The edges that the formulas of an entity bring into its dependency graph. -/

namespace FormLogic

open DependencyGraph

theorem Influence.mem_precedents {i : Influence} {e : Entity} {p : String} :
    p ∈ i.precedents e ↔ Refers i.formula p ∧ e.hasField p = true := by
  unfold precedents
  cases h : Expr.parse i.formula with
  | error err => simp [Refers, h]
  | ok x =>
    have hrefers : Refers i.formula p ↔ p ∈ x.fieldNames := by
      simp [Refers, h, Expr.mem_fieldNames_iff]
    simp only [List.mem_filter, Expr.fieldReferences, NameSet.mem_names_ofNames, hrefers]

namespace Entity

variable {e : Entity} {influences : List Influence} {d p x y : String}

def additions (e : Entity) (influences : List Influence) : List Addition :=
  e.fields.map (fun f => .field f.id) ++
    influences.flatMap fun i => (i.precedents e).map fun p => .dependency p i.target

theorem graphOf_eq (e : Entity) (influences : List Influence) :
    e.graphOf influences = ofAdditions (e.additions influences) := by
  rw [ofAdditions, additions, List.foldl_append, List.foldl_map, List.foldl_flatMap]
  simp only [List.foldl_map]
  rfl

theorem dependsOn_graphOf :
    (e.graphOf influences).DependsOn d p ↔ ∃ i ∈ influences, i.target = d ∧ p ∈ i.precedents e := by
  rw [graphOf_eq, dependsOn_ofAdditions]
  simp [Addition.Needs, additions, and_comm]

theorem consistent_graphOf (e : Entity) (influences : List Influence) :
    (e.graphOf influences).Consistent :=
  graphOf_eq e influences ▸ consistent_ofAdditions _

theorem mem_fields_graphOf (htargets : ∀ i ∈ influences, e.hasField i.target = true) :
    x ∈ (e.graphOf influences).fields.names ↔ e.hasField x = true := by
  rw [graphOf_eq, mem_fields_ofAdditions]
  constructor
  · rintro ⟨a, ha, hx⟩
    rcases List.mem_append.mp ha with ha | ha
    · obtain ⟨f, hf, rfl⟩ := List.mem_map.mp ha
      exact hasField_iff.mpr ⟨f, hf, hx.symm⟩
    · obtain ⟨i, hi, ha⟩ := List.mem_flatMap.mp ha
      obtain ⟨p, hp, rfl⟩ := List.mem_map.mp ha
      rcases hx with rfl | rfl
      · exact htargets i hi
      · exact (Influence.mem_precedents.mp hp).2
  · intro hx
    obtain ⟨f, hf, rfl⟩ := hasField_iff.mp hx
    exact ⟨.field f.id, List.mem_append_left _ (List.mem_map_of_mem hf), rfl⟩

theorem mem_formulaInfluences {i : Influence} :
    i ∈ e.formulaInfluences ↔
      ∃ f ∈ e.fields, ∃ formula, f.formula = some formula ∧ i = ⟨.field f.id, formula, f.id⟩ := by
  simp only [formulaInfluences, List.mem_flatMap, Field.influences, List.mem_map, Option.mem_toList,
    eq_comm (a := i)]

theorem hasField_target_of_mem_formulaInfluences {i : Influence} (hi : i ∈ e.formulaInfluences) :
    e.hasField i.target = true := by
  obtain ⟨f, hf, formula, -, rfl⟩ := mem_formulaInfluences.mp hi
  exact hasField_iff.mpr ⟨f, hf, rfl⟩

theorem consistent_formulaGraph (e : Entity) : e.formulaGraph.Consistent := consistent_graphOf _ _

theorem mem_fields_formulaGraph : x ∈ e.formulaGraph.fields.names ↔ e.hasField x = true :=
  mem_fields_graphOf fun _ hi => hasField_target_of_mem_formulaInfluences hi

/-- A formula that the entity declares for one field names another. -/
def References (e : Entity) (x y : String) : Prop :=
  ∃ f ∈ e.fields, f.id = x ∧ ∃ formula, f.formula = some formula ∧ Refers formula y

abbrev LeadsTo (e : Entity) : String → String → Prop := Relation.TransGen e.References

/-- The edges of the graph are the references to fields. -/
theorem dependsOn_formulaGraph :
    e.formulaGraph.DependsOn x y ↔ e.References x y ∧ e.hasField y = true := by
  rw [formulaGraph, dependsOn_graphOf]
  constructor
  · rintro ⟨i, hi, rfl, hy⟩
    obtain ⟨f, hf, formula, hformula, rfl⟩ := mem_formulaInfluences.mp hi
    obtain ⟨hrefers, hfield⟩ := Influence.mem_precedents.mp hy
    exact ⟨⟨f, hf, rfl, formula, hformula, hrefers⟩, hfield⟩
  · rintro ⟨⟨f, hf, rfl, formula, hformula, hrefers⟩, hfield⟩
    exact ⟨_, mem_formulaInfluences.mpr ⟨f, hf, formula, hformula, rfl⟩, rfl,
      Influence.mem_precedents.mpr ⟨hrefers, hfield⟩⟩

theorem hasField_of_references (h : e.References x y) : e.hasField x = true := by
  obtain ⟨f, hf, hx, -⟩ := h
  exact hasField_iff.mpr ⟨f, hf, hx⟩

/-- References lead to a field along fields only, so that the graph has them all. -/
theorem reaches_formulaGraph_of_leadsTo (h : e.LeadsTo x y)
    (hy : e.hasField y = true) : e.formulaGraph.Reaches x y := by
  induction h using Relation.TransGen.head_induction_on with
  | single h => exact .single (dependsOn_formulaGraph.mpr ⟨h, hy⟩)
  | head h hrest ih =>
    obtain ⟨_, hnext, -⟩ := Relation.TransGen.head'_iff.mp hrest
    exact ih.head (dependsOn_formulaGraph.mpr ⟨h, hasField_of_references hnext⟩)

theorem circular_formulaGraph_iff :
    e.formulaGraph.Circular x ↔ e.LeadsTo x x := by
  have hsub : e.formulaGraph.DependsOn ≤ e.References :=
    fun _ _ h => (dependsOn_formulaGraph.mp h).1
  constructor
  · exact Relation.TransGen.mono hsub x x
  · intro h
    -- what refers to something is a field, so the graph has the end of the references too
    obtain ⟨_, hnext, -⟩ := Relation.TransGen.head'_iff.mp h
    exact reaches_formulaGraph_of_leadsTo h (hasField_of_references hnext)

/-- The formula that counts for a field is one of those that the entity declares for it. -/
theorem exists_field_of_formula? {formula : String} (h : e.formula? d = some formula) :
    ∃ f ∈ e.fields, f.id = d ∧ f.formula = some formula := by
  obtain ⟨f, hf, hformula⟩ := Option.bind_eq_some_iff.mp h
  exact ⟨f, List.mem_of_find?_eq_some hf, by simpa using List.find?_some hf, hformula⟩

theorem hasField_of_formula? {formula : String} (h : e.formula? d = some formula) :
    e.hasField d = true := by
  obtain ⟨f, hf, hd, -⟩ := exists_field_of_formula? h
  exact hasField_iff.mpr ⟨f, hf, hd⟩

/-- A calculated field depends on the fields of the entity that its formula names. -/
theorem dependsOn_formulaGraph_of_formula? {formula : String} {tree : Expr}
    (h : e.formula? d = some formula) (hparse : Expr.parse formula = .ok tree)
    (hp : p ∈ tree.fieldNames) (hfield : e.hasField p = true) : e.formulaGraph.DependsOn d p := by
  obtain ⟨f, hf, hd, hformula⟩ := exists_field_of_formula? h
  have hrefers : Refers formula p := ⟨tree, hparse, Expr.mem_fieldNames_iff.mp hp⟩
  exact dependsOn_formulaGraph.mpr ⟨⟨f, hf, hd, formula, hformula, hrefers⟩, hfield⟩

end Entity

end FormLogic
