import FormLogic.Proofs.Calculation.Equations

/-! What a calculation accounts for. Each calculated field has either a value or an error, and no
other name has one. The fields that are evaluated are those which lead back to themselves along no
references, each once and after those that it comes from; the others have the error of a cycle. -/

namespace FormLogic.Entity

variable {e : Entity} {inputs : FieldValues} {functions : Registry} {name formula x y : String}

theorem order_calculate_eq_filter : (e.calculate inputs functions).order =
    e.formulaGraph.calculationOrder.filter fun id => (e.formula? id).isSome := by
  rw [order_calculate, orderedFormulas, List.map_filterMap, ← List.filterMap_eq_filter]
  refine List.filterMap_congr fun id _ => ?_
  cases h : e.formula? id <;> simp [Option.guard, h]

theorem mem_order_calculate : name ∈ (e.calculate inputs functions).order ↔
    (∃ formula, e.formula? name = some formula) ∧ ¬ e.LeadsTo name name := by
  rw [order_calculate, mem_map_orderedFormulas, circular_formulaGraph_iff]

/-- A field that is evaluated comes after all evaluated fields that references lead to from it. -/
theorem mem_before_of_leadsTo {before after : List String}
    (horder : (e.calculate inputs functions).order = before ++ x :: after)
    (hxy : e.LeadsTo x y) (hy : y ∈ (e.calculate inputs functions).order) :
    y ∈ before := by
  have hgraph := e.consistent_formulaGraph
  rw [order_calculate_eq_filter] at horder
  -- before `x` in the order of the graph there may be more, which the filter takes out
  obtain ⟨l₁, l₂, hl, -, rfl⟩ := exists_of_filter_eq_append_cons horder
  obtain ⟨⟨formula, hformula⟩, hacyclic⟩ := mem_order_calculate.mp hy
  have hreaches := reaches_formulaGraph_of_leadsTo hxy (hasField_of_formula? hformula)
  have hbefore := DependencyGraph.mem_before_of_reaches hgraph hl hreaches
    (mt circular_formulaGraph_iff.mp hacyclic)
  exact List.mem_filter.mpr ⟨hbefore, by simp [hformula]⟩

theorem mem_values_iff : name ∈ (e.calculate inputs functions).values.keys ↔
    (∃ formula, e.formula? name = some formula) ∧
      name ∉ (e.calculate inputs functions).errors.keys := by
  simp only [Dictionary.mem_keys_iff]
  cases hf : e.formula? name with
  | none => simp [Dictionary.contains, (outcome_of_uncalculated hf).2.1]
  | some formula =>
    have h : (e.calculate inputs functions).values.get? name ≠ none ↔
        ¬ (e.calculate inputs functions).errors.contains name = true :=
      (get?_values_eq_none_iff hf).not
    simpa [Dictionary.contains, Option.isSome_iff_ne_none] using h

/-- The error of a cycle is had by the calculated fields that references lead back to. -/
theorem errorText?_eq_circular_iff_leadsTo :
    (e.calculate inputs functions).errorText? name = some "Circular reference" ↔
      (∃ formula, e.formula? name = some formula) ∧ e.LeadsTo name name := by
  cases hf : e.formula? name with
  | none => simp [Calculation.errorText?, (outcome_of_uncalculated hf).2.2]
  | some formula => simp [errorText?_eq_circular_iff hf, circular_formulaGraph_iff]

/-- A calculation accounts for every calculated field of an entity once, and for no other name. -/
structure Accounts (e : Entity) (c : Calculation) : Prop where
  disjoint : ∀ name, name ∈ c.values.keys → name ∉ c.errors.keys
  /-- What has one is an id whose first field has a formula. -/
  complete : ∀ name, name ∈ c.values.keys ∨ name ∈ c.errors.keys ↔
    ∃ formula, e.formula? name = some formula
  nodup : c.order.Nodup
  evaluated : ∀ name, name ∈ c.order ↔
    (∃ formula, e.formula? name = some formula) ∧ ¬ e.LeadsTo name name
  /-- Evaluated fields come after those of them that references lead to. -/
  ordered : ∀ before x after, c.order = before ++ x :: after →
    ∀ y, e.LeadsTo x y → y ∈ c.order → y ∈ before
  circular : ∀ name, c.errorText? name = some "Circular reference" ↔
    (∃ formula, e.formula? name = some formula) ∧ e.LeadsTo name name

/-- Every calculated field has a value or an error and never both; those on no cycle are evaluated
once, each after those that it comes from, and those on a cycle have the error of one. -/
theorem accounts_calculate (e : Entity) (inputs : FieldValues) (functions : Registry) :
    e.Accounts (e.calculate inputs functions) where
  disjoint _ hname := (mem_values_iff.mp hname).2
  complete name := by
    rw [mem_values_iff]
    constructor
    · rintro (⟨h, -⟩ | h)
      · exact h
      · exact isSome_formula?_of_contains_errors (Dictionary.mem_keys_iff.mp h)
    · intro h
      by_cases herror : name ∈ (e.calculate inputs functions).errors.keys
      · exact .inr herror
      · exact .inl ⟨h, herror⟩
  nodup := by
    rw [order_calculate_eq_filter]
    exact (DependencyGraph.nodup_order e.consistent_formulaGraph).filter _
  evaluated _ := mem_order_calculate
  ordered _ _ _ horder _ := mem_before_of_leadsTo horder
  circular _ := errorText?_eq_circular_iff_leadsTo

end FormLogic.Entity
