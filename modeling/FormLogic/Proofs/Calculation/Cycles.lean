import FormLogic.Proofs.Calculation.Accounting
import FormLogic.Proofs.Controls.Precedents

/-! The cycles that a calculation finds beside those of the dependency report. The report counts
what rules bring as well, so it has every cycle of formulas. If no rule sets a field of the entity,
both look at the same graph, and differ only in that a calculation passes over fields without a
formula. -/

namespace FormLogic

theorem DependencyGraph.Circular.mono {g g' : DependencyGraph} {x : String}
    (h : ∀ d p, g.DependsOn d p → g'.DependsOn d p) (hx : g.Circular x) : g'.Circular x :=
  Relation.TransGen.mono h x x hx

/-- Only rules that are enabled and set the value of a field have influences, all on that field. -/
theorem Rule.setsValueOf_of_mem_influences {r : Rule} {i : Influence} (hi : i ∈ r.influences) :
    r.SetsValueOf i.target := by
  unfold Rule.influences at hi
  split at hi
  · next h =>
    refine ⟨h.1, h.2, ?_⟩
    rcases List.mem_cons.mp hi with rfl | hi
    · rfl
    · split at hi
      · rw [List.mem_singleton.mp hi]
      · exact absurd hi List.not_mem_nil
  · exact absurd hi List.not_mem_nil

namespace Entity

variable {e : Entity} {inputs : FieldValues} {functions : Registry} {d p name : String}

def SetsNoField (e : Entity) : Prop :=
  ∀ r ∈ e.rules, ∀ field, r.SetsValueOf field → e.hasField field = false

theorem dependsOn_dependencies_of_formulaGraph (h : e.formulaGraph.DependsOn d p) :
    e.dependencies.graph.DependsOn d p := by
  rw [formulaGraph, dependsOn_graphOf] at h
  rw [dependencies, dependsOn_graphOf]
  obtain ⟨i, hi, htarget, hp⟩ := h
  exact ⟨i, List.mem_append_left _ hi, htarget, hp⟩

theorem mem_circular_dependencies : name ∈ e.dependencies.circular ↔
    e.dependencies.graph.Circular name :=
  DependencyGraph.mem_circularFields_iff_circular (consistent_graphOf _ _)

theorem mem_circular_dependencies_of_leadsTo (h : e.LeadsTo name name) :
    name ∈ e.dependencies.circular :=
  mem_circular_dependencies.mpr <|
    (circular_formulaGraph_iff.mpr h).mono fun _ _ => dependsOn_dependencies_of_formulaGraph

theorem SetsNoField.graph_dependencies_eq (h : e.SetsNoField) :
    e.dependencies.graph = e.formulaGraph := by
  have hnone : e.ruleInfluences = [] := by
    refine List.eq_nil_iff_forall_not_mem.mpr fun i hi => ?_
    obtain ⟨r, hr, hmem, htarget⟩ := mem_ruleInfluences.mp hi
    rw [h r hr _ (Rule.setsValueOf_of_mem_influences hmem)] at htarget
    cases htarget
  rw [dependencies, hnone, List.append_nil]
  rfl

/-- A calculated field that has the error of a cycle is a circular field of the report. If no rule
sets a field of the entity, the circular fields that have a formula are all marked so, and the order
in which formulas are evaluated is that of the report without the fields that have none. -/
theorem calculate_agrees_with_dependencies (e : Entity) :
    (∀ inputs functions name,
      (e.calculate inputs functions).errorText? name = some "Circular reference" →
        name ∈ e.dependencies.circular) ∧
    (e.SetsNoField → ∀ inputs functions,
      (∀ name, (e.calculate inputs functions).errorText? name = some "Circular reference" ↔
        name ∈ e.dependencies.circular ∧ ∃ formula, e.formula? name = some formula) ∧
      (e.calculate inputs functions).order =
        e.dependencies.order.filter fun id => (e.formula? id).isSome) := by
  constructor
  · intro inputs functions name h
    exact mem_circular_dependencies_of_leadsTo (errorText?_eq_circular_iff_leadsTo.mp h).2
  · intro hrules inputs functions
    have hgraph := hrules.graph_dependencies_eq
    refine ⟨fun name => ?_, ?_⟩
    · rw [errorText?_eq_circular_iff_leadsTo, mem_circular_dependencies, hgraph,
        circular_formulaGraph_iff, and_comm]
    · rw [order_calculate_eq_filter, Dependencies.order, hgraph]

/-- A loan whose balance is declared twice, the second time with a formula that leads back to it. Of
the rules that set values one is disabled and the other has no field of the loan for its target. -/
def loan : Entity :=
  ⟨"loan", "Loan",
    [⟨"balance", "Balance", .number, none,
      [⟨"freeze", "Freeze", "fee > 0", ⟨.valueSet, "fee", .formula "interest"⟩, false, 0⟩,
       ⟨"bonus", "Bonus", "balance > 0", ⟨.valueSet, "bonus", .formula "fee"⟩, true, 0⟩]⟩,
     ⟨"interest", "Interest", .calculated, some "balance * rate", []⟩,
     ⟨"balance", "New balance", .calculated, some "interest + principal", []⟩,
     ⟨"principal", "Principal", .number, none, []⟩,
     ⟨"fee", "Fee", .calculated, some "principal / 100 + interest", []⟩]⟩

theorem calculate_agrees_with_dependencies_loan :
    loan.SetsNoField ∧ loan.dependencies.circular = ["balance", "interest"] ∧
      loan.dependencies.order = ["principal", "fee"] ∧
      ∀ inputs functions,
        (∀ name, (loan.calculate inputs functions).errorText? name = some "Circular reference" ↔
          name = "interest") ∧
        (loan.calculate inputs functions).order = ["fee"] := by
  have hrules : loan.SetsNoField := by
    intro r hr field hsets
    obtain rfl := hsets.target
    have hall : ∀ r ∈ loan.rules, r.enabled = true → loan.hasField r.effect.target = false := by
      decide
    exact hall r hr hsets.enabled
  have hcircular : loan.dependencies.circular = ["balance", "interest"] := by decide +kernel
  have horder : loan.dependencies.order = ["principal", "fee"] := by decide +kernel
  refine ⟨hrules, hcircular, horder, fun inputs functions => ?_⟩
  obtain ⟨hmarked, hevaluated⟩ :=
    (calculate_agrees_with_dependencies loan).2 hrules inputs functions
  rw [hcircular] at hmarked
  rw [horder] at hevaluated
  refine ⟨fun name => (hmarked name).trans ⟨?_, ?_⟩, hevaluated⟩
  · rintro ⟨hname, formula, hformula⟩
    rcases List.mem_pair.mp hname with rfl | rfl
    · cases hformula
    · rfl
  · rintro rfl
    exact ⟨by simp, "balance * rate", rfl⟩

end Entity

end FormLogic
