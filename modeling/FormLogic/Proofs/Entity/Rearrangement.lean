import FormLogic.Calculation
import FormLogic.Proofs.DependencyGraph.Extensionality
import FormLogic.Proofs.Entity.Graph

/-! Entities with the same fields in another order. Of several fields with one id the first is meant,
so these keep their order among themselves; apart from that the order in which fields are declared
leaves no trace in a calculation and in the dependency graph. Nor does the order of rules, or with
which fields they stand. -/

namespace FormLogic

open DependencyGraph

def Field.bare (f : Field) : Field := { f with rules := [] }

@[simp] theorem Field.id_bare (f : Field) : f.bare.id = f.id := rfl

@[simp] theorem Field.formula_bare (f : Field) : f.bare.formula = f.formula := rfl

@[simp] theorem Field.influences_bare (f : Field) : f.bare.influences = f.influences := rfl

namespace Entity

def bareFields (e : Entity) : List Field := e.fields.map Field.bare

/-- An entity has the fields of another one in some order, in which fields with one id stand as they
stood to one another; the rules may be any. -/
structure Rearranges (e e' : Entity) : Prop where
  reordered : e'.bareFields.Perm e.bareFields
  stable : ∀ id, e'.bareFields.filter (·.id = id) = e.bareFields.filter (·.id = id)

variable {e e' : Entity} {influences influences' : List Influence}

theorem mem_ids_bareFields {id : String} :
    (∃ f ∈ e.bareFields, f.id = id) ↔ e.hasField id = true := by
  rw [hasField_iff, bareFields]
  simp

theorem formula?_eq_bareFields (e : Entity) (id : String) :
    e.formula? id = (e.bareFields.filter (·.id = id)).head?.bind (·.formula) := by
  rw [List.head?_filter, bareFields, List.find?_map, Option.bind_map]
  rfl

theorem formulaInfluences_eq_bareFields (e : Entity) :
    e.formulaInfluences = e.bareFields.flatMap (·.influences) := by
  rw [bareFields, List.flatMap_map]
  rfl

/-- Entities with the same fields get the same graph from the same influences. -/
theorem graphOf_congr (hfields : e'.hasField = e.hasField)
    (hinfluences : ∀ i, i ∈ influences' ↔ i ∈ influences) :
    e'.graphOf influences' = e.graphOf influences := by
  have hprecedents : ∀ i : Influence, i.precedents e' = i.precedents e := by
    intro i
    simp only [Influence.precedents, hfields]
  have hknown : ∀ a : Addition,
      (∃ f ∈ e'.fields, Addition.field f.id = a) ↔ ∃ f ∈ e.fields, Addition.field f.id = a := by
    intro a
    cases a with
    | field name =>
      simp only [Addition.field.injEq, ← hasField_iff, hfields]
    | dependency precedent dependent => simp
  rw [graphOf_eq, graphOf_eq]
  refine ofAdditions_congr fun a => ?_
  simp only [additions, List.mem_append, List.mem_map, List.mem_flatMap, hprecedents, hinfluences,
    hknown]

namespace Rearranges

theorem hasField_eq (h : e.Rearranges e') : e'.hasField = e.hasField := by
  funext id
  rw [Bool.eq_iff_iff, ← mem_ids_bareFields, ← mem_ids_bareFields]
  simp only [h.reordered.mem_iff]

theorem formula?_eq (h : e.Rearranges e') : e'.formula? = e.formula? := by
  funext id
  rw [formula?_eq_bareFields, formula?_eq_bareFields, h.stable]

theorem perm_formulaInfluences (h : e.Rearranges e') :
    e'.formulaInfluences.Perm e.formulaInfluences := by
  rw [formulaInfluences_eq_bareFields, formulaInfluences_eq_bareFields]
  exact h.reordered.flatMap_right _

theorem formulaGraph_eq (h : e.Rearranges e') : e'.formulaGraph = e.formulaGraph :=
  graphOf_congr h.hasField_eq fun _ => h.perm_formulaInfluences.mem_iff

/-- A calculation takes nothing of an entity but the formulas of its fields and their graph. -/
theorem calculate_eq (h : e.Rearranges e') (inputs : FieldValues) (functions : Registry) :
    e'.calculate inputs functions = e.calculate inputs functions := by
  simp only [calculate, circularFormulas, orderedFormulas, h.formulaGraph_eq, h.formula?_eq]

theorem perm_influences (h : e.Rearranges e') (hrules : e'.rules.Perm e.rules) :
    (e'.formulaInfluences ++ e'.ruleInfluences).Perm (e.formulaInfluences ++ e.ruleInfluences) := by
  refine h.perm_formulaInfluences.append ?_
  simp only [ruleInfluences, h.hasField_eq]
  exact hrules.flatMap_right _

theorem graph_dependencies_eq (h : e.Rearranges e') (hrules : e'.rules.Perm e.rules) :
    e'.dependencies.graph = e.dependencies.graph :=
  graphOf_congr h.hasField_eq fun _ => (h.perm_influences hrules).mem_iff

theorem perm_unread (h : e.Rearranges e') (hrules : e'.rules.Perm e.rules) :
    e'.dependencies.unread.Perm e.dependencies.unread :=
  (h.perm_influences hrules).filterMap _

end Rearranges

/-- In which order the fields of an entity are declared does not matter, as long as fields with one
id keep theirs: calculations come out the same for all inputs and functions. Nor does it matter for
dependencies, where the rules may be reordered and stand with other fields as well: graph, circular
fields and order of calculation are the same, and the formulas that cannot be read up to their
order. -/
theorem results_eq_of_rearranges (h : e.Rearranges e') :
    (∀ (inputs : FieldValues) (functions : Registry),
      e'.calculate inputs functions = e.calculate inputs functions) ∧
    (e'.rules.Perm e.rules →
      e'.dependencies.graph = e.dependencies.graph ∧
      e'.dependencies.circular = e.dependencies.circular ∧
      e'.dependencies.order = e.dependencies.order ∧
      e'.dependencies.unread.Perm e.dependencies.unread ∧
      (e'.dependencies.unread.map (·.message)).Perm (e.dependencies.unread.map (·.message))) := by
  refine ⟨h.calculate_eq, fun hrules => ?_⟩
  have hgraph := h.graph_dependencies_eq hrules
  have hunread := h.perm_unread hrules
  refine ⟨hgraph, ?_, ?_, hunread, hunread.map _⟩
  · rw [Dependencies.circular, Dependencies.circular, hgraph]
  · rw [Dependencies.order, Dependencies.order, hgraph]

def capRule : Rule :=
  ⟨"cap", "Cap", "total > 100", ⟨.valueSet, "price", .literal (.integer 50)⟩, true, 0⟩

def brokenRule : Rule :=
  ⟨"broken", "Broken", "price <", ⟨.valueSet, "price", .literal (.integer 1)⟩, true, 0⟩

/-- A total, its price with two rules, and the total once more with a formula that cannot be read. -/
def quote : Entity :=
  ⟨"quote", "Quote",
    [⟨"total", "Total", .calculated, some "price * 2", []⟩,
     ⟨"price", "Price", .number, none, [capRule, brokenRule]⟩,
     ⟨"total", "Old total", .calculated, some "price +", []⟩]⟩

def rearrangedQuote : Entity :=
  ⟨"quote", "Quote",
    [⟨"price", "Price", .number, none, []⟩,
     ⟨"total", "Total", .calculated, some "price * 2", [brokenRule]⟩,
     ⟨"total", "Old total", .calculated, some "price +", [capRule]⟩]⟩

theorem rearranges_quote : quote.Rearranges rearrangedQuote where
  reordered := by decide
  stable id := by
    by_cases hprice : "price" = id
    · subst hprice
      decide
    · simp [bareFields, quote, rearrangedQuote, Field.bare, List.filter_cons, hprice]

theorem results_eq_of_rearranges_quote :
    quote.Rearranges rearrangedQuote ∧ rearrangedQuote.rules.Perm quote.rules ∧
      rearrangedQuote.dependencies.circular = ["price", "total"] ∧
      rearrangedQuote.dependencies.unread.Perm quote.dependencies.unread ∧
      ∀ inputs functions,
        rearrangedQuote.calculate inputs functions = quote.calculate inputs functions := by
  have hrules : rearrangedQuote.rules.Perm quote.rules := by decide
  have hcircular : quote.dependencies.circular = ["price", "total"] := by decide +kernel
  obtain ⟨hcalculate, hdependencies⟩ := results_eq_of_rearranges rearranges_quote
  obtain ⟨-, hsame, -, hunread, -⟩ := hdependencies hrules
  exact ⟨rearranges_quote, hrules, hsame.trans hcircular, hunread, hcalculate⟩

end Entity

end FormLogic
