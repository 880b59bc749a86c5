import FormLogic.Proofs.DependencyGraph.Walk

/-! What walks from the start find: the ancestors of a field, whether it is on a cycle, and an order
in which every field on no cycle comes after all that it depends on. -/

namespace FormLogic

theorem exists_of_filter_eq_append_cons {α : Type} {keep : α → Bool} {l before after : List α}
    {a : α} (h : l.filter keep = before ++ a :: after) :
    ∃ l₁ l₂, l = l₁ ++ a :: l₂ ∧ keep a = true ∧ before = l₁.filter keep := by
  obtain ⟨l₁, l₂, rfl, rfl, hl₂⟩ := List.filter_eq_append_iff.mp h
  obtain ⟨m₁, m₂, rfl, hm₁, ha, -⟩ := List.filter_eq_cons_iff.mp hl₂
  have hnil : m₁.filter keep = [] := List.filter_eq_nil_iff.mpr hm₁
  exact ⟨l₁ ++ m₁, m₂, by simp, ha, by simp [hnil]⟩

namespace DependencyGraph

variable {g : DependencyGraph} {fields : List String} {x y : String}

/-- A walk from the start finishes what it meets. -/
theorem mem_finished_visitAll (hg : g.Consistent) (hknown : ∀ z ∈ fields, z ∈ g.fields.names) :
    x ∈ (g.visitAll ⟨[], []⟩ fields).finished ↔ x ∈ (g.visitAll ⟨[], []⟩ fields).met := by
  have h := through_visitAll hg hknown
  refine ⟨h.sound.met_of_finished, fun hmet => Classical.byContradiction fun hnot => ?_⟩
  exact absurd ((h.pending x).mp ⟨hmet, hnot⟩).1 List.not_mem_nil

/-- A walk from the start meets its fields and all that they depend on, and nothing else. -/
theorem mem_met_visitAll (hg : g.Consistent) (hknown : ∀ z ∈ fields, z ∈ g.fields.names) :
    y ∈ (g.visitAll ⟨[], []⟩ fields).met ↔ ∃ x ∈ fields, Relation.ReflTransGen g.DependsOn x y := by
  have h := through_visitAll hg hknown
  constructor
  · intro hy
    exact (h.found hy).resolve_left List.not_mem_nil
  · rintro ⟨x, hx, hxy⟩
    induction hxy with
    | refl => exact h.met hx
    | tail _ hp ih => exact h.sound.closed ((mem_finished_visitAll hg hknown).mpr ih) hp

theorem mem_ancestors_iff (hg : g.Consistent) : y ∈ g.ancestors x ↔ g.Reaches x y := by
  rw [ancestors, mem_met_visitAll hg fun p hp => hg.known_precedent hp]
  constructor
  · rintro ⟨p, hp, hpy⟩
    exact .head' hp hpy
  · intro h
    obtain ⟨p, hp, hpy⟩ := Relation.TransGen.head'_iff.mp h
    exact ⟨p, hp, hpy⟩

theorem isOnCycle_iff_circular (hg : g.Consistent) : g.isOnCycle x = true ↔ g.Circular x := by
  rw [isOnCycle, decide_eq_true_eq, mem_ancestors_iff hg]
  exact Iff.rfl

theorem mem_circularFields_iff_circular (hg : g.Consistent) :
    x ∈ g.circularFields ↔ g.Circular x := by
  rw [circularFields, List.mem_filter, isOnCycle_iff_circular hg]
  exact ⟨And.right, fun h => ⟨hg.known_of_reaches h, h⟩⟩

theorem mem_calculationOrder_iff_acyclic (hg : g.Consistent) :
    x ∈ g.calculationOrder ↔ x ∈ g.fields.names ∧ ¬ g.Circular x := by
  have hmet : x ∈ (g.visitAll ⟨[], []⟩ g.fields.names).met ↔ x ∈ g.fields.names := by
    rw [mem_met_visitAll hg fun _ => id]
    constructor
    · rintro ⟨z, hz, hzx⟩
      rcases Relation.reflTransGen_iff_eq_or_transGen.mp hzx with rfl | h
      · exact hz
      · exact hg.known_of_reaches h
    · exact fun hx => ⟨x, hx, .refl⟩
  rw [calculationOrder, List.mem_filter, mem_finished_visitAll hg fun _ => id, hmet,
    Bool.not_eq_true', Bool.eq_false_iff, ne_eq, isOnCycle_iff_circular hg]

theorem nodup_order (hg : g.Consistent) : g.calculationOrder.Nodup :=
  (through_visitAll hg fun _ => id).sound.nodup.filter _

/-- In the order of calculation all that a field depends on and that is on no cycle comes before
it. -/
theorem mem_before_of_reaches (hg : g.Consistent) {before after : List String}
    (horder : g.calculationOrder = before ++ x :: after) (hxy : g.Reaches x y)
    (hy : ¬ g.Circular y) : y ∈ before := by
  obtain ⟨l₁, l₂, hl, hx, rfl⟩ := exists_of_filter_eq_append_cons horder
  rw [Bool.not_eq_true', Bool.eq_false_iff, ne_eq, isOnCycle_iff_circular hg] at hx
  have hbefore := (through_visitAll hg fun _ => id).sound.ordered l₁ x l₂ hl hx y hxy
  refine List.mem_filter.mpr ⟨hbefore, ?_⟩
  rwa [Bool.not_eq_true', Bool.eq_false_iff, ne_eq, isOnCycle_iff_circular hg]

end DependencyGraph

end FormLogic
