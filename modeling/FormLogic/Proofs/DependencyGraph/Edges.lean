import FormLogic.DependencyGraph
import Mathlib.Logic.Relation

/-! The edges of a dependency graph as a relation, and the consistency of its indexes, which every
way of building a graph keeps. -/

namespace FormLogic.DependencyGraph

def DependsOn (g : DependencyGraph) (dependent precedent : String) : Prop :=
  precedent ∈ g.precedentsOf dependent

abbrev Reaches (g : DependencyGraph) : String → String → Prop :=
  Relation.TransGen g.DependsOn

/-- A field is on a cycle if it depends on itself. -/
def Circular (g : DependencyGraph) (field : String) : Prop := g.Reaches field field

/-- The two indexes hold the same edges, and only between known fields. -/
structure Consistent (g : DependencyGraph) : Prop where
  mirrored : ∀ p d, d ∈ g.dependentsOf p ↔ g.DependsOn d p
  known_dependent : ∀ {p d}, g.DependsOn d p → d ∈ g.fields.names
  known_precedent : ∀ {p d}, g.DependsOn d p → p ∈ g.fields.names

theorem mem_neighbours_link {index : Dictionary NameSet} {field neighbour a b : String} :
    b ∈ (((link index field neighbour).get? a).getD .empty).names ↔
      (a = field ∧ b = neighbour) ∨ b ∈ ((index.get? a).getD .empty).names := by
  rw [link, Dictionary.get?_insert]
  by_cases ha : a = field
  · subst ha
    simp [NameSet.mem_names_add]
  · simp [ha]

theorem dependsOn_addField {g : DependencyGraph} {field d p : String} :
    (g.addField field).DependsOn d p ↔ g.DependsOn d p := Iff.rfl

theorem dependsOn_addDependency {g : DependencyGraph} {precedent dependent d p : String} :
    (g.addDependency precedent dependent).DependsOn d p ↔
      (d = dependent ∧ p = precedent) ∨ g.DependsOn d p := mem_neighbours_link

theorem mem_dependentsOf_addDependency {g : DependencyGraph} {precedent dependent d p : String} :
    d ∈ (g.addDependency precedent dependent).dependentsOf p ↔
      (p = precedent ∧ d = dependent) ∨ d ∈ g.dependentsOf p := mem_neighbours_link

theorem mem_fields_addField {g : DependencyGraph} {field x : String} :
    x ∈ (g.addField field).fields.names ↔ x = field ∨ x ∈ g.fields.names :=
  NameSet.mem_names_add

theorem mem_fields_addDependency {g : DependencyGraph} {precedent dependent x : String} :
    x ∈ (g.addDependency precedent dependent).fields.names ↔
      x = dependent ∨ x = precedent ∨ x ∈ g.fields.names := by
  show x ∈ ((g.fields.add precedent).add dependent).names ↔ _
  rw [NameSet.mem_names_add, NameSet.mem_names_add]

theorem not_dependsOn_empty {d p : String} : ¬ empty.DependsOn d p := List.not_mem_nil

theorem not_mem_fields_empty {x : String} : x ∉ empty.fields.names := List.not_mem_nil

namespace Consistent

theorem empty : DependencyGraph.empty.Consistent where
  mirrored := fun _ _ =>
    ⟨fun h => absurd h List.not_mem_nil, fun h => absurd h not_dependsOn_empty⟩
  known_dependent := fun h => absurd h not_dependsOn_empty
  known_precedent := fun h => absurd h not_dependsOn_empty

theorem addField {g : DependencyGraph} (hg : g.Consistent) (field : String) :
    (g.addField field).Consistent where
  mirrored := hg.mirrored
  known_dependent := fun h => mem_fields_addField.mpr (.inr (hg.known_dependent h))
  known_precedent := fun h => mem_fields_addField.mpr (.inr (hg.known_precedent h))

theorem addDependency {g : DependencyGraph} (hg : g.Consistent) (precedent dependent : String) :
    (g.addDependency precedent dependent).Consistent where
  mirrored p d := by
    rw [mem_dependentsOf_addDependency, dependsOn_addDependency, hg.mirrored]
    exact or_congr_left and_comm
  known_dependent h := by
    rw [mem_fields_addDependency]
    rcases dependsOn_addDependency.mp h with ⟨rfl, rfl⟩ | h
    · exact .inl rfl
    · exact .inr (.inr (hg.known_dependent h))
  known_precedent h := by
    rw [mem_fields_addDependency]
    rcases dependsOn_addDependency.mp h with ⟨rfl, rfl⟩ | h
    · exact .inr (.inl rfl)
    · exact .inr (.inr (hg.known_precedent h))

theorem known_of_reaches {g : DependencyGraph} (hg : g.Consistent) {x y : String}
    (h : g.Reaches x y) : y ∈ g.fields.names := by
  cases h with
  | single h => exact hg.known_precedent h
  | tail _ h => exact hg.known_precedent h

theorem known_of_reaching {g : DependencyGraph} (hg : g.Consistent) {x y : String}
    (h : g.Reaches x y) : x ∈ g.fields.names := by
  obtain ⟨p, hp, -⟩ := Relation.TransGen.head'_iff.mp h
  exact hg.known_dependent hp

end Consistent

end FormLogic.DependencyGraph
