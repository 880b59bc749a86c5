import FormLogic.Proofs.DependencyGraph.Edges
import Mathlib.Data.List.Induction

/-! Graphs as they are built: from the empty graph by additions in any order, with any repetitions.
A graph knows what its additions mention, and has the edges that they bring. -/

namespace FormLogic.DependencyGraph

inductive Addition where
  | field (name : String)
  | dependency (precedent dependent : String)

namespace Addition

def apply (g : DependencyGraph) : Addition → DependencyGraph
  | field name => g.addField name
  | dependency precedent dependent => g.addDependency precedent dependent

def Mentions (x : String) : Addition → Prop
  | field name => x = name
  | dependency precedent dependent => x = dependent ∨ x = precedent

/-- Some additions make one field depend on another directly. -/
def Needs (additions : List Addition) (dependent precedent : String) : Prop :=
  dependency precedent dependent ∈ additions

variable {g : DependencyGraph} {x d p : String}

theorem consistent_apply (hg : g.Consistent) (a : Addition) : (a.apply g).Consistent := by
  cases a with
  | field name => exact hg.addField name
  | dependency precedent dependent => exact hg.addDependency precedent dependent

theorem mem_fields_apply {a : Addition} :
    x ∈ (a.apply g).fields.names ↔ a.Mentions x ∨ x ∈ g.fields.names := by
  cases a with
  | field name => exact mem_fields_addField
  | dependency precedent dependent => exact mem_fields_addDependency.trans (or_assoc).symm

theorem dependsOn_apply {a : Addition} :
    (a.apply g).DependsOn d p ↔ a = dependency p d ∨ g.DependsOn d p := by
  cases a with
  | field name =>
    rw [apply, dependsOn_addField]
    exact (or_iff_right nofun).symm
  | dependency precedent dependent =>
    rw [apply, dependsOn_addDependency, dependency.injEq]
    exact or_congr_left ⟨fun ⟨hd, hp⟩ => ⟨hp.symm, hd.symm⟩, fun ⟨hp, hd⟩ => ⟨hd.symm, hp.symm⟩⟩

end Addition

open Addition

def ofAdditions (additions : List Addition) : DependencyGraph := additions.foldl Addition.apply empty

theorem ofAdditions_concat (additions : List Addition) (a : Addition) :
    ofAdditions (additions ++ [a]) = a.apply (ofAdditions additions) := by
  rw [ofAdditions, List.foldl_append]
  rfl

variable {additions : List Addition} {x d p : String}

theorem consistent_ofAdditions (additions : List Addition) : (ofAdditions additions).Consistent := by
  induction additions using List.reverseRecOn with
  | nil => exact .empty
  | append_singleton additions a ih =>
    rw [ofAdditions_concat]
    exact consistent_apply ih a

theorem mem_fields_ofAdditions :
    x ∈ (ofAdditions additions).fields.names ↔ ∃ a ∈ additions, a.Mentions x := by
  induction additions using List.reverseRecOn with
  | nil => exact ⟨fun h => absurd h not_mem_fields_empty, nofun⟩
  | append_singleton additions a ih =>
    rw [ofAdditions_concat, mem_fields_apply, ih]
    simp [or_and_right, exists_or, or_comm]

theorem dependsOn_ofAdditions : (ofAdditions additions).DependsOn d p ↔ Needs additions d p := by
  induction additions using List.reverseRecOn with
  | nil => exact ⟨fun h => absurd h not_dependsOn_empty, nofun⟩
  | append_singleton additions a ih =>
    rw [ofAdditions_concat, dependsOn_apply, ih, Needs, Needs, List.mem_append, List.mem_singleton,
      or_comm, eq_comm]

/-- Dependence in the graph, direct or not, is dependence by the additions. -/
theorem reaches_ofAdditions :
    (ofAdditions additions).Reaches = Relation.TransGen (Needs additions) := by
  have hneeds : (ofAdditions additions).DependsOn = Needs additions :=
    funext fun _ => funext fun _ => propext dependsOn_ofAdditions
  rw [Reaches, hneeds]

end FormLogic.DependencyGraph
