import FormLogic.Proofs.DependencyGraph.Additions
import FormLogic.Proofs.DependencyGraph.Order

/-! The search for a cycle as a loop, bounded by nothing, over a stack of the fields that are still
to be looked at. It comes to an end on every graph and finds out whether a path leads from a field
back to it: what has been looked at is reached from the field, and whatever that depends on has been
looked at as well or waits on the stack. -/

namespace FormLogic.DependencyGraph

/-- The loop, which has an answer as soon as the field itself comes off the stack, or once the stack
is empty, and none if it never ends. A field that was looked at before is passed over, and any other
one puts its precedents on the stack, where the last comes off first. -/
def hunt (g : DependencyGraph) (field : String) (visited : List String) :
    List String → Option Bool
  | [] => some false
  | current :: stack =>
    if current = field then some true
    else if current ∈ visited then g |>.hunt field visited stack
    else g |>.hunt field (current :: visited) ((g.precedentsOf current).reverse ++ stack)
partial_fixpoint

def huntCycle (g : DependencyGraph) (field : String) : Option Bool :=
  g.hunt field [] (g.precedentsOf field).reverse

/-- What holds whenever the loop goes on. -/
structure Hunting (g : DependencyGraph) (field : String) (visited stack : List String) : Prop where
  reached : ∀ x, x ∈ visited ∨ x ∈ stack → g.Reaches field x
  absent : field ∉ visited
  started : ∀ {p}, g.DependsOn field p → p ∈ visited ∨ p ∈ stack
  closed : ∀ {x p}, x ∈ visited → g.DependsOn x p → p ∈ visited ∨ p ∈ stack

namespace Hunting

variable {g : DependencyGraph} {field x : String} {visited stack : List String}

theorem start (g : DependencyGraph) (field : String) :
    g.Hunting field [] (g.precedentsOf field).reverse where
  reached _ hx := .single (List.mem_reverse.mp (hx.resolve_left List.not_mem_nil))
  absent := List.not_mem_nil
  started hp := .inr (List.mem_reverse.mpr hp)
  closed hx := absurd hx List.not_mem_nil

/-- A field that was looked at before may be passed over. -/
theorem pass (h : g.Hunting field visited (x :: stack)) (hx : x ∈ visited) :
    g.Hunting field visited stack := by
  have hleft : ∀ {p}, p ∈ visited ∨ p ∈ x :: stack → p ∈ visited ∨ p ∈ stack := by
    rintro p (hp | hp)
    · exact .inl hp
    · rcases List.mem_cons.mp hp with rfl | hp
      · exact .inl hx
      · exact .inr hp
  exact {
    reached := fun y hy => h.reached y (hy.imp_right (List.mem_cons_of_mem x))
    absent := h.absent
    started := fun hp => hleft (h.started hp)
    closed := fun hy hp => hleft (h.closed hy hp) }

/-- Any other one but the field itself is looked at, and its precedents wait on the stack. -/
theorem enter (h : g.Hunting field visited (x :: stack)) (hx : x ≠ field) :
    g.Hunting field (x :: visited) ((g.precedentsOf x).reverse ++ stack) := by
  have hleft : ∀ {p}, p ∈ visited ∨ p ∈ x :: stack →
      p ∈ x :: visited ∨ p ∈ (g.precedentsOf x).reverse ++ stack := by
    simp only [List.mem_cons, List.mem_append]
    tauto
  have hreached : g.Reaches field x := h.reached x (.inr List.mem_cons_self)
  refine ⟨?_, ?_, fun hp => hleft (h.started hp), ?_⟩
  · rintro y (hy | hy)
    · rcases List.mem_cons.mp hy with rfl | hy
      · exact hreached
      · exact h.reached y (.inl hy)
    · rcases List.mem_append.mp hy with hy | hy
      · exact hreached.tail (List.mem_reverse.mp hy)
      · exact h.reached y (.inr (List.mem_cons_of_mem x hy))
  · exact List.not_mem_cons_of_ne_of_not_mem hx.symm h.absent
  · rintro y p hy hp
    rcases List.mem_cons.mp hy with rfl | hy
    · exact .inr (List.mem_append_left _ (List.mem_reverse.mpr hp))
    · exact hleft (h.closed hy hp)

/-- When the stack is empty, everything that the field depends on has been looked at. -/
theorem mem_of_reaches (h : g.Hunting field visited []) {y : String} (hy : g.Reaches field y) :
    y ∈ visited := by
  have hempty : ∀ {p : String}, p ∈ visited ∨ p ∈ [] → p ∈ visited := fun hp =>
    hp.resolve_right List.not_mem_nil
  induction hy with
  | single hp => exact hempty (h.started hp)
  | tail _ hp ih => exact hempty (h.closed ih hp)

/-- The loop comes to an end with the right answer. Each turn takes a field off the stack or looks
at a known one that was not looked at before. -/
theorem hunt_eq {g : DependencyGraph} {field : String} (hg : g.Consistent)
    {visited stack : List String} (h : g.Hunting field visited stack) :
    ∃ found, g.hunt field visited stack = some found ∧ (found = true ↔ g.Circular field) := by
  cases stack with
  | nil =>
    refine ⟨false, by rw [hunt], ?_⟩
    exact iff_of_false Bool.false_ne_true fun hcircular => h.absent (h.mem_of_reaches hcircular)
  | cons x stack =>
    rw [hunt]
    by_cases hx : x = field
    · rw [if_pos hx]
      exact ⟨true, rfl, iff_of_true rfl (hx ▸ h.reached x (.inr List.mem_cons_self))⟩
    · rw [if_neg hx]
      by_cases hvisited : x ∈ visited
      · rw [if_pos hvisited]
        exact hunt_eq hg (h.pass hvisited)
      · rw [if_neg hvisited]
        have hknown : x ∈ g.fields.names :=
          hg.known_of_reaches (h.reached x (.inr List.mem_cons_self))
        have hless : (g.unmet ⟨x :: visited, []⟩).length < (g.unmet ⟨visited, []⟩).length :=
          @unmet_length_lt g ⟨visited, []⟩ x hknown hvisited
        exact hunt_eq hg (h.enter hx)
termination_by ((g.unmet ⟨visited, []⟩).length, stack.length)

end Hunting

variable {g : DependencyGraph}

theorem huntCycle_eq (hg : g.Consistent) (field : String) :
    g.huntCycle field = some (g.isOnCycle field) := by
  obtain ⟨found, heq, hfound⟩ := Hunting.hunt_eq hg (.start g field)
  rw [huntCycle, heq, Bool.eq_iff_iff.mpr (hfound.trans (isOnCycle_iff_circular hg).symm)]

theorem hasCycles_iff (hg : g.Consistent) : g.hasCycles = true ↔ ∃ x, g.Circular x := by
  rw [hasCycles, List.any_eq_true]
  constructor
  · rintro ⟨x, -, hx⟩
    exact ⟨x, (isOnCycle_iff_circular hg).mp hx⟩
  · rintro ⟨x, hx⟩
    exact ⟨x, hg.known_of_reaches hx, (isOnCycle_iff_circular hg).mpr hx⟩

open Addition

/-- Whatever a graph is built from and whichever name is asked for, the search for a cycle comes to
an end, and it tells exactly whether a path of one edge or more leads from the name back to it. The
circular fields are those known fields of which it does, each listed once and in ascending order,
and a graph has cycles exactly if there is such a field. -/
theorem cycles_exact (additions : List Addition) :
    (∀ x, (ofAdditions additions).huntCycle x = some ((ofAdditions additions).isOnCycle x) ∧
      ((ofAdditions additions).isOnCycle x = true ↔ Relation.TransGen (Needs additions) x x)) ∧
    (∀ x, x ∈ (ofAdditions additions).circularFields ↔
      (∃ a ∈ additions, a.Mentions x) ∧ Relation.TransGen (Needs additions) x x) ∧
    (ofAdditions additions).circularFields.Pairwise (· < ·) ∧
    ((ofAdditions additions).hasCycles = true ↔ ∃ x, Relation.TransGen (Needs additions) x x) := by
  have hg := consistent_ofAdditions additions
  have hcircular : ∀ x,
      (ofAdditions additions).Circular x ↔ Relation.TransGen (Needs additions) x x := by
    intro x
    rw [Circular, reaches_ofAdditions]
  refine ⟨fun x => ⟨huntCycle_eq hg x, ?_⟩, fun x => ?_, ?_, ?_⟩
  · exact (isOnCycle_iff_circular hg).trans (hcircular x)
  · rw [circularFields, List.mem_filter, mem_fields_ofAdditions, isOnCycle_iff_circular hg,
      hcircular]
  · exact (List.pairwise_map.mpr (ofAdditions additions).fields.ascending).filter _
  · exact (hasCycles_iff hg).trans (exists_congr hcircular)

end FormLogic.DependencyGraph
