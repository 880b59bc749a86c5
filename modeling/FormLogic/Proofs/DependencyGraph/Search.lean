import FormLogic.Proofs.DependencyGraph.Additions
import FormLogic.Proofs.DependencyGraph.Order

/-! The search behind the order of calculation, bounded by nothing. It comes to an end on every
graph, and what it leaves is an order in which all that a field depends on comes before it, along
whatever cycles it is reached. -/

namespace FormLogic.DependencyGraph

/-- A run of the search through several fields in turn: a field met before is passed over, and any
other is finished once its precedents have been searched. -/
inductive Searches (g : DependencyGraph) : Walk → List String → Walk → Prop
  | done (walk : Walk) : Searches g walk [] walk
  | pass {walk after : Walk} {x : String} {xs : List String} :
    x ∈ walk.met → Searches g walk xs after → Searches g walk (x :: xs) after
  | enter {walk inner after : Walk} {x : String} {xs : List String} :
    x ∉ walk.met → Searches g ⟨x :: walk.met, walk.finished⟩ (g.precedentsOf x) inner →
    Searches g ⟨inner.met, inner.finished ++ [x]⟩ xs after → Searches g walk (x :: xs) after

namespace Searches

variable {g : DependencyGraph} {walk middle after : Walk} {xs ys : List String}

theorem append (h₁ : Searches g walk xs middle) (h₂ : Searches g middle ys after) :
    Searches g walk (xs ++ ys) after := by
  induction h₁ with
  | done walk => exact h₂
  | pass hx _ ih => exact .pass hx (ih h₂)
  | enter hx hinner _ _ ih => exact .enter hx hinner (ih h₂)

theorem met_mono (h : Searches g walk xs after) : ∀ x ∈ walk.met, x ∈ after.met := by
  induction h with
  | done walk => exact fun _ hx => hx
  | pass _ _ ih => exact ih
  | enter _ _ _ ihinner ih => exact fun x hx => ih x (ihinner x (List.mem_cons_of_mem _ hx))

theorem unique {other : Walk} (h : Searches g walk xs after) (h' : Searches g walk xs other) :
    after = other := by
  induction h generalizing other with
  | done walk => cases h'; rfl
  | pass hx _ ih =>
    cases h' with
    | pass _ h' => exact ih h'
    | enter hnot _ _ => exact absurd hx hnot
  | enter hnot _ _ ihinner ih =>
    cases h' with
    | pass hx _ => exact absurd hx hnot
    | enter _ hinner h' =>
      obtain rfl := ihinner hinner
      exact ih h'

end Searches

variable {g : DependencyGraph}

theorem searches_foldl_visit {bound : Nat}
    (h : ∀ walk x, x ∈ g.fields.names → (g.unmet walk).length ≤ bound →
      Searches g walk [x] (g.visit bound walk x))
    (xs : List String) {walk : Walk} (hxs : ∀ x ∈ xs, x ∈ g.fields.names)
    (hbound : (g.unmet walk).length ≤ bound) :
    Searches g walk xs (xs.foldl (g.visit bound) walk) := by
  induction xs generalizing walk with
  | nil => exact .done walk
  | cons x xs ih =>
    have hfirst := h walk x (hxs x List.mem_cons_self) hbound
    have hrest := ih (fun y hy => hxs y (List.mem_cons_of_mem _ hy))
      (Nat.le_trans (unmet_length_le hfirst.met_mono) hbound)
    exact hfirst.append hrest

/-- A bounded visit is a run of the search, if the bound is not below the number of known fields
that are left. -/
theorem searches_visit (hg : g.Consistent) (bound : Nat) (walk : Walk) (x : String)
    (hknown : x ∈ g.fields.names) (hbound : (g.unmet walk).length ≤ bound) :
    Searches g walk [x] (g.visit bound walk x) := by
  induction bound generalizing walk x with
  | zero =>
    have hmet : x ∈ walk.met := Classical.byContradiction fun hx => by
      have := unmet_length_lt hknown hx
      omega
    exact .pass hmet (.done walk)
  | succ bound ih =>
    by_cases hx : x ∈ walk.met
    · simp only [visit, hx, if_true]
      exact .pass hx (.done walk)
    · simp only [visit, hx, if_false]
      have hinner : (g.unmet ⟨x :: walk.met, walk.finished⟩).length ≤ bound := by
        have := unmet_length_lt hknown hx
        omega
      exact .enter hx (searches_foldl_visit ih _ (fun p hp => hg.known_precedent hp) hinner)
        (.done _)

theorem searches_visitAll (hg : g.Consistent) {xs : List String}
    (hxs : ∀ x ∈ xs, x ∈ g.fields.names) :
    Searches g ⟨[], []⟩ xs (g.visitAll ⟨[], []⟩ xs) :=
  searches_foldl_visit (searches_visit hg _) xs hxs (unmet_length_le_size g _)

theorem idxOf_lt_of_reaches (hg : g.Consistent) {x y : String} (hxy : g.Reaches x y)
    (hx : ¬ g.Circular x) (hy : ¬ g.Circular y) :
    g.calculationOrder.idxOf y < g.calculationOrder.idxOf x := by
  have hmem : x ∈ g.calculationOrder :=
    (mem_calculationOrder_iff_acyclic hg).mpr ⟨hg.known_of_reaching hxy, hx⟩
  obtain ⟨before, after, horder⟩ := List.append_of_mem hmem
  have hbefore : y ∈ before := mem_before_of_reaches hg horder hxy hy
  have hnot : x ∉ before := by
    have hnodup := nodup_order hg
    rw [horder, List.nodup_append] at hnodup
    exact fun h => hnodup.2.2 x h x List.mem_cons_self rfl
  rw [horder, List.idxOf_append_of_mem hbefore, List.idxOf_append_of_notMem hnot]
  exact Nat.lt_add_right _ (List.idxOf_lt_length_of_mem hbefore)

open Addition

/-- Whatever a graph is built from, the search for an order of calculation and the searches for
cycles come to an end, and the order that is found holds the fields on no cycle and no others, each
once and each behind all of them that it depends on, be it along paths through cycles. -/
theorem calculationOrder_topological (additions : List Addition) :
    (∃ walk, (ofAdditions additions).Searches ⟨[], []⟩ (ofAdditions additions).fields.names walk ∧
      (ofAdditions additions).calculationOrder =
        walk.finished.filter fun x => !(ofAdditions additions).isOnCycle x) ∧
    (∀ x, ∃ walk,
      (ofAdditions additions).Searches ⟨[], []⟩ ((ofAdditions additions).precedentsOf x) walk ∧
      ((ofAdditions additions).isOnCycle x = true ↔ x ∈ walk.met)) ∧
    (ofAdditions additions).calculationOrder.Nodup ∧
    (∀ x, x ∈ (ofAdditions additions).calculationOrder ↔
      (∃ a ∈ additions, a.Mentions x) ∧ ¬ Relation.TransGen (Needs additions) x x) ∧
    ∀ x y, Relation.TransGen (Needs additions) x y →
      ¬ Relation.TransGen (Needs additions) x x → ¬ Relation.TransGen (Needs additions) y y →
        (ofAdditions additions).calculationOrder.idxOf y <
          (ofAdditions additions).calculationOrder.idxOf x := by
  have hg := consistent_ofAdditions additions
  rw [← reaches_ofAdditions]
  refine ⟨⟨_, searches_visitAll hg fun _ => id, rfl⟩, fun x => ⟨_, searches_visitAll hg ?_, ?_⟩,
    nodup_order hg, fun x => ?_, fun x y hxy hx hy => idxOf_lt_of_reaches hg hxy hx hy⟩
  · exact fun p hp => hg.known_precedent hp
  · rw [isOnCycle, decide_eq_true_eq, ancestors]
  · exact (mem_calculationOrder_iff_acyclic hg).trans (and_congr_left' mem_fields_ofAdditions)

/-- A cycle of two fields that one field leads into and another comes out of. -/
def bridgedCycle : List Addition :=
  [.dependency "rate" "net", .dependency "gross" "net", .dependency "net" "gross",
   .dependency "gross" "total", .field "notes"]

theorem calculationOrder_topological_bridgedCycle :
    Relation.TransGen (Needs bridgedCycle) "total" "rate" ∧
      ¬ Relation.TransGen (Needs bridgedCycle) "total" "total" ∧
      ¬ Relation.TransGen (Needs bridgedCycle) "rate" "rate" ∧
      (ofAdditions bridgedCycle).calculationOrder.idxOf "rate" <
        (ofAdditions bridgedCycle).calculationOrder.idxOf "total" := by
  obtain ⟨-, -, -, hmem, hbefore⟩ := calculationOrder_topological bridgedCycle
  have horder : (ofAdditions bridgedCycle).calculationOrder = ["rate", "notes", "total"] := by
    decide +kernel
  have hpath : Relation.TransGen (Needs bridgedCycle) "total" "rate" :=
    .head (b := "gross") (by simp [Needs, bridgedCycle])
      (.head (b := "net") (by simp [Needs, bridgedCycle]) (.single (by simp [Needs, bridgedCycle])))
  have htotal := ((hmem "total").mp (by simp [horder])).2
  have hrate := ((hmem "rate").mp (by simp [horder])).2
  exact ⟨hpath, htotal, hrate, hbefore _ _ hpath htotal hrate⟩

end FormLogic.DependencyGraph
