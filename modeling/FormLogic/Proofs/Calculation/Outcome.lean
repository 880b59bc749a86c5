import FormLogic.Proofs.Calculation.Run

/-! What a calculation makes of each field: a field on a cycle has an error, any other calculated
field has the outcome of its formula over the values that are left at the end, and the rest of the
inputs stays. -/

namespace FormLogic

open Calculation

/-- The inputs without the fields that have an error, with the calculated values laid over them. -/
def Calculation.settle (c : Calculation) (inputs : FieldValues) : FieldValues :=
  c.merged (c.errors.keys.foldl Dictionary.erase inputs)

theorem Dictionary.get?_foldl_erase {α : Type} (names : List String) (d : Dictionary α)
    (name : String) :
    (names.foldl Dictionary.erase d).get? name = if name ∈ names then none else d.get? name := by
  induction names generalizing d with
  | nil => simp
  | cons n names ih =>
    rw [List.foldl_cons, ih, get?_erase]
    by_cases hn : name = n <;> simp [hn]

theorem Calculation.get?_settle (c : Calculation) (inputs : FieldValues) (name : String) :
    (c.settle inputs).get? name = (c.values.get? name).or
      (if c.errors.contains name then none else inputs.get? name) := by
  rw [settle, merged, Dictionary.get?_overlay, Dictionary.get?_foldl_erase]
  simp only [Dictionary.mem_keys_iff]

namespace Calculation.Progress

/-- What is left of a field once some fields are excluded. -/
structure Excluding (names : List String) (p q : Progress) (name : String) : Prop where
  working : q.working.get? name = if name ∈ names then none else p.working.get? name
  values : q.result.values.get? name = p.result.values.get? name
  errors : q.result.errors.get? name =
    if name ∈ names then some .circular else p.result.errors.get? name

theorem excluding_foldl (names : List String) (p : Progress) (name : String) :
    Excluding names p (names.foldl exclude p) name := by
  induction names generalizing p with
  | nil => exact ⟨by simp, rfl, by simp⟩
  | cons n names ih =>
    have h := ih (p.exclude n)
    refine ⟨?_, h.values, ?_⟩
    · rw [List.foldl_cons, h.working]
      by_cases hn : name = n <;> simp [exclude, Dictionary.get?_erase, hn]
    · rw [List.foldl_cons, h.errors]
      by_cases hn : name = n <;> simp [exclude, Dictionary.get?_insert, hn]

theorem order_foldl_exclude (names : List String) (p : Progress) :
    (names.foldl exclude p).result.order = p.result.order := by
  induction names generalizing p with
  | nil => rfl
  | cons n names ih => exact ih (p.exclude n)

end Calculation.Progress

namespace Entity

variable {e : Entity} {inputs : FieldValues} {functions : Registry} {name formula : String}

theorem mem_circularFormulas :
    name ∈ e.circularFormulas ↔ (∃ f, e.formula? name = some f) ∧ e.formulaGraph.Circular name := by
  rw [circularFormulas, List.mem_filter,
    DependencyGraph.mem_circularFields_iff_circular e.consistent_formulaGraph,
    Option.isSome_iff_exists]
  exact and_comm

theorem mem_orderedFormulas : (name, formula) ∈ e.orderedFormulas ↔
    e.formula? name = some formula ∧ ¬ e.formulaGraph.Circular name := by
  simp only [orderedFormulas, List.mem_filterMap, Option.map_eq_some_iff, Prod.mk.injEq,
    DependencyGraph.mem_calculationOrder_iff_acyclic e.consistent_formulaGraph,
    mem_fields_formulaGraph]
  constructor
  · rintro ⟨id, ⟨-, hid⟩, f, hf, rfl, rfl⟩
    exact ⟨hf, hid⟩
  · rintro ⟨hf, hname⟩
    exact ⟨name, ⟨hasField_of_formula? hf, hname⟩, formula, hf, rfl, rfl⟩

theorem mem_map_orderedFormulas : name ∈ e.orderedFormulas.map (·.1) ↔
    (∃ f, e.formula? name = some f) ∧ ¬ e.formulaGraph.Circular name := by
  rw [List.mem_map]
  constructor
  · rintro ⟨⟨id, f⟩, hf, rfl⟩
    obtain ⟨hf, hid⟩ := mem_orderedFormulas.mp hf
    exact ⟨⟨f, hf⟩, hid⟩
  · rintro ⟨⟨f, hf⟩, hname⟩
    exact ⟨(name, f), mem_orderedFormulas.mpr ⟨hf, hname⟩, rfl⟩

/-- No formula in the order of calculation names its own field or a later one. -/
theorem inOrder_orderedFormulas (e : Entity) : InOrder e.orderedFormulas := by
  have hg := e.consistent_formulaGraph
  have hnodup := DependencyGraph.nodup_order hg
  have key : ∀ ids before, e.formulaGraph.calculationOrder = before ++ ids →
      InOrder (ids.filterMap fun id => (e.formula? id).map fun formula => (id, formula)) := by
    intro ids
    induction ids with
    | nil => exact fun _ _ => trivial
    | cons id rest ih =>
      intro before heq
      have hrest := ih (before ++ [id]) (by rw [heq, List.append_assoc]; rfl)
      have hmem : ∀ n, n ∈ (rest.filterMap fun id =>
          (e.formula? id).map fun formula => (id, formula)).map (·.1) → n ∈ rest := by
        simp only [List.mem_map, List.mem_filterMap, Option.map_eq_some_iff]
        rintro n ⟨-, ⟨m, hm, f, -, rfl⟩, rfl⟩
        exact hm
      rw [heq] at hnodup
      cases hid : e.formula? id with
      | none => simpa [hid] using hrest
      | some formula =>
        simp only [List.filterMap_cons, hid, Option.map_some]
        refine ⟨fun h => ?_, fun x hx n hn => ?_, hrest⟩
        · exact (List.nodup_cons.mp (List.nodup_append.mp hnodup).2.1).1 (hmem id h)
        · -- a name that is calculated with the field or later would have to come before it
          have hnot : n ∉ id :: rest := by
            intro hlater
            have horder : n ∈ e.formulaGraph.calculationOrder :=
              heq ▸ List.mem_append_right _ hlater
            obtain ⟨hknown, hacyclic⟩ :=
              (DependencyGraph.mem_calculationOrder_iff_acyclic hg).mp horder
            have hedge := dependsOn_formulaGraph_of_formula? hid hx hn
              (mem_fields_formulaGraph.mp hknown)
            have hbefore := DependencyGraph.mem_before_of_reaches hg heq (.single hedge) hacyclic
            exact (List.nodup_append.mp hnodup).2.2 n hbefore n hlater rfl
          exact ⟨fun h => hnot (h ▸ List.mem_cons_self),
            fun h => hnot (List.mem_cons_of_mem _ (hmem n h))⟩
  exact key _ [] rfl

def begin (e : Entity) (inputs : FieldValues) : Progress :=
  e.circularFormulas.foldl Progress.exclude (.start inputs)

def finish (e : Entity) (inputs : FieldValues) (functions : Registry) : Progress :=
  (e.begin inputs).run functions e.orderedFormulas

def settled (e : Entity) (inputs : FieldValues) (functions : Registry) : FieldValues :=
  (e.calculate inputs functions).settle inputs

theorem calculate_eq_finish : e.calculate inputs functions = (e.finish inputs functions).result :=
  rfl

theorem excluding_begin (e : Entity) (inputs : FieldValues) (name : String) :
    Progress.Excluding e.circularFormulas (.start inputs) (e.begin inputs) name :=
  Progress.excluding_foldl ..

theorem shows_finish (inputs : FieldValues) (functions : Registry)
    (hformula : e.formula? name = some formula) (hname : ¬ e.formulaGraph.Circular name) :
    (e.finish inputs functions).Shows name
      (evalText ⟨(e.finish inputs functions).working, functions⟩ formula) := by
  refine Progress.shows_run e.inOrder_orderedFormulas (fun f hf => ?_)
    (mem_orderedFormulas.mpr ⟨hformula, hname⟩)
  have hf' : f.1 ∉ e.circularFormulas := fun h =>
    (mem_orderedFormulas.mp hf).2 (mem_circularFormulas.mp h).2
  have h := excluding_begin e inputs f.1
  exact ⟨h.values, h.errors.trans (if_neg hf')⟩

theorem same_finish (inputs : FieldValues) (functions : Registry)
    (h : ¬ ((∃ f, e.formula? name = some f) ∧ ¬ e.formulaGraph.Circular name)) :
    (e.finish inputs functions).Same (e.begin inputs) name :=
  Progress.same_run (mt mem_map_orderedFormulas.mp h)

theorem working_finish :
    (e.finish inputs functions).working = e.settled inputs functions := by
  refine Dictionary.ext_get? fun name => ?_
  rw [settled, get?_settle, calculate_eq_finish, Dictionary.contains]
  by_cases h : (∃ f, e.formula? name = some f) ∧ ¬ e.formulaGraph.Circular name
  · obtain ⟨⟨formula, hf⟩, hname⟩ := h
    have hshows := shows_finish inputs functions hf hname
    rw [hshows.working, hshows.values, hshows.errors]
    cases evalText ⟨(e.finish inputs functions).working, functions⟩ formula <;> rfl
  · have hsame := same_finish inputs functions h
    have hbegin := excluding_begin e inputs name
    rw [hsame.working, hsame.values, hsame.errors, hbegin.working, hbegin.values, hbegin.errors]
    by_cases hc : name ∈ e.circularFormulas <;> simp [hc, Progress.start]

theorem outcome_of_acyclic (hformula : e.formula? name = some formula)
    (hname : ¬ e.formulaGraph.Circular name) :
    (e.settled inputs functions).get? name =
        (evalText ⟨e.settled inputs functions, functions⟩ formula).toOption ∧
      (e.calculate inputs functions).values.get? name =
        (evalText ⟨e.settled inputs functions, functions⟩ formula).toOption ∧
      (e.calculate inputs functions).errors.get? name =
        fault? (evalText ⟨e.settled inputs functions, functions⟩ formula) := by
  have h := shows_finish inputs functions hformula hname
  rw [working_finish] at h
  refine ⟨?_, h.values, h.errors⟩
  rw [← h.working, working_finish]

theorem outcome_of_circular (hformula : e.formula? name = some formula)
    (hname : e.formulaGraph.Circular name) :
    (e.settled inputs functions).get? name = none ∧
      (e.calculate inputs functions).values.get? name = none ∧
      (e.calculate inputs functions).errors.get? name = some .circular := by
  have hc : name ∈ e.circularFormulas := mem_circularFormulas.mpr ⟨⟨formula, hformula⟩, hname⟩
  have hsame := same_finish inputs functions fun h => h.2 hname
  have hbegin := excluding_begin e inputs name
  refine ⟨?_, ?_, ?_⟩
  · rw [← working_finish, hsame.working, hbegin.working, if_pos hc]
  · exact hsame.values.trans hbegin.values
  · exact hsame.errors.trans (hbegin.errors.trans (if_pos hc))

theorem outcome_of_uncalculated (h : e.formula? name = none) :
    (e.settled inputs functions).get? name = inputs.get? name ∧
      (e.calculate inputs functions).values.get? name = none ∧
      (e.calculate inputs functions).errors.get? name = none := by
  have hnot : ¬ ∃ f, e.formula? name = some f := by simp [h]
  have hc : name ∉ e.circularFormulas := fun hmem => hnot (mem_circularFormulas.mp hmem).1
  have hsame := same_finish inputs functions fun hmem => hnot hmem.1
  have hbegin := excluding_begin e inputs name
  refine ⟨?_, ?_, ?_⟩
  · rw [← working_finish, hsame.working, hbegin.working, if_neg hc]
    rfl
  · exact hsame.values.trans hbegin.values
  · exact hsame.errors.trans (hbegin.errors.trans (if_neg hc))

theorem get?_values_eq_none_iff (hf : e.formula? name = some formula) :
    (e.calculate inputs functions).values.get? name = none ↔
      (e.calculate inputs functions).errors.contains name = true := by
  rw [Dictionary.contains]
  by_cases hc : e.formulaGraph.Circular name
  · obtain ⟨-, hvalue, herror⟩ := outcome_of_circular hf hc
    rw [hvalue, herror]
    simp
  · obtain ⟨-, hvalue, herror⟩ := outcome_of_acyclic hf hc
    rw [hvalue, herror]
    cases evalText ⟨e.settled inputs functions, functions⟩ formula with
    | ok v => simp [Except.toOption, Calculation.fault?]
    | error err => simp [Except.toOption, Calculation.fault?]

theorem isSome_formula?_of_contains_errors
    (h : (e.calculate inputs functions).errors.contains name = true) :
    ∃ formula, e.formula? name = some formula := by
  cases hf : e.formula? name with
  | none => simp [Dictionary.contains, (outcome_of_uncalculated hf).2.2] at h
  | some formula => exact ⟨formula, rfl⟩

/-- The values left at the end are the only ones that keep the inputs of names without a formula,
leave out the calculated fields on a cycle, and give every other calculated field what its formula
gives over them. -/
theorem eq_settled_iff {w : FieldValues} : w = e.settled inputs functions ↔
    (∀ name, e.formula? name = none → w.get? name = inputs.get? name) ∧
    (∀ name formula, e.formula? name = some formula → e.formulaGraph.Circular name →
      w.get? name = none) ∧
    ∀ name formula, e.formula? name = some formula → ¬ e.formulaGraph.Circular name →
      w.get? name = (evalText ⟨w, functions⟩ formula).toOption := by
  constructor
  · rintro rfl
    exact ⟨fun _ h => (outcome_of_uncalculated h).1, fun _ _ hf h => (outcome_of_circular hf h).1,
      fun _ _ hf h => (outcome_of_acyclic hf h).1⟩
  · rintro ⟨hgiven, hcircular, hcomputed⟩
    refine eq_of_inOrder functions e.inOrder_orderedFormulas (fun name hname => ?_) (fun f hf => ?_)
      fun f hf => ?_
    · rw [mem_map_orderedFormulas] at hname
      cases hf : e.formula? name with
      | none => rw [hgiven name hf, (outcome_of_uncalculated hf).1]
      | some formula =>
        have hc : e.formulaGraph.Circular name :=
          Classical.not_not.mp fun h => hname ⟨⟨formula, hf⟩, h⟩
        rw [hcircular name formula hf hc, (outcome_of_circular hf hc).1]
    · obtain ⟨hformula, hname⟩ := mem_orderedFormulas.mp hf
      exact hcomputed _ _ hformula hname
    · obtain ⟨hformula, hname⟩ := mem_orderedFormulas.mp hf
      exact (outcome_of_acyclic hformula hname).1

theorem order_calculate :
    (e.calculate inputs functions).order = e.orderedFormulas.map (·.1) := by
  rw [calculate_eq_finish, finish, Progress.order_run, begin, Progress.order_foldl_exclude]
  rfl

end Entity

end FormLogic
