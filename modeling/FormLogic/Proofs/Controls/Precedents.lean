import FormLogic.Proofs.Controls.FieldStates
import FormLogic.Proofs.Controls.Locality
import FormLogic.Proofs.Entity.Graph

/-! What the values that rules set depend on. The dependency graph of an entity has the edges that
formulas and rules bring by the fields they name, and no others, and the value that rules set a field
to depends only on the precedents of the field and on names that are no fields. -/

namespace FormLogic

namespace Rule

variable {r : Rule} {d p : String}

structure SetsValueOf (r : Rule) (field : String) : Prop where
  enabled : r.enabled = true
  control : r.effect.control = .valueSet
  target : r.effect.target = field

theorem exists_influence_iff :
    (∃ i ∈ r.influences, i.target = d ∧ Refers i.formula p) ↔ r.SetsValueOf d ∧ r.Reads p := by
  by_cases h : r.enabled = true ∧ r.effect.control = .valueSet
  · have hsets : r.SetsValueOf d ↔ r.effect.target = d :=
      ⟨fun h => h.target, fun ht => ⟨h.1, h.2, ht⟩⟩
    rw [influences, if_pos h, hsets]
    cases hs : r.effect.source with
    | literal v => simp [Reads, hs]
    | formula text => simp [Reads, hs, and_or_left]
  · have hsets : ¬ r.SetsValueOf d := fun hr => h ⟨hr.enabled, hr.control⟩
    simp [influences, h, hsets]

end Rule

namespace Entity

variable {e : Entity} {options : ControlOptions} {values others : FieldValues}
  {functions : Registry} {field d p : String} {control : Control}

/-- A formula declared for one field names another, or a rule that sets its value does. -/
def Feeds (e : Entity) (p d : String) : Prop :=
  (∃ f ∈ e.fields, f.id = d ∧ ∃ formula, f.formula = some formula ∧ Refers formula p) ∨
    ∃ r ∈ e.rules, r.SetsValueOf d ∧ r.Reads p

theorem mem_ruleInfluences {i : Influence} :
    i ∈ e.ruleInfluences ↔ ∃ r ∈ e.rules, i ∈ r.influences ∧ e.hasField i.target = true := by
  simp [ruleInfluences]

theorem dependsOn_dependencies : e.dependencies.graph.DependsOn d p ↔
    e.hasField p = true ∧ e.hasField d = true ∧ e.Feeds p d := by
  rw [dependencies, dependsOn_graphOf]
  constructor
  · rintro ⟨i, hi, rfl, hp⟩
    obtain ⟨hrefers, hfield⟩ := Influence.mem_precedents.mp hp
    refine ⟨hfield, ?_⟩
    rcases List.mem_append.mp hi with hi | hi
    · obtain ⟨f, hf, formula, hformula, rfl⟩ := mem_formulaInfluences.mp hi
      exact ⟨hasField_iff.mpr ⟨f, hf, rfl⟩, .inl ⟨f, hf, rfl, formula, hformula, hrefers⟩⟩
    · obtain ⟨r, hr, hmem, htarget⟩ := mem_ruleInfluences.mp hi
      exact ⟨htarget, .inr ⟨r, hr, Rule.exists_influence_iff.mp ⟨i, hmem, rfl, hrefers⟩⟩⟩
  · rintro ⟨hp, hd, ⟨f, hf, rfl, formula, hformula, hrefers⟩ | ⟨r, hr, hsets⟩⟩
    · exact ⟨_, List.mem_append_left _ (mem_formulaInfluences.mpr ⟨f, hf, formula, hformula, rfl⟩),
        rfl, Influence.mem_precedents.mpr ⟨hrefers, hp⟩⟩
    · obtain ⟨i, hi, rfl, hrefers⟩ := Rule.exists_influence_iff.mpr hsets
      exact ⟨i, List.mem_append_right _ (mem_ruleInfluences.mpr ⟨r, hr, hi, hd⟩), rfl,
        Influence.mem_precedents.mpr ⟨hrefers, hp⟩⟩

/-- The effect that decides about a control of a field depends only on what the rules for it read. -/
theorem winner?_congr
    (h : ∀ r ∈ e.rules, r.enabled = true → r.effect.target = field → r.effect.control = control →
      e.hasField field = true → ∀ name, r.Reads name → values.get? name = others.get? name) :
    (e.controls options ⟨values, functions⟩).winner? field control =
      (e.controls options ⟨others, functions⟩).winner? field control := by
  rw [winner?_controls, winner?_controls]
  refine congrArg _ (List.filterMap_congr fun r hr => ?_)
  obtain ⟨hmem, henabled⟩ := mem_activeRules.mp hr
  by_cases hslot : (r.effect.target, r.effect.control) = (field, control) ∧ e.hasField field = true
  · obtain ⟨hslot, hfield⟩ := hslot
    have hreads := h r hmem henabled (congrArg Prod.fst hslot) (congrArg Prod.snd hslot) hfield
    have hverdict : r.verdict ⟨e, options, values, functions⟩ =
        r.verdict ⟨e, options, others, functions⟩ := Rule.verdict_congr hreads
    simp only [Rule.effectOn?, hverdict]
  · have hnone : (r.effect.target, r.effect.control) = (field, control) →
        e.hasField field = false := by
      simpa using hslot
    rw [Rule.effectOn?_eq_none hnone, Rule.effectOn?_eq_none hnone]

/-- What rules set a field to depends only on the precedents of the field, and on names that are no
fields. -/
theorem value_fieldState_congr
    (hprecedents : ∀ p, e.dependencies.graph.DependsOn d p → values.get? p = others.get? p)
    (hnames : ∀ name, e.hasField name = false → values.get? name = others.get? name) :
    ((e.controls options ⟨values, functions⟩).fieldState d).value =
      ((e.controls options ⟨others, functions⟩).fieldState d).value := by
  refine congrArg (Option.map (·.value)) (winner?_congr fun r hr henabled ht hc hd name hn => ?_)
  cases hfield : e.hasField name with
  | false => exact hnames name hfield
  | true =>
    have hfeeds : e.Feeds name d := .inr ⟨r, hr, ⟨henabled, hc, ht⟩, hn⟩
    exact hprecedents name (dependsOn_dependencies.mpr ⟨hfield, hd, hfeeds⟩)

/-- One field is a precedent of another exactly if both are fields of the entity and the first is
named where the value of the second comes from. What rules set a field to is the same over values
that agree on its precedents and on names that are no fields. -/
theorem dependencies_exact (e : Entity) :
    (∀ p d, d ∈ e.dependencies.graph.dependentsOf p ↔
      e.hasField p = true ∧ e.hasField d = true ∧ e.Feeds p d) ∧
    (∀ p d, p ∈ e.dependencies.graph.precedentsOf d ↔ d ∈ e.dependencies.graph.dependentsOf p) ∧
    ∀ (options : ControlOptions) (functions : Registry) (d : String) (values others : FieldValues),
      (∀ p ∈ e.dependencies.graph.precedentsOf d, values.get? p = others.get? p) →
      (∀ name, e.hasField name = false → values.get? name = others.get? name) →
      ((e.controls options ⟨values, functions⟩).fieldState d).value =
        ((e.controls options ⟨others, functions⟩).fieldState d).value := by
  have hmirrored := (e.consistent_graphOf (e.formulaInfluences ++ e.ruleInfluences)).mirrored
  refine ⟨fun p d => ?_, fun p d => (hmirrored p d).symm, fun _ _ _ _ _ => value_fieldState_congr⟩
  exact (hmirrored p d).trans dependsOn_dependencies

theorem dependencies_exact_ratedOrder :
    let e := ratedOrder [rateRule "bulk" "qty > 5" 8 2] []
    let values : FieldValues := .ofList [("qty", .integer 9)]
    e.dependencies.graph.precedentsOf "rate" = ["qty"] ∧
      ((e.controls {} ⟨values, .standard⟩).fieldState "rate").value =
        ((e.controls {} ⟨values.insert "rate" (.integer 10), .standard⟩).fieldState "rate").value := by
  intro e values
  have hprecedents : e.dependencies.graph.precedentsOf "rate" = ["qty"] := by decide +kernel
  have hother : ∀ name, name ≠ "rate" →
      values.get? name = (values.insert "rate" (.integer 10)).get? name := by
    intro name hname
    rw [Dictionary.get?_insert, if_neg hname]
  refine ⟨hprecedents, (dependencies_exact e).2.2 {} .standard "rate" _ _ ?_ ?_⟩
  · intro p hp
    rw [hprecedents, List.mem_singleton] at hp
    exact hother p (by simp [hp])
  · intro name hname
    refine hother name ?_
    rintro rfl
    exact Bool.false_ne_true (hname.symm.trans (by decide))

end Entity

end FormLogic
