import FormLogic.Proofs.Controls.Conditions
import FormLogic.Proofs.Entity.Rules

/-! What each rule contributes. A rule contributes an effect, an error, or nothing when its condition
is false, and no rule has a part in what another one contributes: without some of the rules, the
effects and errors are those that the other rules contribute, as they were and in their order. -/

namespace FormLogic

variable {α : Type}

theorem filter_snd_eq_singleton {l : List (α × Nat)} {a : α} {i : Nat}
    (hnodup : (l.map (·.2)).Nodup) (h : (a, i) ∈ l) : l.filter (·.2 = i) = [(a, i)] := by
  obtain ⟨l₁, l₂, rfl⟩ := List.append_of_mem h
  rw [List.map_append, List.map_cons, List.nodup_middle, List.nodup_cons, List.mem_append,
    not_or] at hnodup
  obtain ⟨⟨h₁, h₂⟩, -⟩ := hnodup
  have hnil : ∀ l : List (α × Nat), i ∉ l.map (·.2) → l.filter (·.2 = i) = [] := by
    intro l hi
    rw [List.filter_eq_nil_iff]
    intro x hx hxi
    exact hi (of_decide_eq_true hxi ▸ List.mem_map_of_mem hx)
  simp [hnil l₁ h₁, hnil l₂ h₂]

namespace Controls

/-- Entries that are taken from each verdict by itself. -/
def Separate (entries : Controls → List α) : Prop :=
  entries ⟨[]⟩ = [] ∧ ∀ v verdicts, entries ⟨v :: verdicts⟩ = entries ⟨[v]⟩ ++ entries ⟨verdicts⟩

theorem separate_effects : Separate effects := by
  refine ⟨rfl, fun v verdicts => ?_⟩
  rw [effects, effects, effects, ← List.filterMap_append]
  rfl

theorem separate_errors : Separate errors := by
  refine ⟨rfl, fun v verdicts => ?_⟩
  rw [errors, errors, errors, ← List.map_append, skipped, skipped, skipped, ← List.filterMap_append]
  rfl

theorem Separate.eq_flatMap {entries : Controls → List α} (h : Separate entries)
    (verdicts : List (Rule × Verdict)) :
    entries ⟨verdicts⟩ = verdicts.flatMap fun v => entries ⟨[v]⟩ := by
  induction verdicts with
  | nil => exact h.1
  | cons v verdicts ih => rw [h.2, ih, List.flatMap_cons]

end Controls

/-- The entries that a rule brings about by itself. -/
def Rule.contribution (scope : RuleScope) (entries : Controls → List α) (r : Rule) : List α :=
  entries ⟨[(r, r.verdict scope)]⟩

/-- A rule by itself brings about one effect or one error, or nothing if its condition is false. -/
theorem Rule.contribution_cases (scope : RuleScope) (r : Rule) :
    (∃ E, r.contribution scope Controls.effects = [E] ∧
      r.contribution scope Controls.errors = []) ∨
    (∃ text, r.contribution scope Controls.effects = [] ∧
      r.contribution scope Controls.errors = [text]) ∨
    r.contribution scope Controls.effects = [] ∧ r.contribution scope Controls.errors = [] ∧
      evalText scope.context r.condition = .ok (.boolean false) := by
  unfold contribution
  cases h : r.verdict scope with
  | fired E => exact .inl ⟨E, rfl, rfl⟩
  | skipped fault => exact .inr (.inl ⟨_, rfl, rfl⟩)
  | idle => exact .inr (.inr ⟨rfl, rfl, evalText_of_idle h⟩)

namespace Entity

variable {e : Entity} {options : ControlOptions} {ctx : Context} {entries : Controls → List α}
  {r : Rule} {i : Nat}

/-- The enabled rules in the order of evaluation, each with the number by which the entity declares
it. -/
def numberedRules (e : Entity) : List (Rule × Nat) :=
  (e.rules.zipIdx.filter (·.1.enabled)).mergeSort fun r s => decide (r.1.priority ≤ s.1.priority)

theorem map_fst_mergeSort (l : List (Rule × Nat)) :
    (l.mergeSort fun r s => decide (r.1.priority ≤ s.1.priority)).map (·.1) =
      (l.map (·.1)).mergeSort fun r s => decide (r.priority ≤ s.priority) :=
  List.map_mergeSort fun _ _ _ _ => rfl

theorem map_fst_numberedRules (e : Entity) : e.numberedRules.map (·.1) = e.activeRules := by
  have hrules : (e.rules.zipIdx.filter (·.1.enabled)).map (·.1) = e.rules.filter (·.enabled) := by
    rw [← List.zipIdx_map_fst 0 e.rules, List.filter_map, List.zipIdx_map_fst]
    rfl
  rw [numberedRules, map_fst_mergeSort, hrules, activeRules]

/-- What is left to evaluate of edited rules are the enabled ones that are kept, in their order. -/
theorem activeRules_edited (e : Entity) (edit : Nat → RuleEdit) : (e.edited edit).activeRules =
    (e.numberedRules.filter fun r => edit r.2 = .keep).map (·.1) := by
  have hrules : (e.edited edit).rules.filter (·.enabled) =
      ((e.rules.zipIdx.filter (·.1.enabled)).filter fun r => edit r.2 = .keep).map (·.1) := by
    rw [rules_edited, List.filter_filterMap, List.filter_filter, ← List.filterMap_eq_filter,
      List.map_filterMap]
    refine List.filterMap_congr fun r _ => ?_
    cases h : edit r.2 <;> cases hr : r.1.enabled <;> simp [RuleEdit.apply, Option.guard, h, hr]
  have hfilter := filter_mergeSort (fun r s t : Rule × Nat => priority_trans r.1 s.1 t.1)
    (fun r s => priority_total r.1 s.1) (fun r => edit r.2 = .keep)
    (e.rules.zipIdx.filter (·.1.enabled))
  rw [activeRules, hrules, numberedRules, hfilter, map_fst_mergeSort]

theorem mem_numberedRules :
    (r, i) ∈ e.numberedRules ↔ e.rules[i]? = some r ∧ r.enabled = true := by
  rw [numberedRules, List.mem_mergeSort, List.mem_filter, List.mk_mem_zipIdx_iff_getElem?]

theorem nodup_numberedRules (e : Entity) : (e.numberedRules.map (·.2)).Nodup := by
  have hzip : (e.rules.zipIdx.map (·.2)).Nodup := by
    rw [List.zipIdx_map_snd]
    exact List.nodup_range'
  have hperm : (e.numberedRules.map (·.2)).Perm ((e.rules.zipIdx.filter (·.1.enabled)).map (·.2)) :=
    (List.mergeSort_perm _ _).map _
  exact hperm.nodup_iff.mpr (hzip.sublist (List.filter_sublist.map _))

/-- The entries that rules contribute, each with the number of its rule. -/
def contributions (e : Entity) (options : ControlOptions) (ctx : Context)
    (entries : Controls → List α) : List (α × Nat) :=
  e.numberedRules.flatMap fun r => (r.1.contribution ⟨e, options, ctx⟩ entries).map (·, r.2)

/-- Rules together bring about what they contribute, and nothing else. -/
theorem map_fst_contributions (h : Controls.Separate entries) (e : Entity)
    (options : ControlOptions) (ctx : Context) :
    (e.contributions options ctx entries).map (·.1) = entries (e.controls options ctx) := by
  rw [controls, h.eq_flatMap, ← map_fst_numberedRules, List.map_map, List.flatMap_map,
    contributions, List.map_flatMap]
  simp [Function.comp_def, Rule.contribution]

theorem filter_contributions (e : Entity) (options : ControlOptions) (ctx : Context)
    (entries : Controls → List α) (keep : Nat → Bool) :
    (e.contributions options ctx entries).filter (fun c => keep c.2) =
      (e.numberedRules.filter fun r => keep r.2).flatMap fun r =>
        (r.1.contribution ⟨e, options, ctx⟩ entries).map (·, r.2) := by
  rw [contributions]
  induction e.numberedRules with
  | nil => rfl
  | cons r rules ih =>
    rw [List.flatMap_cons, List.filter_append, ih, List.filter_cons, List.filter_map]
    by_cases hr : keep r.2 = true <;> simp [hr, Function.comp_def]

theorem entries_edited (h : Controls.Separate entries) (e : Entity) (options : ControlOptions)
    (ctx : Context) (edit : Nat → RuleEdit) :
    entries ((e.edited edit).controls options ctx) =
      ((e.contributions options ctx entries).filter fun c => edit c.2 = .keep).map (·.1) := by
  rw [filter_contributions e options ctx entries fun i => edit i = .keep, controls, h.eq_flatMap,
    activeRules_edited, List.map_map, List.flatMap_map, List.map_flatMap]
  -- of the entity, a verdict takes the fields only, which are not edited
  simp [Function.comp_def, Rule.contribution, verdict_of_schema_eq (e.schema_edited edit)]

theorem contributions_of_enabled (options : ControlOptions) (ctx : Context)
    (entries : Controls → List α) (hr : e.rules[i]? = some r) (henabled : r.enabled = true) :
    (e.contributions options ctx entries).filter (·.2 = i) =
      (r.contribution ⟨e, options, ctx⟩ entries).map (·, i) := by
  have hone : e.numberedRules.filter (·.2 = i) = [(r, i)] :=
    filter_snd_eq_singleton e.nodup_numberedRules (mem_numberedRules.mpr ⟨hr, henabled⟩)
  rw [filter_contributions e options ctx entries fun j => j = i, hone, List.flatMap_singleton]

theorem contributions_of_not_enabled (options : ControlOptions) (ctx : Context)
    (entries : Controls → List α) (h : ∀ r, e.rules[i]? = some r → r.enabled = false) :
    (e.contributions options ctx entries).filter (·.2 = i) = [] := by
  have hnone : e.numberedRules.filter (·.2 = i) = [] := by
    rw [List.filter_eq_nil_iff]
    rintro ⟨r, j⟩ hr hj
    obtain rfl : j = i := of_decide_eq_true hj
    obtain ⟨hrule, henabled⟩ := mem_numberedRules.mp hr
    exact Bool.false_ne_true ((h r hrule).symm.trans henabled)
  rw [filter_contributions e options ctx entries fun j => j = i, hnone, List.flatMap_nil]

/-- Rules are isolated from one another. The effects and errors of an entity are those that its rules
contribute, each an effect, an error or nothing, and nothing only if its condition is false; a rule
that is disabled contributes nothing. When any rules are deleted or disabled, exactly what they
contributed is missing, and the rest stands as it did and in the same order. -/
theorem controls_isolated (e : Entity) (options : ControlOptions) (ctx : Context) :
    let effects := e.contributions options ctx Controls.effects
    let errors := e.contributions options ctx Controls.errors
    (e.controls options ctx).effects = effects.map (·.1) ∧
    (e.controls options ctx).errors = errors.map (·.1) ∧
    (∀ edit : Nat → RuleEdit,
      ((e.edited edit).controls options ctx).effects =
        (effects.filter fun c => edit c.2 = .keep).map (·.1) ∧
      ((e.edited edit).controls options ctx).errors =
        (errors.filter fun c => edit c.2 = .keep).map (·.1)) ∧
    (∀ (i : Nat) (r : Rule), e.rules[i]? = some r → r.enabled = true →
      (∃ E, effects.filter (·.2 = i) = [(E, i)] ∧ errors.filter (·.2 = i) = []) ∨
      (∃ text, effects.filter (·.2 = i) = [] ∧ errors.filter (·.2 = i) = [(text, i)]) ∨
      effects.filter (·.2 = i) = [] ∧ errors.filter (·.2 = i) = [] ∧
        evalText ctx r.condition = .ok (.boolean false)) ∧
    ∀ i : Nat, (∀ r, e.rules[i]? = some r → r.enabled = false) →
      effects.filter (·.2 = i) = [] ∧ errors.filter (·.2 = i) = [] := by
  intro effects errors
  refine ⟨(map_fst_contributions Controls.separate_effects e options ctx).symm,
    (map_fst_contributions Controls.separate_errors e options ctx).symm, fun edit => ?_,
    fun i r hr henabled => ?_, fun i h => ?_⟩
  · exact ⟨entries_edited Controls.separate_effects e options ctx edit,
      entries_edited Controls.separate_errors e options ctx edit⟩
  · simp only [effects, errors, contributions_of_enabled options ctx _ hr henabled]
    rcases r.contribution_cases ⟨e, options, ctx⟩ with ⟨E, hE, hnone⟩ | ⟨text, hnone, htext⟩ |
      ⟨hnone, hnone', hfalse⟩
    · exact .inl ⟨E, by rw [hE]; rfl, by rw [hnone]; rfl⟩
    · exact .inr (.inl ⟨text, by rw [hnone]; rfl, by rw [htext]; rfl⟩)
    · exact .inr (.inr ⟨by rw [hnone]; rfl, by rw [hnone']; rfl, hfalse⟩)
  · exact ⟨contributions_of_not_enabled options ctx _ h,
      contributions_of_not_enabled options ctx _ h⟩

theorem controls_isolated_ratedOrder :
    let broken := rateRule "broken" "qty >" 5 0
    let usual := rateRule "usual" "qty > 0" 10 1
    let bulk := rateRule "bulk" "qty > 5" 8 2
    let e := ratedOrder [broken, usual] [bulk]
    let ctx : Context := ⟨.ofList [("qty", .integer 3)], .standard⟩
    let edit (i : Nat) : RuleEdit := if i = 0 then .delete else .keep
    (e.controls {} ctx).errors =
        ["Rule 'broken' (broken): Syntax error: Unexpected end of input"] ∧
      ((e.edited edit).controls {} ctx).effects = [⟨.valueSet, "rate", .integer 10, "usual"⟩] ∧
      ((e.edited edit).controls {} ctx).errors = [] ∧
      e.rules[2]? = some bulk ∧ bulk.enabled = true ∧
      evalText ctx bulk.condition = .ok (.boolean false) := by
  intro broken usual bulk e ctx edit
  have hnumbered : e.numberedRules = [(broken, 0), (usual, 1), (bulk, 2)] :=
    List.mergeSort_of_pairwise (by decide)
  have heffects : e.contributions {} ctx Controls.effects =
      [(⟨.valueSet, "rate", .integer 10, "usual"⟩, 1)] := by
    rw [contributions, hnumbered]
    decide +kernel
  have herrors : e.contributions {} ctx Controls.errors =
      [("Rule 'broken' (broken): Syntax error: Unexpected end of input", 0)] := by
    rw [contributions, hnumbered]
    decide +kernel
  obtain ⟨-, hall, hedit, hrule, -⟩ := controls_isolated e {} ctx
  refine ⟨by rw [hall, herrors]; rfl, by rw [(hedit edit).1, heffects]; rfl,
    by rw [(hedit edit).2, herrors]; rfl, rfl, rfl, ?_⟩
  rcases hrule 2 bulk rfl rfl with ⟨E, hE, -⟩ | ⟨text, -, htext⟩ | ⟨-, -, hfalse⟩
  · rw [heffects] at hE
    cases hE
  · rw [herrors] at htext
    cases htext
  · exact hfalse

end Entity

end FormLogic
