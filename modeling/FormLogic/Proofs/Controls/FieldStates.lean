import FormLogic.Proofs.Controls.Precedence

/-! The states of fields. A control of a field is as the effect says that decides about it, and as it
is without rules if there is none. The order of the rules, and with which fields they stand, counts
only between rules of one priority. -/

namespace FormLogic

namespace Entity

variable {e e' : Entity} {options : ControlOptions} {ctx : Context} {E : Effect}
  {field : String} {control : Control}

theorem winner?_eq_none_iff : (e.controls options ctx).winner? field control = none ↔
    ∀ E ∈ (e.controls options ctx).effects, E.slot ≠ (field, control) := by
  simp [Controls.winner?_eq]

theorem winner?_eq_some_iff : (e.controls options ctx).winner? field control = some E ↔
    e.Decides options ctx E ∧ E.slot = (field, control) := by
  refine ⟨decides_of_winner?, ?_⟩
  rintro ⟨hE, hslot⟩
  cases hw : (e.controls options ctx).winner? field control with
  | none =>
    obtain ⟨i, r, hr, hfires, -⟩ := hE
    have hmem : E ∈ (e.controls options ctx).effects :=
      mem_effects_iff.mpr ⟨r, List.mem_of_getElem? hr, hfires⟩
    exact absurd hslot (winner?_eq_none_iff.mp hw E hmem)
  | some F =>
    obtain ⟨hF, hslotF⟩ := decides_of_winner? hw
    rw [hE.unique hF (Effect.competes_iff.mpr (hslot.trans hslotF.symm))]

/-- What is left of the effects are those that decide. -/
theorem mem_resolved_iff : E ∈ (e.controls options ctx).resolved ↔ e.Decides options ctx E := by
  have hwinner : E ∈ (e.controls options ctx).resolved ↔
      (e.controls options ctx).winner? E.target E.control = some E := by
    rw [Controls.resolved_eq, Effect.mem_resolve_iff, Controls.winner?_eq]
    rfl
  rw [hwinner, winner?_eq_some_iff]
  exact and_iff_left rfl

theorem Decides.exists_boolean (h : e.Decides options ctx E) (hflag : E.control.isFlag = true) :
    ∃ b, E.value = .boolean b := by
  obtain ⟨i, r, -, hfires, -⟩ := h
  exact hfires.exists_boolean hflag

/-- The effect that decides about a control of a field sets it to a value. -/
def Sets (e : Entity) (options : ControlOptions) (ctx : Context) (field : String)
    (control : Control) (v : Value) : Prop :=
  ∃ E : Effect, e.Decides options ctx E ∧ E.slot = (field, control) ∧ E.value = v

/-- No rule has an effect on a control of a field. -/
def Leaves (e : Entity) (options : ControlOptions) (ctx : Context) (field : String)
    (control : Control) : Prop :=
  ∀ E ∈ (e.controls options ctx).effects, E.slot ≠ (field, control)

/-- A state of a field in which each control is as the effect says that decides about it, or as it
is without rules. -/
structure Governs (e : Entity) (options : ControlOptions) (ctx : Context) (field : String)
    (s : FieldState) : Prop where
  visible : e.Sets options ctx field .visibility (.boolean s.visible) ∨
    e.Leaves options ctx field .visibility ∧ s.visible = true
  enabled : e.Sets options ctx field .enable (.boolean s.enabled) ∨
    e.Leaves options ctx field .enable ∧ s.enabled = true
  required : e.Sets options ctx field .required (.boolean s.required) ∨
    e.Leaves options ctx field .required ∧ s.required = false
  value : (∃ v, e.Sets options ctx field .valueSet v ∧ s.value = some v) ∨
    e.Leaves options ctx field .valueSet ∧ s.value = none

theorem sets_flag_or_leaves (hflag : control.isFlag = true) (initially : Bool) :
    let state := (((e.controls options ctx).winner? field control).bind (·.value.boolean?)).getD
      initially
    e.Sets options ctx field control (.boolean state) ∨
      e.Leaves options ctx field control ∧ state = initially := by
  intro state
  cases hw : (e.controls options ctx).winner? field control with
  | none => exact .inr ⟨winner?_eq_none_iff.mp hw, by simp [state, hw]⟩
  | some E =>
    obtain ⟨hE, hslot⟩ := winner?_eq_some_iff.mp hw
    have hcontrol : E.control = control := congrArg Prod.snd hslot
    obtain ⟨b, hb⟩ := hE.exists_boolean (hcontrol ▸ hflag)
    have hstate : state = b := by simp [state, hw, hb, Value.boolean?]
    exact .inl ⟨E, hE, hslot, hstate ▸ hb⟩

theorem governs_fieldState (e : Entity) (options : ControlOptions) (ctx : Context)
    (field : String) : e.Governs options ctx field ((e.controls options ctx).fieldState field) where
  visible := sets_flag_or_leaves rfl true
  enabled := sets_flag_or_leaves rfl true
  required := sets_flag_or_leaves rfl false
  value := by
    cases hw : (e.controls options ctx).winner? field .valueSet with
    | none => exact .inr ⟨winner?_eq_none_iff.mp hw, by simp [Controls.fieldState, hw]⟩
    | some E =>
      obtain ⟨hE, hslot⟩ := winner?_eq_some_iff.mp hw
      exact .inl ⟨E.value, ⟨E, hE, hslot, rfl⟩, by simp [Controls.fieldState, hw]⟩

theorem fieldState_congr {others : Entity}
    (h : ∀ E : Effect, E.target = field →
      (e.Decides options ctx E ↔ others.Decides options ctx E)) :
    (e.controls options ctx).fieldState field = (others.controls options ctx).fieldState field := by
  have hwinner : (e.controls options ctx).winner? field =
      (others.controls options ctx).winner? field := by
    funext control
    refine Option.ext fun E => ?_
    simp only [winner?_eq_some_iff]
    refine and_congr_left fun hslot => h E (congrArg Prod.fst hslot)
  simp only [Controls.fieldState, hwinner]

/-- Rules that fire for the same control of a field differ in priority. -/
def Untied (e : Entity) (options : ControlOptions) (ctx : Context) : Prop :=
  e.rules.Pairwise fun r s => ∀ E F : Effect, r.Fires ⟨e, options, ctx⟩ E →
    s.Fires ⟨e, options, ctx⟩ F → E.Competes F → r.priority ≠ s.priority

/-- Without ties, the priority alone tells which rule decides. -/
theorem Untied.decides_iff (h : e.Untied options ctx) : e.Decides options ctx E ↔
    ∃ r ∈ e.rules, r.Fires ⟨e, options, ctx⟩ E ∧ ∀ s ∈ e.rules, ∀ F : Effect,
      s.Fires ⟨e, options, ctx⟩ F → F.Competes E → s.priority ≤ r.priority := by
  constructor
  · rintro ⟨i, r, hr, hE, hmax⟩
    refine ⟨r, List.mem_of_getElem? hr, hE, fun s hs F hF hc => ?_⟩
    obtain ⟨j, hj⟩ := List.mem_iff_getElem?.mp hs
    rcases hmax j s F hj hF hc with hlt | ⟨heq, -⟩
    · exact Int32.le_of_lt hlt
    · exact heq ▸ Int32.le_refl _
  · rintro ⟨r, hr, hE, hmax⟩
    obtain ⟨i, hi, rfl⟩ := List.mem_iff_getElem.mp hr
    refine ⟨i, _, List.getElem?_eq_getElem hi, hE, fun j s F hs hF hc => ?_⟩
    obtain ⟨hj, rfl⟩ := List.getElem?_eq_some_iff.mp hs
    rcases Int32.lt_or_eq_of_le (hmax _ (List.getElem_mem hj) F hF hc) with hlt | heq
    · exact .inl hlt
    · refine .inr ⟨heq, Nat.le_of_not_lt fun hij => ?_⟩
      have hne := List.pairwise_iff_getElem.mp h i j hi hj hij E F hE hF ⟨hc.1.symm, hc.2.symm⟩
      exact hne heq.symm

theorem hasField_eq_any (e : Entity) (id : String) :
    e.hasField id = e.schema.any (·.field = id) := by
  rw [Bool.eq_iff_iff, hasField_iff]
  simp [schema]

theorem verdict_of_schema_eq (h : e'.schema = e.schema) (r : Rule) :
    r.verdict ⟨e', options, ctx⟩ = r.verdict ⟨e, options, ctx⟩ := by
  simp only [Rule.verdict, Rule.holds, Rule.fire, hasField_eq_any, h]

theorem fires_of_schema_eq (h : e'.schema = e.schema) {r : Rule} :
    r.Fires ⟨e', options, ctx⟩ E ↔ r.Fires ⟨e, options, ctx⟩ E := by
  have hverdict : r.verdict ⟨e', options, ctx⟩ = r.verdict ⟨e, options, ctx⟩ :=
    verdict_of_schema_eq h r
  exact ⟨fun hr => ⟨hr.enabled, hverdict ▸ hr.fired⟩,
    fun hr => ⟨hr.enabled, hverdict.symm ▸ hr.fired⟩⟩

theorem Untied.of_perm (h : e.Untied options ctx) (hschema : e'.schema = e.schema)
    (hrules : e'.rules.Perm e.rules) : e'.Untied options ctx := by
  unfold Untied
  simp only [fires_of_schema_eq hschema]
  refine (hrules.pairwise_iff fun hne E F hE hF hc => ?_).mpr h
  exact (hne F E hF hE ⟨hc.1.symm, hc.2.symm⟩).symm

/-- Without ties it does not matter in which order rules are declared, and with which fields. -/
theorem Untied.fieldState_eq (h : e.Untied options ctx) (hschema : e'.schema = e.schema)
    (hrules : e'.rules.Perm e.rules) (field : String) :
    (e'.controls options ctx).fieldState field = (e.controls options ctx).fieldState field := by
  refine fieldState_congr fun E _ => ?_
  rw [(h.of_perm hschema hrules).decides_iff, h.decides_iff]
  simp only [fires_of_schema_eq hschema, hrules.mem_iff]

/-- The last of the effects that compete decides, and they are last whose rules have the greatest
priority. What is kept of the effects stands in the order of the first ones and is settled. Fields
show what decides about them, and the order of rules between which priorities tell does not matter. -/
theorem controls_last_wins (e : Entity) (options : ControlOptions) (ctx : Context) :
    (∀ E, E ∈ (e.controls options ctx).resolved ↔ e.Decides options ctx E) ∧
    (e.controls options ctx).resolved.map (·.slot) =
      ((e.controls options ctx).effects.map (·.slot)).eraseDups ∧
    (e.controls options ctx).resolved.foldl Effect.settle [] = (e.controls options ctx).resolved ∧
    (∀ E ∈ (e.controls options ctx).effects, E.control.isFlag = true →
      ∃ b, E.value = .boolean b) ∧
    (∀ field, e.Governs options ctx field ((e.controls options ctx).fieldState field)) ∧
    (e.Untied options ctx → ∀ e' : Entity, e'.schema = e.schema → e'.rules.Perm e.rules →
      ∀ field, (e'.controls options ctx).fieldState field =
        (e.controls options ctx).fieldState field) := by
  refine ⟨fun E => mem_resolved_iff, Effect.slots_resolve _, Effect.resolve_resolve _, ?_,
    governs_fieldState e options ctx, fun h e' => h.fieldState_eq⟩
  intro E hE hflag
  obtain ⟨r, -, hfires⟩ := mem_effects_iff.mp hE
  exact hfires.exists_boolean hflag

/-- An order with rules for the rate: usually 10, and 8 for larger quantities. -/
def ratedOrder (onQuantity onRate : List Rule) : Entity :=
  ⟨"order", "Order", [⟨"qty", "Quantity", .number, none, onQuantity⟩,
    ⟨"rate", "Rate", .number, none, onRate⟩]⟩

def rateRule (id condition : String) (rate : Int64) (priority : Int32) : Rule :=
  ⟨id, id, condition, ⟨.valueSet, "rate", .literal (.integer rate)⟩, true, priority⟩

theorem controls_last_wins_ratedOrder :
    let usual := rateRule "usual" "qty > 0" 10 1
    let bulk := rateRule "bulk" "qty > 5" 8 2
    let ctx : Context := ⟨.ofList [("qty", .integer 9)], .standard⟩
    (((ratedOrder [usual] [bulk]).controls {} ctx).fieldState "rate").value = some (.integer 8) ∧
      (ratedOrder [usual] [bulk]).Untied {} ctx ∧
      ∀ field, ((ratedOrder [bulk, usual] []).controls {} ctx).fieldState field =
        ((ratedOrder [usual] [bulk]).controls {} ctx).fieldState field := by
  intro usual bulk ctx
  have huntied : (ratedOrder [usual] [bulk]).Untied {} ctx := by
    have hrules : (ratedOrder [usual] [bulk]).rules = [usual, bulk] := rfl
    have hpriority : usual.priority ≠ bulk.priority := by decide
    rw [Untied, hrules, List.pairwise_pair]
    exact fun _ _ _ _ _ => hpriority
  have hactive : (ratedOrder [usual] [bulk]).activeRules = [usual, bulk] :=
    List.mergeSort_of_pairwise (by decide)
  refine ⟨?_, huntied, ?_⟩
  · rw [controls, hactive]
    decide +kernel
  · exact (controls_last_wins _ {} ctx).2.2.2.2.2 huntied _ rfl
      (List.Perm.swap usual bulk [])

end Entity

end FormLogic
