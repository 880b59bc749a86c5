import FormLogic.Proofs.Controls.Resolution

/-! Which rule decides about a control of a field. Of the rules that fire for it, it is one of the
greatest priority, and of these the last as the entity lists its rules. -/

namespace FormLogic

section Sorting

variable {α : Type} {le : α → α → Bool}

/-- A stable sort puts an element before those that it need not follow. -/
theorem mergeSort_cons_split (trans : ∀ a b c, le a b = true → le b c = true → le a c = true)
    (total : ∀ a b, (le a b || le b a) = true) (a : α) (l : List α) :
    (a :: l).mergeSort le = (l.mergeSort le).filter (fun b => !le a b) ++
        a :: (l.mergeSort le).filter (le a) ∧
      l.mergeSort le = (l.mergeSort le).filter (fun b => !le a b) ++
        (l.mergeSort le).filter (le a) := by
  obtain ⟨l₁, l₂, hcons, hl, hbefore⟩ := List.mergeSort_cons trans total a l
  have hsorted := List.pairwise_mergeSort trans total (a :: l)
  rw [hcons, List.pairwise_append, List.pairwise_cons] at hsorted
  have hafter : ∀ b ∈ l₂, le a b = true := hsorted.2.1.1
  have hbefore' : (l.mergeSort le).filter (fun b => !le a b) = l₁ := by
    rw [hl, List.filter_append, List.filter_eq_self.mpr hbefore, List.filter_eq_nil_iff.mpr,
      List.append_nil]
    simpa using hafter
  have hafter' : (l.mergeSort le).filter (le a) = l₂ := by
    rw [hl, List.filter_append, List.filter_eq_self.mpr hafter, List.filter_eq_nil_iff.mpr,
      List.nil_append]
    simpa using hbefore
  rw [hbefore', hafter']
  exact ⟨hcons, hl⟩

theorem filter_mergeSort (trans : ∀ a b c, le a b = true → le b c = true → le a c = true)
    (total : ∀ a b, (le a b || le b a) = true) (keep : α → Bool) (l : List α) :
    (l.mergeSort le).filter keep = (l.filter keep).mergeSort le := by
  induction l with
  | nil => simp
  | cons a l ih =>
    obtain ⟨hcons, hl⟩ := mergeSort_cons_split trans total a l
    by_cases ha : keep a = true
    · rw [hcons, List.filter_append, List.filter_cons_of_pos ha, List.filter_cons_of_pos ha,
        (mergeSort_cons_split trans total a (l.filter keep)).1, ← ih, List.filter_comm,
        List.filter_comm (le a)]
    · rw [hcons, List.filter_append, List.filter_cons_of_neg ha, List.filter_cons_of_neg ha, ← ih,
        ← List.filter_append, ← hl]

end Sorting

theorem exists_of_getLast?_filterMap {α β : Type} {f : α → Option β} {l : List α} {b : β}
    (h : (l.filterMap f).getLast? = some b) :
    ∃ before a after, l = before ++ a :: after ∧ f a = some b ∧ ∀ x ∈ after, f x = none := by
  rw [List.getLast?_filterMap, List.findSome?_eq_some_iff] at h
  obtain ⟨l₁, a, l₂, hl, ha, hnone⟩ := h
  refine ⟨l₂.reverse, a, l₁.reverse, ?_, ha, fun x hx => hnone x (List.mem_reverse.mp hx)⟩
  simpa using congrArg List.reverse hl

/-- The last element that a filter keeps stands at the last place of those that it keeps. -/
theorem exists_getElem?_of_filter {α : Type} {keep : α → Bool} {l before : List α} {a : α}
    (h : l.filter keep = before ++ [a]) :
    ∃ i, l[i]? = some a ∧ ∀ (j : Nat) (b : α), l[j]? = some b → keep b = true → j ≤ i := by
  obtain ⟨l₁, l₂, rfl, -, hl₂⟩ := List.filter_eq_append_iff.mp h
  obtain ⟨m₁, m₂, rfl, -, -, hnone⟩ := List.filter_eq_cons_iff.mp hl₂
  rw [← List.append_assoc]
  refine ⟨(l₁ ++ m₁).length, by simp, fun j b hj hb => Nat.le_of_not_lt fun hlt => ?_⟩
  have hmem : b ∈ m₂ := by
    rw [List.getElem?_append_right (by omega)] at hj
    obtain ⟨k, hk⟩ : ∃ k, j - (l₁ ++ m₁).length = k + 1 :=
      Nat.exists_eq_succ_of_ne_zero (by omega)
    rw [hk, List.getElem?_cons_succ] at hj
    exact List.mem_of_getElem? hj
  exact List.filter_eq_nil_iff.mp hnone b hmem hb

def Verdict.effect? : Verdict → Option Effect
  | fired e => some e
  | idle | skipped _ => none

namespace Rule

variable {scope : RuleScope} {r : Rule} {E F : Effect} {s : String × Control}

/-- An enabled rule fires with an effect. -/
structure Fires (scope : RuleScope) (r : Rule) (E : Effect) : Prop where
  enabled : r.enabled = true
  fired : r.verdict scope = .fired E

theorem fire_eq_ok_iff : r.fire scope = .ok E ↔
    scope.entity.hasField r.effect.target = true ∧
      ∃ v, r.effect.source.eval scope.context = .ok v ∧
        (r.effect.control.isFlag = true → v.kind = .boolean) ∧
        E = ⟨r.effect.control, r.effect.target, v, r.id⟩ := by
  unfold fire
  cases hfield : scope.entity.hasField r.effect.target with
  | false => simp [bind, Except.bind, throw, throwThe, MonadExceptOf.throw]
  | true =>
    cases hv : r.effect.source.eval scope.context with
    | error fault => simp [bind, Except.bind]
    | ok v =>
      by_cases hflag : r.effect.control.isFlag = true ∧ v.kind ≠ .boolean
      · simp [bind, Except.bind, hflag, throw, throwThe, MonadExceptOf.throw]
      · have hkind : r.effect.control.isFlag = true → v.kind = .boolean := by simpa using hflag
        simp only [Bool.not_true, Bool.false_eq_true, if_false, hflag, bind, Except.bind, pure,
          Except.pure, Except.ok.injEq, true_and, exists_eq_left']
        exact ⟨fun h => ⟨hkind, h.symm⟩, fun h => h.2.symm⟩

theorem fire_of_verdict (h : r.verdict scope = .fired E) : r.fire scope = .ok E := by
  unfold verdict at h
  split at h
  · cases h
  · cases h
  · split at h
    · next hfire => exact (Verdict.fired.inj h) ▸ hfire
    · cases h

namespace Fires

theorem unique (h : r.Fires scope E) (h' : r.Fires scope F) : E = F :=
  Verdict.fired.inj (h.fired.symm.trans h'.fired)

theorem exists_boolean (h : r.Fires scope E) (hflag : E.control.isFlag = true) :
    ∃ b, E.value = .boolean b := by
  obtain ⟨-, v, -, hkind, rfl⟩ := fire_eq_ok_iff.mp (fire_of_verdict h.fired)
  cases v with
  | boolean b => exact ⟨b, rfl⟩
  | _ => cases hkind hflag

end Fires

def effectOn? (scope : RuleScope) (s : String × Control) (r : Rule) : Option Effect :=
  (r.verdict scope).effect?.filter (·.slot = s)

theorem effectOn?_eq_some_iff :
    r.effectOn? scope s = some E ↔ r.verdict scope = .fired E ∧ E.slot = s := by
  unfold effectOn?
  cases r.verdict scope with
  | fired F =>
    simp only [Verdict.effect?, Option.filter_eq_some_iff, Option.some.injEq, Verdict.fired.injEq,
      decide_eq_true_eq]
  | _ => simp [Verdict.effect?]

theorem slot_of_effectOn? (h : r.effectOn? scope s = some E) :
    (r.effect.target, r.effect.control) = s ∧ scope.entity.hasField s.1 = true := by
  obtain ⟨hfired, rfl⟩ := effectOn?_eq_some_iff.mp h
  obtain ⟨hfield, v, -, -, rfl⟩ := fire_eq_ok_iff.mp (fire_of_verdict hfired)
  exact ⟨rfl, hfield⟩

theorem effectOn?_eq_none
    (h : (r.effect.target, r.effect.control) = s → scope.entity.hasField s.1 = false) :
    r.effectOn? scope s = none := by
  refine Option.eq_none_iff_forall_ne_some.mpr fun E hE => ?_
  obtain ⟨hslot, hfield⟩ := slot_of_effectOn? hE
  exact Bool.false_ne_true ((h hslot).symm.trans hfield)

end Rule

namespace Entity

variable {e : Entity} {options : ControlOptions} {ctx : Context} {r : Rule} {E F : Effect}
  {field : String} {control : Control}

theorem mem_activeRules : r ∈ e.activeRules ↔ r ∈ e.rules ∧ r.enabled = true := by
  rw [activeRules, List.mem_mergeSort, List.mem_filter]

theorem priority_trans (r s t : Rule) (hrs : decide (r.priority ≤ s.priority) = true)
    (hst : decide (s.priority ≤ t.priority) = true) : decide (r.priority ≤ t.priority) = true := by
  simp only [decide_eq_true_eq] at *
  exact Int32.le_trans hrs hst

theorem priority_total (r s : Rule) :
    (decide (r.priority ≤ s.priority) || decide (s.priority ≤ r.priority)) = true := by
  simpa using Int32.le_total r.priority s.priority

theorem pairwise_activeRules (e : Entity) :
    e.activeRules.Pairwise fun r s => r.priority ≤ s.priority := by
  have hsorted := List.pairwise_mergeSort priority_trans priority_total (e.rules.filter (·.enabled))
  simpa [activeRules] using hsorted

theorem filter_activeRules {keep : Rule → Bool} (p : Int32)
    (hkeep : ∀ r, keep r = true → r.enabled = true ∧ r.priority = p) :
    e.activeRules.filter keep = e.rules.filter keep := by
  have hpairwise : (e.rules.filter keep).Pairwise fun r s =>
      decide (r.priority ≤ s.priority) = true := by
    refine List.pairwise_of_forall_mem_list fun r hr s hs => ?_
    rw [(hkeep r (List.of_mem_filter hr)).2, (hkeep s (List.of_mem_filter hs)).2]
    simp
  have henabled : (e.rules.filter (·.enabled)).filter keep = e.rules.filter keep := by
    rw [List.filter_filter]
    refine List.filter_congr fun r _ => ?_
    by_cases hr : keep r = true
    · simp [(hkeep r hr).1]
    · simp [hr]
  rw [activeRules, filter_mergeSort priority_trans priority_total, henabled,
    List.mergeSort_of_pairwise hpairwise]

theorem priority_le_of_activeRules {s : Rule} {before after : List Rule}
    (hactive : e.activeRules = before ++ r :: after) (hs : s ∈ e.activeRules) (hnot : s ∉ after) :
    s.priority ≤ r.priority := by
  have hsorted := hactive ▸ e.pairwise_activeRules
  rw [hactive] at hs
  rcases List.mem_append.mp hs with hs | hs
  · exact (List.pairwise_append.mp hsorted).2.2 s hs r List.mem_cons_self
  · rcases List.mem_cons.mp hs with rfl | hs
    · exact Int32.le_refl _
    · exact absurd hs hnot

/-- The last rule of a sort that is evaluated stands behind all others of the sort that are enabled
and have its priority. -/
theorem exists_getElem?_of_activeRules {sort : Rule → Bool} {before after : List Rule}
    (hactive : e.activeRules = before ++ r :: after) (hr : sort r = true)
    (hafter : ∀ s ∈ after, sort s = false) :
    ∃ i : Nat, e.rules[i]? = some r ∧ ∀ (j : Nat) (s : Rule), e.rules[j]? = some s →
      s.enabled = true → s.priority = r.priority → sort s = true → j ≤ i := by
  have hmem : r ∈ e.activeRules := by simp [hactive]
  have henabled : r.enabled = true := (mem_activeRules.mp hmem).2
  let keep (s : Rule) : Bool := (s.enabled && decide (s.priority = r.priority)) && sort s
  have hkeep : ∀ s, keep s = true → s.enabled = true ∧ s.priority = r.priority := by
    intro s hs
    simp only [keep, Bool.and_eq_true, decide_eq_true_eq] at hs
    exact hs.1
  have hkeepr : keep r = true := by simp [keep, henabled, hr]
  have hnone : after.filter keep = [] := by
    rw [List.filter_eq_nil_iff]
    intro s hs
    simp [keep, hafter s hs]
  have hkept : e.rules.filter keep = before.filter keep ++ [r] := by
    rw [← filter_activeRules r.priority hkeep, hactive, List.filter_append,
      List.filter_cons_of_pos hkeepr, hnone]
  obtain ⟨i, hi, hlast⟩ := exists_getElem?_of_filter hkept
  exact ⟨i, hi, fun j s hs hs' hp hsort => hlast j s hs (by simp [keep, hs', hp, hsort])⟩

theorem effects_controls (e : Entity) (options : ControlOptions) (ctx : Context) :
    (e.controls options ctx).effects =
      e.activeRules.filterMap fun r => (r.verdict ⟨e, options, ctx⟩).effect? := by
  rw [Controls.effects, controls, List.filterMap_map]
  refine List.filterMap_congr fun r _ => ?_
  simp only [Function.comp_apply]
  cases r.verdict ⟨e, options, ctx⟩ <;> rfl

theorem mem_effects_iff :
    E ∈ (e.controls options ctx).effects ↔ ∃ r ∈ e.rules, r.Fires ⟨e, options, ctx⟩ E := by
  rw [effects_controls, List.mem_filterMap]
  constructor
  · rintro ⟨r, hr, hE⟩
    obtain ⟨hmem, henabled⟩ := mem_activeRules.mp hr
    refine ⟨r, hmem, henabled, ?_⟩
    cases hv : r.verdict ⟨e, options, ctx⟩ <;> simp_all [Verdict.effect?]
  · rintro ⟨r, hr, h⟩
    exact ⟨r, mem_activeRules.mpr ⟨hr, h.enabled⟩, by rw [h.fired]; rfl⟩

theorem winner?_controls (e : Entity) (options : ControlOptions) (ctx : Context) (field : String)
    (control : Control) : (e.controls options ctx).winner? field control =
      (e.activeRules.filterMap (·.effectOn? ⟨e, options, ctx⟩ (field, control))).getLast? := by
  rw [Controls.winner?_eq, effects_controls, List.filter_filterMap]
  rfl

/-- A rule with the effect decides about what the effect controls: no rule that fires for the same
has a greater priority, or the same priority and a later place. -/
def Decides (e : Entity) (options : ControlOptions) (ctx : Context) (E : Effect) : Prop :=
  ∃ (i : Nat) (r : Rule), e.rules[i]? = some r ∧ r.Fires ⟨e, options, ctx⟩ E ∧
    ∀ (j : Nat) (s : Rule) (F : Effect), e.rules[j]? = some s → s.Fires ⟨e, options, ctx⟩ F →
      F.Competes E → s.priority < r.priority ∨ s.priority = r.priority ∧ j ≤ i

theorem Decides.unique (h : e.Decides options ctx E) (h' : e.Decides options ctx F)
    (hc : F.Competes E) : E = F := by
  obtain ⟨i, r, hr, hE, hmax⟩ := h
  obtain ⟨j, s, hs, hF, hmax'⟩ := h'
  have hij := hmax j s F hs hF hc
  have hji := hmax' i r E hr hE ⟨hc.1.symm, hc.2.symm⟩
  have hsame : i = j := by
    rcases hij with hlt | ⟨heq, hle⟩
    · rcases hji with hgt | ⟨heq, -⟩
      · exact absurd hgt (Int32.lt_asymm hlt)
      · exact absurd (heq ▸ hlt) Int32.lt_irrefl
    · rcases hji with hgt | ⟨-, hge⟩
      · exact absurd (heq ▸ hgt) Int32.lt_irrefl
      · omega
  subst hsame
  obtain rfl := Option.some.inj (hr.symm.trans hs)
  exact hE.unique hF

/-- The last effect on a control is that of a rule which decides about it. -/
theorem decides_of_winner? (h : (e.controls options ctx).winner? field control = some E) :
    e.Decides options ctx E ∧ E.slot = (field, control) := by
  rw [winner?_controls] at h
  obtain ⟨before, r, after, hactive, hr, hnone⟩ := exists_of_getLast?_filterMap h
  obtain ⟨hfired, hslot⟩ := Rule.effectOn?_eq_some_iff.mp hr
  have hmem : r ∈ e.activeRules := by simp [hactive]
  have hE : r.Fires ⟨e, options, ctx⟩ E := ⟨(mem_activeRules.mp hmem).2, hfired⟩
  let affects (s : Rule) : Bool := (s.effectOn? ⟨e, options, ctx⟩ (field, control)).isSome
  have hafter : ∀ s ∈ after, affects s = false := fun s hs => by simp [affects, hnone s hs]
  obtain ⟨i, hi, hlast⟩ := exists_getElem?_of_activeRules hactive (by simp [affects, hr]) hafter
  refine ⟨⟨i, r, hi, hE, fun j s F hs hF hc => ?_⟩, hslot⟩
  have haffects : affects s = true := by
    have hsF : s.effectOn? ⟨e, options, ctx⟩ (field, control) = some F :=
      Rule.effectOn?_eq_some_iff.mpr ⟨hF.fired, hslot ▸ (Effect.competes_iff.mp hc).symm⟩
    simp [affects, hsF]
  have hnot : s ∉ after := fun hmem => Bool.false_ne_true ((hafter s hmem).symm.trans haffects)
  have hle : s.priority ≤ r.priority :=
    priority_le_of_activeRules hactive
      (mem_activeRules.mpr ⟨List.mem_of_getElem? hs, hF.enabled⟩) hnot
  rcases Int32.lt_or_eq_of_le hle with hlt | heq
  · exact .inl hlt
  · exact .inr ⟨heq, hlast j s hs hF.enabled heq haffects⟩

end Entity

end FormLogic
