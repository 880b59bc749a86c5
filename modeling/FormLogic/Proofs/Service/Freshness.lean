import FormLogic.Proofs.Calculation.Givens
import FormLogic.Proofs.Controls.Echo
import FormLogic.Service

/-! What stored values of calculated fields have to do with conflicts. Rules see the calculated
values laid over the stored ones, so that the value stored for a field which fails by now is still
there, and a conflict can hang on it. -/

namespace FormLogic

variable {e : Entity} {p : Project} {stored others : FieldValues} {name formula : String}

theorem Calculation.get?_merged (c : Calculation) (inputs : FieldValues) (name : String) :
    (c.merged inputs).get? name = (c.values.get? name).or (inputs.get? name) :=
  Dictionary.get?_overlay ..

namespace Entity

/-- Rules see of a calculated field its calculated value or nothing, unless it failed and a value
is stored for it. -/
theorem get?_merged_eq_iff (hf : e.formula? name = some formula) :
    ((e.calculate stored .standard).merged stored).get? name =
        (e.calculate stored .standard).values.get? name ↔
      ((e.calculate stored .standard).errors.contains name = true → stored.get? name = none) := by
  rw [Calculation.get?_merged, ← get?_values_eq_none_iff hf]
  cases (e.calculate stored .standard).values.get? name with
  | none => simp
  | some v => simp

theorem alike_merged_iff (h : e.SameGivens stored others) :
    FieldValues.Alike ((e.calculate stored .standard).merged stored)
        ((e.calculate others .standard).merged others) ↔
      ∀ name, IsFieldName name → (e.calculate stored .standard).errors.contains name = true →
        stored.get? name = others.get? name := by
  rw [← calculate_congr h]
  refine forall_congr' fun name => imp_congr_right fun _ => ?_
  rw [Calculation.get?_merged, Calculation.get?_merged]
  cases hf : e.formula? name with
  | none => simp [h name hf]
  | some formula =>
    rw [← get?_values_eq_none_iff hf]
    cases (e.calculate stored .standard).values.get? name with
    | none => simp
    | some v => simp

end Entity

namespace Service

variable {s s' : Service} {o : Override} {now : Timestamp}

/-- The value that rules set a field to, over calculated values laid over stored ones. -/
def ruledValue (options : ControlOptions) (e : Entity) (stored : FieldValues) (field : String) :
    Option Value :=
  ((e.controls options
    ⟨(e.calculate stored .standard).merged stored, .standard⟩).fieldState field).value

theorem refresh_of_loadSubject (h : s.loadSubject o.project = .ok ⟨p, e⟩) :
    s.refresh o now = ((Conflict.detect o.field o.given
      ((e.calculate p.values .standard).values.get? o.field)
      (ruledValue s.options e p.values o.field)).mapError .conflict).map
        fun found => (found, o.applyConflict found now) := by
  simp only [refresh, findConflict, assess, h, Assessment.conflict, controlsOf, ruledValue, bind,
    Except.bind, pure, Except.pure]
  cases Conflict.detect o.field o.given ((e.calculate p.values .standard).values.get? o.field)
    ((e.controls s.options
      ⟨(e.calculate p.values .standard).merged p.values, .standard⟩).fieldState o.field).value <;>
    rfl

def holding (p : Project) (e : Entity) : Service where
  projects := some fun _ => .ok (some p)
  entities := some fun _ => .ok (some e)
  options := {}

theorem loadSubject_holding (hid : isRecordId p.id = true) (hentity : isRecordId p.entity = true) :
    (holding p e).loadSubject p.id = .ok ⟨p, e⟩ := by
  simp [holding, loadSubject, loadProject, loadEntity, RecordKind.load, hid, hentity, bind,
    Except.bind, pure, Except.pure]

end Service

namespace Conflict

theorem agrees_text_iff {t : String} {v : Value} : (Value.text t).agrees v = true ↔ v = .text t := by
  cases v <;> simp [Value.agrees, eq_comm]

theorem exists_text_ne (c d : Option Value) : ∃ t, c ≠ some (.text t) ∧ d ≠ some (.text t) := by
  by_contra h
  simp only [not_exists, not_and_or, not_not] at h
  have hempty := h ""
  have ha := h "a"
  have hb := h "b"
  rcases hempty with rfl | rfl <;> rcases ha with ha | ha <;> rcases hb with hb | hb <;> simp_all

theorem eq_of_detect_eq {field t : String} {c d : Option Value}
    (hfield : Text.isBlankText field = false) (hc : c ≠ some (.text t)) (hd : d ≠ some (.text t))
    (h : detect field (.text t) none c = detect field (.text t) none d) : c = d := by
  have hdetect : ∀ {c : Option Value}, c ≠ some (.text t) →
      ∃ found, detect field (.text t) none c = .ok found ∧ found.bind (·.control) = c := by
    intro c hc
    refine ⟨between? field (.text t) none c, by simp [detect, guardField, hfield], ?_⟩
    cases c with
    | none => rfl
    | some v =>
      have hagrees : ¬ (Value.text t).agrees v = true := fun h => hc (agrees_text_iff.mp h ▸ rfl)
      simp [between?, withControl?, hagrees]
  obtain ⟨found, hfound, rfl⟩ := hdetect hc
  obtain ⟨other, hother, rfl⟩ := hdetect hd
  rw [hfound, hother] at h
  rw [Except.ok.inj h]

end Conflict

namespace Service

theorem refresh_eq_of_alike {s s' : Service} {o : Override} {now : Timestamp}
    (hgivens : e.SameGivens stored others) (hoptions : s.options = s'.options)
    (halike : FieldValues.Alike ((e.calculate stored .standard).merged stored)
      ((e.calculate others .standard).merged others))
    (hs : s.loadSubject o.project = .ok ⟨{ p with values := stored }, e⟩)
    (hs' : s'.loadSubject o.project = .ok ⟨{ p with values := others }, e⟩) :
    s.refresh o now = s'.refresh o now := by
  have hruled : ruledValue s.options e stored o.field = ruledValue s'.options e others o.field := by
    rw [ruledValue, ruledValue, halike.controls, hoptions]
  rw [refresh_of_loadSubject hs, refresh_of_loadSubject hs', hruled, Entity.calculate_congr hgivens]

theorem ruledValue_echoing (options : ControlOptions) (hname : IsFieldName name)
    (herror : (e.calculate stored .standard).errors.contains name = true) :
    ruledValue options (e.echoing name) stored name = stored.get? name := by
  obtain ⟨formula, hf⟩ := Entity.isSome_formula?_of_contains_errors herror
  rw [ruledValue, value_fieldState_echoing hname (Entity.hasField_of_formula? hf),
    Calculation.get?_merged, Entity.echoing, Entity.calculate_withRules,
    (Entity.get?_values_eq_none_iff hf).mpr herror, Option.none_or]

theorem refresh_echoing {o : Override} {now : Timestamp} (hid : isRecordId p.id = true)
    (hentity : isRecordId p.entity = true) (hname : IsFieldName name)
    (herror : (e.calculate p.values .standard).errors.contains name = true)
    (hproject : o.project = p.id) (hfield : o.field = name) :
    (holding p (e.echoing name)).refresh o now =
      ((Conflict.detect name o.given none (p.values.get? name)).mapError .conflict).map
        fun found => (found, o.applyConflict found now) := by
  obtain ⟨formula, hf⟩ := Entity.isSome_formula?_of_contains_errors herror
  have hload : (holding p (e.echoing name)).loadSubject o.project = .ok ⟨p, e.echoing name⟩ := by
    rw [hproject]
    exact loadSubject_holding hid hentity
  rw [refresh_of_loadSubject hload, hfield, ruledValue_echoing _ hname herror, Entity.echoing,
    Entity.calculate_withRules, (Entity.get?_values_eq_none_iff hf).mpr herror]

theorem eq_of_refreshed_eq {x y : Except InvalidFieldId (Option Conflict)} {o : Override}
    {now : Timestamp}
    (h : (x.mapError ServiceError.conflict).map (fun found => (found, o.applyConflict found now)) =
      (y.mapError ServiceError.conflict).map fun found => (found, o.applyConflict found now)) :
    x = y := by
  cases x <;> cases y <;> simp_all [Except.mapError, Except.map]

/-- If no override can tell two stored values of a failed field apart, among echoes of the field,
then the values are the same. -/
theorem stored_eq_of_refresh_eq (hid : isRecordId p.id = true)
    (hentity : isRecordId p.entity = true) (hgivens : e.SameGivens stored others)
    (hname : IsFieldName name)
    (herror : (e.calculate stored .standard).errors.contains name = true)
    (h : ∀ o now, o.project = p.id →
      (holding { p with values := stored } (e.echoing name)).refresh o now =
        (holding { p with values := others } (e.echoing name)).refresh o now) :
    stored.get? name = others.get? name := by
  have hblank : Text.isBlankText name = false := by
    by_contra hblank
    rw [IsFieldName, Expr.parse, if_pos (by simpa using hblank)] at hname
    cases hname
  obtain ⟨t, hstored, hothers⟩ := Conflict.exists_text_ne (stored.get? name) (others.get? name)
  have hrefresh := h (.new "" p.id name (.text t) .null none default) default rfl
  rw [refresh_echoing (p := { p with values := stored }) hid hentity hname herror rfl rfl,
    refresh_echoing (p := { p with values := others }) hid hentity hname
      (Entity.calculate_congr hgivens ▸ herror) rfl rfl] at hrefresh
  exact Conflict.eq_of_detect_eq hblank hstored hothers (eq_of_refreshed_eq hrefresh)

/-- Rules are shown for a calculated field its calculated value or nothing, never a stored one,
exactly if nothing is stored for it or it has not failed. Refreshes cannot tell two projects apart
that differ in what is stored for calculated fields, whatever the rules and the override, exactly if
the same is stored for every failed field that formulas can name. -/
theorem refresh_eq_iff_stored_eq (hid : isRecordId p.id = true)
    (hentity : isRecordId p.entity = true) (hgivens : e.SameGivens stored others) :
    (∀ name formula, e.formula? name = some formula →
      (((e.calculate stored .standard).merged stored).get? name =
          (e.calculate stored .standard).values.get? name ↔
        ((e.calculate stored .standard).errors.contains name = true →
          stored.get? name = none))) ∧
    ((∀ (rules : Field → List Rule) (s s' : Service) (o : Override) (now : Timestamp),
        s.options = s'.options →
        s.loadSubject o.project = .ok ⟨{ p with values := stored }, e.withRules rules⟩ →
        s'.loadSubject o.project = .ok ⟨{ p with values := others }, e.withRules rules⟩ →
        s.refresh o now = s'.refresh o now) ↔
      ∀ name, IsFieldName name → (e.calculate stored .standard).errors.contains name = true →
        stored.get? name = others.get? name) := by
  refine ⟨fun name formula hf => Entity.get?_merged_eq_iff hf, fun h name hname herror => ?_,
    fun h rules s s' o now hoptions hs hs' => ?_⟩
  · refine stored_eq_of_refresh_eq hid hentity hgivens hname herror fun o now hproject => ?_
    refine h (fun _ => [.echo name]) _ _ o now rfl ?_ ?_
    · rw [hproject]
      exact loadSubject_holding hid hentity
    · rw [hproject]
      exact loadSubject_holding hid hentity
  · have hgivens' : (e.withRules rules).SameGivens stored others := fun name hf =>
      hgivens name ((Entity.formula?_withRules rules name).symm.trans hf)
    refine refresh_eq_of_alike hgivens' hoptions ?_ hs hs'
    simpa only [Entity.calculate_withRules] using (Entity.alike_merged_iff hgivens).mpr h

/-- An order whose total needs a price, with a discount for large totals. -/
def discountedOrder : Entity :=
  ⟨"order", "Order",
    [⟨"qty", "Quantity", .number, none, []⟩,
     ⟨"price", "Price", .number, none, []⟩,
     ⟨"total", "Total", .calculated, some "qty * price", []⟩,
     ⟨"discount", "Discount", .number, none,
       [⟨"bulk", "Bulk discount", "total > 100", ⟨.valueSet, "discount", .literal (.integer 10)⟩,
         true, 0⟩]⟩]⟩

def orderValues (price : Option Value) (total : Value) : FieldValues :=
  (Dictionary.ofList (("qty", .integer 3) :: price.toList.map ("price", ·))).insert "total" total

def orderOf (values : FieldValues) : Project := ⟨"order-1", "Order 1", "order", values⟩

def discountOverride : Override :=
  .new "override-1" "order-1" "discount" (.integer 5) .null none default

theorem sameGivens_orderValues (price : Option Value) (v w : Value) :
    discountedOrder.SameGivens (orderValues price v) (orderValues price w) := by
  have hformula : discountedOrder.formula? "total" = some "qty * price" := by decide
  exact Entity.sameGivens_insert hformula _ v w

/-- Refreshes can tell projects apart that differ only in what is stored for a calculated field:
the old total of an order that has lost its price still brings about a discount. -/
theorem refresh_ne_of_stale_total :
    ¬ ∀ (s s' : Service) (p : Project) (e : Entity) (stored others : FieldValues) (o : Override)
      (now : Timestamp), e.SameGivens stored others → s.options = s'.options →
        s.loadSubject o.project = .ok ⟨{ p with values := stored }, e⟩ →
        s'.loadSubject o.project = .ok ⟨{ p with values := others }, e⟩ →
        s.refresh o now = s'.refresh o now := by
  intro h
  have hid : isRecordId "order-1" = true := by decide
  have hentity : isRecordId "order" = true := by decide
  have hrefresh := h (holding (orderOf (orderValues none (.integer 500))) discountedOrder)
    (holding (orderOf (orderValues none (.integer 50))) discountedOrder) (orderOf .empty)
    discountedOrder _ _ discountOverride default
    (sameGivens_orderValues none (.integer 500) (.integer 50)) rfl
    (loadSubject_holding (p := orderOf (orderValues none (.integer 500))) hid hentity)
    (loadSubject_holding (p := orderOf (orderValues none (.integer 50))) hid hentity)
  revert hrefresh
  decide +kernel

theorem refresh_eq_iff_stored_eq_pricedOrder :
    isRecordId (orderOf .empty).id = true ∧ isRecordId (orderOf .empty).entity = true ∧
      ∀ (rules : Field → List Rule) (s s' : Service) (o : Override) (now : Timestamp),
        s.options = s'.options →
        s.loadSubject o.project = .ok ⟨{ orderOf .empty with
          values := orderValues (some (.integer 2)) (.integer 500) },
            discountedOrder.withRules rules⟩ →
        s'.loadSubject o.project = .ok ⟨{ orderOf .empty with
          values := orderValues (some (.integer 2)) (.integer 50) },
            discountedOrder.withRules rules⟩ →
        s.refresh o now = s'.refresh o now := by
  have hid : isRecordId (orderOf .empty).id = true := by decide
  have hentity : isRecordId (orderOf .empty).entity = true := by decide
  have herrors : (discountedOrder.calculate
      (orderValues (some (.integer 2)) (.integer 500)) .standard).errors.keys = [] := by
    decide +kernel
  refine ⟨hid, hentity, (refresh_eq_iff_stored_eq hid hentity
    (sameGivens_orderValues (some (.integer 2)) (.integer 500) (.integer 50))).2.mpr ?_⟩
  intro name _ herror
  rw [← Dictionary.mem_keys_iff, herrors] at herror
  cases herror

end Service

end FormLogic
