import FormLogic.Proofs.Controls.FieldStates
import FormLogic.Proofs.Override.Calls
import FormLogic.Proofs.Service.Freshness

/-! Refreshes of an override in place. A refresh that fails leaves the override as it was, and one
that succeeds notes on it how its value differs from those that the formula and the rules give the
field by now. -/

namespace FormLogic

namespace Conflict

variable {field : String} {given : Value} {computed control : Option Value} {c : Conflict}

theorem between?_eq_none_iff : between? field given computed control = none ↔
    (∃ v, (computed = some v ∨ control = some v) ∧ given.agrees v = true) ∨
      computed = none ∧ control = none := by
  cases computed with
  | none =>
    cases control with
    | none => simp [between?]
    | some w => simp [between?, withControl?]
  | some v =>
    cases control with
    | none => simp [between?, withFormula?]
    | some w =>
      by_cases hv : given.agrees v = true
      · simp [between?, withBoth?, hv]
      · simp [between?, withBoth?, hv]

/-- A conflict tells which values there are. -/
theorem between?_eq_some (h : between? field given computed control = some c) :
    c.field = field ∧ c.given = given ∧ c.computed = computed ∧ c.control = control ∧
      (c.kind = .formula ↔ computed.isSome = true ∧ control = none) ∧
      (c.kind = .control ↔ computed = none ∧ control.isSome = true) ∧
      (c.kind = .formulaControl ↔ computed.isSome = true ∧ control.isSome = true) := by
  cases computed with
  | none =>
    cases control with
    | none => simp [between?] at h
    | some w =>
      obtain ⟨-, rfl⟩ := by simpa [between?, withControl?] using h
      simp
  | some v =>
    cases control with
    | none =>
      obtain ⟨-, rfl⟩ := by simpa [between?, withFormula?] using h
      simp
    | some w =>
      obtain ⟨-, rfl⟩ := by simpa [between?, withBoth?] using h
      simp

theorem detect_eq_ok_iff {found : Option Conflict} :
    detect field given computed control = .ok found ↔
      Text.isBlankText field = false ∧ between? field given computed control = found := by
  by_cases h : Text.isBlankText field = true
  · simp [detect, guardField, h]
  · simp [detect, guardField, h]

theorem detect_eq_error_iff {e : InvalidFieldId} :
    detect field given computed control = .error e ↔ Text.isBlankText field = true ∧ e = ⟨field⟩ := by
  by_cases h : Text.isBlankText field = true
  · simp [detect, guardField, h, eq_comm]
  · simp [detect, guardField, h]

/-- A conflict says whose value an override differs from. -/
structure Accounts (c : Conflict) (o : Override) (computes rules : Value → Prop) : Prop where
  field : c.field = o.field
  given : c.given = o.given
  computed : ∀ v, c.computed = some v ↔ computes v
  control : ∀ v, c.control = some v ↔ rules v
  ofFormula : c.kind = .formula ↔ (∃ v, computes v) ∧ ¬ ∃ v, rules v
  ofControl : c.kind = .control ↔ (¬ ∃ v, computes v) ∧ ∃ v, rules v
  ofBoth : c.kind = .formulaControl ↔ (∃ v, computes v) ∧ ∃ v, rules v

end Conflict

namespace Subject

def Computes (b : Subject) (field : String) (v : Value) : Prop :=
  (b.entity.calculate b.project.values .standard).values.get? field = some v

/-- Of the rules, the one that decides about the value of a field sets it to a value. Rules see the
calculated values laid over the stored ones. -/
def Rules (b : Subject) (options : ControlOptions) (field : String) (v : Value) : Prop :=
  b.entity.Sets options
    ⟨(b.entity.calculate b.project.values .standard).merged b.project.values, .standard⟩
    field .valueSet v

/-- What there is to be found about an override. -/
structure Finds (b : Subject) (options : ControlOptions) (o : Override)
    (found : Option Conflict) : Prop where
  none_iff : found = none ↔
    (∃ v, (b.Computes o.field v ∨ b.Rules options o.field v) ∧ o.given.agrees v = true) ∨
      ∀ v, ¬ b.Computes o.field v ∧ ¬ b.Rules options o.field v
  accounts : ∀ c, found = some c → c.Accounts o (b.Computes o.field) (b.Rules options o.field)

theorem ruledValue_eq_some_iff {b : Subject} {options : ControlOptions} {field : String}
    {v : Value} : Service.ruledValue options b.entity b.project.values field = some v ↔
      b.Rules options field v := by
  simp only [Service.ruledValue, Controls.fieldState, Option.map_eq_some_iff,
    Entity.winner?_eq_some_iff, Rules, Entity.Sets, and_assoc]

theorem finds_between? (b : Subject) (options : ControlOptions) (o : Override) :
    b.Finds options o (Conflict.between? o.field o.given
      ((b.entity.calculate b.project.values .standard).values.get? o.field)
      (Service.ruledValue options b.entity b.project.values o.field)) where
  none_iff := by
    rw [Conflict.between?_eq_none_iff]
    simp only [Option.eq_none_iff_forall_ne_some, ← forall_and, ne_eq, ruledValue_eq_some_iff]
    rfl
  accounts := by
    intro c hc
    obtain ⟨hfield, hgiven, hcomputed, hcontrol, hkinds⟩ := Conflict.between?_eq_some hc
    simp only [Option.isSome_iff_exists, Option.eq_none_iff_forall_ne_some, ne_eq,
      ← not_exists, ruledValue_eq_some_iff] at hkinds
    exact {
      field := hfield
      given := hgiven
      computed := fun v => by rw [hcomputed]; rfl
      control := fun v => by rw [hcontrol, ruledValue_eq_some_iff]
      ofFormula := hkinds.1
      ofControl := hkinds.2.1
      ofBoth := hkinds.2.2 }

end Subject

theorem RecordKind.load_eq_ok_iff {α : Type} {kind : RecordKind} {repository : Option (Repository α)}
    {id : String} {record : α} : kind.load repository id = .ok record ↔
      isRecordId id = true ∧ ∃ answer, repository = some answer ∧ answer id = .ok (some record) := by
  cases repository with
  | none => simp [load]
  | some answer =>
    by_cases hid : isRecordId id = true
    · cases h : answer id with
      | error e => simp [load, hid, h]
      | ok stored =>
        cases stored with
        | none => simp [load, hid, h]
        | some record' => simp [load, hid, h]
    · simp [load, hid]

namespace Service

/-- The repositories answer with a project and its entity. -/
structure Holds (s : Service) (id : String) (b : Subject) : Prop where
  project : isRecordId id = true ∧
    ∃ answer, s.projects = some answer ∧ answer id = .ok (some b.project)
  entity : isRecordId b.project.entity = true ∧
    ∃ answer, s.entities = some answer ∧ answer b.project.entity = .ok (some b.entity)

theorem loadSubject_eq_ok_iff {s : Service} {id : String} {b : Subject} :
    s.loadSubject id = .ok b ↔ s.Holds id b := by
  simp only [loadSubject, bind_eq_ok_iff, loadProject, loadEntity, RecordKind.load_eq_ok_iff]
  constructor
  · rintro ⟨project, hproject, entity, hentity, ⟨⟩⟩
    exact ⟨hproject, hentity⟩
  · intro h
    exact ⟨b.project, h.project, b.entity, h.entity, rfl⟩

def refreshInPlace (s : Service) (now : Timestamp) :
    Override.Procedure ServiceError (Option Conflict) := do
  let o ← get
  let subject ← MonadExcept.ofExcept (s.loadSubject o.project)
  let calculation := subject.entity.calculate subject.project.values .standard
  let controls := s.controlsOf subject.entity (calculation.merged subject.project.values)
  let found ← MonadExcept.ofExcept ((Conflict.detect o.field o.given
    (calculation.values.get? o.field) (controls.fieldState o.field).value).mapError .conflict)
  Override.note (found.map (·.kind)) now
  return found

theorem run_ofExcept_bind {ε α β : Type} (x : Except ε α) (next : α → Override.Procedure ε β)
    (o : Override) : (MonadExcept.ofExcept x >>= next : Override.Procedure ε β).run o =
      match x with
      | .ok a => (next a).run o
      | .error e => .error e o := by
  cases x <;> rfl

theorem refresh_of_loadSubject_eq_error {s : Service} {o : Override} {error : ServiceError}
    (h : s.loadSubject o.project = .error error) (now : Timestamp) :
    s.refresh o now = .error error := by
  rw [refresh, findConflict, assess, h]
  rfl

/-- The only change is made when nothing can fail any more. -/
theorem run_refreshInPlace (s : Service) (o : Override) (now : Timestamp) :
    (s.refreshInPlace now).run o = o.settle (s.refresh o now) := by
  rw [refreshInPlace, EStateM.run_bind, EStateM.run_get]
  simp only [run_ofExcept_bind]
  cases hload : s.loadSubject o.project with
  | error e =>
    rw [refresh_of_loadSubject_eq_error hload]
    rfl
  | ok b =>
    simp only [refresh_of_loadSubject hload, ruledValue, controlsOf]
    cases (Conflict.detect o.field o.given
      ((b.entity.calculate b.project.values .standard).values.get? o.field)
      ((b.entity.controls s.options
        ⟨(b.entity.calculate b.project.values .standard).merged b.project.values,
          .standard⟩).fieldState o.field).value) with
    | error e => rfl
    | ok found => rfl

/-- What can come of a refresh. -/
inductive Refreshes (s : Service) (o : Override) (now : Timestamp) :
    EStateM.Result ServiceError Override (Option Conflict) → Prop where
  | unloaded {error : ServiceError} : s.loadSubject o.project = .error error →
      Refreshes s o now (.error error o)
  | refused {b : Subject} : s.Holds o.project b → Text.isBlankText o.field = true →
      Refreshes s o now (.error (.conflict ⟨o.field⟩) o)
  | noted {b : Subject} {found : Option Conflict} : s.Holds o.project b →
      Text.isBlankText o.field = false → b.Finds s.options o found →
      Refreshes s o now (.ok found { o with conflict := found.map (·.kind), updatedAt := now })

theorem refreshes_run (s : Service) (o : Override) (now : Timestamp) :
    s.Refreshes o now ((s.refreshInPlace now).run o) := by
  rw [run_refreshInPlace]
  cases hload : s.loadSubject o.project with
  | error e =>
    rw [refresh_of_loadSubject_eq_error hload]
    exact .unloaded hload
  | ok b =>
    have hholds := loadSubject_eq_ok_iff.mp hload
    rw [refresh_of_loadSubject hload]
    cases hdetect : Conflict.detect o.field o.given
      ((b.entity.calculate b.project.values .standard).values.get? o.field)
      (ruledValue s.options b.entity b.project.values o.field) with
    | error e =>
      obtain ⟨hblank, rfl⟩ := Conflict.detect_eq_error_iff.mp hdetect
      exact .refused hholds hblank
    | ok found =>
      obtain ⟨hfield, rfl⟩ := Conflict.detect_eq_ok_iff.mp hdetect
      exact .noted hholds hfield (b.finds_between? s.options o)

/-- A refresh reads of an override the project, the field and the value, and changes two fields. -/
theorem run_refreshInPlace_congr {s : Service} {o o' after : Override} {now now' : Timestamp}
    {found : Option Conflict} (h : (s.refreshInPlace now).run o = .ok found after)
    (hproject : o'.project = o.project) (hfield : o'.field = o.field) (hgiven : o'.given = o.given) :
    (s.refreshInPlace now').run o' =
      .ok found { o' with conflict := found.map (·.kind), updatedAt := now' } := by
  have hfind : s.findConflict o' = s.findConflict o := by
    simp only [findConflict, Assessment.conflict, hproject, hfield, hgiven]
  rw [run_refreshInPlace, refresh] at h ⊢
  rw [hfind]
  cases hfound : s.findConflict o with
  | error e =>
    rw [hfound] at h
    cases h
  | ok c =>
    rw [hfound] at h
    cases h
    rfl

/-- A refresh that has succeeded. -/
structure Refreshed (s : Service) (o : Override) (now : Timestamp) (found : Option Conflict)
    (after : Override) : Prop where
  record : after = { o with conflict := found.map (·.kind), updatedAt := now }
  finds : ∃ b, s.Holds o.project b ∧ b.Finds s.options o found
  alike : ∀ o' now', o'.project = o.project → o'.field = o.field → o'.given = o.given →
    (s.refreshInPlace now').run o' =
      .ok found { o' with conflict := found.map (·.kind), updatedAt := now' }
  again : ∀ now', (s.refreshInPlace now').run after = .ok found { after with updatedAt := now' }

/-- A refresh either succeeds, which it does exactly if the repositories answer and the field has a
name, or it leaves the whole override as it was. -/
theorem refreshInPlace_atomic (s : Service) (o : Override) (now : Timestamp) :
    ((∃ found after, (s.refreshInPlace now).run o = .ok found after) ↔
      Text.isBlankText o.field = false ∧ ∃ b, s.Holds o.project b) ∧
    (∀ error after, (s.refreshInPlace now).run o = .error error after → after = o) ∧
    ∀ found after, (s.refreshInPlace now).run o = .ok found after →
      s.Refreshed o now found after := by
  have hrefreshes := s.refreshes_run o now
  refine ⟨⟨?_, ?_⟩, ?_, ?_⟩
  · rintro ⟨found, after, h⟩
    rw [h] at hrefreshes
    cases hrefreshes with
    | @noted b _ hholds hfield _ => exact ⟨hfield, b, hholds⟩
  · rintro ⟨hfield, b, hholds⟩
    cases hrun : (s.refreshInPlace now).run o with
    | ok found after => exact ⟨found, after, rfl⟩
    | error error after =>
      rw [hrun] at hrefreshes
      cases hrefreshes with
      | unloaded hload =>
        rw [loadSubject_eq_ok_iff.mpr hholds] at hload
        cases hload
      | refused _ hblank =>
        rw [hfield] at hblank
        cases hblank
  · intro error after h
    rw [h] at hrefreshes
    cases hrefreshes with
    | unloaded _ => rfl
    | refused _ _ => rfl
  · intro found after h
    have halike : ∀ o' now', o'.project = o.project → o'.field = o.field → o'.given = o.given →
        (s.refreshInPlace now').run o' =
          .ok found { o' with conflict := found.map (·.kind), updatedAt := now' } :=
      fun _ _ hproject hfield hgiven => run_refreshInPlace_congr h hproject hfield hgiven
    rw [h] at hrefreshes
    cases hrefreshes with
    | @noted b _ hholds _ hfinds =>
      exact {
        record := rfl
        finds := ⟨b, hholds, hfinds⟩
        alike := halike
        again := fun now' => halike _ now' rfl rfl rfl }

def discountConflict : Conflict :=
  ⟨"discount", .control, .integer 5, none, some (.integer 10),
    "Override 5 differs from control rule value 10 for field 'discount'"⟩

theorem refreshInPlace_atomic_discountOverride :
    let s := holding (orderOf (orderValues (some (.integer 50)) .null)) discountedOrder
    let bare : Service := ⟨none, none, {}⟩
    let after := discountOverride.applyConflict (some discountConflict) default
    (s.refreshInPlace default).run discountOverride = .ok (some discountConflict) after ∧
      s.Refreshed discountOverride default (some discountConflict) after ∧
      ∃ error left, (bare.refreshInPlace default).run discountOverride = .error error left ∧
        left = discountOverride := by
  intro s bare after
  have hrefresh : s.refresh discountOverride default = .ok (some discountConflict, after) := by
    decide +kernel
  have hrun : (s.refreshInPlace default).run discountOverride =
      .ok (some discountConflict) after := by
    rw [run_refreshInPlace, hrefresh]
    rfl
  have hbare : (bare.refreshInPlace default).run discountOverride =
      .error (.noRepository .project) discountOverride := rfl
  exact ⟨hrun, (s.refreshInPlace_atomic discountOverride default).2.2 _ _ hrun,
    _, _, hbare, (bare.refreshInPlace_atomic discountOverride default).2.1 _ _ hbare⟩

end Service

end FormLogic
