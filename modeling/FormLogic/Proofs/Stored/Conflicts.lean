import FormLogic.Proofs.Json.Layouts
import FormLogic.Proofs.Service.Refresh
import FormLogic.Proofs.Stored.Values
import FormLogic.Stored.Override

/-! What storing keeps of a conflict. A value of null is written like one that is not there, so it
is not there when the conflict is read back. -/

namespace FormLogic

open Json

theorem Value.Storable.toJson_ne_null {v : Value} (h : v.Storable) (hv : v ≠ .null) :
    v.toJson ≠ .null := by
  cases h with
  | null => exact absurd rfl hv
  | float hfinite => simp [toJson, hfinite]
  | boolean | integer | text | list | map => simp [toJson]

def Value.unlessNull (v : Option Value) : Option Value := v.filter fun w => !w.isNull

theorem Value.unlessNull_eq_self_iff {v : Option Value} : unlessNull v = v ↔ v ≠ some .null := by
  cases v with
  | none => simp [unlessNull]
  | some v => cases v <;> simp [unlessNull, isNull, Option.filter]

theorem Value.storable_ofOption {v : Option Value} (h : ∀ w ∈ v, w.Storable) :
    (ofOption toJson v).Storable := by
  cases v with
  | none => exact .null
  | some v => exact (h v rfl).restores.storable

theorem Value.optional_ofOption {members : Members} {name : String} {v : Option Value} {depth : Nat}
    (h : ∀ w ∈ v, w.Storable) (hdepth : (ofOption toJson v).nesting ≤ depth)
    (hmember : valueOf? name members = some (ofOption toJson v)) :
    members.optional name (ofJson? depth) = some (unlessNull v) := by
  cases v with
  | none => exact optional_of_null hmember
  | some v =>
    by_cases hv : v = .null
    · subst hv
      exact optional_of_null hmember
    · have hkept : unlessNull (some v) = some v := unlessNull_eq_self_iff.mpr (by simpa using hv)
      rw [optional_of_ne_null hmember ((h v rfl).toJson_ne_null hv), hkept]
      exact congrArg (Option.map some) ((h v rfl).restores.reads depth hdepth)

namespace Conflict

/-- Conflicts between values that storing keeps. -/
structure Storable (c : Conflict) : Prop where
  given : c.given.Storable
  computed : ∀ v ∈ c.computed, v.Storable
  control : ∀ v ∈ c.control, v.Storable

/-- The conflict without values of null that a formula or a rule gives. -/
def withoutNulls (c : Conflict) : Conflict :=
  { c with computed := Value.unlessNull c.computed, control := Value.unlessNull c.control }

theorem withoutNulls_eq_self_iff {c : Conflict} :
    c.withoutNulls = c ↔ c.computed ≠ some .null ∧ c.control ≠ some .null := by
  rw [← Value.unlessNull_eq_self_iff, ← Value.unlessNull_eq_self_iff]
  constructor
  · intro h
    exact ⟨congrArg computed h, congrArg control h⟩
  · rintro ⟨hcomputed, hcontrol⟩
    rw [withoutNulls, hcomputed, hcontrol]

theorem Storable.storable_toJson {c : Conflict} (h : c.Storable) :
    c.toJson.Storable :=
  .object (by simp) (by simpa using ⟨.text _, .text _, h.given.restores.storable,
    Value.storable_ofOption h.computed, Value.storable_ofOption h.control, .text _⟩)

theorem Storable.ofJson?_toJson {c : Conflict} (h : c.Storable) {depth : Nat}
    (hdepth : c.toJson.nesting ≤ depth) : ofJson? depth c.toJson = some c.withoutNulls := by
  have hgiven := h.given.restores.reads (depth - 1)
    (nesting_le_of_mem_members (m := ("override_value", c.given.toJson)) (by simp) hdepth)
  have hcomputed := nesting_le_of_mem_members
    (m := ("computed_value", ofOption Value.toJson c.computed)) (by simp) hdepth
  have hcontrol := nesting_le_of_mem_members
    (m := ("control_value", ofOption Value.toJson c.control)) (by simp) hdepth
  rw [toJson, ofJson?, members?_object (by rfl) (by decide)]
  simp (disch := decide) only [Members.required, valueOf?_head, valueOf?_tail, Option.bind_eq_bind,
    Option.bind_some, text?, ConflictKind.toJson, ConflictKind.ofJson?, named?,
    ConflictKind.ofName?_name, hgiven]
  rw [Value.optional_ofOption h.computed hcomputed
      (by simp (disch := decide) only [valueOf?_head, valueOf?_tail]),
    Value.optional_ofOption h.control hcontrol
      (by simp (disch := decide) only [valueOf?_head, valueOf?_tail])]
  rfl

theorem Storable.read?_write {c : Conflict} (h : c.Storable) {format : TextFormat}
    (hformat : format.Faithful) (hdepth : c.toJson.nesting ≤ format.nestingLimit) :
    (format.read? (format.write c.toJson)).bind (ofJson? format.nestingLimit) =
      some c.withoutNulls := by
  rw [hformat.read?_write h.storable_toJson hdepth, Option.bind_some, h.ofJson?_toJson hdepth]

variable {field : String} {given : Value} {computed control : Option Value} {c : Conflict}

theorem storable_of_detect (h : detect field given computed control = .ok (some c))
    (hgiven : given.Storable) (hcomputed : ∀ v ∈ computed, v.Storable)
    (hcontrol : ∀ v ∈ control, v.Storable) : c.Storable := by
  obtain ⟨-, rfl, rfl, rfl, -⟩ := between?_eq_some (detect_eq_ok_iff.mp h).2
  exact ⟨hgiven, hcomputed, hcontrol⟩

theorem kind_of_detect (h : detect field given computed control = .ok (some c)) :
    (computed.isSome = true ↔ c.kind ≠ .control) ∧ (control.isSome = true ↔ c.kind ≠ .formula) := by
  obtain ⟨-, -, -, -, hformula, hcontrol, hboth⟩ := between?_eq_some (detect_eq_ok_iff.mp h).2
  cases hkind : c.kind <;> simp_all

/-- A conflict that was found and stored in a faithful format is read back without the values that
are null, and so it is the same one exactly if no formula and no rule gives null. Its kind still
tells which of them took part. -/
theorem read?_detected {format : TextFormat} (hformat : format.Faithful)
    (hdetect : detect field given computed control = .ok (some c))
    (hgiven : given.Storable) (hcomputed : ∀ v ∈ computed, v.Storable)
    (hcontrol : ∀ v ∈ control, v.Storable) (hdepth : c.toJson.nesting ≤ format.nestingLimit) :
    (format.read? (format.write c.toJson)).bind (ofJson? format.nestingLimit) =
        some c.withoutNulls ∧
      (c.withoutNulls = c ↔ computed ≠ some .null ∧ control ≠ some .null) ∧
      (computed.isSome = true ↔ c.withoutNulls.kind ≠ .control) ∧
      (control.isSome = true ↔ c.withoutNulls.kind ≠ .formula) := by
  have hstorable := storable_of_detect hdetect hgiven hcomputed hcontrol
  refine ⟨hstorable.read?_write hformat hdepth, ?_, kind_of_detect (c := c) hdetect⟩
  obtain ⟨-, -, rfl, rfl, -⟩ := between?_eq_some (detect_eq_ok_iff.mp hdetect).2
  exact withoutNulls_eq_self_iff

theorem read?_detected_rate : ∃ c,
    (compactFormat Numeral.nearest?).Faithful ∧
      detect "rate" (.integer 5) (some (.float 2.5)) none = .ok (some c) ∧
      (readWith Numeral.nearest? c.toJson.compactText).bind (ofJson? Json.nestingLimit) =
        some c := by
  have hformat := faithful_compactFormat fun _ => spelledDouble_nearest?
  have hdetect : detect "rate" (.integer 5) (some (.float 2.5)) none =
      .ok (some ⟨"rate", .formula, .integer 5, some (.float 2.5), none, _⟩) := rfl
  have hrate : Value.Storable (.float 2.5) := .float (by decide +kernel)
  obtain ⟨hread, hsame, -⟩ := read?_detected hformat hdetect (.integer 5)
    (fun _ hv => Option.some.inj hv ▸ hrate) nofun (by decide +kernel)
  exact ⟨_, hformat, hdetect, hread.trans (congrArg some (hsame.mpr ⟨nofun, nofun⟩))⟩

/-- A formula that gives null is not there when the conflict is read back, whatever the format. -/
theorem not_read?_detected_null : ∃ c,
    detect "total" (.integer 5) (some .null) none = .ok (some c) ∧
      (∃ format : TextFormat, format.Faithful ∧ c.toJson.nesting ≤ format.nestingLimit) ∧
      ∀ format : TextFormat, format.Faithful → c.toJson.nesting ≤ format.nestingLimit →
        (format.read? (format.write c.toJson)).bind (ofJson? format.nestingLimit) ≠ some c := by
  have hdetect : detect "total" (.integer 5) (some .null) none =
      .ok (some ⟨"total", .formula, .integer 5, some .null, none, _⟩) := rfl
  have hstorable := storable_of_detect hdetect (.integer 5)
    (fun _ hv => Option.some.inj hv ▸ .null) nofun
  refine ⟨_, hdetect, ⟨compactFormat Numeral.nearest?, ?_, by decide +kernel⟩,
    fun format hformat hdepth hsame => ?_⟩
  · exact faithful_compactFormat fun _ => spelledDouble_nearest?
  · rw [hstorable.read?_write hformat hdepth] at hsame
    exact (withoutNulls_eq_self_iff.mp (Option.some.inj hsame)).1 rfl

end Conflict

end FormLogic
