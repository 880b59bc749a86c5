import FormLogic.Proofs.Json.Layouts
import FormLogic.Proofs.Stored.Values
import FormLogic.Stored.Entity

/-! Entities and projects are kept by storing them, with everything that they consist of. -/

namespace FormLogic

open Json

def EffectSource.Storable : EffectSource → Prop
  | literal v => v.Storable
  | formula _ => True

theorem EffectSource.restores {s : EffectSource} (h : s.Storable) : Restores ofJson? toJson s := by
  cases s with
  | literal v =>
    obtain ⟨hstorable, hreads⟩ := Value.Storable.restores h
    refine ⟨.object (by simp) (by simpa using hstorable), fun depth hdepth => ?_⟩
    have hread := hreads (depth - 1)
      (nesting_le_of_mem_members (m := ("literal", v.toJson)) (by simp) hdepth)
    rw [toJson, ofJson?, hread, Option.map_some]
  | formula text => exact ⟨.object (by simp) (by simpa using .text text), fun depth _ => rfl⟩

theorem RuleEffect.restores {e : RuleEffect} (h : e.source.Storable) :
    Restores ofJson? toJson e := by
  obtain ⟨hstorable, hreads⟩ := EffectSource.restores h
  refine ⟨.object (by simp) (by simpa using ⟨.text _, .text _, hstorable⟩), fun depth hdepth => ?_⟩
  have hsource := hreads (depth - 1)
    (nesting_le_of_mem_members (m := ("value", e.source.toJson)) (by simp) hdepth)
  rw [toJson, ofJson?, members?_object (by rfl) (by decide)]
  simp (disch := decide) only [Members.required, Members.orElse, valueOf?_head, valueOf?_tail,
    Option.bind_eq_bind, Option.bind_some, text?, named?, Control.ofName?_name, hsource]

theorem fits_toInt_int32 (n : Int32) : Number.Fits n.toInt := by
  have hlow := n.le_toInt
  have hhigh := n.toInt_lt
  constructor <;> omega

theorem int32?_toInt (n : Int32) : int32? (.integer n.toInt) = some n := by
  have hlow := n.le_toInt
  have hhigh := n.toInt_lt
  rw [int32?, if_pos (by omega), Int32.ofInt_toInt]

theorem Rule.restores {r : Rule} (h : r.effect.source.Storable) : Restores ofJson? toJson r := by
  obtain ⟨hstorable, hreads⟩ := RuleEffect.restores h
  have hpriority := fits_toInt_int32 r.priority
  refine ⟨.object (by simp)
      (by simpa using ⟨.text _, .text _, .text _, hstorable, .boolean _, .integer hpriority⟩),
    fun depth hdepth => ?_⟩
  have heffect := hreads (depth - 1)
    (nesting_le_of_mem_members (m := ("effect", r.effect.toJson)) (by simp) hdepth)
  rw [toJson, ofJson?, members?_object (by rfl) (by decide)]
  simp (disch := decide) only [Members.required, Members.orElse, valueOf?_head, valueOf?_tail,
    Option.bind_eq_bind, Option.bind_some, text?, boolean?, int32?_toInt, heffect]

theorem FieldType.ofStoredName?_name (t : FieldType) : ofStoredName? t.name = some t := by
  cases t <;> decide

theorem storable_ofOption_text (s : Option String) : (ofOption Json.text s).Storable := by
  cases s with
  | none => exact .null
  | some s => exact .text s

theorem Field.restores {f : Field} (h : ∀ r ∈ f.rules, r.effect.source.Storable) :
    Restores ofJson? toJson f := by
  obtain ⟨hstorable, hreads⟩ := Restores.items fun r hr => Rule.restores (h r hr)
  refine ⟨.object (by simp)
      (by simpa using ⟨.text _, .text _, .text _, storable_ofOption_text _, hstorable⟩),
    fun depth hdepth => ?_⟩
  have hread : items? (Rule.ofJson? (depth - 2)) (.array (f.rules.map (·.toJson))) =
      some f.rules :=
    hreads (depth - 1) (nesting_le_of_mem_members
      (m := ("control_rules", .array (f.rules.map (·.toJson)))) (by simp) hdepth)
  rw [toJson, ofJson?, members?_object (by rfl) (by decide)]
  simp (disch := decide) only [Members.required, Members.orElse, valueOf?_head, valueOf?_tail,
    Option.bind_eq_bind, Option.bind_some, text?, named?, FieldType.ofStoredName?_name, hread]
  rw [optional_text (s := f.formula)
      (by simp (disch := decide) only [valueOf?_head, valueOf?_tail]), Option.bind_some]

theorem Entity.restores {e : Entity}
    (h : ∀ f ∈ e.fields, ∀ r ∈ f.rules, r.effect.source.Storable) :
    Restores ofJson? toJson e := by
  obtain ⟨hstorable, hreads⟩ := Restores.items fun f hf => Field.restores (h f hf)
  refine ⟨.object (by simp) (by simpa using ⟨.text _, .text _, hstorable⟩),
    fun depth hdepth => ?_⟩
  have hread : items? (Field.ofJson? (depth - 2)) (.array (e.fields.map (·.toJson))) =
      some e.fields :=
    hreads (depth - 1) (nesting_le_of_mem_members
      (m := ("fields", .array (e.fields.map (·.toJson)))) (by simp) hdepth)
  rw [toJson, ofJson?, members?_object (by rfl) (by decide)]
  simp (disch := decide) only [Members.required, Members.orElse, valueOf?_head, valueOf?_tail,
    Option.bind_eq_bind, Option.bind_some, text?, hread]

theorem Project.restores {p : Project} (h : ∀ e ∈ p.values.entries, e.2.Storable) :
    Restores ofJson? toJson p := by
  obtain ⟨hstorable, hreads⟩ := FieldValues.restores h
  refine ⟨.object (by simp) (by simpa using ⟨.text _, .text _, .text _, hstorable⟩),
    fun depth hdepth => ?_⟩
  have hvalues := hreads (depth - 1)
    (nesting_le_of_mem_members (m := ("field_values", p.values.toJson)) (by simp) hdepth)
  rw [toJson, ofJson?, members?_object (by rfl) (by decide)]
  simp (disch := decide) only [Members.required, Members.orElse, valueOf?_head, valueOf?_tail,
    Option.bind_eq_bind, Option.bind_some, text?, hvalues]

/-- Storing in a faithful format loses nothing of a value, an entity or a project. -/
theorem read?_stored {format : TextFormat} (hformat : format.Faithful) :
    (∀ v : Value, v.Storable → v.toJson.nesting ≤ format.nestingLimit →
      (format.read? (format.write v.toJson)).bind (Value.ofJson? format.nestingLimit) = some v) ∧
    (∀ e : Entity, (∀ f ∈ e.fields, ∀ r ∈ f.rules, r.effect.source.Storable) →
      e.toJson.nesting ≤ format.nestingLimit →
      (format.read? (format.write e.toJson)).bind (Entity.ofJson? format.nestingLimit) = some e) ∧
    (∀ p : Project, (∀ e ∈ p.values.entries, e.2.Storable) →
      p.toJson.nesting ≤ format.nestingLimit →
      (format.read? (format.write p.toJson)).bind (Project.ofJson? format.nestingLimit) = some p) :=
  ⟨fun _ h => h.restores.read?_write hformat, fun _ h => (Entity.restores h).read?_write hformat,
    fun _ h => (Project.restores h).read?_write hformat⟩

theorem read?_stored_tea :
    (compactFormat Numeral.nearest?).Faithful ∧ (prettyFormat Numeral.nearest?).Faithful ∧
    (readWith Numeral.nearest? (Value.toJson (.map [("price", .float 5.0),
      ("rates", .list [.float (-0.0), .integer 5])])).compactText).bind
        (Value.ofJson? Json.nestingLimit) =
      some (.map [("price", .float 5.0), ("rates", .list [.float (-0.0), .integer 5])]) ∧
    (readWith Numeral.nearest? (Entity.toJson ⟨"tea", "Tea", [⟨"total", "", .number,
      some "price * 2", [⟨"r", "Floor", "total < 5", ⟨.valueSet, "total", .literal (.float 2.5)⟩,
        false, -3⟩]⟩]⟩).prettyText).bind (Entity.ofJson? Json.nestingLimit) =
      some ⟨"tea", "Tea", [⟨"total", "", .number, some "price * 2", [⟨"r", "Floor", "total < 5",
        ⟨.valueSet, "total", .literal (.float 2.5)⟩, false, -3⟩]⟩]⟩ ∧
    (readWith Numeral.nearest? (Project.toJson ⟨"p", "", "tea",
      Dictionary.ofList [("price", .float 1e21)]⟩).compactText).bind
        (Project.ofJson? Json.nestingLimit) =
      some ⟨"p", "", "tea", Dictionary.ofList [("price", .float 1e21)]⟩ := by
  have hcompact := faithful_compactFormat fun _ => spelledDouble_nearest?
  have hpretty := faithful_prettyFormat fun _ => spelledDouble_nearest?
  have hfive : Value.Storable (.float 5.0) := .float (by decide +kernel)
  have hzero : Value.Storable (.float (-0.0)) := .float (by decide +kernel)
  have hhalf : Value.Storable (.float 2.5) := .float (by decide +kernel)
  have hlarge : Value.Storable (.float 1e21) := .float (by decide +kernel)
  refine ⟨hcompact, hpretty, (read?_stored hcompact).1 _ (.map (by decide) ?_) (by decide +kernel),
    (read?_stored hpretty).2.1 _ ?_ (by decide +kernel),
    (read?_stored hcompact).2.2 _ ?_ (by decide +kernel)⟩
  · simpa using ⟨hfive, .list (by simpa using ⟨hzero, .integer 5⟩)⟩
  · simpa [EffectSource.Storable] using hhalf
  · simpa [Dictionary.ofList, Dictionary.insertAll, Dictionary.insert, Dictionary.empty,
      insertEntry] using hlarge

end FormLogic
