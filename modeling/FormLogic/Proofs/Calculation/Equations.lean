import FormLogic.Proofs.Calculation.Outcome

/-! The formulas of an entity as equations between the values of its fields. A calculation solves
them, and no other mapping does: what was stored for a field that fails or is on a cycle is seen by
no formula. -/

namespace FormLogic

theorem head?_toList_append {s t : String} {c : Char} (h : s.toList.head? = some c) :
    (s ++ t).toList.head? = some c := by
  rw [String.toList_append, List.head?_append, h]
  rfl

theorem FormulaError.head?_message (err : FormulaError) :
    ∃ c, err.message.toList.head? = some c ∧ c ≠ 'C' := by
  cases err with
  | malformed e => exact ⟨'S', head?_toList_append (by decide), by decide⟩
  | fieldNotFound name =>
    exact ⟨'F', head?_toList_append (head?_toList_append (by decide)), by decide⟩
  | functionNotFound name =>
    exact ⟨'F', head?_toList_append (head?_toList_append (by decide)), by decide⟩
  | divisionByZero => exact ⟨'D', by decide, by decide⟩
  | typeMismatch fault => exact ⟨'T', head?_toList_append (by decide), by decide⟩
  | invalidArgument fault => exact ⟨'I', head?_toList_append (by decide), by decide⟩
  | overflow operation =>
    exact ⟨'I', head?_toList_append (head?_toList_append (by decide)), by decide⟩
  | functionRefused function cause =>
    exact ⟨'F', head?_toList_append (head?_toList_append (head?_toList_append (by decide))),
      by decide⟩
  | functionBroke function text =>
    exact ⟨'F', head?_toList_append (head?_toList_append (head?_toList_append (by decide))),
      by decide⟩

/-- No failure of a formula reads like the error of a field on a cycle. -/
theorem FormulaError.message_ne_circular (err : FormulaError) :
    err.message ≠ "Circular reference" := by
  intro h
  obtain ⟨c, hhead, hc⟩ := err.head?_message
  rw [h] at hhead
  exact hc (Option.some.inj hhead).symm

def Calculation.errorText? (c : Calculation) (name : String) : Option String :=
  (c.errors.get? name).map (·.message)

namespace Entity

variable {e : Entity} {inputs : FieldValues} {functions : Registry} {name formula : String}

/-- What the formulas of an entity ask of the values of its fields: names without a formula keep
their inputs, fields with the error of a cycle have no value, and every other calculated field has
exactly the value that its formula has over the very same values. -/
structure Solves (e : Entity) (inputs : FieldValues) (functions : Registry) (w : FieldValues) :
    Prop where
  given : ∀ name, e.formula? name = none → w.get? name = inputs.get? name
  circular : ∀ name formula, e.formula? name = some formula →
    (e.calculate inputs functions).errorText? name = some "Circular reference" →
    w.get? name = none
  computed : ∀ name formula, e.formula? name = some formula →
    (e.calculate inputs functions).errorText? name ≠ some "Circular reference" →
    ∀ v, w.get? name = some v ↔ evalText ⟨w, functions⟩ formula = .ok v

/-- The error of a cycle is had by the calculated fields on a cycle and by no others. -/
theorem errorText?_eq_circular_iff (hformula : e.formula? name = some formula) :
    (e.calculate inputs functions).errorText? name = some "Circular reference" ↔
      e.formulaGraph.Circular name := by
  rw [Calculation.errorText?]
  constructor
  · intro h
    refine Classical.byContradiction fun hname => ?_
    rw [(outcome_of_acyclic hformula hname).2.2] at h
    cases hr : evalText ⟨e.settled inputs functions, functions⟩ formula with
    | ok v => simp [hr, Calculation.fault?] at h
    | error err =>
      rw [hr] at h
      exact err.message_ne_circular (Option.some.inj h)
  · intro hname
    rw [(outcome_of_circular hformula hname).2.2]
    rfl

theorem toOption_eq_iff {r : Except FormulaError Value} {o : Option Value} :
    o = r.toOption ↔ ∀ v, o = some v ↔ r = .ok v := by
  cases r with
  | ok u =>
    constructor
    · rintro rfl v
      simp [Except.toOption]
    · exact fun h => (h u).mpr rfl
  | error err => simp [Except.toOption, Option.eq_none_iff_forall_ne_some]

theorem solves_iff {w : FieldValues} :
    e.Solves inputs functions w ↔ w = e.settled inputs functions := by
  rw [eq_settled_iff]
  constructor
  · rintro ⟨hgiven, hcircular, hcomputed⟩
    refine ⟨hgiven, fun name formula hf hc => ?_, fun name formula hf hc => ?_⟩
    · exact hcircular name formula hf ((errorText?_eq_circular_iff hf).mpr hc)
    · exact toOption_eq_iff.mpr
        (hcomputed name formula hf (mt (errorText?_eq_circular_iff hf).mp hc))
  · rintro ⟨hgiven, hcircular, hcomputed⟩
    refine ⟨hgiven, fun name formula hf hc => ?_, fun name formula hf hc => ?_⟩
    · exact hcircular name formula hf ((errorText?_eq_circular_iff hf).mp hc)
    · exact toOption_eq_iff.mp
        (hcomputed name formula hf (mt (errorText?_eq_circular_iff hf).mpr hc))

/-- A calculation solves the formulas of an entity as equations, and uniquely: every formula that is
evaluated has over the final values just the value or the error that the calculation lists, and no
other values solve the equations. -/
theorem calculate_solves_equations (e : Entity) (inputs : FieldValues) (functions : Registry) :
    (∀ id ∈ (e.calculate inputs functions).order, ∃ formula, e.formula? id = some formula ∧
      (∀ v, evalText ⟨(e.calculate inputs functions).settle inputs, functions⟩ formula = .ok v ↔
        (e.calculate inputs functions).values.get? id = some v) ∧
      (∀ err, evalText ⟨(e.calculate inputs functions).settle inputs, functions⟩ formula =
          .error err ↔ (e.calculate inputs functions).errors.get? id = some (.failed err)) ∧
      ∀ text, (∃ err, evalText ⟨(e.calculate inputs functions).settle inputs, functions⟩ formula =
          .error err ∧ err.message = text) ↔
        (e.calculate inputs functions).errorText? id = some text) ∧
    ∀ w, e.Solves inputs functions w ↔ w = (e.calculate inputs functions).settle inputs := by
  refine ⟨fun id hid => ?_, fun w => solves_iff⟩
  rw [order_calculate, mem_map_orderedFormulas] at hid
  obtain ⟨⟨formula, hformula⟩, hacyclic⟩ := hid
  obtain ⟨-, hvalue, herror⟩ := outcome_of_acyclic hformula hacyclic
  rw [settled] at hvalue herror
  refine ⟨formula, hformula, ?_⟩
  rw [Calculation.errorText?, hvalue, herror]
  cases evalText ⟨(e.calculate inputs functions).settle inputs, functions⟩ formula with
  | ok v => simp [Except.toOption, Calculation.fault?]
  | error err => simp [Except.toOption, Calculation.fault?, CalculationError.message]

/-- An invoice whose subtotal fails, with two fields on a cycle and a field declared twice. -/
def troubledInvoice : Entity :=
  ⟨"invoice", "Invoice",
    [⟨"tax", "Tax", .calculated, some "subtotal * 2", []⟩,
     ⟨"subtotal", "Subtotal", .calculated, some "qty * 3", []⟩,
     ⟨"qty", "Quantity", .number, none, []⟩,
     ⟨"a", "A", .calculated, some "b", []⟩,
     ⟨"b", "B", .calculated, some "a", []⟩,
     ⟨"tax", "Tax", .calculated, some "qty", []⟩]⟩

def staleInputs : FieldValues :=
  .ofList [("qty", .text "four"), ("subtotal", .integer 999), ("a", .integer 5)]

theorem calculate_solves_equations_troubledInvoice :
    "tax" ∈ (troubledInvoice.calculate staleInputs .standard).order ∧
      evalText ⟨(troubledInvoice.calculate staleInputs .standard).settle staleInputs, .standard⟩
        "subtotal * 2" = .error (.fieldNotFound "subtotal") ∧
      ∀ w, troubledInvoice.Solves staleInputs .standard w →
        w = (troubledInvoice.calculate staleInputs .standard).settle staleInputs := by
  have horder : "tax" ∈ (troubledInvoice.calculate staleInputs .standard).order := by
    decide +kernel
  have herror : (troubledInvoice.calculate staleInputs .standard).errors.get? "tax" =
      some (.failed (.fieldNotFound "subtotal")) := by
    decide +kernel
  obtain ⟨hformulas, hunique⟩ :=
    calculate_solves_equations troubledInvoice staleInputs .standard
  obtain ⟨formula, hformula, -, herr, -⟩ := hformulas "tax" horder
  obtain rfl : "subtotal * 2" = formula :=
    Option.some.inj ((by decide : troubledInvoice.formula? "tax" = _).symm.trans hformula)
  exact ⟨horder, (herr _).mpr herror, fun w => (hunique w).mp⟩

end Entity

end FormLogic
