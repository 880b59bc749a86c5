import FormLogic.Proofs.Calculation.Equations

/-! Where the value of a calculated field comes from: what its formula names, and what the formulas
of calculated fields among these name in turn. Nothing else has a part in the value or in the error
of the field, and of the inputs only those that are for no calculated field. -/

namespace FormLogic.Entity

variable {e : Entity} {inputs others : FieldValues} {functions : Registry}
  {name formula field : String}

def Names (e : Entity) (field name : String) : Prop :=
  ∃ formula, e.formula? field = some formula ∧ Refers formula name

/-- The value of a calculated field comes from a name: its formula names it, or the formula of a
calculated field that its value comes from. -/
inductive Source (e : Entity) (field : String) : String → Prop
  | direct {name : String} : e.Names field name → Source e field name
  | through {source name : String} :
    Source e field source → e.Names source name → Source e field name

def SameSources (e : Entity) (inputs others : FieldValues) (field : String) : Prop :=
  ∀ name, e.Source field name → e.formula? name = none → inputs.get? name = others.get? name

theorem get?_settled_of_source (h : e.SameSources inputs others field)
    (hname : e.Source field name) :
    (e.settled inputs functions).get? name = (e.settled others functions).get? name := by
  have hvalue : ∀ (inputs : FieldValues), ∀ f ∈ e.orderedFormulas,
      (e.settled inputs functions).get? f.1 =
        (evalText ⟨e.settled inputs functions, functions⟩ f.2).toOption := by
    intro inputs f hf
    obtain ⟨hformula, hacyclic⟩ := mem_orderedFormulas.mp hf
    exact (outcome_of_acyclic hformula hacyclic).1
  refine Calculation.agree_of_inOrder functions e.inOrder_orderedFormulas
    (fun f hf (hsource : e.Source field f.1) x hx n hn => ?_) (fun n hn hnot => ?_) (hvalue inputs)
    (hvalue others) name hname
  · obtain ⟨hformula, -⟩ := mem_orderedFormulas.mp hf
    exact hsource.through ⟨f.2, hformula, x, hx, Expr.mem_fieldNames_iff.mp hn⟩
  · cases hf : e.formula? n with
    | none =>
      rw [(outcome_of_uncalculated hf).1, (outcome_of_uncalculated hf).1]
      exact h n hn hf
    | some formula =>
      have hcircular : e.formulaGraph.Circular n :=
        Classical.not_not.mp fun hc => hnot (mem_map_orderedFormulas.mpr ⟨⟨formula, hf⟩, hc⟩)
      rw [(outcome_of_circular hf hcircular).1, (outcome_of_circular hf hcircular).1]

theorem evalText_settled (h : e.SameSources inputs others field)
    (hformula : e.formula? field = some formula) :
    evalText ⟨e.settled inputs functions, functions⟩ formula =
      evalText ⟨e.settled others functions, functions⟩ formula := by
  refine evalText_congr fun x hx n hn => get?_settled_of_source h (.direct ?_)
  exact ⟨formula, hformula, x, hx, Expr.mem_fieldNames_iff.mp hn⟩

theorem get?_values_of_sameSources (hformula : e.formula? field = some formula)
    (h : e.SameSources inputs others field) :
    (e.calculate inputs functions).values.get? field =
      (e.calculate others functions).values.get? field := by
  by_cases hc : e.formulaGraph.Circular field
  · rw [(outcome_of_circular hformula hc).2.1, (outcome_of_circular hformula hc).2.1]
  · rw [(outcome_of_acyclic hformula hc).2.1, (outcome_of_acyclic hformula hc).2.1,
      evalText_settled h hformula]

theorem get?_errors_of_sameSources (hformula : e.formula? field = some formula)
    (h : e.SameSources inputs others field) :
    (e.calculate inputs functions).errors.get? field =
      (e.calculate others functions).errors.get? field := by
  by_cases hc : e.formulaGraph.Circular field
  · rw [(outcome_of_circular hformula hc).2.2, (outcome_of_circular hformula hc).2.2]
  · rw [(outcome_of_acyclic hformula hc).2.2, (outcome_of_acyclic hformula hc).2.2,
      evalText_settled h hformula]

/-- A calculated field has the same value, or the same error, from all inputs that agree on those of
its sources which are not calculated. What is stored for calculated fields has no part in it. -/
theorem calculate_eq_of_sameSources (hformula : e.formula? field = some formula)
    (h : e.SameSources inputs others field) :
    (∃ v, (e.calculate inputs functions).values.get? field = some v ∧
      (e.calculate others functions).values.get? field = some v) ∨
    ∃ err, (e.calculate inputs functions).errors.get? field = some err ∧
      (e.calculate others functions).errors.get? field = some err := by
  rw [← get?_values_of_sameSources hformula h, ← get?_errors_of_sameSources hformula h]
  simp only [and_self]
  cases hvalue : (e.calculate inputs functions).values.get? field with
  | some v => exact .inl ⟨v, rfl⟩
  | none =>
    have herror := (get?_values_eq_none_iff hformula).mp hvalue
    exact .inr (Option.isSome_iff_exists.mp herror)

theorem Names.mem (h : e.Names field name) (hformula : e.formula? field = some formula)
    {names : List String} (hnames : (Expr.parse formula).map (·.fieldNames) = .ok names) :
    name ∈ names := by
  obtain ⟨formula', hformula', x, hx, hn⟩ := h
  obtain rfl := Option.some.inj (hformula'.symm.trans hformula)
  rw [hx] at hnames
  exact Except.ok.inj hnames ▸ Expr.mem_fieldNames_iff.mpr hn

theorem eq_of_source_tax (h : troubledInvoice.Source "tax" name) :
    name = "subtotal" ∨ name = "qty" := by
  have htax : troubledInvoice.formula? "tax" = some "subtotal * 2" := by decide
  have hsubtotal : troubledInvoice.formula? "subtotal" = some "qty * 3" := by decide
  have htaxNames : (Expr.parse "subtotal * 2").map (·.fieldNames) = .ok ["subtotal"] := by
    decide +kernel
  have hsubtotalNames : (Expr.parse "qty * 3").map (·.fieldNames) = .ok ["qty"] := by
    decide +kernel
  induction h with
  | direct h => exact .inl (List.mem_singleton.mp (h.mem htax htaxNames))
  | through _ h ih =>
    rcases ih with rfl | rfl
    · exact .inr (List.mem_singleton.mp (h.mem hsubtotal hsubtotalNames))
    · obtain ⟨formula, hformula, -⟩ := h
      cases hformula

theorem calculate_eq_of_sameSources_troubledInvoice :
    let others := (staleInputs.insert "subtotal" (.integer 1)).insert "memo" (.text "late")
    troubledInvoice.formula? "tax" = some "subtotal * 2" ∧
      troubledInvoice.SameSources staleInputs others "tax" ∧
      (troubledInvoice.calculate others .standard).errors.get? "tax" =
        some (.failed (.fieldNotFound "subtotal")) := by
  intro others
  have hformula : troubledInvoice.formula? "tax" = some "subtotal * 2" := by decide
  have hsame : troubledInvoice.SameSources staleInputs others "tax" := by
    intro name hname hnone
    rcases eq_of_source_tax hname with rfl | rfl
    · cases hnone
    · rfl
  have herror : (troubledInvoice.calculate staleInputs .standard).errors.get? "tax" =
      some (.failed (.fieldNotFound "subtotal")) := by
    decide +kernel
  have hvalue : (troubledInvoice.calculate staleInputs .standard).values.get? "tax" = none := by
    decide +kernel
  refine ⟨hformula, hsame, ?_⟩
  rcases calculate_eq_of_sameSources hformula hsame with ⟨v, hv, -⟩ | ⟨err, herr, herr'⟩
  · cases hvalue.symm.trans hv
  · exact herr'.trans (herr.symm.trans herror)

end FormLogic.Entity
