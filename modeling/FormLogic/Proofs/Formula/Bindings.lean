import FormLogic.Proofs.Formula.Locality
import FormLogic.Proofs.Formula.Outcomes

/-! The bindings that a formula is evaluated over. Those of other names than its own do not matter,
and a value stays what it is when more names are bound: only an error that misses a name can go. -/

namespace FormLogic

structure Context.ExtendedBy (ctx other : Context) : Prop where
  fields : ∀ name v, ctx.fields.get? name = some v → other.fields.get? name = some v
  functions : ∀ name body, ctx.functions.get? name = some body →
    other.functions.get? name = some body

/-- Errors that miss the binding of a name. -/
inductive FormulaError.MissesName : FormulaError → Prop where
  | field (name : String) : MissesName (.fieldNotFound name)
  | function (name : String) : MissesName (.functionNotFound name)

/-- A step ends as another one does, unless that misses the binding of a name. -/
def KeptBy {α : Type} (step other : Except FormulaError α) : Prop :=
  other = step ∨ ∃ e, step = .error e ∧ e.MissesName

namespace KeptBy

variable {α β : Type} {step other : Except FormulaError α}

theorem refl (step : Except FormulaError α) : KeptBy step step := .inl rfl

theorem missing {e : FormulaError} (h : e.MissesName) : KeptBy (.error e) other := .inr ⟨e, rfl, h⟩

theorem bind {next following : α → Except FormulaError β} (h : KeptBy step other)
    (hnext : ∀ a, step = .ok a → KeptBy (next a) (following a)) :
    KeptBy (step >>= next) (other >>= following) := by
  rcases h with rfl | ⟨e, rfl, he⟩
  · cases other with
    | error e => exact .refl _
    | ok a => exact hnext a rfl
  · exact missing he

theorem eq_ok {a : α} (h : KeptBy step other) (hstep : step = .ok a) : other = .ok a := by
  rcases h with rfl | ⟨e, he, -⟩
  · exact hstep
  · rw [he] at hstep
    cases hstep

theorem eq_error {e : FormulaError} (h : KeptBy step other) (hstep : step = .error e) :
    other = .error e ∨ e.MissesName := by
  rcases h with rfl | ⟨f, hf, hmisses⟩
  · exact .inl hstep
  · have hef : f = e := Except.error.inj (hf.symm.trans hstep)
    exact .inr (hef ▸ hmisses)

end KeptBy

namespace Expr

variable {ctx other : Context} {x : Expr} {args : List Expr}

theorem keptBy_evalArgs (h : ∀ x ∈ args, KeptBy (x.eval ctx) (x.eval other)) :
    KeptBy (evalArgs ctx args) (evalArgs other args) := by
  induction args with
  | nil => exact .refl _
  | cons x xs ih =>
    have hx := h x List.mem_cons_self
    have hxs := ih fun y hy => h y (List.mem_cons_of_mem _ hy)
    exact hx.bind fun _ _ => hxs.bind fun _ _ => .refl _

/-- A context that binds more names evaluates a formula to the same end, unless a name is
missing. -/
theorem keptBy_eval (h : ctx.ExtendedBy other) (x : Expr) : KeptBy (x.eval ctx) (x.eval other) := by
  induction x using inductionOnParts with
  | literal l => exact .refl _
  | field name =>
    simp only [eval]
    cases hv : ctx.fields.get? name with
    | none => exact .missing (.field name)
    | some v =>
      rw [h.fields name v hv]
      exact .refl _
  | unary op x ih => exact ih.bind fun _ _ => .refl _
  | binary op x y ihx ihy =>
    rw [eval_binary, eval_binary]
    refine ihx.bind fun v _ => ?_
    split
    · exact .refl _
    · exact ihy.bind fun _ _ => .refl _
  | call function args ih =>
    simp only [eval]
    cases hbody : ctx.functions.get? function with
    | none => exact .missing (.function function)
    | some body =>
      rw [h.functions function body hbody]
      exact (keptBy_evalArgs ih).bind fun _ _ => .refl _

/-- Contexts that give the same meaning to the referenced fields and the called functions of a
formula evaluate it to the same value or error. A context that keeps the bindings of another one and
binds more names evaluates it to the same value, and to the same error too unless a name is missing
in the smaller context. -/
theorem eval_local_and_monotone (x : Expr) (ctx other : Context) :
    ((∀ name ∈ x.fieldReferences.names, ctx.fields.get? name = other.fields.get? name) →
      (∀ name ∈ x.functionNames.names, ctx.functions.get? name = other.functions.get? name) →
      x.eval ctx = x.eval other) ∧
    (ctx.ExtendedBy other →
      (∀ v, x.eval ctx = .ok v → x.eval other = .ok v) ∧
      ∀ e, x.eval ctx = .error e → x.eval other = .error e ∨ e.MissesName) := by
  constructor
  · intro hfields hfunctions
    have hagree : ctx.Agree other x.fieldNames x.callNames := {
      fields := fun name hname => hfields name (NameSet.mem_names_ofNames.mpr hname)
      functions := fun name hname => hfunctions name (NameSet.mem_names_ofNames.mpr hname) }
    exact eval_congr x hagree
  · intro hextends
    have hkept := keptBy_eval hextends x
    exact ⟨fun v hv => hkept.eq_ok hv, fun e he => hkept.eq_error he⟩

def offerHolds : Expr := .binary .or (.field "active") (.call "abs" [.field "discount"])

theorem eval_local_and_monotone_offer :
    offerHolds.eval ⟨.ofList [("active", .boolean false), ("discount", .text "5")], .standard⟩ =
      offerHolds.eval ⟨.ofList [("active", .boolean false), ("discount", .text "5"),
        ("note", .text "spring")], .standard⟩ ∧
    offerHolds.eval ⟨.ofList [("active", .boolean true)], .empty⟩ = .ok (.boolean true) ∧
    offerHolds.eval ⟨.ofList [("active", .boolean true), ("discount", .integer (-5))], .standard⟩ =
      .ok (.boolean true) := by
  have hfields : ∀ name ∈ offerHolds.fieldReferences.names,
      (Dictionary.ofList [("active", Value.boolean false), ("discount", .text "5")]).get? name =
      (Dictionary.ofList [("active", Value.boolean false), ("discount", .text "5"),
        ("note", .text "spring")]).get? name := by
    decide +kernel
  have hextends : Context.ExtendedBy ⟨.ofList [("active", .boolean true)], .empty⟩
      ⟨.ofList [("active", .boolean true), ("discount", .integer (-5))], .standard⟩ := by
    refine ⟨fun name v hv => ?_, fun name body hbody => ?_⟩
    · simp only [Dictionary.ofList, Dictionary.insertAll, List.foldl, Dictionary.get?_insert,
        Dictionary.get?_empty] at hv ⊢
      grind
    · simp at hbody
  have hsmall : offerHolds.eval ⟨.ofList [("active", .boolean true)], .empty⟩ =
      .ok (.boolean true) :=
    rfl
  exact ⟨(eval_local_and_monotone _ _ _).1 hfields fun _ _ => rfl, hsmall,
    ((eval_local_and_monotone _ _ _).2 hextends).1 _ hsmall⟩

end Expr

end FormLogic
