import FormLogic.Formula.Validation
import FormLogic.Proofs.Formula.Faults
import FormLogic.Proofs.Formula.Outcomes
import FormLogic.Proofs.Formula.Parts
import FormLogic.Proofs.Formula.Typing

/-! Formulas whose names all mean something. They are the valid ones, and whatever the values of the
fields are, no reference in them goes wrong when they are evaluated. -/

namespace FormLogic

/-- A range holds a number of arguments. -/
def Arity.Contains (a : Arity) (count : Nat) : Prop :=
  a.min ≤ count ∧ ∀ max, a.max = some max → count ≤ max

theorem Arity.accepts_iff {a : Arity} {count : Nat} : a.accepts count = true ↔ a.Contains count := by
  rw [accepts, Contains, Bool.and_eq_true, decide_eq_true_eq]
  cases a.max <;> simp

theorem Schema.isSome_typeOf?_iff {schema : Schema} {name : String} :
    (schema.typeOf? name).isSome = true ↔ ∃ f ∈ schema, f.field = name := by
  simp [typeOf?, List.find?_isSome]

variable {scope : Scope} {schema : Schema} {values : FieldValues} {problem : Problem} {x y : Expr}
  {args : List Expr} {text : String}

namespace Expr

/-- Every name in a formula means something: fields are those of the schema, and calls are calls of
standard functions with as many arguments as they take. -/
structure Referable (schema : Schema) (x : Expr) : Prop where
  fields : ∀ name, (field name).PartOf x → ∃ f ∈ schema, f.field = name
  calls : ∀ function args, (call function args).PartOf x →
    ∃ s ∈ Catalog.standard, s.name = function ∧ s.arity.Contains args.length

/-- What is wrong with a formula apart from its parts. -/
def rootProblems (scope : Scope) : Expr → List Problem
  | field name => if (scope.schema.typeOf? name).isSome then [] else [.unknownField name]
  | call function args => callProblems scope function args.length
  | literal _ | unary _ _ | binary _ _ _ => []

theorem mem_problemsOfArgs_iff :
    problem ∈ problemsOfArgs scope args ↔ ∃ x ∈ args, problem ∈ x.problems scope := by
  induction args with
  | nil => simp [problemsOfArgs]
  | cons x xs ih => simp [problemsOfArgs, ih]

/-- The problems of a formula are those that stand anywhere in it. -/
theorem mem_problems_iff :
    problem ∈ x.problems scope ↔ ∃ y : Expr, y.PartOf x ∧ problem ∈ y.rootProblems scope := by
  induction x using inductionOnParts with
  | literal l => simp [problems, rootProblems]
  | field name => simp [problems, rootProblems]
  | unary op x ih => simp [problems, rootProblems, ih, or_and_right, exists_or]
  | binary op x y ihx ihy => simp [problems, rootProblems, ihx, ihy, or_and_right, exists_or]
  | call function args ih =>
    have hargs : problem ∈ problemsOfArgs scope args ↔
        ∃ y : Expr, (∃ x ∈ args, y.PartOf x) ∧ problem ∈ y.rootProblems scope := by
      rw [mem_problemsOfArgs_iff]
      constructor
      · rintro ⟨x, hx, hp⟩
        obtain ⟨y, hy, hp⟩ := (ih x hx).mp hp
        exact ⟨y, ⟨x, hx, hy⟩, hp⟩
      · rintro ⟨y, ⟨x, hx, hy⟩, hp⟩
        exact ⟨x, hx, (ih x hx).mpr ⟨y, hy, hp⟩⟩
    simp only [problems, List.mem_append, hargs, partOf_call, or_and_right, exists_or,
      exists_eq_left, rootProblems, or_comm]

theorem callProblems_eq_nil_iff {function : String} {count : Nat} :
    callProblems ⟨schema, .standard⟩ function count = [] ↔
      ∃ s ∈ Catalog.standard, s.name = function ∧ s.arity.Contains count := by
  unfold callProblems
  cases hs : Catalog.standard.find? function with
  | none =>
    have hnone : ∀ s ∈ Catalog.standard, s.name ≠ function := by
      simpa [Catalog.find?] using hs
    simp only [reduceCtorEq, false_iff]
    rintro ⟨s, hmem, hname, -⟩
    exact hnone s hmem hname
  | some s =>
    have hfound := Catalog.find?_standard_iff.mp hs
    have hcount : (if s.arity.accepts count = true then []
        else [Problem.wrongCount function s.arity count]) = [] ↔ s.arity.Contains count := by
      rw [← Arity.accepts_iff]
      simp
    rw [hcount]
    constructor
    · exact fun h => ⟨s, hfound.1, hfound.2, h⟩
    · rintro ⟨t, ht, hname, hcontains⟩
      have hsame := Catalog.find?_standard_iff.mpr ⟨ht, hname⟩
      rw [hs] at hsame
      exact Option.some.inj hsame ▸ hcontains

theorem problems_eq_nil_iff : x.problems ⟨schema, .standard⟩ = [] ↔ x.Referable schema := by
  have hroots : x.problems ⟨schema, .standard⟩ = [] ↔
      ∀ y : Expr, y.PartOf x → y.rootProblems ⟨schema, .standard⟩ = [] := by
    simp only [List.eq_nil_iff_forall_not_mem, mem_problems_iff]
    exact ⟨fun h y hy p hp => h p ⟨y, hy, hp⟩, fun h p ⟨y, hy, hp⟩ => h y hy p hp⟩
  rw [hroots]
  constructor
  · intro h
    refine ⟨fun name hname => ?_, fun function args hcall => ?_⟩
    · simpa [rootProblems, Schema.isSome_typeOf?_iff] using h _ hname
    · exact callProblems_eq_nil_iff.mp (h _ hcall)
  · intro h y hy
    cases y with
    | field name => simpa [rootProblems, Schema.isSome_typeOf?_iff] using h.fields name hy
    | call function args => exact callProblems_eq_nil_iff.mpr (h.calls function args hy)
    | _ => rfl

namespace Referable

theorem part (h : x.Referable schema) (hy : y.PartOf x) : y.Referable schema where
  fields name hname := h.fields name (hname.trans hy)
  calls function args hcall := h.calls function args (hcall.trans hy)

end Referable

theorem keepsReferences_evalArgs {ctx : Context} (h : ∀ x ∈ args, KeepsReferences (x.eval ctx)) :
    KeepsReferences (evalArgs ctx args) := by
  induction args with
  | nil => exact .ok _
  | cons x xs ih =>
    have hx := h x List.mem_cons_self
    have hxs := ih fun y hy => h y (List.mem_cons_of_mem _ hy)
    exact .bind hx fun _ _ => .bind hxs fun _ _ => .ok _

end Expr

theorem exists_body_of_contains {function : String} {count : Nat}
    (h : ∃ s ∈ Catalog.standard, s.name = function ∧ s.arity.Contains count) :
    ∃ body, Registry.standard.get? function = some body ∧
      ∀ vs : List Value, vs.length = count → ∀ e, body vs = .refused e → ¬ e.OfReference := by
  obtain ⟨s, hs, rfl, hcount⟩ := h
  obtain ⟨f, rfl⟩ := Catalog.exists_builtin_of_mem_standard hs
  refine ⟨_, f.name_signature ▸ Registry.get?_standard_name f, fun vs hlength e he => ?_⟩
  subst hlength
  rw [Builtin.body, if_pos (Arity.accepts_iff.mpr hcount), Outcome.ofExcept_eq_refused_iff] at he
  exact f.keepsReferences_apply hcount.1 _ he

namespace Expr

/-- No reference in such a formula goes wrong, if the fields of the schema have values. -/
theorem keepsReferences_eval (hvalues : ∀ f ∈ schema, values.contains f.field = true)
    (h : x.Referable schema) : KeepsReferences (x.eval ⟨values, .standard⟩) := by
  induction x using inductionOnParts with
  | literal l => exact .ok _
  | field name =>
    obtain ⟨f, hf, rfl⟩ := h.fields name (.self _)
    obtain ⟨v, hv⟩ := Dictionary.contains_iff.mp (hvalues f hf)
    simp only [eval, hv]
    exact .ok _
  | unary op x ih =>
    have hx := ih (h.part (.operand (.self _)))
    exact .bind hx fun v _ => (op.failsOnly_apply v).mono fun _ he => he.not_ofReference
  | binary op x y ihx ihy =>
    have hx := ihx (h.part (.left (.self _)))
    have hy := ihy (h.part (.right (.self _)))
    rw [eval_binary]
    refine .bind hx fun v _ => ?_
    split
    · exact .ok _
    · exact .bind hy fun w _ => (op.failsOnly_apply v w).mono fun _ he => he.not_ofReference
  | call function args ih =>
    obtain ⟨body, hbody, htakes⟩ := exists_body_of_contains (h.calls function args (.self _))
    have hargs : KeepsReferences (evalArgs ⟨values, .standard⟩ args) :=
      keepsReferences_evalArgs fun x hx => ih x hx (h.part (.argument hx (.self _)))
    simp only [eval, hbody]
    refine .bind hargs fun vs hvs e he => ?_
    rcases Outcome.ofCall_eq_error_iff.mp he with ⟨cause, hend, rfl⟩ | ⟨text, hend, rfl⟩
    · exact htakes vs (length_of_evalArgs hvs) cause hend
    · exact not_false

end Expr

namespace Validation

theorem ofText_of_parse (h : Expr.parse text = .ok x) :
    ofText scope text = ofExpr scope x := by
  rw [ofText, h]

theorem isValid_ofExpr_iff : (ofExpr ⟨schema, .standard⟩ x).isValid = true ↔ x.Referable schema := by
  rw [← Expr.problems_eq_nil_iff, isValid, ofExpr, List.isEmpty_iff]
  simp only [List.eq_nil_iff_forall_not_mem, List.mem_eraseDups]

theorem isValid_ofText_iff : (ofText ⟨schema, .standard⟩ text).isValid = true ↔
    ∃ x, Expr.parse text = .ok x ∧ x.Referable schema := by
  cases h : Expr.parse text with
  | error e => simp [ofText, h, isValid]
  | ok x => simp [ofText_of_parse h, isValid_ofExpr_iff]

/-- Validation is exact, and no reference in a valid text goes wrong at run time: evaluating it ends
with no unknown name, and the body of every function that it calls takes as many arguments as it is
given. -/
theorem references_of_isValid (schema : Schema) (text : String) :
    ((ofText ⟨schema, .standard⟩ text).isValid = true ↔
      ∃ x, Expr.parse text = .ok x ∧
        (∀ name, (Expr.field name).PartOf x → ∃ f ∈ schema, f.field = name) ∧
        ∀ function args, (Expr.call function args).PartOf x →
          ∃ s ∈ Catalog.standard, s.name = function ∧ s.arity.Contains args.length) ∧
    (∀ x, Expr.parse text = .ok x → ∀ name,
      name ∈ (ofText ⟨schema, .standard⟩ text).references.names ↔ (Expr.field name).PartOf x) ∧
    ((ofText ⟨schema, .standard⟩ text).isValid = true →
      ∀ values : FieldValues, (∀ f ∈ schema, values.contains f.field = true) →
        (∀ e, evalText ⟨values, .standard⟩ text = .error e → ¬ e.OfReference) ∧
        ∀ x, Expr.parse text = .ok x → ∀ function args, (Expr.call function args).PartOf x →
          ∃ body, Registry.standard.get? function = some body ∧
            ∀ vs, Expr.evalArgs ⟨values, .standard⟩ args = .ok vs →
              ∀ e, body vs = .refused e → ¬ e.OfReference) := by
  refine ⟨?_, fun x hx name => ?_, fun hvalid values hvalues => ?_⟩
  · rw [isValid_ofText_iff]
    exact exists_congr fun x => and_congr_right fun _ =>
      ⟨fun h => ⟨h.fields, h.calls⟩, fun h => ⟨h.1, h.2⟩⟩
  · rw [ofText_of_parse hx, ofExpr, Expr.fieldReferences, NameSet.mem_names_ofNames,
      Expr.mem_fieldNames_iff]
  · obtain ⟨x, hx, href⟩ := isValid_ofText_iff.mp hvalid
    constructor
    · rw [evalText, hx]
      exact Expr.keepsReferences_eval hvalues href
    · intro y hy function args hcall
      obtain rfl := Except.ok.inj (hx.symm.trans hy)
      obtain ⟨body, hbody, htakes⟩ := exists_body_of_contains (href.calls function args hcall)
      exact ⟨body, hbody, fun vs hvs => htakes vs (Expr.length_of_evalArgs hvs)⟩

theorem references_of_isValid_loudQuantity :
    (ofText ⟨[⟨"title", "text"⟩, ⟨"qty", "number"⟩], .standard⟩
        "concat(title, upper(qty))").isValid = true ∧
      ∀ e, evalText ⟨.ofList [("title", .text "Pens"), ("qty", .integer 3)], .standard⟩
        "concat(title, upper(qty))" = .error e → ¬ e.OfReference := by
  have hvalid : (ofText ⟨[⟨"title", "text"⟩, ⟨"qty", "number"⟩], .standard⟩
      "concat(title, upper(qty))").isValid = true := by
    decide +kernel
  exact ⟨hvalid, ((references_of_isValid _ _).2.2 hvalid _ (by decide +kernel)).1⟩

end Validation

end FormLogic
