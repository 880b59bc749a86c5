import FormLogic.Calculation
import FormLogic.Proofs.DependencyGraph.Order
import FormLogic.Proofs.Entity.Graph
import FormLogic.Proofs.Formula.Locality

/-! A run over formulas none of which names a field that is evaluated with it or after it: what the
run makes of a field is what the field's formula gives over the values that stand at its end. -/

namespace FormLogic

namespace Calculation

/-- Why an outcome is no value. -/
def fault? : Except FormulaError Value → Option CalculationError
  | .ok _ => none
  | .error e => some (.failed e)

/-- No formula names the field that it belongs to, or one that is evaluated later; and every field
is evaluated once. -/
def InOrder : List (String × String) → Prop
  | [] => True
  | f :: rest =>
    f.1 ∉ rest.map (·.1) ∧
      (∀ x, Expr.parse f.2 = .ok x → ∀ n ∈ x.fieldNames, n ≠ f.1 ∧ n ∉ rest.map (·.1)) ∧
      InOrder rest

namespace Progress

variable {functions : Registry} {p : Progress} {field formula name : String}
  {formulas : List (String × String)}

/-- Evaluates formulas in turn. -/
def run (functions : Registry) (p : Progress) (formulas : List (String × String)) : Progress :=
  formulas.foldl (fun p f => p.evaluate functions f.1 f.2) p

/-- A field has neither a value nor an error yet. -/
structure Fresh (p : Progress) (name : String) : Prop where
  values : p.result.values.get? name = none
  errors : p.result.errors.get? name = none

structure Shows (p : Progress) (name : String) (outcome : Except FormulaError Value) : Prop where
  working : p.working.get? name = outcome.toOption
  values : p.result.values.get? name = outcome.toOption
  errors : p.result.errors.get? name = fault? outcome

structure Same (p q : Progress) (name : String) : Prop where
  working : p.working.get? name = q.working.get? name
  values : p.result.values.get? name = q.result.values.get? name
  errors : p.result.errors.get? name = q.result.errors.get? name

theorem Same.trans {q r : Progress} (h₁ : Same p q name) (h₂ : Same q r name) : Same p r name :=
  ⟨h₁.working.trans h₂.working, h₁.values.trans h₂.values, h₁.errors.trans h₂.errors⟩

theorem Shows.of_same {q : Progress} {outcome : Except FormulaError Value}
    (h : Shows p name outcome) (hq : Same q p name) : Shows q name outcome :=
  ⟨hq.working.trans h.working, hq.values.trans h.values, hq.errors.trans h.errors⟩

theorem Fresh.of_same {q : Progress} (h : Fresh p name) (hq : Same q p name) : Fresh q name :=
  ⟨hq.values.trans h.values, hq.errors.trans h.errors⟩

theorem same_evaluate (h : name ≠ field) : Same (p.evaluate functions field formula) p name := by
  unfold evaluate
  cases evalText ⟨p.working, functions⟩ formula <;>
    constructor <;> simp [Dictionary.get?_insert, Dictionary.get?_erase, h]

theorem shows_evaluate (functions : Registry) (formula : String) (h : Fresh p field) :
    Shows (p.evaluate functions field formula) field
      (evalText ⟨p.working, functions⟩ formula) := by
  unfold evaluate
  cases evalText ⟨p.working, functions⟩ formula <;>
    constructor <;>
      simp [Dictionary.get?_insert, Dictionary.get?_erase, Except.toOption, fault?, h.values,
        h.errors]

theorem order_evaluate :
    (p.evaluate functions field formula).result.order = p.result.order ++ [field] := by
  unfold evaluate
  cases evalText ⟨p.working, functions⟩ formula <;> rfl

theorem same_run (h : name ∉ formulas.map (·.1)) : Same (p.run functions formulas) p name := by
  induction formulas generalizing p with
  | nil => exact ⟨rfl, rfl, rfl⟩
  | cons f rest ih =>
    obtain ⟨hne, hrest⟩ := List.ne_and_not_mem_of_not_mem_cons h
    exact (ih hrest).trans (same_evaluate hne)

theorem order_run : (p.run functions formulas).result.order =
    p.result.order ++ formulas.map (·.1) := by
  induction formulas generalizing p with
  | nil => simp [run]
  | cons f rest ih =>
    show (run functions (p.evaluate functions f.1 f.2) rest).result.order = _
    rw [ih, order_evaluate, List.append_assoc]
    rfl

/-- At the end of a run every field has the outcome of its formula over the final values. -/
theorem shows_run (horder : InOrder formulas) (hfresh : ∀ f ∈ formulas, Fresh p f.1)
    {f : String × String} (hf : f ∈ formulas) :
    Shows (p.run functions formulas) f.1
      (evalText ⟨(p.run functions formulas).working, functions⟩ f.2) := by
  induction formulas generalizing p with
  | nil => exact absurd hf List.not_mem_nil
  | cons g rest ih =>
    obtain ⟨hlater, hnames, hrest⟩ := horder
    show Shows (run functions (p.evaluate functions g.1 g.2) rest) f.1 _
    rcases List.mem_cons.mp hf with rfl | hf
    · have hshows := shows_evaluate functions f.2 (hfresh f List.mem_cons_self)
      -- what the formula names is settled before it, and stays so to the end
      have hsame : evalText ⟨p.working, functions⟩ f.2 =
          evalText ⟨(p.run functions (f :: rest)).working, functions⟩ f.2 := by
        refine evalText_congr fun x hx n hn => ?_
        obtain ⟨hne, hnot⟩ := hnames x hx n hn
        exact ((same_run (List.not_mem_cons_of_ne_of_not_mem hne hnot)).working).symm
      rw [hsame] at hshows
      exact hshows.of_same (same_run hlater)
    · refine ih hrest (fun k hk => ?_) hf
      refine (hfresh k (List.mem_cons_of_mem _ hk)).of_same (same_evaluate ?_)
      exact fun heq => hlater (heq ▸ List.mem_map_of_mem hk)

end Progress

/-- A region holds with a field all that the field's formula names. Two mappings that agree on the
other names of the region, and of which each gives the fields of some formulas in order what the
formulas give over it, agree on the whole region. -/
theorem agree_of_inOrder (functions : Registry) {v w : FieldValues} {region : String → Prop}
    {formulas : List (String × String)} (horder : InOrder formulas)
    (hclosed : ∀ f ∈ formulas, region f.1 → ∀ x, Expr.parse f.2 = .ok x →
      ∀ n ∈ x.fieldNames, region n)
    (hother : ∀ n, region n → n ∉ formulas.map (·.1) → v.get? n = w.get? n)
    (hv : ∀ f ∈ formulas, v.get? f.1 = (evalText ⟨v, functions⟩ f.2).toOption)
    (hw : ∀ f ∈ formulas, w.get? f.1 = (evalText ⟨w, functions⟩ f.2).toOption) :
    ∀ n, region n → v.get? n = w.get? n := by
  induction formulas with
  | nil => exact fun n hn => hother n hn (by simp)
  | cons f rest ih =>
    obtain ⟨hlater, hnames, hrest⟩ := horder
    refine ih hrest (fun g hg => hclosed g (List.mem_cons_of_mem _ hg)) (fun n hn hnot => ?_)
      (fun g hg => hv g (List.mem_cons_of_mem _ hg)) fun g hg => hw g (List.mem_cons_of_mem _ hg)
    by_cases hne : n = f.1
    · subst hne
      -- what the formula names comes before it, so the mappings agree on it already
      have hsame : evalText ⟨v, functions⟩ f.2 = evalText ⟨w, functions⟩ f.2 := by
        refine evalText_congr fun x hx m hm => ?_
        obtain ⟨hmne, hmnot⟩ := hnames x hx m hm
        exact hother m (hclosed f List.mem_cons_self hn x hx m hm)
          (List.not_mem_cons_of_ne_of_not_mem hmne hmnot)
      rw [hv f List.mem_cons_self, hw f List.mem_cons_self, hsame]
    · exact hother n hn (List.not_mem_cons_of_ne_of_not_mem hne hnot)

theorem eq_of_inOrder (functions : Registry) {v w : FieldValues}
    {formulas : List (String × String)} (horder : InOrder formulas)
    (hother : ∀ n, n ∉ formulas.map (·.1) → v.get? n = w.get? n)
    (hv : ∀ f ∈ formulas, v.get? f.1 = (evalText ⟨v, functions⟩ f.2).toOption)
    (hw : ∀ f ∈ formulas, w.get? f.1 = (evalText ⟨w, functions⟩ f.2).toOption) : v = w := by
  have hagree : ∀ n, True → v.get? n = w.get? n :=
    agree_of_inOrder functions horder (fun _ _ _ _ _ _ _ => trivial) (fun n _ => hother n) hv hw
  exact Dictionary.ext_get? fun n => hagree n trivial

end Calculation

end FormLogic
