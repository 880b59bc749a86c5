import FormLogic.Formula.Eval
import FormLogic.Proofs.Formula.Parts

/-! The value of a formula depends only on the meaning of the names in it. -/

namespace FormLogic

/-- Two contexts give the same meaning to some names of fields and some of functions. -/
structure Context.Agree (ctx other : Context) (fieldNames callNames : List String) : Prop where
  fields : ∀ n ∈ fieldNames, ctx.fields.get? n = other.fields.get? n
  functions : ∀ n ∈ callNames, ctx.functions.get? n = other.functions.get? n

namespace Context.Agree

variable {ctx other : Context} {xs ys fs gs : List String}

theorem left (h : Agree ctx other (xs ++ ys) (fs ++ gs)) : Agree ctx other xs fs :=
  ⟨fun n hn => h.fields n (List.mem_append_left _ hn),
    fun n hn => h.functions n (List.mem_append_left _ hn)⟩

theorem right (h : Agree ctx other (xs ++ ys) (fs ++ gs)) : Agree ctx other ys gs :=
  ⟨fun n hn => h.fields n (List.mem_append_right _ hn),
    fun n hn => h.functions n (List.mem_append_right _ hn)⟩

theorem of_fields {fields others : FieldValues} {functions : Registry}
    (h : ∀ n ∈ xs, fields.get? n = others.get? n) :
    Agree ⟨fields, functions⟩ ⟨others, functions⟩ xs fs :=
  ⟨h, fun _ _ => rfl⟩

end Context.Agree

namespace Expr

mutual

/-- Contexts that agree on the names of a formula give it the same value or the same error. -/
theorem eval_congr {ctx other : Context} (x : Expr)
    (h : ctx.Agree other x.fieldNames x.callNames) : x.eval ctx = x.eval other := by
  match x with
  | literal l => simp only [eval]
  | field name => simp only [eval, h.fields name (by simp [fieldNames])]
  | unary op y => simp only [eval, eval_congr y h]
  | binary op y z =>
    have hy := eval_congr y h.left
    have hz := eval_congr z h.right
    cases op <;> simp only [eval, hy, hz]
  | call function args =>
    have hf := h.functions function (by simp [callNames])
    have hargs : ctx.Agree other (fieldNamesOfArgs args) (callNamesOfArgs args) :=
      ⟨h.fields, fun n hn => h.functions n (List.mem_cons_of_mem _ hn)⟩
    simp only [eval, hf, evalArgs_congr args hargs]

theorem evalArgs_congr {ctx other : Context} (args : List Expr)
    (h : ctx.Agree other (fieldNamesOfArgs args) (callNamesOfArgs args)) :
    evalArgs ctx args = evalArgs other args := by
  match args with
  | [] => simp only [evalArgs]
  | x :: xs => simp only [evalArgs, eval_congr x h.left, evalArgs_congr xs h.right]

end

end Expr

def Refers (text name : String) : Prop :=
  ∃ x : Expr, Expr.parse text = .ok x ∧ (Expr.field name).PartOf x

theorem evalText_congr {fields others : FieldValues} {functions : Registry} {text : String}
    (h : ∀ x, Expr.parse text = .ok x → ∀ n ∈ x.fieldNames, fields.get? n = others.get? n) :
    evalText ⟨fields, functions⟩ text = evalText ⟨others, functions⟩ text := by
  unfold evalText
  cases hx : Expr.parse text with
  | error e => rfl
  | ok x => exact Expr.eval_congr x (.of_fields (h x hx))

end FormLogic
