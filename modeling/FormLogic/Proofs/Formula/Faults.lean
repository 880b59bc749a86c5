import FormLogic.Proofs.Except
import FormLogic.Proofs.Formula.Functions

/-! The errors of operators and standard functions. Operators blame their operands or their result,
and a standard function that has as many arguments as it needs misses none. -/

namespace FormLogic

theorem failsOnly_fitOr (operation : String) (n : Int) :
    FailsOnly (· = .overflow operation) (fitOr operation n) := by
  unfold fitOr
  split
  · exact .ok _
  · exact .error rfl

namespace Arithmetic

/-- The errors of an arithmetic operator: operands of the wrong kinds, or a result that does not
exist or does not fit. -/
inductive Raises (op : Arithmetic) : FormulaError → Prop where
  | divisionByZero : Raises op .divisionByZero
  | typeMismatch (fault : TypeFault) : Raises op (.typeMismatch fault)
  | noRealPower (base exponent : Float) :
    op = .power → Raises op (.invalidArgument (.noRealPower base exponent))
  | overflow : Raises op (.overflow op.symbol)

theorem failsOnly_fitOr_symbol (op : Arithmetic) (n : Int) :
    FailsOnly op.Raises (fitOr op.symbol n) :=
  (failsOnly_fitOr op.symbol n).mono fun _ he => he ▸ .overflow

theorem failsOnly_quotient (op : Arithmetic) (l r : Float) :
    FailsOnly op.Raises (quotient l r) := by
  unfold quotient
  split
  · exact .error .divisionByZero
  · exact .ok _

theorem failsOnly_integerModulo (l r : Int64) :
    FailsOnly modulo.Raises (integerModulo l r) := by
  unfold integerModulo
  split
  · exact .error .divisionByZero
  · split
    · exact .ok _
    · exact .error .overflow

theorem failsOnly_floatModulo (l r : Float) : FailsOnly modulo.Raises (floatModulo l r) := by
  unfold floatModulo
  split
  · exact .error .divisionByZero
  · exact .ok _

theorem failsOnly_floatPower (base exponent : Float) :
    FailsOnly power.Raises (floatPower base exponent) := by
  unfold floatPower
  split
  · exact .error .divisionByZero
  · dsimp only
    split
    · exact .error (.noRealPower _ _ rfl)
    · split
      · exact .error .overflow
      · exact .ok _

theorem failsOnly_integerPower (base exponent : Int64) :
    FailsOnly power.Raises (integerPower base exponent) := by
  unfold integerPower
  split
  · exact failsOnly_floatPower _ _
  · split
    · exact .ok _
    · exact .error .overflow

theorem failsOnly_onNumbers (op : Arithmetic) (numbers : Operands) :
    FailsOnly op.Raises (op.onNumbers numbers) := by
  cases numbers with
  | integers l r =>
    cases op with
    | add => exact failsOnly_fitOr_symbol add _
    | subtract => exact failsOnly_fitOr_symbol subtract _
    | multiply => exact failsOnly_fitOr_symbol multiply _
    | divide => exact failsOnly_quotient _ _ _
    | modulo => exact failsOnly_integerModulo _ _
    | power => exact failsOnly_integerPower _ _
  | floats l r =>
    cases op with
    | add => exact .ok _
    | subtract => exact .ok _
    | multiply => exact .ok _
    | divide => exact failsOnly_quotient _ _ _
    | modulo => exact failsOnly_floatModulo _ _
    | power => exact failsOnly_floatPower _ _

theorem failsOnly_apply (op : Arithmetic) (l r : Value) : FailsOnly op.Raises (op.apply l r) := by
  unfold apply
  split
  · exact .ok _
  · exact .ok _
  · refine .bind ?_ fun numbers _ => failsOnly_onNumbers op numbers
    unfold operands
    split
    · exact .ok _
    · exact .error (.typeMismatch _)

end Arithmetic

def BinaryOp.Raises : BinaryOp → FormulaError → Prop
  | .arithmetic op, e => op.Raises e
  | .order _, e => ∃ fault, e = .typeMismatch fault
  | _, _ => False

theorem BinaryOp.failsOnly_apply (op : BinaryOp) (l r : Value) :
    FailsOnly op.Raises (op.apply l r) := by
  cases op with
  | arithmetic op => exact op.failsOnly_apply l r
  | order relation =>
    refine .bind ?_ fun _ _ => .ok _
    unfold Relation.order?
    split
    · exact .ok _
    · exact .ok _
    · split
      · exact .ok _
      · exact .ok _
      · exact .error ⟨_, rfl⟩
  | _ => exact .ok _

inductive UnaryOp.Raises (op : UnaryOp) : FormulaError → Prop where
  | typeMismatch (fault : TypeFault) : Raises op (.typeMismatch fault)
  | overflow : Raises op (.overflow op.symbol)

theorem UnaryOp.failsOnly_apply (op : UnaryOp) (v : Value) : FailsOnly op.Raises (op.apply v) := by
  unfold apply
  split
  · exact .ok _
  · exact (failsOnly_fitOr _ _).mono fun _ he => he ▸ .overflow
  · exact .ok _
  · exact .ok _
  · exact .error (.typeMismatch _)

def ArgumentFault.OfCount : ArgumentFault → Prop
  | .wrongCount _ _ | .missing _ _ => True
  | _ => False

namespace FormulaError

/-- A reference went wrong: a name that means nothing, or a call with a number of arguments that its
function does not take. -/
def OfReference : FormulaError → Prop
  | fieldNotFound _ | functionNotFound _ => True
  | invalidArgument fault => fault.OfCount
  | functionRefused _ cause => cause.OfReference
  | _ => False

end FormulaError

theorem Arithmetic.Raises.not_ofReference {op : Arithmetic} {e : FormulaError} (h : op.Raises e) :
    ¬ e.OfReference := by
  cases h <;> exact not_false

theorem BinaryOp.Raises.not_ofReference {op : BinaryOp} {e : FormulaError} (h : op.Raises e) :
    ¬ e.OfReference := by
  cases op with
  | arithmetic op => exact Arithmetic.Raises.not_ofReference h
  | order relation =>
    obtain ⟨fault, rfl⟩ := h
    exact not_false
  | _ => exact h.elim

theorem UnaryOp.Raises.not_ofReference {op : UnaryOp} {e : FormulaError} (h : op.Raises e) :
    ¬ e.OfReference := by
  cases h <;> exact not_false

abbrev KeepsReferences {α : Type} (step : Except FormulaError α) : Prop :=
  FailsOnly (fun e => ¬ e.OfReference) step

theorem keepsReferences_fitOr (operation : String) (n : Int) :
    KeepsReferences (fitOr operation n) :=
  (failsOnly_fitOr operation n).mono fun _ he => he ▸ not_false

namespace Builtin

theorem keepsReferences_number (f : Builtin) (v : Value) : KeepsReferences (f.number v) := by
  unfold number
  split
  · exact .ok _
  · exact .error not_false

theorem keepsReferences_text (f : Builtin) (v : Value) : KeepsReferences (f.text v) := by
  unfold text
  split
  · exact .ok _
  · exact .error not_false

theorem keepsReferences_absolute (q : Quantity) : KeepsReferences (absolute q) := by
  cases q with
  | integer n => exact keepsReferences_fitOr _ _
  | float x => exact .ok _

theorem keepsReferences_extremeFrom (f : Builtin) (wanted : Ordering) (best : Quantity)
    (vs : List Value) : KeepsReferences (f.extremeFrom wanted best vs) := by
  induction vs generalizing best with
  | nil => exact .ok _
  | cons v vs ih => exact .bind (f.keepsReferences_number v) fun _ _ => ih _

theorem keepsReferences_extreme (f : Builtin) (wanted : Ordering) (vs : List Value) :
    KeepsReferences (f.extreme wanted vs) := by
  cases vs with
  | nil => exact .error not_false
  | cons v vs =>
    exact .bind (f.keepsReferences_number v) fun _ _ =>
      .bind (f.keepsReferences_extremeFrom _ _ _) fun _ _ => .ok _

theorem keepsReferences_addTo (a b : Quantity) : KeepsReferences (addTo a b) := by
  unfold addTo
  split
  · split
    · exact .ok _
    · exact .error not_false
  · exact .ok _

theorem keepsReferences_sumFrom (f : Builtin) (total : Quantity) (vs : List Value) :
    KeepsReferences (f.sumFrom total vs) := by
  induction vs generalizing total with
  | nil => exact .ok _
  | cons v vs ih =>
    exact .bind (f.keepsReferences_number v) fun _ _ =>
      .bind (keepsReferences_addTo _ _) fun _ _ => ih _

theorem keepsReferences_digits? (v : Option Value) : KeepsReferences (digits? v) := by
  unfold digits?
  split
  · exact .ok _
  · exact .ok _
  · exact .ok _
  · exact .error not_false

theorem keepsReferences_rounded (q : Quantity) (d : Option Int64) :
    KeepsReferences (rounded q d) := by
  unfold rounded
  split
  · exact .ok _
  · split
    · exact .ok _
    · unfold roundInteger
      split
      · exact keepsReferences_fitOr _ _
      · exact .ok _
  · unfold roundToInteger
    split
    · exact keepsReferences_fitOr _ _
    · exact .error not_false
  · exact .ok _

theorem keepsReferences_argument (f : Builtin) {args : List Value} {position : Nat}
    (h : position < args.length) : KeepsReferences (f.argument args position) := by
  rw [argument, List.getElem?_eq_getElem h]
  exact .ok _

theorem keepsReferences_apply (f : Builtin) {args : List Value}
    (h : f.signature.arity.min ≤ args.length) : KeepsReferences (f.apply args) := by
  cases f with
  | abs =>
    exact .bind (keepsReferences_argument _ h) fun _ _ =>
      .bind (keepsReferences_number _ _) fun _ _ => keepsReferences_absolute _
  | coalesce => exact .ok _
  | concat => exact .ok _
  | ifElse =>
    have hthree : 3 ≤ args.length := h
    refine .bind (keepsReferences_argument _ (by omega)) fun condition _ => ?_
    exact keepsReferences_argument _ (by split <;> omega)
  | isEmpty => exact .bind (keepsReferences_argument _ h) fun _ _ => .ok _
  | max => exact keepsReferences_extreme _ _ _
  | min => exact keepsReferences_extreme _ _ _
  | pow =>
    have htwo : 2 ≤ args.length := h
    exact .bind (keepsReferences_argument _ (by omega)) fun _ _ =>
      .bind (keepsReferences_argument _ (by omega)) fun _ _ =>
      .bind (keepsReferences_number _ _) fun _ _ => .bind (keepsReferences_number _ _) fun _ _ =>
      (Arithmetic.failsOnly_onNumbers _ _).mono fun _ he => he.not_ofReference
  | round =>
    exact .bind (keepsReferences_argument _ h) fun _ _ =>
      .bind (keepsReferences_digits? _) fun _ _ =>
      .bind (keepsReferences_number _ _) fun _ _ => keepsReferences_rounded _ _
  | sum => exact .bind (keepsReferences_sumFrom _ _ _) fun _ _ => .ok _
  | lower | strip | upper =>
    exact .bind (keepsReferences_argument _ h) fun _ _ =>
      .bind (keepsReferences_text _ _) fun _ _ => .ok _

end Builtin

end FormLogic
