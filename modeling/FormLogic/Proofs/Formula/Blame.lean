import FormLogic.Proofs.Formula.Faults
import FormLogic.Proofs.Formula.Outcomes
import FormLogic.Proofs.Formula.Parts

/-! What an error of evaluation is blamed on. Evaluation fails exactly where it comes to a part that
raises an error of its own: a name that means nothing, an operator that the values of its operands
do not suit, or a function that ends without a value. What goes wrong inside of a function is always
told as a failure of that function, also if it is an error of a kind that evaluation knows. -/

namespace FormLogic

def FormulaError.failure? : FormulaError → Option (String × String)
  | functionRefused function cause => some (function, cause.message)
  | functionBroke function text => some (function, breakMessage text)
  | _ => none

/-- The text that the body of a function gives for ending without a value. -/
def Outcome.failureText? : Outcome → Option String
  | value _ => none
  | refused cause => some cause.message
  | broke text => some (text.getD "function panicked")

def FormulaError.OfOperator : FormulaError → Prop
  | divisionByZero | typeMismatch _ | invalidArgument _ | overflow _ => True
  | _ => False

namespace Expr

variable {ctx : Context} {x y z : Expr} {args : List Expr} {e : FormulaError}

/-- Evaluation comes to a part of a formula. Everything before the part has a value, and no operand
before it decides. -/
inductive ReachedIn (ctx : Context) (x : Expr) : Expr → Prop where
  | self : ReachedIn ctx x x
  | operand {y : Expr} {op : UnaryOp} : ReachedIn ctx x y → ReachedIn ctx x (unary op y)
  | left {y z : Expr} {op : BinaryOp} : ReachedIn ctx x y → ReachedIn ctx x (binary op y z)
  | right {y z : Expr} {op : BinaryOp} {v : Value} : y.eval ctx = .ok v → op.settledBy v = false →
    ReachedIn ctx x z → ReachedIn ctx x (binary op y z)
  | argument {y : Expr} {function : String} {body : FunctionBody} {before after : List Expr}
    {vs : List Value} : ctx.functions.get? function = some body → evalArgs ctx before = .ok vs →
    ReachedIn ctx x y → ReachedIn ctx x (call function (before ++ y :: after))

/-- A part raises an error of its own, though its operands or arguments have values. -/
inductive Raises (ctx : Context) : Expr → FormulaError → Prop where
  | field {name : String} : ctx.fields.get? name = none →
    Raises ctx (field name) (.fieldNotFound name)
  | function {name : String} {args : List Expr} : ctx.functions.get? name = none →
    Raises ctx (call name args) (.functionNotFound name)
  | unary {op : UnaryOp} {y : Expr} {v : Value} {e : FormulaError} : y.eval ctx = .ok v →
    op.apply v = .error e → Raises ctx (unary op y) e
  | binary {op : BinaryOp} {y z : Expr} {v w : Value} {e : FormulaError} : y.eval ctx = .ok v →
    z.eval ctx = .ok w → op.apply v w = .error e → Raises ctx (binary op y z) e
  | refused {name : String} {args : List Expr} {body : FunctionBody} {vs : List Value}
    {cause : FormulaError} : ctx.functions.get? name = some body → evalArgs ctx args = .ok vs →
    body vs = .refused cause → Raises ctx (call name args) (.functionRefused name cause)
  | broke {name : String} {args : List Expr} {body : FunctionBody} {vs : List Value}
    {text : Option String} : ctx.functions.get? name = some body → evalArgs ctx args = .ok vs →
    body vs = .broke text → Raises ctx (call name args) (.functionBroke name text)

theorem ReachedIn.partOf (h : x.ReachedIn ctx y) : x.PartOf y := by
  induction h with
  | self => exact .self x
  | operand _ ih => exact .operand ih
  | left _ ih => exact .left ih
  | right _ _ _ ih => exact .right ih
  | argument _ _ _ ih => exact .argument (List.mem_append_right _ List.mem_cons_self) ih

/-- What stands in a part that evaluation comes to, and raises an error there, fails the whole. -/
theorem eval_of_reachedIn (h : x.ReachedIn ctx y) (hx : x.eval ctx = .error e) :
    y.eval ctx = .error e := by
  induction h with
  | self => exact hx
  | operand _ ih => rw [eval, ih]; rfl
  | left _ ih => rw [eval_binary, ih]; rfl
  | right hv hsettled _ ih =>
    rw [eval_binary, hv, ok_bind, hsettled, ih]
    rfl
  | @argument y function body before after vs hbody hvs _ ih =>
    have hargs : evalArgs ctx (before ++ y :: after) = .error e :=
      evalArgs_eq_error_iff.mpr ⟨before, y, after, vs, rfl, hvs, ih⟩
    exact eval_call_eq_error_iff.mpr (.inr ⟨body, hbody, .inl hargs⟩)

theorem eval_of_raises (h : x.Raises ctx e) : x.eval ctx = .error e := by
  cases h with
  | field hnone => exact eval_field_eq_error_iff.mpr ⟨hnone, rfl⟩
  | function hnone => exact eval_call_eq_error_iff.mpr (.inl ⟨hnone, rfl⟩)
  | unary hv he => rw [eval, hv, ok_bind, he]
  | binary hv hw he =>
    rw [eval_binary, hv, ok_bind, BinaryOp.settledBy_of_apply_eq_error he, hw]
    exact he
  | refused hbody hvs hend =>
    refine eval_call_eq_error_iff.mpr (.inr ⟨_, hbody, .inr ⟨_, hvs, ?_⟩⟩)
    exact Outcome.ofCall_eq_error_iff.mpr (.inl ⟨_, hend, rfl⟩)
  | broke hbody hvs hend =>
    refine eval_call_eq_error_iff.mpr (.inr ⟨_, hbody, .inr ⟨_, hvs, ?_⟩⟩)
    exact Outcome.ofCall_eq_error_iff.mpr (.inr ⟨_, hend, rfl⟩)

/-- Evaluation fails with an error exactly if it comes to a part that raises it. -/
theorem eval_eq_error_iff : x.eval ctx = .error e ↔
    ∃ y : Expr, y.ReachedIn ctx x ∧ y.Raises ctx e := by
  constructor
  · intro h
    induction x using inductionOnParts with
    | literal l => cases h
    | field name =>
      obtain ⟨hnone, rfl⟩ := eval_field_eq_error_iff.mp h
      exact ⟨_, .self, .field hnone⟩
    | unary op x ih =>
      rcases bind_eq_error_iff.mp h with hx | ⟨v, hv, he⟩
      · obtain ⟨y, hy, hraises⟩ := ih hx
        exact ⟨y, .operand hy, hraises⟩
      · exact ⟨_, .self, .unary hv he⟩
    | binary op x y ihx ihy =>
      rw [eval_binary] at h
      rcases bind_eq_error_iff.mp h with hx | ⟨v, hv, hrest⟩
      · obtain ⟨z, hz, hraises⟩ := ihx hx
        exact ⟨z, .left hz, hraises⟩
      · split at hrest
        · cases hrest
        · next hsettled =>
          rcases bind_eq_error_iff.mp hrest with hy | ⟨w, hw, he⟩
          · obtain ⟨z, hz, hraises⟩ := ihy hy
            exact ⟨z, .right hv (Bool.eq_false_iff.mpr hsettled) hz, hraises⟩
          · exact ⟨_, .self, .binary hv hw he⟩
    | call name args ih =>
      rcases eval_call_eq_error_iff.mp h with ⟨hnone, rfl⟩ | ⟨body, hbody, hargs | ⟨vs, hvs, he⟩⟩
      · exact ⟨_, .self, .function hnone⟩
      · obtain ⟨before, y, after, vs, rfl, hvs, hy⟩ := evalArgs_eq_error_iff.mp hargs
        obtain ⟨z, hz, hraises⟩ := ih y (List.mem_append_right _ List.mem_cons_self) hy
        exact ⟨z, .argument hbody hvs hz, hraises⟩
      · rcases Outcome.ofCall_eq_error_iff.mp he with ⟨cause, hend, rfl⟩ | ⟨text, hend, rfl⟩
        · exact ⟨_, .self, .refused hbody hvs hend⟩
        · exact ⟨_, .self, .broke hbody hvs hend⟩
  · rintro ⟨y, hy, hraises⟩
    exact eval_of_reachedIn hy (eval_of_raises hraises)

/-- A unary operator stands in the formula whose operand has a value that it makes an error of. -/
def UnaryFails (ctx : Context) (x : Expr) (op : UnaryOp) (e : FormulaError) : Prop :=
  ∃ y v, (unary op y).PartOf x ∧ y.eval ctx = .ok v ∧ op.apply v = .error e

/-- A binary operator stands in the formula whose operands have values that it makes an error of. -/
def BinaryFails (ctx : Context) (x : Expr) (op : BinaryOp) (e : FormulaError) : Prop :=
  ∃ y z v w, (binary op y z).PartOf x ∧ y.eval ctx = .ok v ∧ z.eval ctx = .ok w ∧
    op.apply v w = .error e

/-- A call of a registered function stands in the formula whose arguments have values, on which the
body of the function ends without one and with the given text. -/
def CallFails (ctx : Context) (x : Expr) (name text : String) : Prop :=
  ∃ args vs body, (call name args).PartOf x ∧ ctx.functions.get? name = some body ∧
    List.Forall₂ (fun y v => y.eval ctx = .ok v) args vs ∧ (body vs).failureText? = some text

/-- What an error is blamed on, by its kind. -/
structure Blamed (ctx : Context) (x : Expr) (e : FormulaError) : Prop where
  readable : ∀ fault, e ≠ .malformed fault
  field : ∀ name, e = .fieldNotFound name →
    name ∈ x.fieldReferences.names ∧ ctx.fields.get? name = none
  function : ∀ name, e = .functionNotFound name →
    name ∈ x.functionNames.names ∧ ctx.functions.get? name = none
  failure : ∀ name text, e.failure? = some (name, text) →
    e.message = "Function '" ++ name ++ "' failed: " ++ text ∧ x.CallFails ctx name text
  operator : e.OfOperator → (∃ op, x.UnaryFails ctx op e) ∨ ∃ op, x.BinaryFails ctx op e
  argument : ∀ fault, e = .invalidArgument fault → x.BinaryFails ctx (.arithmetic .power) e
  overflow : ∀ symbol, e = .overflow symbol →
    (∃ op : UnaryOp, symbol = op.symbol ∧ x.UnaryFails ctx op e) ∨
      ∃ op : Arithmetic, symbol = op.symbol ∧ x.BinaryFails ctx (.arithmetic op) e

namespace Blamed

theorem of_operator (hkind : e.OfOperator)
    (hoperator : (∃ op, x.UnaryFails ctx op e) ∨ ∃ op, x.BinaryFails ctx op e)
    (hargument : ∀ fault, e = .invalidArgument fault → x.BinaryFails ctx (.arithmetic .power) e)
    (hoverflow : ∀ symbol, e = .overflow symbol →
      (∃ op : UnaryOp, symbol = op.symbol ∧ x.UnaryFails ctx op e) ∨
        ∃ op : Arithmetic, symbol = op.symbol ∧ x.BinaryFails ctx (.arithmetic op) e) :
    x.Blamed ctx e := by
  refine ⟨?_, ?_, ?_, ?_, fun _ => hoperator, hargument, hoverflow⟩
  · rintro fault rfl
    exact hkind
  · rintro name rfl
    exact hkind.elim
  · rintro name rfl
    exact hkind.elim
  · intro name text htold
    cases e with
    | functionRefused _ _ => exact hkind.elim
    | functionBroke _ _ => exact hkind.elim
    | _ => cases htold

theorem of_unaryFails {op : UnaryOp} (h : x.UnaryFails ctx op e) : x.Blamed ctx e := by
  have ⟨_, v, _, _, he⟩ := h
  have hraises : op.Raises e := op.failsOnly_apply v e he
  cases hraises with
  | typeMismatch fault => exact of_operator trivial (.inl ⟨op, h⟩) nofun nofun
  | overflow =>
    refine of_operator trivial (.inl ⟨op, h⟩) nofun ?_
    rintro symbol ⟨⟩
    exact .inl ⟨op, rfl, h⟩

theorem of_binaryFails {op : BinaryOp} (h : x.BinaryFails ctx op e) : x.Blamed ctx e := by
  have ⟨_, _, v, w, _, _, _, he⟩ := h
  have hraises : op.Raises e := op.failsOnly_apply v w e he
  cases op with
  | arithmetic op =>
    cases hraises with
    | divisionByZero => exact of_operator trivial (.inr ⟨_, h⟩) nofun nofun
    | typeMismatch fault => exact of_operator trivial (.inr ⟨_, h⟩) nofun nofun
    | noRealPower base exponent hop =>
      exact of_operator trivial (.inr ⟨_, h⟩) (fun _ _ => hop ▸ h) nofun
    | overflow =>
      refine of_operator trivial (.inr ⟨_, h⟩) nofun ?_
      rintro symbol ⟨⟩
      exact .inr ⟨op, rfl, h⟩
  | order relation =>
    obtain ⟨fault, rfl⟩ := hraises
    exact of_operator trivial (.inr ⟨_, h⟩) nofun nofun
  | _ => exact hraises.elim

theorem of_raises (hy : y.PartOf x) (h : y.Raises ctx e) : x.Blamed ctx e := by
  cases h with
  | @field name hnone =>
    refine ⟨fun _ => nofun, ?_, fun _ => nofun, fun _ _ => nofun, nofun, fun _ => nofun,
      fun _ => nofun⟩
    rintro _ ⟨⟩
    exact ⟨NameSet.mem_names_ofNames.mpr (mem_fieldNames_iff.mpr hy), hnone⟩
  | @function name args hnone =>
    refine ⟨fun _ => nofun, fun _ => nofun, ?_, fun _ _ => nofun, nofun, fun _ => nofun,
      fun _ => nofun⟩
    rintro _ ⟨⟩
    exact ⟨NameSet.mem_names_ofNames.mpr (mem_callNames_iff.mpr ⟨args, hy⟩), hnone⟩
  | unary hv he => exact of_unaryFails ⟨_, _, hy, hv, he⟩
  | binary hv hw he => exact of_binaryFails ⟨_, _, _, _, hy, hv, hw, he⟩
  | refused hbody hvs houtcome =>
    refine ⟨fun _ => nofun, fun _ => nofun, fun _ => nofun, ?_, nofun, fun _ => nofun,
      fun _ => nofun⟩
    rintro _ _ ⟨⟩
    exact ⟨rfl, _, _, _, hy, hbody, forall₂_of_evalArgs hvs, by rw [houtcome]; rfl⟩
  | broke hbody hvs houtcome =>
    refine ⟨fun _ => nofun, fun _ => nofun, fun _ => nofun, ?_, nofun, fun _ => nofun,
      fun _ => nofun⟩
    rintro _ _ ⟨⟩
    exact ⟨rfl, _, _, _, hy, hbody, forall₂_of_evalArgs hvs, by rw [houtcome]; rfl⟩

end Blamed

/-- Evaluation fails with an error exactly if it comes to a part of the formula that raises it, and
every error is blamed on a construct of its kind: a reference on a field or a function that is not
there, a failure on a call whose arguments have values and whose body ended without one, and all
else on an operator whose operands have values. -/
theorem eval_errors_blamed (ctx : Context) (x : Expr) (e : FormulaError) :
    (x.eval ctx = .error e ↔ ∃ y : Expr, y.ReachedIn ctx x ∧ y.Raises ctx e) ∧
      (x.eval ctx = .error e → x.Blamed ctx e) := by
  refine ⟨eval_eq_error_iff, fun h => ?_⟩
  obtain ⟨y, hy, hraises⟩ := eval_eq_error_iff.mp h
  exact .of_raises hy.partOf hraises

def ratedPrice : Expr :=
  .binary .or (.field "free")
    (.binary (.arithmetic .divide) (.field "price") (.call "rate" [.field "country"]))

/-- A price that is there, and a function that finds no rates and says so in the words of
evaluation. -/
def rateless : Context where
  fields := .ofList [("free", .boolean false), ("price", .integer 5), ("country", .text "NL")]
  functions := Dictionary.empty.insert "rate" fun _ => .refused (.fieldNotFound "price")

theorem eval_errors_blamed_ratedPrice :
    ratedPrice.eval rateless = .error (.functionRefused "rate" (.fieldNotFound "price")) ∧
      ratedPrice.CallFails rateless "rate" "Field 'price' not found" := by
  have h : ratedPrice.eval rateless = .error (.functionRefused "rate" (.fieldNotFound "price")) :=
    rfl
  exact ⟨h, (((eval_errors_blamed rateless ratedPrice _).2 h).failure _ _ rfl).2⟩

end Expr

end FormLogic
