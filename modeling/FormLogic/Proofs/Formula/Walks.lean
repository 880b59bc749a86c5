import FormLogic.Formula.Eval
import FormLogic.Formula.Validation
import FormLogic.Proofs.Formula.Parts

/-! Walks over formulas. A walk enters each part of a formula from the one around it, so that it
goes as deep as the formula is high: evaluation, inference and the collection of names are all walks
of this kind. -/

namespace FormLogic

namespace Expr

mutual

/-- The height of a formula, in which a literal or a field counts one. -/
def height : Expr → Nat
  | literal _ => 1
  | field _ => 1
  | unary _ x => height x + 1
  | binary _ x y => max (height x) (height y) + 1
  | call _ args => heightOfArgs args + 1

def heightOfArgs : List Expr → Nat
  | [] => 0
  | x :: xs => max (height x) (heightOfArgs xs)

end

theorem heightOfArgs_le_iff {args : List Expr} {n : Nat} :
    heightOfArgs args ≤ n ↔ ∀ x ∈ args, x.height ≤ n := by
  induction args with
  | nil => simp [heightOfArgs]
  | cons x xs ih => rw [heightOfArgs, Nat.max_le, ih, List.forall_mem_cons]

end Expr

/-- What a walk makes of a formula, given what it has made of the parts. -/
structure Walk (α : Type) where
  literal : Literal → α
  field : String → α
  unary : UnaryOp → α → α
  binary : BinaryOp → α → α → α
  call : String → List α → α

namespace Walk

variable {α : Type}

mutual

def run (w : Walk α) : Expr → α
  | .literal l => w.literal l
  | .field name => w.field name
  | .unary op x => w.unary op (run w x)
  | .binary op x y => w.binary op (run w x) (run w y)
  | .call function args => w.call function (runArgs w args)

def runArgs (w : Walk α) : List Expr → List α
  | [] => []
  | x :: xs => run w x :: runArgs w xs

end

/-- The same, unless the walk would have to go deeper than a bound. -/
def within (w : Walk α) : Nat → Expr → Option α
  | 0, _ => none
  | _ + 1, .literal l => some (w.literal l)
  | _ + 1, .field name => some (w.field name)
  | n + 1, .unary op x => (within w n x).map (w.unary op)
  | n + 1, .binary op x y => do
    let a ← within w n x
    let b ← within w n y
    return w.binary op a b
  | n + 1, .call function args => (args.mapM (within w n)).map (w.call function)

theorem mapM_within {w : Walk α} {n : Nat} {args : List Expr}
    (h : ∀ x ∈ args, w.within n x = if x.height ≤ n then some (w.run x) else none) :
    args.mapM (w.within n) =
      if Expr.heightOfArgs args ≤ n then some (w.runArgs args) else none := by
  induction args with
  | nil => simp [Expr.heightOfArgs, runArgs]
  | cons x xs ih =>
    obtain ⟨hx, hxs⟩ := List.forall_mem_cons.mp h
    simp only [List.mapM_cons, hx, ih hxs, Expr.heightOfArgs, Nat.max_le, runArgs]
    by_cases hn : x.height ≤ n
    · by_cases hns : Expr.heightOfArgs xs ≤ n
      · simp [hn, hns]
      · simp [hn, hns]
    · simp [hn]

/-- A walk goes exactly as deep as the formula is high. -/
theorem within_eq (w : Walk α) (n : Nat) (x : Expr) :
    w.within n x = if x.height ≤ n then some (w.run x) else none := by
  induction x using Expr.inductionOnParts generalizing n with
  | literal l => cases n <;> simp [within, run, Expr.height]
  | field name => cases n <;> simp [within, run, Expr.height]
  | unary op x ih =>
    cases n with
    | zero => simp [within, Expr.height]
    | succ n =>
      rw [within, ih, run, Expr.height]
      by_cases hx : x.height ≤ n
      · simp [hx]
      · simp [hx]
  | binary op x y ihx ihy =>
    cases n with
    | zero => simp [within, Expr.height]
    | succ n =>
      simp only [within, ihx, ihy, run, Expr.height, Nat.add_le_add_iff_right, Nat.max_le]
      by_cases hx : x.height ≤ n
      · by_cases hy : y.height ≤ n
        · simp [hx, hy]
        · simp [hx, hy]
      · simp [hx]
  | call function args ih =>
    cases n with
    | zero => simp [within, Expr.height]
    | succ n =>
      rw [within, mapM_within fun x hx => ih x hx n, run, Expr.height]
      by_cases hargs : Expr.heightOfArgs args ≤ n
      · simp [hargs]
      · simp [hargs]

theorem runArgs_eq_map (w : Walk α) (args : List Expr) : w.runArgs args = args.map w.run := by
  induction args with
  | nil => rfl
  | cons x xs ih => rw [runArgs, ih, List.map_cons]

/-- A function that satisfies the equations of a walk. -/
structure Computes (w : Walk α) (f : Expr → α) : Prop where
  literal : ∀ l, f (.literal l) = w.literal l
  field : ∀ name, f (.field name) = w.field name
  unary : ∀ op x, f (.unary op x) = w.unary op (f x)
  binary : ∀ op x y, f (.binary op x y) = w.binary op (f x) (f y)
  call : ∀ function args, f (.call function args) = w.call function (args.map f)

namespace Computes

variable {w : Walk α} {f : Expr → α}

theorem run_eq (h : w.Computes f) (x : Expr) : w.run x = f x := by
  induction x using Expr.inductionOnParts with
  | literal l => rw [run, h.literal]
  | field name => rw [run, h.field]
  | unary op x ih => rw [run, h.unary, ih]
  | binary op x y ihx ihy => rw [run, h.binary, ihx, ihy]
  | call function args ih => rw [run, h.call, runArgs_eq_map, List.map_congr_left ih]

theorem within_of_height_le (h : w.Computes f) {n : Nat} {x : Expr} (hx : x.height ≤ n) :
    w.within n x = some (f x) := by
  rw [within_eq, if_pos hx, h.run_eq]

end Computes

def evaluation (ctx : Context) : Walk (Except FormulaError Value) where
  literal l := .ok l.value
  field name :=
    match ctx.fields.get? name with
    | some v => .ok v
    | none => .error (.fieldNotFound name)
  unary op v := v >>= op.apply
  binary
    | .and, v, w => do
      if (← v).isTruthy then return .boolean (← w).isTruthy else return .boolean false
    | .or, v, w => do
      if (← v).isTruthy then return .boolean true else return .boolean (← w).isTruthy
    | op, v, w => do op.apply (← v) (← w)
  call function vs :=
    match ctx.functions.get? function with
    | some body => do (body (← vs.mapM id)).ofCall function
    | none => .error (.functionNotFound function)

theorem evalArgs_eq_mapM (ctx : Context) (args : List Expr) :
    Expr.evalArgs ctx args = (args.map (Expr.eval ctx)).mapM id := by
  induction args with
  | nil => rfl
  | cons x xs ih =>
    rw [Expr.evalArgs, ih, List.map_cons, List.mapM_cons]
    rfl

theorem computes_evaluation (ctx : Context) : (evaluation ctx).Computes (Expr.eval ctx) where
  literal _ := rfl
  field _ := rfl
  unary _ _ := rfl
  binary op x y := by cases op <;> rfl
  call function args := by
    rw [Expr.eval, evalArgs_eq_mapM]
    rfl

def inference (scope : Scope) : Walk (ResultType × List Problem × List Doubt) where
  literal l := (l.resultType, [], [])
  field name := ((scope.schema.typeOf? name).getD .unknown,
    if (scope.schema.typeOf? name).isSome then [] else [.unknownField name], [])
  unary op v := (op.resultType, v.2.1, v.2.2 ++ Expr.unaryDoubts op v.1)
  binary op v w := (op.resultType v.1 w.1, v.2.1 ++ w.2.1,
    v.2.2 ++ w.2.2 ++ Expr.binaryDoubts op v.1 w.1)
  call function vs :=
    (match scope.catalog.find? function with
      | some signature => signature.returns
      | none => .unknown,
    vs.flatMap (·.2.1) ++ Expr.callProblems scope function vs.length, vs.flatMap (·.2.2))

def fieldNames : Walk (List String) where
  literal _ := []
  field name := [name]
  unary _ names := names
  binary _ names more := names ++ more
  call _ names := names.flatten

def callNames : Walk (List String) where
  literal _ := []
  field _ := []
  unary _ names := names
  binary _ names more := names ++ more
  call function names := function :: names.flatten

theorem eq_flatMap {β : Type} {f : List Expr → List β} {g : Expr → List β} (hnil : f [] = [])
    (hcons : ∀ x xs, f (x :: xs) = g x ++ f xs) (args : List Expr) : f args = args.flatMap g := by
  induction args with
  | nil => exact hnil
  | cons x xs ih => rw [hcons, ih, List.flatMap_cons]

theorem computes_inference (scope : Scope) : (inference scope).Computes fun x =>
    (x.resultType scope, x.problems scope, x.doubts scope) where
  literal _ := rfl
  field _ := rfl
  unary _ _ := rfl
  binary _ _ _ := rfl
  call function args := by
    have hproblems : Expr.problemsOfArgs scope args = args.flatMap (Expr.problems scope) :=
      eq_flatMap rfl (fun _ _ => rfl) args
    have hdoubts : Expr.doubtsOfArgs scope args = args.flatMap (Expr.doubts scope) :=
      eq_flatMap rfl (fun _ _ => rfl) args
    rw [Expr.resultType, Expr.problems, Expr.doubts, hproblems, hdoubts]
    refine Prod.ext rfl (Prod.ext ?_ ?_)
    · simp only [inference, List.flatMap_map, List.length_map]
    · simp only [inference, List.flatMap_map]

theorem computes_fieldNames : fieldNames.Computes Expr.fieldNames where
  literal _ := rfl
  field _ := rfl
  unary _ _ := rfl
  binary _ _ _ := rfl
  call _ args := eq_flatMap (f := Expr.fieldNamesOfArgs) rfl (fun _ _ => rfl) args

theorem computes_callNames : callNames.Computes Expr.callNames where
  literal _ := rfl
  field _ := rfl
  unary _ _ := rfl
  binary _ _ _ := rfl
  call function args :=
    congrArg (function :: ·) (eq_flatMap (f := Expr.callNamesOfArgs) rfl (fun _ _ => rfl) args)

end Walk

namespace Expr

/-- The walks over a formula need not go deeper than a bound. -/
structure WalkedWithin (x : Expr) (n : Nat) : Prop where
  evaluated : ∀ ctx, (Walk.evaluation ctx).within n x = some (x.eval ctx)
  inferred : ∀ scope, (Walk.inference scope).within n x =
    some (x.resultType scope, x.problems scope, x.doubts scope)
  fields : Walk.fieldNames.within n x = some x.fieldNames
  calls : Walk.callNames.within n x = some x.callNames

theorem walkedWithin_iff {x : Expr} {n : Nat} : x.WalkedWithin n ↔ x.height ≤ n := by
  constructor
  · intro h
    by_cases hx : x.height ≤ n
    · exact hx
    · have hnone := h.fields
      rw [Walk.within_eq, if_neg hx] at hnone
      cases hnone
  · intro hx
    exact {
      evaluated := fun ctx => (Walk.computes_evaluation ctx).within_of_height_le hx
      inferred := fun scope => (Walk.computes_inference scope).within_of_height_le hx
      fields := Walk.computes_fieldNames.within_of_height_le hx
      calls := Walk.computes_callNames.within_of_height_le hx }

end Expr

end FormLogic
