import FormLogic.Formula.Expr

/-! What stands anywhere in a formula, also in the arguments of calls. -/

namespace FormLogic.Expr

inductive PartOf : Expr → Expr → Prop where
  | self (x : Expr) : PartOf x x
  | operand {x y : Expr} {op : UnaryOp} : PartOf x y → PartOf x (unary op y)
  | left {x y z : Expr} {op : BinaryOp} : PartOf x y → PartOf x (binary op y z)
  | right {x y z : Expr} {op : BinaryOp} : PartOf x z → PartOf x (binary op y z)
  | argument {x y : Expr} {function : String} {args : List Expr} :
    y ∈ args → PartOf x y → PartOf x (call function args)

/-- Induction on formulas, in which a call has its arguments for parts. -/
@[elab_as_elim]
theorem inductionOnParts {motive : Expr → Prop} (literal : ∀ l, motive (literal l))
    (field : ∀ name, motive (field name)) (unary : ∀ op x, motive x → motive (unary op x))
    (binary : ∀ op x y, motive x → motive y → motive (binary op x y))
    (call : ∀ function args, (∀ x ∈ args, motive x) → motive (call function args)) (x : Expr) :
    motive x :=
  match x with
  | .literal l => literal l
  | .field name => field name
  | .unary op x => unary op x (inductionOnParts literal field unary binary call x)
  | .binary op x y => binary op x y (inductionOnParts literal field unary binary call x)
      (inductionOnParts literal field unary binary call y)
  | .call function args =>
    call function args fun x _ => inductionOnParts literal field unary binary call x

variable {x y z : Expr} {l : Literal} {name function : String} {op : UnaryOp} {bop : BinaryOp}
  {args : List Expr}

@[simp] theorem partOf_literal : x.PartOf (literal l) ↔ x = literal l :=
  ⟨fun h => by cases h; rfl, fun h => h ▸ .self _⟩

@[simp] theorem partOf_field : x.PartOf (field name) ↔ x = field name :=
  ⟨fun h => by cases h; rfl, fun h => h ▸ .self _⟩

@[simp] theorem partOf_unary : x.PartOf (unary op y) ↔ x = unary op y ∨ x.PartOf y := by
  constructor
  · intro h
    cases h with
    | self => exact .inl rfl
    | operand h => exact .inr h
  · rintro (rfl | h)
    · exact .self _
    · exact .operand h

@[simp] theorem partOf_binary :
    x.PartOf (binary bop y z) ↔ x = binary bop y z ∨ x.PartOf y ∨ x.PartOf z := by
  constructor
  · intro h
    cases h with
    | self => exact .inl rfl
    | left h => exact .inr (.inl h)
    | right h => exact .inr (.inr h)
  · rintro (rfl | h | h)
    · exact .self _
    · exact .left h
    · exact .right h

@[simp] theorem partOf_call :
    x.PartOf (call function args) ↔ x = call function args ∨ ∃ y ∈ args, x.PartOf y := by
  constructor
  · intro h
    cases h with
    | self => exact .inl rfl
    | argument hy h => exact .inr ⟨_, hy, h⟩
  · rintro (rfl | ⟨y, hy, h⟩)
    · exact .self _
    · exact .argument hy h

theorem PartOf.trans (h : x.PartOf y) (hyz : y.PartOf z) : x.PartOf z := by
  induction hyz with
  | self => exact h
  | operand _ ih => exact .operand ih
  | left _ ih => exact .left ih
  | right _ ih => exact .right ih
  | argument hy _ ih => exact .argument hy ih

theorem mem_fieldNamesOfArgs : name ∈ fieldNamesOfArgs args ↔ ∃ x ∈ args, name ∈ x.fieldNames := by
  induction args with
  | nil => simp [fieldNamesOfArgs]
  | cons x xs ih => simp [fieldNamesOfArgs, ih]

theorem mem_fieldNames_iff : name ∈ x.fieldNames ↔ (field name).PartOf x := by
  induction x using inductionOnParts with
  | literal l => simp [fieldNames]
  | field other => simp [fieldNames]
  | unary op x ih => simp [fieldNames, ih]
  | binary op x y ihx ihy => simp [fieldNames, ihx, ihy]
  | call function args ih =>
    simp only [fieldNames, mem_fieldNamesOfArgs, partOf_call, reduceCtorEq, false_or]
    exact exists_congr fun x => and_congr_right fun hx => ih x hx

theorem mem_callNamesOfArgs : name ∈ callNamesOfArgs args ↔ ∃ x ∈ args, name ∈ x.callNames := by
  induction args with
  | nil => simp [callNamesOfArgs]
  | cons x xs ih => simp [callNamesOfArgs, ih]

theorem mem_callNames_iff : name ∈ x.callNames ↔ ∃ args, (call name args).PartOf x := by
  induction x using inductionOnParts with
  | literal l => simp [callNames]
  | field other => simp [callNames]
  | unary op x ih => simp [callNames, ih]
  | binary op x y ihx ihy => simp [callNames, ihx, ihy, exists_or]
  | call function args ih =>
    simp only [callNames, List.mem_cons, mem_callNamesOfArgs, partOf_call, call.injEq, exists_or]
    refine or_congr (by simp) ?_
    constructor
    · rintro ⟨y, hy, hname⟩
      obtain ⟨others, hcall⟩ := (ih y hy).mp hname
      exact ⟨others, y, hy, hcall⟩
    · rintro ⟨others, y, hy, hcall⟩
      exact ⟨y, hy, (ih y hy).mpr ⟨others, hcall⟩⟩

end FormLogic.Expr
