import FormLogic.Proofs.Formula.Typing

/-! The type that is inferred for a formula is that of its value, but for one gap: a sum is taken
for a number unless one of its operands is known to be a text. -/

namespace FormLogic

open Value

def FieldValues.Fits (values : FieldValues) (schema : Schema) : Prop :=
  ∀ name v, values.get? name = some v → ∀ t, schema.typeOf? name = some t → v.HasType t

namespace Expr

/-- The types in a scope leave open what kind of value a formula has: it is of the unknown type, or
a sum of two such formulas. -/
def IsOpen (scope : Scope) : Expr → Prop
  | binary (.arithmetic .add) x y => IsOpen scope x ∧ IsOpen scope y
  | x => x.resultType scope = .unknown

/-- A formula is a sum of two open formulas, and joins two texts or two lists. -/
def JoinsOpen (scope : Scope) (ctx : Context) (x : Expr) : Prop :=
  ∃ y z l r, x = .binary (.arithmetic .add) y z ∧ y.IsOpen scope ∧ z.IsOpen scope ∧
    y.eval ctx = .ok l ∧ z.eval ctx = .ok r ∧ l.Joins r

variable {scope : Scope} {ctx : Context} {x y z : Expr} {v : Value}

theorem resultType_add_eq_number (hy : y.resultType scope ≠ .text)
    (hz : z.resultType scope ≠ .text) :
    (binary (.arithmetic .add) y z).resultType scope = .number := by
  rw [resultType, BinaryOp.resultType, if_neg (not_or.mpr ⟨hy, hz⟩)]

theorem resultType_ne_text_of_isOpen (h : x.IsOpen scope) : x.resultType scope ≠ .text := by
  fun_induction IsOpen scope x with
  | case1 y z ihy ihz =>
    rw [resultType_add_eq_number (ihy h.1) (ihz h.2)]
    exact nofun
  | case2 x _ =>
    rw [h]
    exact nofun

theorem isOpen_of_resultType (h : x.resultType scope = .unknown) : x.IsOpen scope := by
  unfold IsOpen
  split
  · next y z =>
    rw [resultType, BinaryOp.resultType] at h
    split at h <;> cases h
  · exact h

theorem JoinsOpen.isOpen (h : x.JoinsOpen scope ctx) : x.IsOpen scope := by
  obtain ⟨y, z, -, -, rfl, hy, hz, -⟩ := h
  exact ⟨hy, hz⟩

theorem JoinsOpen.resultType_eq (h : x.JoinsOpen scope ctx) : x.resultType scope = .number := by
  obtain ⟨y, z, -, -, rfl, hy, hz, -⟩ := h
  exact resultType_add_eq_number (resultType_ne_text_of_isOpen hy) (resultType_ne_text_of_isOpen hz)

theorem eval_binary_eq_ok {op : BinaryOp} (h : (binary op y z).eval ctx = .ok v) :
    (v.HasType .boolean ∧ ∀ a, op ≠ .arithmetic a) ∨
      ∃ a l r, op = .arithmetic a ∧ y.eval ctx = .ok l ∧ z.eval ctx = .ok r ∧
        a.apply l r = .ok v := by
  rw [eval_binary] at h
  obtain ⟨l, hl, hrest⟩ := bind_eq_ok_iff.mp h
  split at hrest
  · next hsettled =>
    cases hrest
    refine .inl ⟨hasType_boolean _, ?_⟩
    rintro a rfl
    cases hsettled
  · obtain ⟨r, hr, hv⟩ := bind_eq_ok_iff.mp hrest
    by_cases hop : ∃ a, op = .arithmetic a
    · obtain ⟨a, rfl⟩ := hop
      exact .inr ⟨a, l, r, rfl, hl, hr, hv⟩
    · exact .inl ⟨BinaryOp.hasType_apply (not_exists.mp hop) hv, not_exists.mp hop⟩

theorem JoinsOpen.kind_eq (h : x.JoinsOpen scope ctx) (hv : x.eval ctx = .ok v) :
    v.kind = .text ∨ v.kind = .list := by
  obtain ⟨y, z, l, r, rfl, -, -, hl, hr, hjoins⟩ := h
  rcases eval_binary_eq_ok hv with ⟨-, hop⟩ | ⟨a, l', r', hop, hl', hr', happly⟩
  · exact absurd rfl (hop .add)
  · obtain rfl := Except.ok.inj (hl.symm.trans hl')
    obtain rfl := Except.ok.inj (hr.symm.trans hr')
    rw [Arithmetic.kind_apply_of_joins happly hjoins]
    exact hjoins.kind_left

theorem hasType_call {schema : Schema} {values : FieldValues} {function : String}
    {args : List Expr} (h : (call function args).eval ⟨values, .standard⟩ = .ok v) :
    v.HasType ((call function args).resultType ⟨schema, .standard⟩) := by
  rw [resultType]
  split
  · next signature hsignature =>
    obtain ⟨f, hf, rfl⟩ := Catalog.exists_builtin_of_find?_standard hsignature
    obtain ⟨body, vs, hbody, -, hvalue⟩ := eval_call_eq_ok_iff.mp h
    obtain ⟨g, hg, rfl⟩ := Registry.exists_builtin_of_get?_standard hbody
    obtain rfl := Builtin.eq_of_name_eq (hg.trans hf.symm)
    exact Builtin.hasType_body hvalue
  · trivial

theorem kind_eq_text (h : v.HasType (x.resultType scope) ∨ x.JoinsOpen scope ctx)
    (ht : x.resultType scope = .text) : v.kind = .text := by
  rcases h with h | h
  · rw [ht] at h
    exact h
  · cases ht.symm.trans h.resultType_eq

theorem isOpen_of_kind (h : v.HasType (x.resultType scope) ∨ x.JoinsOpen scope ctx)
    (hkind : v.kind = .text ∨ v.kind = .list) (ht : x.resultType scope ≠ .text) :
    x.IsOpen scope := by
  rcases h with h | h
  · cases hx : x.resultType scope with
    | unknown => exact isOpen_of_resultType hx
    | text => exact absurd hx ht
    | boolean =>
      rw [hx] at h
      rcases hkind with hk | hk <;> cases h.symm.trans hk
    | number =>
      rw [hx] at h
      exact absurd h (not_hasType_number hkind)
  · exact h.isOpen

/-- A sum has the type inferred for it or joins open formulas, if that holds of its operands. -/
theorem hasType_or_joinsOpen_add {l r : Value}
    (hy : l.HasType (y.resultType scope) ∨ y.JoinsOpen scope ctx)
    (hz : r.HasType (z.resultType scope) ∨ z.JoinsOpen scope ctx)
    (hl : y.eval ctx = .ok l) (hr : z.eval ctx = .ok r) (h : Arithmetic.add.apply l r = .ok v) :
    v.HasType ((binary (.arithmetic .add) y z).resultType scope) ∨
      (binary (.arithmetic .add) y z).JoinsOpen scope ctx := by
  by_cases htext : y.resultType scope = .text ∨ z.resultType scope = .text
  · have htype : (binary (.arithmetic .add) y z).resultType scope = .text := by
      rw [resultType, BinaryOp.resultType, if_pos htext]
    have hkind : l.kind = .text ∨ r.kind = .text :=
      htext.imp (kind_eq_text hy) (kind_eq_text hz)
    left
    rw [htype]
    exact Arithmetic.kind_apply_of_text h hkind
  · obtain ⟨hyne, hzne⟩ := not_or.mp htext
    rcases Arithmetic.hasType_apply h with ⟨-, -, hv⟩ | ⟨-, hjoins, -⟩
    · left
      rw [resultType_add_eq_number hyne hzne]
      exact hv
    · right
      exact ⟨y, z, l, r, rfl, isOpen_of_kind hy hjoins.kind_left hyne,
        isOpen_of_kind hz hjoins.kind_right hzne, hl, hr, hjoins⟩

theorem hasType_or_joinsOpen {schema : Schema} {values : FieldValues}
    (hfits : values.Fits schema) (x : Expr) {v : Value}
    (h : x.eval ⟨values, .standard⟩ = .ok v) :
    v.HasType (x.resultType ⟨schema, .standard⟩) ∨
      x.JoinsOpen ⟨schema, .standard⟩ ⟨values, .standard⟩ := by
  match x with
  | literal l =>
    cases h
    exact .inl l.hasType_value
  | field name =>
    rw [resultType]
    cases ht : schema.typeOf? name with
    | none => exact .inl trivial
    | some t => exact .inl (hfits name v (eval_field_eq_ok_iff.mp h) t ht)
  | unary op y =>
    simp only [eval] at h
    obtain ⟨w, -, hw⟩ := bind_eq_ok_iff.mp h
    exact .inl (UnaryOp.hasType_apply hw)
  | binary op y z =>
    rcases eval_binary_eq_ok h with ⟨hv, hop⟩ | ⟨a, l, r, rfl, hl, hr, happly⟩
    · cases op with
      | arithmetic a => exact absurd rfl (hop a)
      | _ => exact .inl hv
    · cases a with
      | add =>
        exact hasType_or_joinsOpen_add (hasType_or_joinsOpen hfits y hl)
          (hasType_or_joinsOpen hfits z hr) hl hr happly
      | _ =>
        rcases Arithmetic.hasType_apply happly with ⟨-, -, hv⟩ | ⟨hadd, -⟩
        · exact .inl hv
        · cases hadd
  | call function args => exact .inl (hasType_call h)

/-- The inferred type is that of the value, unless the formula is a sum of two open formulas that
joins two texts or two lists; such a sum is taken for a number, and never is one. -/
theorem hasType_eval_iff {schema : Schema} {values : FieldValues} {x : Expr} {v : Value}
    (hfits : values.Fits schema) (h : x.eval ⟨values, .standard⟩ = .ok v) :
    (v.HasType (x.resultType ⟨schema, .standard⟩) ↔
      ¬ x.JoinsOpen ⟨schema, .standard⟩ ⟨values, .standard⟩) ∧
    (x.JoinsOpen ⟨schema, .standard⟩ ⟨values, .standard⟩ →
      x.resultType ⟨schema, .standard⟩ = .number ∧ (v.kind = .text ∨ v.kind = .list)) := by
  have hjoins (hx : x.JoinsOpen ⟨schema, .standard⟩ ⟨values, .standard⟩) :
      x.resultType ⟨schema, .standard⟩ = .number ∧ (v.kind = .text ∨ v.kind = .list) :=
    ⟨hx.resultType_eq, hx.kind_eq h⟩
  refine ⟨⟨fun hv hx => ?_, fun hx => ?_⟩, hjoins⟩
  · obtain ⟨htype, hkind⟩ := hjoins hx
    rw [htype] at hv
    exact not_hasType_number hkind hv
  · exact (hasType_or_joinsOpen hfits x h).resolve_right hx

def doubledTitle : Expr :=
  .binary (.arithmetic .add) (.field "title") (.call "upper" [.field "title"])

def titleValues : FieldValues := Dictionary.empty.insert "title" (.text "ab")

def titleSchema : Schema := [⟨"title", "text"⟩]

theorem fits_titleValues : titleValues.Fits titleSchema := by
  intro name v hv t ht
  rw [titleValues, Dictionary.get?_insert] at hv
  split at hv
  · next hname =>
    cases hv
    have htitle : titleSchema.typeOf? "title" = some .text := by decide +kernel
    rw [hname, htitle] at ht
    cases ht
    exact hasType_text _
  · cases hv

theorem hasType_eval_iff_doubledTitle :
    titleValues.Fits titleSchema ∧
      doubledTitle.eval ⟨titleValues, .standard⟩ = .ok (.text "abAB") ∧
      (Value.text "abAB").HasType (doubledTitle.resultType ⟨titleSchema, .standard⟩) := by
  have heval : doubledTitle.eval ⟨titleValues, .standard⟩ = .ok (.text "abAB") := rfl
  have htype : doubledTitle.resultType ⟨titleSchema, .standard⟩ = .text := by decide +kernel
  refine ⟨fits_titleValues, heval, (hasType_eval_iff fits_titleValues heval).1.mpr fun hx => ?_⟩
  cases htype.symm.trans hx.resultType_eq

def untypedSum : Expr :=
  .binary (.arithmetic .add) (.call "coalesce" [.literal (.text "a")])
    (.call "coalesce" [.literal (.text "b")])

/-- Inferred types are not always those of the values: `coalesce("a") + coalesce("b")` is taken for
a number and is a text. -/
theorem not_hasType_untypedSum :
    ¬ ∀ (schema : Schema) (values : FieldValues) (x : Expr) (v : Value), values.Fits schema →
      x.resultType ⟨schema, .standard⟩ ≠ .unknown → x.eval ⟨values, .standard⟩ = .ok v →
      v.HasType (x.resultType ⟨schema, .standard⟩) := by
  intro h
  have htype : untypedSum.resultType ⟨[], .standard⟩ = .number := by decide +kernel
  have heval : untypedSum.eval ⟨.empty, .standard⟩ = .ok (.text "ab") := rfl
  have hv := h [] .empty untypedSum (.text "ab") nofun (by rw [htype]; exact nofun) heval
  rw [htype] at hv
  rcases hv with hv | hv <;> cases hv

end Expr

end FormLogic
