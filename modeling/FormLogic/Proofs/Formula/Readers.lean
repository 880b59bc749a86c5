import FormLogic.Proofs.Formula.Chains
import FormLogic.Proofs.Formula.Primaries

/-! Every reader of formulas reads its level of the grammar: the phrases nested no deeper than the
levels left, and no others. -/

namespace FormLogic.Grammar

open FormLogic.Parser

variable {ending : Ending} {limit : Nat} {inner : Inner}

theorem sign?_eq_some_iff {t : Token} {op : UnaryOp} : sign? t = some op ↔ Signs t op := by
  constructor
  · intro h
    cases t <;> cases h <;> constructor
  · rintro ⟨⟩ <;> rfl

theorem opens_head {l : Level} {used : List Located} {x : Expr} {n : Nat}
    (hx : Derives l (words used) x n) (rest : List Located) :
    ∃ t us, used ++ rest = t :: us ∧ Opens l t.token := by
  obtain ⟨token, others, heq, hopens⟩ := hx.opens
  obtain ⟨t, us, rfl, rfl, -⟩ := List.map_eq_cons_iff.mp heq
  exact ⟨t, us ++ rest, rfl, hopens⟩

theorem advance_phrase (t : Located) {l : Level} {used : List Located} (rest : List Located)
    {x : Expr} {n : Nat} (hx : Derives l (words used) x n) :
    advance ending (t :: (used ++ rest)) = .ok (used ++ rest) := by
  obtain ⟨u, us, heq, -⟩ := opens_head hx rest
  exact advance_eq_ok_iff.mpr ⟨rfl, heq ▸ ends_cons u us⟩

section Power

theorem power_sound (h : InnerReads ending limit inner) {ts rest : List Located} {x : Expr}
    (hok : power ending inner ts = .ok (x, rest)) :
    ∃ used n, ts = used ++ rest ∧ Derives .power (words used) x n ∧ n ≤ limit + 1 ∧
      Ends ending rest := by
  obtain ⟨⟨base, us⟩, hbase, hbehind⟩ := bind_eq_ok_iff.mp hok
  obtain ⟨used, m, rfl, hderives, hm, hends⟩ := (reads_primary h.expression).sound hbase
  dsimp only at hbehind
  split at hbehind
  · next hhead =>
    obtain ⟨star, vs, rfl, hstar⟩ := head?_token_eq_some_iff.mp hhead
    obtain ⟨vs', hadvance, hstep⟩ := bind_eq_ok_iff.mp hbehind
    obtain ⟨⟨exponent, ws⟩, hexponent, heq⟩ := bind_eq_ok_iff.mp hstep
    obtain ⟨rfl, rfl⟩ := Prod.mk.inj (Except.ok.inj heq)
    rw [(advance_eq_ok_iff.mp hadvance).1] at hexponent
    obtain ⟨right, n, rfl, hright, hn, hrest⟩ := h.signed.sound hexponent
    refine ⟨used ++ star :: right, max m (n + 1), by simp, ?_,
      Nat.max_le.mpr ⟨hm, Nat.succ_le_succ hn⟩, hrest⟩
    rw [words_append, words_cons, hstar]
    exact .power hderives hright
  · obtain ⟨rfl, rfl⟩ := Prod.mk.inj (Except.ok.inj hbehind)
    exact ⟨used, m, rfl, .tighter rfl hderives, hm, hends⟩

theorem power_complete (h : InnerReads ending limit inner) {used rest : List Located} {x : Expr}
    {n : Nat} (hx : Derives .power (words used) x n) (hn : n ≤ limit + 1)
    (hstops : Stops .power rest) (hends : Ends ending rest) :
    power ending inner (used ++ rest) = .ok (x, rest) := by
  have hprimary := reads_primary h.expression
  generalize hused : words used = ts at hx
  cases hx with
  | tighter hk hbase =>
    obtain rfl := Option.some.inj hk
    have hstar : (rest.head?.map (·.token)) ≠ some .doubleStar := by
      intro hhead
      obtain ⟨star, us, heq, hstar⟩ := head?_token_eq_some_iff.mp hhead
      exact hstops star us heq (hstar ▸ .power (fun hl => by cases hl))
    have hread := hprimary.complete (hused ▸ hbase) hn (hstops.of_tighter rfl) hends
    simp only [power, hread, ok_bind, hstar, if_false]
  | join ht _ _ _ => cases ht
  | power hbase hexponent =>
    obtain ⟨left, others, rfl, rfl, hothers⟩ := List.map_eq_append_iff.mp hused
    obtain ⟨star, right, rfl, hstar, rfl⟩ := List.map_eq_cons_iff.mp hothers
    obtain ⟨hm, hn⟩ := Nat.max_le.mp hn
    have hstopped : Stops .primary (star :: (right ++ rest)) :=
      stops_cons (hstar ▸ Continues.not_doubleStar_primary)
    have hread := hprimary.complete hbase hm hstopped (ends_cons star (right ++ rest))
    have hsigned := h.signed.complete hexponent (Nat.le_of_succ_le_succ hn)
      (fun t us heq ht => hstops t us heq ht.power_of_sign) hends
    simp only [List.append_assoc, List.cons_append, power, hread, ok_bind, List.head?_cons,
      Option.map_some, hstar, if_true, advance_phrase star rest hexponent, hsigned]

theorem reads_power (h : InnerReads ending limit inner) :
    Reads ending .power (limit + 1) (power ending inner) :=
  ⟨power_sound h, power_complete h⟩

end Power

section Signed

theorem signed_sound (h : InnerReads ending limit inner) {ts rest : List Located} {x : Expr}
    (hok : signed ending inner ts = .ok (x, rest)) :
    ∃ used n, ts = used ++ rest ∧ Derives .sign (words used) x n ∧ n ≤ limit + 1 ∧
      Ends ending rest := by
  unfold signed at hok
  split at hok
  · next op hhead =>
    obtain ⟨t, hhead, hsign⟩ := Option.bind_eq_some_iff.mp hhead
    obtain ⟨us, rfl⟩ := List.head?_eq_some_iff.mp hhead
    obtain ⟨us', hadvance, hstep⟩ := bind_eq_ok_iff.mp hok
    obtain ⟨⟨y, vs⟩, hy, heq⟩ := bind_eq_ok_iff.mp hstep
    obtain ⟨rfl, rfl⟩ := Prod.mk.inj (Except.ok.inj heq)
    rw [(advance_eq_ok_iff.mp hadvance).1] at hy
    obtain ⟨used, n, rfl, hderives, hn, hrest⟩ := h.signed.sound hy
    exact ⟨t :: used, n + 1, rfl, .sign (sign?_eq_some_iff.mp hsign) hderives,
      Nat.succ_le_succ hn, hrest⟩
  · obtain ⟨used, n, rfl, hderives, hn, hrest⟩ := (reads_power h).sound hok
    exact ⟨used, n, rfl, .tighter rfl hderives, hn, hrest⟩

theorem signed_complete (h : InnerReads ending limit inner) {used rest : List Located} {x : Expr}
    {n : Nat} (hx : Derives .sign (words used) x n) (hn : n ≤ limit + 1)
    (hstops : Stops .sign rest) (hends : Ends ending rest) :
    signed ending inner (used ++ rest) = .ok (x, rest) := by
  generalize hused : words used = ts at hx
  cases hx with
  | tighter hk hpower =>
    obtain rfl := Option.some.inj hk
    subst hused
    obtain ⟨t, us, heq, hopens⟩ := opens_head hpower rest
    have hsign : sign? t.token = none := by
      rw [Option.eq_none_iff_forall_ne_some]
      exact fun op hop => hopens.not_sign (Nat.lt_succ_self _) (sign?_eq_some_iff.mp hop)
    have hhead : (used ++ rest).head?.bind (sign? ·.token) = none := by rw [heq]; exact hsign
    rw [signed, hhead]
    exact (reads_power h).complete hpower hn (hstops.of_tighter rfl) hends
  | join ht _ _ _ => cases ht
  | sign ht hoperand =>
    obtain ⟨t, operand, rfl, rfl, rfl⟩ := List.map_eq_cons_iff.mp hused
    have hread := h.signed.complete hoperand (Nat.le_of_succ_le_succ hn) hstops hends
    simp only [List.cons_append, signed, List.head?_cons, Option.bind_some,
      sign?_eq_some_iff.mpr ht, advance_phrase t rest hoperand, ok_bind, hread]

theorem reads_signed (h : InnerReads ending limit inner) :
    Reads ending .sign (limit + 1) (signed ending inner) :=
  ⟨signed_sound h, signed_complete h⟩

end Signed

theorem reads_product (h : InnerReads ending limit inner) :
    Reads ending .product (limit + 1) (product ending inner) :=
  (reads_signed h).chain .star multiplicative?_eq_some_iff rfl

theorem reads_sum (h : InnerReads ending limit inner) :
    Reads ending .sum (limit + 1) (sum ending inner) :=
  (reads_product h).chain .plus additive?_eq_some_iff rfl

theorem reads_relation (h : InnerReads ending limit inner) :
    Reads ending .relation (limit + 1) (relation ending inner) :=
  (reads_sum h).chain .less relation?_eq_some_iff rfl

theorem reads_equality (h : InnerReads ending limit inner) :
    Reads ending .equality (limit + 1) (equality ending inner) :=
  (reads_relation h).chain .equal equality?_eq_some_iff rfl

section Negatable

theorem negatable_sound (h : InnerReads ending limit inner) {ts rest : List Located} {x : Expr}
    (hok : negatable ending inner ts = .ok (x, rest)) :
    ∃ used n, ts = used ++ rest ∧ Derives .negation (words used) x n ∧ n ≤ limit + 1 ∧
      Ends ending rest := by
  unfold negatable at hok
  split at hok
  · next hhead =>
    obtain ⟨t, us, rfl, ht⟩ := head?_token_eq_some_iff.mp hhead
    obtain ⟨us', hadvance, hstep⟩ := bind_eq_ok_iff.mp hok
    obtain ⟨⟨y, vs⟩, hy, heq⟩ := bind_eq_ok_iff.mp hstep
    obtain ⟨rfl, rfl⟩ := Prod.mk.inj (Except.ok.inj heq)
    rw [(advance_eq_ok_iff.mp hadvance).1] at hy
    obtain ⟨used, n, rfl, hderives, hn, hrest⟩ := h.negatable.sound hy
    refine ⟨t :: used, n + 1, rfl, ?_, Nat.succ_le_succ hn, hrest⟩
    rw [words_cons, ht]
    exact .negation hderives
  · obtain ⟨used, n, rfl, hderives, hn, hrest⟩ := (reads_equality h).sound hok
    exact ⟨used, n, rfl, .tighter rfl hderives, hn, hrest⟩

theorem negatable_complete (h : InnerReads ending limit inner) {used rest : List Located}
    {x : Expr} {n : Nat} (hx : Derives .negation (words used) x n) (hn : n ≤ limit + 1)
    (hstops : Stops .negation rest) (hends : Ends ending rest) :
    negatable ending inner (used ++ rest) = .ok (x, rest) := by
  generalize hused : words used = ts at hx
  cases hx with
  | tighter hk hequality =>
    obtain rfl := Option.some.inj hk
    subst hused
    obtain ⟨t, us, heq, hopens⟩ := opens_head hequality rest
    have hhead : ((used ++ rest).head?.map (·.token)) ≠ some .not := by
      rw [heq]
      exact fun hnot => hopens.ne_not (Nat.lt_succ_self _) (Option.some.inj hnot)
    rw [negatable, if_neg hhead]
    exact (reads_equality h).complete hequality hn (hstops.of_tighter rfl) hends
  | join ht _ _ _ => cases ht
  | negation hoperand =>
    obtain ⟨t, operand, rfl, ht, rfl⟩ := List.map_eq_cons_iff.mp hused
    have hread := h.negatable.complete hoperand (Nat.le_of_succ_le_succ hn) hstops hends
    simp only [List.cons_append, negatable, List.head?_cons, Option.map_some, ht, if_true,
      advance_phrase t rest hoperand, ok_bind, hread]

theorem reads_negatable (h : InnerReads ending limit inner) :
    Reads ending .negation (limit + 1) (negatable ending inner) :=
  ⟨negatable_sound h, negatable_complete h⟩

end Negatable

theorem reads_conjunction (h : InnerReads ending limit inner) :
    Reads ending .conjunction (limit + 1) (conjunction ending inner) :=
  (reads_negatable h).chain .and and?_eq_some_iff rfl

theorem reads_disjunction (h : InnerReads ending limit inner) :
    Reads ending .disjunction (limit + 1) (disjunction ending inner) :=
  (reads_conjunction h).chain .or or?_eq_some_iff rfl

theorem reads_tooDeep (l : Level) :
    Reads ending l 0 fun _ => .error (.tooDeep nestingLimit) where
  sound := fun hok => nomatch hok
  complete := fun hx hn => absurd hx.one_le (Nat.not_le.mpr (Nat.lt_succ_of_le hn))

/-- With some levels left, all phrases that are nested no deeper are read. -/
theorem innerReads_inner (ending : Ending) (levels : Nat) :
    InnerReads ending levels (Parser.inner ending levels) := by
  induction levels with
  | zero => exact ⟨reads_tooDeep _, reads_tooDeep _, reads_tooDeep _⟩
  | succ levels ih => exact ⟨reads_disjunction ih, reads_negatable ih, reads_signed ih⟩

end FormLogic.Grammar
