import FormLogic.Proofs.Formula.Reading

/-! Chains of operators of one level read as the grammar says: grouped to the left. -/

namespace FormLogic.Grammar

open FormLogic.Parser

variable {ending : Ending} {l k : Level} {limit : Nat} {t : Token} {op : BinaryOp}

theorem or?_eq_some_iff : or? t = some op ↔ Joins .disjunction t op := by
  constructor
  · intro h
    cases t <;> cases h
    constructor
  · rintro ⟨⟩
    rfl

theorem and?_eq_some_iff : and? t = some op ↔ Joins .conjunction t op := by
  constructor
  · intro h
    cases t <;> cases h
    constructor
  · rintro ⟨⟩
    rfl

theorem equality?_eq_some_iff : equality? t = some op ↔ Joins .equality t op := by
  constructor
  · intro h
    cases t <;> cases h <;> constructor
  · rintro ⟨⟩ <;> rfl

theorem relation?_eq_some_iff : relation? t = some op ↔ Joins .relation t op := by
  constructor
  · intro h
    cases t <;> cases h <;> constructor
  · rintro ⟨⟩ <;> rfl

theorem additive?_eq_some_iff : additive? t = some op ↔ Joins .sum t op := by
  constructor
  · intro h
    cases t <;> cases h <;> constructor
  · rintro ⟨⟩ <;> rfl

theorem multiplicative?_eq_some_iff : multiplicative? t = some op ↔ Joins .product t op := by
  constructor
  · intro h
    cases t <;> cases h <;> constructor
  · rintro ⟨⟩ <;> rfl

section Chain

variable {operator? : Token → Option BinaryOp} {operand : Reader}

theorem eq_or_step_of_chainFrom {bound : Nat} {x y : Expr} {ts rest : List Located}
    (h : chainFrom ending operator? operand (bound + 1) x ts = .ok (y, rest)) :
    (y = x ∧ rest = ts) ∨ ∃ t us op z vs, ts = t :: us ∧ operator? t.token = some op ∧
      operand us = .ok (z, vs) ∧
      chainFrom ending operator? operand bound (.binary op x z) vs = .ok (y, rest) := by
  cases ts with
  | nil =>
    obtain ⟨rfl, rfl⟩ := Prod.mk.inj (Except.ok.inj h)
    exact .inl ⟨rfl, rfl⟩
  | cons t us =>
    cases htable : operator? t.token with
    | none =>
      simp only [chainFrom, htable] at h
      obtain ⟨rfl, rfl⟩ := Prod.mk.inj (Except.ok.inj h)
      exact .inl ⟨rfl, rfl⟩
    | some op =>
      simp only [chainFrom, htable] at h
      obtain ⟨us', hadvance, hstep⟩ := bind_eq_ok_iff.mp h
      obtain ⟨⟨z, vs⟩, hoperand, hchain⟩ := bind_eq_ok_iff.mp hstep
      rw [(advance_eq_ok_iff.mp hadvance).1] at hoperand
      exact .inr ⟨t, us, op, z, vs, rfl, htable, hoperand, hchain⟩

/-- What a chain adds to a phrase of its level gives a phrase of that level. -/
theorem chainFrom_sound (hop : ∀ {t op}, operator? t = some op ↔ Joins l t op)
    (hk : l.tighter? = some k) (h : Reads ending k limit operand) {bound m : Nat} {x y : Expr}
    {used ts rest : List Located} (hx : Derives l (words used) x m) (hm : m ≤ limit)
    (hends : Ends ending ts) (hok : chainFrom ending operator? operand bound x ts = .ok (y, rest)) :
    ∃ more n, ts = more ++ rest ∧ Derives l (words (used ++ more)) y n ∧ n ≤ limit ∧
      Ends ending rest := by
  induction bound generalizing used x m ts with
  | zero =>
    obtain ⟨rfl, rfl⟩ := Prod.mk.inj (Except.ok.inj hok)
    exact ⟨[], m, rfl, by rwa [List.append_nil], hm, hends⟩
  | succ bound ih =>
    rcases eq_or_step_of_chainFrom hok with ⟨rfl, rfl⟩ | ⟨t, us, op, z, vs, rfl, ht, hz, hchain⟩
    · exact ⟨[], m, rfl, by rwa [List.append_nil], hm, hends⟩
    · obtain ⟨right, n, rfl, hright, hn, hvs⟩ := h.sound hz
      have hjoin : Derives l (words (used ++ t :: right)) (.binary op x z) (max m n) := by
        rw [words_append, words_cons]
        exact .join (hop.mp ht) hk hx hright
      obtain ⟨more, n', rfl, hy, hn', hrest⟩ := ih hjoin (Nat.max_le.mpr ⟨hm, hn⟩) hvs hchain
      refine ⟨t :: (right ++ more), n', by simp, ?_, hn', hrest⟩
      simpa using hy

theorem chainFrom_of_stops (hop : ∀ {t op}, operator? t = some op ↔ Joins l t op) (bound : Nat)
    (x : Expr) {rest : List Located} (hstops : Stops l rest) :
    chainFrom ending operator? operand bound x rest = .ok (x, rest) := by
  cases bound with
  | zero => rfl
  | succ bound =>
    cases rest with
    | nil => rfl
    | cons t ts =>
      have htable : operator? t.token = none := by
        rw [Option.eq_none_iff_forall_ne_some]
        intro op hop'
        exact hstops t ts rfl (.join (hop.mp hop') (Nat.le_refl _))
      simp only [chainFrom, htable]

/-- After a phrase of its level the chain stands behind that phrase, with bound enough for what
follows. The induction is on the left spine of the phrase. -/
theorem chain_reaches {t₀ : Token} {op₀ : BinaryOp} (hl : Joins l t₀ op₀)
    (hop : ∀ {t op}, operator? t = some op ↔ Joins l t op)
    (hk : l.tighter? = some k) (h : Reads ending k limit operand) {ts : List Token} {x : Expr}
    {n : Nat} (hx : Derives l ts x n) :
    ∀ {used rest : List Located}, words used = ts → n ≤ limit → Stops k rest → Ends ending rest →
      ∃ bound, rest.length ≤ bound ∧ chain ending operator? operand (used ++ rest) =
        chainFrom ending operator? operand bound x rest := by
  induction hx with
  | tighter hk' hx =>
    rintro used rest rfl hn hstops hends
    obtain rfl := Option.some.inj (hk.symm.trans hk')
    refine ⟨rest.length, Nat.le_refl _, ?_⟩
    simp only [chain, h.complete hx hn hstops hends, ok_bind]
  | join ht hk' hx hy ihx =>
    rintro used rest hused hn hstops hends
    obtain rfl := Option.some.inj (hk.symm.trans hk')
    obtain ⟨left, joined, rfl, rfl, hjoined⟩ := List.map_eq_append_iff.mp hused
    obtain ⟨t, right, rfl, rfl, rfl⟩ := List.map_eq_cons_iff.mp hjoined
    obtain ⟨hleft, hright⟩ := Nat.max_le.mp hn
    obtain ⟨bound, hbound, heq⟩ := ihx hl hop hk rfl hleft
      (stops_cons (Continues.not_tighter_of_joins ht hk)) (ends_cons t (right ++ rest))
    cases bound with
    | zero => exact absurd hbound (Nat.not_succ_le_zero _)
    | succ bound =>
      refine ⟨bound, ?_, ?_⟩
      · simp only [List.length_cons, List.length_append] at hbound
        omega
      · have hadvance : advance ending (t :: (right ++ rest)) = .ok (right ++ rest) :=
          advance_eq_ok_iff.mpr ⟨rfl, hends.append⟩
        have hoperand := h.complete hy hright hstops hends
        rw [List.append_assoc, List.cons_append, heq]
        simp only [chainFrom, hop.mpr ht, hadvance, hoperand, ok_bind]
  | negation => cases hl
  | sign => cases hl
  | power => cases hl
  | literal => cases hl
  | field => cases hl
  | parentheses => cases hl
  | call => cases hl

theorem Reads.chain {t₀ : Token} {op₀ : BinaryOp} (hl : Joins l t₀ op₀)
    (hop : ∀ {t op}, operator? t = some op ↔ Joins l t op)
    (hk : l.tighter? = some k) (h : Reads ending k limit operand) :
    Reads ending l limit (chain ending operator? operand) where
  sound := by
    intro ts y rest hok
    obtain ⟨⟨x, vs⟩, hx, hchain⟩ := bind_eq_ok_iff.mp hok
    obtain ⟨used, m, rfl, hderives, hm, hvs⟩ := h.sound hx
    obtain ⟨more, n, rfl, hy, hn, hrest⟩ :=
      chainFrom_sound hop hk h (.tighter hk hderives) hm hvs hchain
    exact ⟨used ++ more, n, (List.append_assoc ..).symm, hy, hn, hrest⟩
  complete := by
    intro used x n rest hx hn hstops hends
    obtain ⟨bound, -, heq⟩ := chain_reaches hl hop hk h hx rfl hn (hstops.of_tighter hk) hends
    rw [heq, chainFrom_of_stops hop bound x hstops]

end Chain

end FormLogic.Grammar
