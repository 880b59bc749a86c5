import FormLogic.Proofs.Formula.Reading

/-! Literals, fields, calls and parentheses read as the grammar says, given a reader for the
expressions inside them. -/

namespace FormLogic.Grammar

open FormLogic.Parser

def Argument.Derived (limit : Nat) (args : List Argument) : Prop :=
  ∀ a ∈ args, Derives .disjunction a.tokens a.tree a.nesting ∧ a.nesting ≤ limit

theorem Argument.derived_nil (limit : Nat) : Derived limit [] := fun _ ha => nomatch ha

theorem Argument.derived_cons {limit : Nat} {a : Argument} {args : List Argument} :
    Derived limit (a :: args) ↔
      (Derives .disjunction a.tokens a.tree a.nesting ∧ a.nesting ≤ limit) ∧ Derived limit args :=
  List.forall_mem_cons

variable {ending : Ending} {limit : Nat} {inner : Inner}

section Arguments

theorem eq_nil_or_step_of_moreArguments {bound : Nat} {ts rest : List Located} {xs : List Expr}
    (h : moreArguments ending inner (bound + 1) ts = .ok (xs, rest)) :
    (xs = [] ∧ rest = ts) ∨ ∃ t us x vs ys, ts = t :: us ∧ t.token = .comma ∧
      inner.expression us = .ok (x, vs) ∧
      moreArguments ending inner bound vs = .ok (ys, rest) ∧ xs = x :: ys := by
  cases ts with
  | nil =>
    obtain ⟨rfl, rfl⟩ := Prod.mk.inj (Except.ok.inj h)
    exact .inl ⟨rfl, rfl⟩
  | cons t us =>
    by_cases ht : t.token = .comma
    · simp only [moreArguments, ht, if_true] at h
      obtain ⟨us', hadvance, hstep⟩ := bind_eq_ok_iff.mp h
      obtain ⟨⟨x, vs⟩, hx, hmore⟩ := bind_eq_ok_iff.mp hstep
      obtain ⟨⟨ys, ws⟩, hys, heq⟩ := bind_eq_ok_iff.mp hmore
      obtain ⟨rfl, rfl⟩ := Prod.mk.inj (Except.ok.inj heq)
      rw [(advance_eq_ok_iff.mp hadvance).1] at hx
      exact .inr ⟨t, us, x, vs, ys, rfl, ht, hx, hys, rfl⟩
    · simp only [moreArguments, ht, if_false] at h
      obtain ⟨rfl, rfl⟩ := Prod.mk.inj (Except.ok.inj h)
      exact .inl ⟨rfl, rfl⟩

theorem moreArguments_sound (h : Reads ending .disjunction limit inner.expression) {bound : Nat}
    {ts rest : List Located} {xs : List Expr} (hends : Ends ending ts)
    (hok : moreArguments ending inner bound ts = .ok (xs, rest)) :
    ∃ used args, ts = used ++ rest ∧ words used = Argument.following args ∧
      xs = args.map (·.tree) ∧ Argument.Derived limit args ∧ Ends ending rest := by
  induction bound generalizing ts xs with
  | zero =>
    obtain ⟨rfl, rfl⟩ := Prod.mk.inj (Except.ok.inj hok)
    exact ⟨[], [], rfl, rfl, rfl, Argument.derived_nil limit, hends⟩
  | succ bound ih =>
    rcases eq_nil_or_step_of_moreArguments hok with
      ⟨rfl, rfl⟩ | ⟨t, us, x, vs, ys, rfl, ht, hx, hmore, rfl⟩
    · exact ⟨[], [], rfl, rfl, rfl, Argument.derived_nil limit, hends⟩
    · obtain ⟨first, n, rfl, hfirst, hn, hvs⟩ := h.sound hx
      obtain ⟨used, args, rfl, hused, rfl, hargs, hrest⟩ := ih hvs hmore
      refine ⟨t :: (first ++ used), ⟨words first, x, n⟩ :: args, by simp, ?_, rfl,
        Argument.derived_cons.mpr ⟨⟨hfirst, hn⟩, hargs⟩, hrest⟩
      rw [words_cons, words_append, ht, hused]
      rfl

theorem arguments_sound (h : Reads ending .disjunction limit inner.expression)
    {ts rest : List Located} {xs : List Expr} (hends : Ends ending ts)
    (hok : arguments ending inner ts = .ok (xs, rest)) :
    ∃ used args, ts = used ++ rest ∧ words used = Argument.separated args ∧
      xs = args.map (·.tree) ∧ Argument.Derived limit args ∧ Ends ending rest := by
  unfold arguments at hok
  split at hok
  · obtain ⟨rfl, rfl⟩ := Prod.mk.inj (Except.ok.inj hok)
    exact ⟨[], [], rfl, rfl, rfl, Argument.derived_nil limit, hends⟩
  · obtain ⟨⟨x, vs⟩, hx, hmore⟩ := bind_eq_ok_iff.mp hok
    obtain ⟨⟨ys, ws⟩, hys, heq⟩ := bind_eq_ok_iff.mp hmore
    obtain ⟨rfl, rfl⟩ := Prod.mk.inj (Except.ok.inj heq)
    obtain ⟨first, n, rfl, hfirst, hn, hvs⟩ := h.sound hx
    obtain ⟨used, args, rfl, hused, rfl, hargs, hrest⟩ := moreArguments_sound h hvs hys
    refine ⟨first ++ used, ⟨words first, x, n⟩ :: args, by simp, ?_, rfl,
      Argument.derived_cons.mpr ⟨⟨hfirst, hn⟩, hargs⟩, hrest⟩
    rw [words_append, hused]
    rfl

theorem stops_following {l : Level} {args : List Argument} {others rest : List Located}
    {close : Located} (hothers : words others = Argument.following args)
    (hclose : close.token = .rightParen) : Stops l (others ++ close :: rest) := by
  cases args with
  | nil =>
    obtain rfl := List.map_eq_nil_iff.mp hothers
    exact stops_cons (hclose ▸ Continues.not_rightParen)
  | cons a args =>
    obtain ⟨comma, others, rfl, hcomma, -⟩ := List.map_eq_cons_iff.mp hothers
    exact stops_cons (hcomma ▸ Continues.not_comma)

theorem moreArguments_complete (h : Reads ending .disjunction limit inner.expression)
    {args : List Argument} (hargs : Argument.Derived limit args) {used rest : List Located}
    {close : Located} (hused : words used = Argument.following args)
    (hclose : close.token = .rightParen) {bound : Nat} (hbound : used.length ≤ bound) :
    moreArguments ending inner bound (used ++ close :: rest) =
      .ok (args.map (·.tree), close :: rest) := by
  induction args generalizing used bound with
  | nil =>
    obtain rfl := List.map_eq_nil_iff.mp hused
    cases bound with
    | zero => rfl
    | succ bound => simp [moreArguments, hclose]
  | cons a args ih =>
    obtain ⟨comma, used, rfl, hcomma, htail⟩ := List.map_eq_cons_iff.mp hused
    obtain ⟨first, others, rfl, hfirst, hothers⟩ := List.map_eq_append_iff.mp htail
    obtain ⟨⟨ha, hn⟩, hargs⟩ := Argument.derived_cons.mp hargs
    cases bound with
    | zero => exact absurd hbound (Nat.not_succ_le_zero _)
    | succ bound =>
      simp only [List.length_cons, List.length_append] at hbound
      have hread := h.complete (hfirst ▸ ha) hn (stops_following hothers hclose)
        (Ends.append (ends_cons close rest))
      have hmore := ih hargs hothers (show others.length ≤ bound by omega)
      have hadvance : advance ending (comma :: (first ++ (others ++ close :: rest))) =
          .ok (first ++ (others ++ close :: rest)) :=
        advance_eq_ok_iff.mpr ⟨rfl, Ends.append (Ends.append (ends_cons close rest))⟩
      simp only [List.cons_append, List.append_assoc, moreArguments, hcomma, if_true, hadvance,
        ok_bind, hread, hmore, List.map_cons]

theorem arguments_complete (h : Reads ending .disjunction limit inner.expression)
    {args : List Argument} (hargs : Argument.Derived limit args) {used rest : List Located}
    {close : Located} (hused : words used = Argument.separated args)
    (hclose : close.token = .rightParen) :
    arguments ending inner (used ++ close :: rest) =
      .ok (args.map (·.tree), close :: rest) := by
  cases args with
  | nil =>
    obtain rfl := List.map_eq_nil_iff.mp hused
    simp [arguments, hclose]
  | cons a args =>
    obtain ⟨first, others, rfl, hfirst, hothers⟩ := List.map_eq_append_iff.mp hused
    obtain ⟨⟨ha, hn⟩, hargs⟩ := Argument.derived_cons.mp hargs
    have hread := h.complete (hfirst ▸ ha) hn (stops_following hothers hclose)
      (Ends.append (ends_cons close rest))
    have hmore : moreArguments ending inner (others ++ close :: rest).length
        (others ++ close :: rest) = .ok (args.map (·.tree), close :: rest) :=
      moreArguments_complete h hargs hothers hclose (by simp)
    have hopen : ((first ++ (others ++ close :: rest)).head?.map (·.token)) ≠ some .rightParen := by
      intro hhead
      obtain ⟨t, us, htokens, ht⟩ := ha.opens
      obtain ⟨u, vs, rfl, hu, -⟩ := List.map_eq_cons_iff.mp (hfirst.trans htokens)
      exact ht.ne_rightParen (hu.symm.trans (Option.some.inj hhead))
    simp only [List.append_assoc, arguments, hopen, if_false, hread, ok_bind, hmore, List.map_cons]

end Arguments

section Primary

variable {t : Located} {us : List Located}

theorem primary_of_denotes {v : Literal} (ht : Denotes t.token v) :
    primary ending inner (t :: us) =
      advance ending (t :: us) >>= fun rest => .ok (.literal v, rest) := by
  obtain ⟨token, column⟩ := t
  cases ht <;> rfl

theorem primary_of_leftParen (ht : t.token = .leftParen) :
    primary ending inner (t :: us) = (do
      let vs ← advance ending (t :: us)
      let (x, vs) ← inner.expression vs
      let rest ← expect ending .rightParen vs
      .ok (x, rest)) := by
  obtain ⟨token, column⟩ := t
  cases ht
  rfl

theorem primary_of_identifier {name : String} (ht : t.token = .identifier name) :
    primary ending inner (t :: us) = (do
      let vs ← advance ending (t :: us)
      if (vs.head?.map (·.token)) = some .leftParen then do
        let vs ← advance ending vs
        let (args, vs) ← arguments ending inner vs
        let rest ← expect ending .rightParen vs
        .ok (.call name args, rest)
      else .ok (.field name, vs)) := by
  obtain ⟨token, column⟩ := t
  cases ht
  rfl

theorem head_of_primary {r : Expr × List Located} (hok : primary ending inner (t :: us) = .ok r) :
    (∃ v, Denotes t.token v) ∨ t.token = .leftParen ∨ ∃ name, t.token = .identifier name := by
  obtain ⟨token, column⟩ := t
  cases token with
  | integer n => exact .inl ⟨_, .integer n⟩
  | float x => exact .inl ⟨_, .float x⟩
  | text s => exact .inl ⟨_, .text s⟩
  | boolean b => exact .inl ⟨_, .boolean b⟩
  | none => exact .inl ⟨_, .none⟩
  | leftParen => exact .inr (.inl rfl)
  | identifier name => exact .inr (.inr ⟨name, rfl⟩)
  | _ => cases hok

theorem call_sound (h : Reads ending .disjunction limit inner.expression) {name : String}
    {vs ws rest : List Located} {xs : List Expr} {bracket : Located}
    (ht : t.token = .identifier name) (hbracket : bracket.token = .leftParen)
    (hends : Ends ending vs) (hargs : arguments ending inner vs = .ok (xs, ws))
    (hclose : expect ending .rightParen ws = .ok rest) :
    ∃ used n, t :: bracket :: vs = used ++ rest ∧
      Derives .primary (words used) (.call name xs) n ∧ n ≤ limit + 1 ∧ Ends ending rest := by
  obtain ⟨used, args, rfl, hused, rfl, hderived, hends'⟩ := arguments_sound h hends hargs
  obtain ⟨close, rfl, hclose, hrest⟩ := expect_eq_ok_iff.mp hclose
  refine ⟨t :: bracket :: (used ++ [close]), Argument.deepest args, by simp, ?_,
    Argument.deepest_le_succ_iff.mpr fun a ha => (hderived a ha).2, hrest⟩
  simp only [words_cons, words_append, words_nil, ht, hbracket, hused, hclose]
  exact .call name args fun a ha => (hderived a ha).1

theorem parentheses_sound (h : Reads ending .disjunction limit inner.expression)
    {vs rest : List Located} {x : Expr} (ht : t.token = .leftParen)
    (hx : inner.expression us = .ok (x, vs)) (hclose : expect ending .rightParen vs = .ok rest) :
    ∃ used n, t :: us = used ++ rest ∧ Derives .primary (words used) x n ∧ n ≤ limit + 1 ∧
      Ends ending rest := by
  obtain ⟨used, n, rfl, hderives, hn, -⟩ := h.sound hx
  obtain ⟨close, rfl, hclose, hrest⟩ := expect_eq_ok_iff.mp hclose
  refine ⟨t :: (used ++ [close]), n + 1, by simp, ?_, Nat.succ_le_succ hn, hrest⟩
  simp only [words_cons, words_append, words_nil, ht, hclose]
  exact .parentheses hderives

theorem primary_sound (h : Reads ending .disjunction limit inner.expression)
    {ts rest : List Located} {x : Expr} (hok : primary ending inner ts = .ok (x, rest)) :
    ∃ used n, ts = used ++ rest ∧ Derives .primary (words used) x n ∧ n ≤ limit + 1 ∧
      Ends ending rest := by
  cases ts with
  | nil => cases ending <;> cases hok
  | cons t us =>
    rcases head_of_primary hok with ⟨v, ht⟩ | ht | ⟨name, ht⟩
    · rw [primary_of_denotes ht] at hok
      obtain ⟨vs, hadvance, heq⟩ := bind_eq_ok_iff.mp hok
      obtain ⟨rfl, rfl⟩ := Prod.mk.inj (Except.ok.inj heq)
      obtain ⟨rfl, hends⟩ := advance_eq_ok_iff.mp hadvance
      exact ⟨[t], 1, rfl, .literal ht, Nat.le_add_left 1 limit, hends⟩
    · rw [primary_of_leftParen ht] at hok
      obtain ⟨us', hadvance, hinside⟩ := bind_eq_ok_iff.mp hok
      obtain ⟨⟨y, vs⟩, hy, hbehind⟩ := bind_eq_ok_iff.mp hinside
      obtain ⟨ws, hclose, heq⟩ := bind_eq_ok_iff.mp hbehind
      obtain ⟨rfl, rfl⟩ := Prod.mk.inj (Except.ok.inj heq)
      rw [(advance_eq_ok_iff.mp hadvance).1] at hy
      exact parentheses_sound h ht hy hclose
    · rw [primary_of_identifier ht] at hok
      obtain ⟨vs, hadvance, hbehind⟩ := bind_eq_ok_iff.mp hok
      obtain ⟨rfl, hends⟩ := advance_eq_ok_iff.mp hadvance
      split at hbehind
      · next hhead =>
        obtain ⟨bracket, us, rfl, hbracket⟩ := head?_token_eq_some_iff.mp hhead
        obtain ⟨us', hadvance', hcall⟩ := bind_eq_ok_iff.mp hbehind
        obtain ⟨rfl, hends'⟩ := advance_eq_ok_iff.mp hadvance'
        obtain ⟨⟨xs, ws⟩, hargs, hclosed⟩ := bind_eq_ok_iff.mp hcall
        obtain ⟨zs, hclose, heq⟩ := bind_eq_ok_iff.mp hclosed
        obtain ⟨rfl, rfl⟩ := Prod.mk.inj (Except.ok.inj heq)
        exact call_sound h ht hbracket hends' hargs hclose
      · obtain ⟨rfl, rfl⟩ := Prod.mk.inj (Except.ok.inj hbehind)
        refine ⟨[t], 1, rfl, ?_, Nat.le_add_left 1 limit, hends⟩
        rw [words_cons, words_nil, ht]
        exact .field name

theorem field_complete {name : String} {rest : List Located} (ht : t.token = .identifier name)
    (hstops : Stops .primary rest) (hends : Ends ending rest) :
    primary ending inner (t :: rest) = .ok (.field name, rest) := by
  have hbracket : (rest.head?.map (·.token)) ≠ some .leftParen := by
    intro hhead
    obtain ⟨bracket, us, heq, hbracket⟩ := head?_token_eq_some_iff.mp hhead
    exact hstops bracket us heq (hbracket ▸ .call _)
  rw [primary_of_identifier ht, advance_eq_ok_iff.mpr ⟨rfl, hends⟩, ok_bind, if_neg hbracket]

theorem parentheses_complete (h : Reads ending .disjunction limit inner.expression)
    {inside rest : List Located} {close : Located} {x : Expr} {n : Nat}
    (ht : t.token = .leftParen) (hx : Derives .disjunction (words inside) x n) (hn : n ≤ limit)
    (hclose : close.token = .rightParen) (hends : Ends ending rest) :
    primary ending inner (t :: (inside ++ close :: rest)) = .ok (x, rest) := by
  have hstopped : Stops .disjunction (close :: rest) := stops_cons (hclose ▸ Continues.not_rightParen)
  have hread := h.complete hx hn hstopped (ends_cons close rest)
  have hadvance : advance ending (t :: (inside ++ close :: rest)) = .ok (inside ++ close :: rest) :=
    advance_eq_ok_iff.mpr ⟨rfl, Ends.append (ends_cons close rest)⟩
  have hexpect : expect ending .rightParen (close :: rest) = .ok rest :=
    expect_eq_ok_iff.mpr ⟨close, rfl, hclose, hends⟩
  simp only [primary_of_leftParen ht, hadvance, ok_bind, hread, hexpect]

theorem call_complete (h : Reads ending .disjunction limit inner.expression) {name : String}
    {args : List Argument} {inside rest : List Located} {bracket close : Located}
    (ht : t.token = .identifier name) (hbracket : bracket.token = .leftParen)
    (hargs : Argument.Derived limit args) (hinside : words inside = Argument.separated args)
    (hclose : close.token = .rightParen) (hends : Ends ending rest) :
    primary ending inner (t :: bracket :: (inside ++ close :: rest)) =
      .ok (.call name (args.map (·.tree)), rest) := by
  have hread : arguments ending inner (inside ++ close :: rest) =
      .ok (args.map (·.tree), close :: rest) := arguments_complete h hargs hinside hclose
  have hname : advance ending (t :: bracket :: (inside ++ close :: rest)) =
      .ok (bracket :: (inside ++ close :: rest)) :=
    advance_eq_ok_iff.mpr ⟨rfl, ends_cons bracket _⟩
  have hopen : advance ending (bracket :: (inside ++ close :: rest)) =
      .ok (inside ++ close :: rest) :=
    advance_eq_ok_iff.mpr ⟨rfl, Ends.append (ends_cons close rest)⟩
  have hexpect : expect ending .rightParen (close :: rest) = .ok rest :=
    expect_eq_ok_iff.mpr ⟨close, rfl, hclose, hends⟩
  simp only [primary_of_identifier ht, hname, ok_bind, List.head?_cons, Option.map_some, hbracket,
    if_true, hopen, hread, hexpect]

theorem primary_complete (h : Reads ending .disjunction limit inner.expression)
    {used rest : List Located} {x : Expr} {n : Nat} (hx : Derives .primary (words used) x n)
    (hn : n ≤ limit + 1) (hstops : Stops .primary rest) (hends : Ends ending rest) :
    primary ending inner (used ++ rest) = .ok (x, rest) := by
  generalize hused : words used = ts at hx
  cases hx with
  | tighter hk _ => cases hk
  | join ht _ _ _ => cases ht
  | literal ht =>
    obtain ⟨t, us, rfl, rfl, hus⟩ := List.map_eq_cons_iff.mp hused
    obtain rfl := List.map_eq_nil_iff.mp hus
    rw [List.singleton_append, primary_of_denotes ht, advance_eq_ok_iff.mpr ⟨rfl, hends⟩, ok_bind]
  | field name =>
    obtain ⟨t, us, rfl, ht, hus⟩ := List.map_eq_cons_iff.mp hused
    obtain rfl := List.map_eq_nil_iff.mp hus
    exact field_complete ht hstops hends
  | parentheses hx =>
    obtain ⟨t, us, rfl, ht, hus⟩ := List.map_eq_cons_iff.mp hused
    obtain ⟨inside, others, rfl, rfl, hothers⟩ := List.map_eq_append_iff.mp hus
    obtain ⟨close, others, rfl, hclose, hnil⟩ := List.map_eq_cons_iff.mp hothers
    obtain rfl := List.map_eq_nil_iff.mp hnil
    rw [List.cons_append, List.append_assoc]
    exact parentheses_complete h ht hx (Nat.le_of_succ_le_succ hn) hclose hends
  | call name args hargs =>
    obtain ⟨t, us, rfl, ht, hus⟩ := List.map_eq_cons_iff.mp hused
    obtain ⟨bracket, vs, rfl, hbracket, hvs⟩ := List.map_eq_cons_iff.mp hus
    obtain ⟨inside, others, rfl, hinside, hothers⟩ := List.map_eq_append_iff.mp hvs
    obtain ⟨close, others, rfl, hclose, hnil⟩ := List.map_eq_cons_iff.mp hothers
    obtain rfl := List.map_eq_nil_iff.mp hnil
    have hderived : Argument.Derived limit args := fun a ha =>
      ⟨hargs a ha, Argument.deepest_le_succ_iff.mp hn a ha⟩
    rw [List.cons_append, List.cons_append, List.append_assoc]
    exact call_complete h ht hbracket hderived hinside hclose hends

/-- A primary is read one level above what stands inside it. -/
theorem reads_primary (h : Reads ending .disjunction limit inner.expression) :
    Reads ending .primary (limit + 1) (primary ending inner) :=
  ⟨primary_sound h, primary_complete h⟩

end Primary

end FormLogic.Grammar
