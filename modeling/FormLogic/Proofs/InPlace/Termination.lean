import FormLogic.Proofs.InPlace.Tokens

/-! The parser in place comes to an end on every text, with what the reader of tokens finds. The
induction is on the levels of nesting that are left; with so many left it goes from the tightest
phrases to the loosest, and along a chain or a list of arguments by the tokens that are left. -/

namespace FormLogic.InPlace

open Grammar (Level)
open Procedure

section Readers

variable {s : Source} {ending : Ending} {total levels rank : Nat} {inner : Parser.Inner}

/-- With so many levels of nesting left, and all calls that are going on below a rank, a procedure
finds what a reader of tokens does. -/
def Follows (s : Source) (ending : Ending) (total : Nat) {α : Type} (p : Calls → Procedure α)
    (rank levels : Nat) (read : List Located → Except SyntaxError (α × List Located)) : Prop :=
  ∀ ⦃active v ts⦄, Stands s ending total v ts → v.depth + levels = nestingLimit →
    Below active v.taken rank → Meets (p active) v (Finds s ending total v (read ts))

abbrev FollowsLevel (s : Source) (ending : Ending) (total : Nat) (l : Level) (levels : Nat)
    (read : Parser.Reader) : Prop :=
  Follows s ending total (fun active => s.level active l) (Routine.level l).rank levels read

theorem Follows.within {p : Calls → Procedure Expr} {read : Parser.Reader}
    (h : Follows s ending total p rank levels read) :
    Follows s ending total (fun active => Procedure.within (p active)) rank (levels + 1) read := by
  intro active v ts hv hdepth hbelow
  have hinside := h (hv.of_depth (v.depth + 1)) (by simpa using by omega) hbelow
  refine (yields_descend (by omega)).bind (hinside.settled_bind ?_)
  intro r w hr
  have hnested : v.depth + 1 ≤ w.depth := by
    unfold Finds at hr
    split at hr
    · exact Nat.le_of_eq hr.2.2.1.symm
    · exact hr.2
  obtain ⟨n, hn⟩ : ∃ n, w.depth = n + 1 := ⟨w.depth - 1, by omega⟩
  refine (yields_ascend hn).bind (meets_resume ?_)
  unfold Finds at hr ⊢
  split at hr
  · obtain ⟨hok, hw, hinner, htaken⟩ := hr
    exact ⟨hok, hw.of_depth n, Nat.succ.inj (hn.symm.trans hinner), htaken⟩
  · exact ⟨hr.1, by simpa using by omega⟩

theorem follows_tooDeep (p : Calls → Procedure Expr) (rank : Nat) :
    Follows s ending total (fun active => Procedure.within (p active)) rank 0
      fun _ => .error (.tooDeep nestingLimit) := by
  intro active v ts _ hdepth _
  exact (meets_descend_of_limit hdepth).bind_fault fun hw => ⟨rfl, hw ▸ Nat.le_succ _⟩

structure InnerFollows (s : Source) (ending : Ending) (total levels : Nat)
    (inner : Parser.Inner) : Prop where
  disjunction : Follows s ending total (fun active => within (s.level active .disjunction))
    (Routine.level .disjunction).rank levels inner.expression
  negatable : Follows s ending total (fun active => within (s.level active .negation))
    (Routine.level .negation).rank levels inner.negatable
  signed : Follows s ending total (fun active => within (s.level active .sign))
    (Routine.level .sign).rank levels inner.signed

theorem InnerFollows.expression (h : InnerFollows s ending total levels inner) :
    Follows s ending total s.expression Routine.expression.rank levels inner.expression := by
  intro active v ts hv hdepth hbelow
  rw [Source.expression]
  exact (yields_enter hbelow).bind (h.disjunction hv hdepth (hbelow.enter (by decide)))

theorem meets_level {active : Calls} {v : Place} {l : Level}
    {P : Except SyntaxError Expr → Place → Prop}
    (hbelow : Below active v.taken (Routine.level l).rank)
    (h : Meets (s.phrase ((.level l, v.taken) :: active) l) v P) :
    Meets (s.level active l) v P := by
  rw [Source.level]
  exact (yields_enter hbelow).bind h

section Primary

theorem cons_bind (arg : Expr) (o : Except SyntaxError (List Expr × List Located)) :
    (do
      let (args, ts) ← o
      .ok (arg :: args, ts)) = (fun r => (arg :: r.1, r.2)) <$> o := by
  cases o <;> rfl

theorem meets_moreArguments_of_ne {active : Calls} {v : Place} {ts : List Located}
    (args : List Expr) (hv : Stands s ending total v ts)
    (hbelow : Below active v.taken Routine.arguments.rank)
    (hcomma : ts.head?.map (·.token) ≠ some .comma) :
    Meets (s.moreArguments active args) v (Finds s ending total v (.ok (args ++ [], ts))) := by
  rw [Source.moreArguments, List.append_nil]
  refine (yields_enter hbelow).bind ((yields_ahead hv).bind ?_)
  rw [if_neg hcomma]
  exact meets_finds_pure hv

/-- More arguments follow as long as commas do. There are never more of them than tokens. -/
theorem meets_moreArguments (h : InnerFollows s ending total levels inner) {bound : Nat}
    {active : Calls} {v : Place} {ts : List Located} (args : List Expr)
    (hv : Stands s ending total v ts) (hdepth : v.depth + levels = nestingLimit)
    (hbelow : Below active v.taken Routine.arguments.rank) (hbound : ts.length ≤ bound) :
    Meets (s.moreArguments active args) v (Finds s ending total v
      ((fun r => (args ++ r.1, r.2)) <$> Parser.moreArguments ending inner bound ts)) := by
  induction bound generalizing active v ts args with
  | zero =>
    obtain rfl := List.eq_nil_of_length_eq_zero (Nat.le_zero.mp hbound)
    exact meets_moreArguments_of_ne args hv hbelow nofun
  | succ bound ih =>
    cases ts with
    | nil => exact meets_moreArguments_of_ne args hv hbelow nofun
    | cons t ts =>
      rw [Parser.moreArguments]
      split
      · next hcomma =>
        rw [Source.moreArguments, map_bind]
        refine (yields_enter hbelow).bind ((yields_ahead hv).bind ?_)
        rw [if_pos (show (t :: ts).head?.map (·.token) = some .comma from congrArg some hcomma)]
        refine meets_consume_bind hv fun hw hdepth' htaken => ?_
        rw [map_bind]
        have hentered := hbelow.enter_later htaken Routine.expression.rank
        refine Meets.bind_finds (h.expression hw (hdepth' ▸ hdepth) hentered) ?_
        intro arg us w hu hdepth'' htaken'
        have hlater := Nat.lt_of_lt_of_le htaken htaken'
        have hshorter : us.length ≤ bound :=
          Nat.le_of_lt_succ (Nat.lt_of_lt_of_le (hv.length_lt hu hlater) hbound)
        have hloop := ih (args ++ [arg]) hu (hdepth'' ▸ hdepth' ▸ hdepth)
          (hbelow.enter_later hlater _) hshorter
        simp only [List.append_assoc, List.singleton_append] at hloop
        dsimp only
        rwa [cons_bind, Functor.map_map]
      · next hcomma =>
        exact meets_moreArguments_of_ne args hv hbelow fun heq => hcomma (Option.some.inj heq)

theorem follows_arguments (h : InnerFollows s ending total levels inner) :
    Follows s ending total s.arguments Routine.expression.rank levels
      (Parser.arguments ending inner) := by
  intro active v ts hv hdepth hbelow
  rw [Source.arguments, Parser.arguments]
  refine (yields_ahead hv).bind ?_
  split
  · exact meets_finds_pure hv
  · refine Meets.bind_finds (h.expression hv hdepth hbelow) ?_
    intro arg us w hw hdepth' htaken
    have hmore := meets_moreArguments h [arg] hw (hdepth' ▸ hdepth)
      (hbelow.of_le (Nat.zero_le _) htaken) (Nat.le_refl us.length)
    dsimp only
    rwa [cons_bind]

theorem meets_call (h : InnerFollows s ending total levels inner) {active : Calls} {v : Place}
    {bracket : Located} {ts : List Located} (name : String)
    (hv : Stands s ending total v (bracket :: ts)) (hbracket : bracket.token = .leftParen)
    (hdepth : v.depth + levels = nestingLimit) (hbelow : Below active v.taken Routine.call.rank) :
    Meets (s.call active name) v (Finds s ending total v (do
      let ts ← Parser.advance ending (bracket :: ts)
      let (args, ts) ← Parser.arguments ending inner ts
      let ts ← Parser.expect ending .rightParen ts
      .ok (.call name args, ts))) := by
  have hopen : Parser.expect ending .leftParen (bracket :: ts) =
      Parser.advance ending (bracket :: ts) := by
    rw [Parser.expect, if_pos hbracket]
  rw [Source.call, ← hopen]
  refine (yields_enter hbelow).bind (meets_expect_bind hv fun hw hdepth' htaken => ?_)
  refine Meets.bind_finds (follows_arguments h hw (hdepth' ▸ hdepth) (hbelow.enter_later htaken _))
    fun hu _ _ => ?_
  exact meets_expect_bind hu fun hz _ _ => meets_finds_pure hz

theorem meets_literal {v : Place} {t : Located} {ts : List Located}
    (hv : Stands s ending total v (t :: ts)) (value : Literal) :
    Meets (s.literal value) v (Finds s ending total v
      (Parser.advance ending (t :: ts) >>= fun rest => .ok (.literal value, rest))) :=
  meets_consume_bind hv fun hw _ _ => meets_finds_pure hw

theorem meets_unexpectedToken {v : Place} {t : Located} {ts : List Located}
    (hv : Stands s ending total v (t :: ts)) (token : Token) :
    Meets (do fault (.unexpectedToken token (← s.column (← place).start)) : Procedure Expr) v
      (Finds s ending total v (.error (.unexpectedToken token t.column))) := by
  cases hv with
  | token _ hstart hcolumn =>
    rw [hcolumn]
    exact (yields_place v).bind ((yields_column hstart).bind meets_finds_fault)

theorem follows_primary (h : InnerFollows s ending total levels inner) :
    FollowsLevel s ending total .primary levels (Parser.primary ending inner) := by
  intro active v ts hv hdepth hbelow
  refine meets_level hbelow ?_
  rw [Source.phrase, Source.primary]
  refine (yields_ahead hv).bind ?_
  cases ts with
  | nil =>
    cases hv with
    | endOfText _ _ hending =>
      subst hending
      exact meets_finds_fault
  | cons t ts =>
    have hfault := meets_unexpectedToken hv
    obtain ⟨token, column⟩ := t
    cases token with
    | integer n => exact meets_literal hv (.integer n)
    | float x => exact meets_literal hv (.float x)
    | text t => exact meets_literal hv (.text t)
    | boolean b => exact meets_literal hv (.boolean b)
    | none => exact meets_literal hv .none
    | leftParen =>
      refine meets_consume_bind hv fun hw hdepth' htaken => ?_
      refine Meets.bind_finds (h.expression hw (hdepth' ▸ hdepth) (hbelow.enter_later htaken _))
        fun hu _ _ => ?_
      exact meets_expect_bind hu fun hz _ _ => meets_finds_pure hz
    | identifier name =>
      refine meets_consume_bind hv fun hw hdepth' htaken => ?_
      refine (yields_ahead hw).bind ?_
      split
      · next hbracket =>
        obtain ⟨bracket, us, rfl, -⟩ := Grammar.head?_token_eq_some_iff.mp hbracket
        exact meets_call h name hw (Option.some.inj hbracket) (hdepth' ▸ hdepth)
          (hbelow.enter_later htaken _)
      · exact meets_finds_pure hw
    | _ => exact hfault _

end Primary

theorem follows_power (h : InnerFollows s ending total levels inner) :
    FollowsLevel s ending total .power levels (Parser.power ending inner) := by
  intro active v ts hv hdepth hbelow
  refine meets_level hbelow ?_
  rw [Source.phrase, Source.power, Parser.power]
  refine Meets.bind_finds (follows_primary h hv hdepth (hbelow.enter (by decide))) ?_
  intro base us w hw hdepth' htaken
  refine (yields_ahead hw).bind ?_
  dsimp only
  split
  · next hstar =>
    obtain ⟨star, us, rfl, -⟩ := Grammar.head?_token_eq_some_iff.mp hstar
    refine meets_consume_bind hw fun hu hdepth'' htaken' => ?_
    refine Meets.bind_finds (h.signed hu (hdepth'' ▸ hdepth' ▸ hdepth)
      (hbelow.enter_later (Nat.lt_of_le_of_lt htaken htaken') _)) fun hz _ _ => ?_
    exact meets_finds_pure hz
  · exact meets_finds_pure hw

theorem follows_signed (h : InnerFollows s ending total levels inner) :
    FollowsLevel s ending total .sign levels (Parser.signed ending inner) := by
  intro active v ts hv hdepth hbelow
  refine meets_level hbelow ?_
  rw [Source.phrase, Source.signed, Parser.signed]
  refine (yields_ahead hv).bind ?_
  have hhead : (ts.head?.map (·.token)).bind Parser.sign? = ts.head?.bind (Parser.sign? ·.token) :=
    Option.bind_map ..
  rw [hhead]
  cases hsign : ts.head?.bind (Parser.sign? ·.token) with
  | some op =>
    obtain ⟨t, hhead, -⟩ := Option.bind_eq_some_iff.mp hsign
    obtain ⟨us, rfl⟩ := List.head?_eq_some_iff.mp hhead
    refine meets_consume_bind hv fun hw hdepth' htaken => ?_
    refine Meets.bind_finds (h.signed hw (hdepth' ▸ hdepth) (hbelow.enter_later htaken _))
      fun hu _ _ => ?_
    exact meets_finds_pure hu
  | none => exact follows_power h hv hdepth (hbelow.enter (by decide))

section Chain

variable {l k : Level} {operand : Parser.Reader} {active : Calls} {v : Place} {ts : List Located}

theorem meets_operators_of_none (left : Expr) (hv : Stands s ending total v ts)
    (hbelow : Below active v.taken (Routine.operators l).rank)
    (hnone : (ts.head?.map (·.token)).bind (operator? l) = none) :
    Meets (s.operators active l k left) v (Finds s ending total v (.ok (left, ts))) := by
  rw [Source.operators]
  refine (yields_enter hbelow).bind ((yields_ahead hv).bind ?_)
  rw [hnone]
  exact meets_finds_pure hv

theorem meets_operators (hoperand : FollowsLevel s ending total k levels operand) {bound : Nat}
    (left : Expr) (hv : Stands s ending total v ts) (hdepth : v.depth + levels = nestingLimit)
    (hbelow : Below active v.taken (Routine.operators l).rank) (hbound : ts.length ≤ bound) :
    Meets (s.operators active l k left) v (Finds s ending total v
      (Parser.chainFrom ending (operator? l) operand bound left ts)) := by
  induction bound generalizing active v ts left with
  | zero =>
    obtain rfl := List.eq_nil_of_length_eq_zero (Nat.le_zero.mp hbound)
    exact meets_operators_of_none left hv hbelow rfl
  | succ bound ih =>
    cases ts with
    | nil => exact meets_operators_of_none left hv hbelow rfl
    | cons t ts =>
      cases hop : operator? l t.token with
      | none =>
        simp only [Parser.chainFrom, hop]
        exact meets_operators_of_none left hv hbelow hop
      | some op =>
        have hhead : ((t :: ts).head?.map (·.token)).bind (operator? l) = some op := hop
        simp only [Parser.chainFrom, hop]
        rw [Source.operators]
        refine (yields_enter hbelow).bind ((yields_ahead hv).bind ?_)
        rw [hhead]
        refine meets_consume_bind hv fun hw hdepth' htaken => ?_
        refine Meets.bind_finds (hoperand hw (hdepth' ▸ hdepth) (hbelow.enter_later htaken _)) ?_
        intro right us w hu hdepth'' htaken'
        have hlater := Nat.lt_of_lt_of_le htaken htaken'
        have hshorter : us.length ≤ bound :=
          Nat.le_of_lt_succ (Nat.lt_of_lt_of_le (hv.length_lt hu hlater) hbound)
        exact ih _ hu (hdepth'' ▸ hdepth' ▸ hdepth) (hbelow.enter_later hlater _) hshorter

theorem follows_chain (hrank : (Routine.level k).rank ≤ (Routine.operators l).rank)
    (hoperand : FollowsLevel s ending total k levels operand) :
    Follows s ending total (fun active => s.chain active l k) (Routine.operators l).rank levels
      (Parser.chain ending (operator? l) operand) := by
  intro active v ts hv hdepth hbelow
  dsimp only
  rw [Source.chain, Parser.chain]
  refine Meets.bind_finds (hoperand hv hdepth (hbelow.of_le hrank (Nat.le_refl _))) ?_
  intro left us w hw hdepth' htaken
  exact meets_operators hoperand left hw (hdepth' ▸ hdepth)
    (hbelow.of_le (Nat.le_refl _) htaken) (Nat.le_refl us.length)

theorem follows_level (hphrase : ∀ active, s.phrase active l = s.chain active l k)
    (hlevel : (Routine.operators l).rank < (Routine.level l).rank)
    (hrank : (Routine.level k).rank ≤ (Routine.operators l).rank)
    (hoperand : FollowsLevel s ending total k levels operand) :
    FollowsLevel s ending total l levels (Parser.chain ending (operator? l) operand) := by
  intro active v ts hv hdepth hbelow
  refine meets_level hbelow ?_
  rw [hphrase]
  exact follows_chain hrank hoperand hv hdepth (hbelow.enter hlevel)

end Chain

section Levels

variable (h : InnerFollows s ending total levels inner)
include h

theorem follows_product :
    FollowsLevel s ending total .product levels (Parser.product ending inner) :=
  follows_level (fun _ => by rw [Source.phrase]) (by decide) (by decide) (follows_signed h)

theorem follows_sum :
    FollowsLevel s ending total .sum levels (Parser.sum ending inner) :=
  follows_level (fun _ => by rw [Source.phrase]) (by decide) (by decide) (follows_product h)

theorem follows_relation :
    FollowsLevel s ending total .relation levels (Parser.relation ending inner) :=
  follows_level (fun _ => by rw [Source.phrase]) (by decide) (by decide) (follows_sum h)

theorem follows_equality :
    FollowsLevel s ending total .equality levels (Parser.equality ending inner) :=
  follows_level (fun _ => by rw [Source.phrase]) (by decide) (by decide) (follows_relation h)

theorem follows_negatable :
    FollowsLevel s ending total .negation levels (Parser.negatable ending inner) := by
  intro active v ts hv hdepth hbelow
  refine meets_level hbelow ?_
  rw [Source.phrase, Source.negation, Parser.negatable]
  refine (yields_ahead hv).bind ?_
  split
  · next hnot =>
    obtain ⟨t, us, rfl, -⟩ := Grammar.head?_token_eq_some_iff.mp hnot
    refine meets_consume_bind hv fun hw hdepth' htaken => ?_
    refine Meets.bind_finds (h.negatable hw (hdepth' ▸ hdepth) (hbelow.enter_later htaken _))
      fun hu _ _ => ?_
    exact meets_finds_pure hu
  · exact follows_equality h hv hdepth (hbelow.enter (by decide))

theorem follows_conjunction :
    FollowsLevel s ending total .conjunction levels (Parser.conjunction ending inner) :=
  follows_level (fun _ => by rw [Source.phrase]) (by decide) (by decide) (follows_negatable h)

theorem follows_disjunction :
    FollowsLevel s ending total .disjunction levels (Parser.disjunction ending inner) :=
  follows_level (fun _ => by rw [Source.phrase]) (by decide) (by decide) (follows_conjunction h)

end Levels

/-- By induction on the levels of nesting that are left. -/
theorem innerFollows_inner (s : Source) (ending : Ending) (total levels : Nat) :
    InnerFollows s ending total levels (Parser.inner ending levels) := by
  induction levels with
  | zero => exact ⟨follows_tooDeep _ _, follows_tooDeep _ _, follows_tooDeep _ _⟩
  | succ levels ih =>
    exact ⟨(follows_disjunction ih).within, (follows_negatable ih).within,
      (follows_signed ih).within⟩

end Readers

section Formulas

theorem meets_parse (text : String) :
    Meets (Source.mk text.toList).parse Place.origin fun r _ => r = Expr.parse text := by
  rw [Source.parse, Expr.parse]
  by_cases hblank : Text.isBlankText text = true
  · rw [if_pos hblank, if_pos (show text.toList.all Text.isBlank = true from hblank)]
    exact meets_fault rfl
  · rw [if_neg hblank, if_neg (show ¬ text.toList.all Text.isBlank = true from hblank)]
    obtain ⟨ts, ending, hstream⟩ : ∃ ts ending, Lexer.tokenize text = ⟨ts, ending⟩ := ⟨_, _, rfl⟩
    rw [hstream]
    have hcut : (Source.mk text.toList).CutAt Place.origin.pos text.toList :=
      Source.cutAt_zero ⟨text.toList⟩
    have hfirst := meets_advanceToken hcut hstream (Nat.zero_add ts.length)
    refine hfirst.bind ?_ ?_
    · rintro a w ⟨hdepth, ⟨-, hw⟩ | ⟨e, he, -⟩⟩
      · have hread := (innerFollows_inner ⟨text.toList⟩ ending ts.length nestingLimit).expression hw
          (by rw [hdepth]; exact Nat.zero_add _) (below_nil _ _)
        rw [Parser.parseStream]
        dsimp only
        cases hexpression : (Parser.inner ending nestingLimit).expression ts with
        | error e =>
          rw [hexpression] at hread
          exact hread.bind_fault fun _ => rfl
        | ok r =>
          obtain ⟨x, rest⟩ := r
          rw [hexpression] at hread
          refine hread.bind_result ?_
          rintro u ⟨hu, -⟩
          refine (yields_ahead hu).bind ?_
          cases hu with
          | endOfText => exact meets_pure rfl
          | token _ hstart hcolumn =>
            refine (yields_place u).bind ((yields_column hstart).bind (meets_fault ?_))
            rw [← hcolumn]
            rfl
      · cases he
    · rintro e w ⟨-, ⟨he, -⟩ | ⟨e', he, rfl, rfl⟩⟩
      · cases he
      · rw [Except.error.inj he]
        rfl

/-- On every text the parser in place comes to an end, with the tree or the fault that reading its
tokens gives: it does not panic, so every slice it takes falls between two cuts of the text and the
nesting is never counted below zero. All it puts on record is lawful: every loop over characters
advances, every routine that calls itself again has taken a token since, and the nesting is never
counted past one above its limit. -/
theorem parse_terminates (text : String) :
    ∃ state : State,
      (Source.mk text.toList).parse.run.run ⟨.origin, []⟩ =
        some ((Expr.parse text).mapError .fault, state) ∧
      ∀ ev ∈ state.log, ev.Lawful := by
  obtain ⟨r, w, log, hlawful, hrun, rfl⟩ := meets_parse text [] nofun
  exact ⟨⟨w, log⟩, hrun, hlawful⟩

end Formulas

end FormLogic.InPlace
