import FormLogic.Formula.Expr
import FormLogic.Formula.Token

/-! The grammar of formulas over tokens. Binary operators of one level lean to the left, powers to
the right; every derivation has a nesting, in which the phrase itself counts one. -/

namespace FormLogic.Grammar

/-- The levels of the grammar, from loose to tight. -/
inductive Level where
  | disjunction
  | conjunction
  | negation
  | equality
  | relation
  | sum
  | product
  | sign
  | power
  | primary
deriving DecidableEq, Repr

def Level.tighter? : Level → Option Level
  | disjunction => some conjunction
  | conjunction => some negation
  | negation => some equality
  | equality => some relation
  | relation => some sum
  | sum => some product
  | product => some sign
  | sign => some power
  | power => some primary
  | primary => none

def Level.rank : Level → Nat
  | disjunction => 0
  | conjunction => 1
  | negation => 2
  | equality => 3
  | relation => 4
  | sum => 5
  | product => 6
  | sign => 7
  | power => 8
  | primary => 9

/-- The table of precedence: at which level a token joins two operands, and to what. -/
inductive Joins : Level → Token → BinaryOp → Prop
  | or : Joins .disjunction .or .or
  | and : Joins .conjunction .and .and
  | equal : Joins .equality .equal .equal
  | notEqual : Joins .equality .notEqual .notEqual
  | less : Joins .relation .less (.order .less)
  | lessEqual : Joins .relation .lessEqual (.order .lessEqual)
  | greater : Joins .relation .greater (.order .greater)
  | greaterEqual : Joins .relation .greaterEqual (.order .greaterEqual)
  | plus : Joins .sum .plus (.arithmetic .add)
  | minus : Joins .sum .minus (.arithmetic .subtract)
  | star : Joins .product .star (.arithmetic .multiply)
  | slash : Joins .product .slash (.arithmetic .divide)
  | percent : Joins .product .percent (.arithmetic .modulo)

inductive Signs : Token → UnaryOp → Prop
  | minus : Signs .minus .negate
  | plus : Signs .plus .plus

inductive Denotes : Token → Literal → Prop
  | integer (n : Int64) : Denotes (.integer n) (.integer n)
  | float (x : Float) : Denotes (.float x) (.float x)
  | text (s : String) : Denotes (.text s) (.text s)
  | boolean (b : Bool) : Denotes (.boolean b) (.boolean b)
  | none : Denotes .none .none

/-- An argument of a call: its tokens, its tree and its nesting. -/
structure Argument where
  tokens : List Token
  tree : Expr
  nesting : Nat

/-- Arguments with a comma before each. -/
def Argument.following (args : List Argument) : List Token :=
  args.flatMap fun a => .comma :: a.tokens

def Argument.separated : List Argument → List Token
  | [] => []
  | a :: rest => a.tokens ++ following rest

def Argument.deepest : List Argument → Nat
  | [] => 1
  | a :: rest => max (a.nesting + 1) (deepest rest)

/-- Tokens derive a tree at a level, with a nesting: a phrase counts one, and an expression in
parentheses, an argument, the operand of `not` or of a sign and an exponent each count one more than
what they stand in. -/
inductive Derives : Level → List Token → Expr → Nat → Prop
  | tighter {l k ts x n} (hk : l.tighter? = some k) (h : Derives k ts x n) : Derives l ts x n
  | join {l k t op ts us x y m n} (ht : Joins l t op) (hk : l.tighter? = some k)
      (hx : Derives l ts x m) (hy : Derives k us y n) :
      Derives l (ts ++ t :: us) (.binary op x y) (max m n)
  | negation {ts x n} (h : Derives .negation ts x n) :
      Derives .negation (.not :: ts) (.unary .not x) (n + 1)
  | sign {t op ts x n} (ht : Signs t op) (h : Derives .sign ts x n) :
      Derives .sign (t :: ts) (.unary op x) (n + 1)
  | power {ts us x y m n} (hx : Derives .primary ts x m) (hy : Derives .sign us y n) :
      Derives .power (ts ++ .doubleStar :: us) (.binary (.arithmetic .power) x y) (max m (n + 1))
  | literal {t v} (ht : Denotes t v) : Derives .primary [t] (.literal v) 1
  | field (name : String) : Derives .primary [.identifier name] (.field name) 1
  | parentheses {ts x n} (h : Derives .disjunction ts x n) :
      Derives .primary (.leftParen :: (ts ++ [.rightParen])) x (n + 1)
  | call (name : String) (args : List Argument)
      (h : ∀ a ∈ args, Derives .disjunction a.tokens a.tree a.nesting) :
      Derives .primary (.identifier name :: .leftParen :: (Argument.separated args ++ [.rightParen]))
        (.call name (args.map (·.tree))) (Argument.deepest args)

theorem Argument.deepest_le_succ_iff {args : List Argument} {n : Nat} :
    deepest args ≤ n + 1 ↔ ∀ a ∈ args, a.nesting ≤ n := by
  induction args with
  | nil => simp [deepest]
  | cons a rest ih =>
    simp only [deepest, Nat.max_le, ih, List.mem_cons, forall_eq_or_imp]
    exact and_congr_left fun _ => by omega

theorem Argument.one_le_deepest (args : List Argument) : 1 ≤ deepest args := by
  induction args with
  | nil => exact Nat.le_refl 1
  | cons a rest ih => exact Nat.le_trans ih (Nat.le_max_right _ _)

namespace Derives

variable {l : Level} {ts : List Token} {x : Expr} {n : Nat}

theorem of_primary (h : Derives .primary ts x n) : Derives .disjunction ts x n := by
  have hsign : Derives .sign ts x n := .tighter rfl (.tighter rfl h)
  have hsum : Derives .sum ts x n := .tighter rfl (.tighter rfl hsign)
  have hequality : Derives .equality ts x n := .tighter rfl (.tighter rfl hsum)
  exact .tighter rfl (.tighter rfl (.tighter rfl hequality))

theorem one_le (h : Derives l ts x n) : 1 ≤ n := by
  induction h with
  | tighter _ _ ih => exact ih
  | join _ _ _ _ ihx _ => exact Nat.le_trans ihx (Nat.le_max_left _ _)
  | negation _ _ => exact Nat.le_add_left 1 _
  | sign _ _ _ => exact Nat.le_add_left 1 _
  | power _ _ ihx _ => exact Nat.le_trans ihx (Nat.le_max_left _ _)
  | literal _ => exact Nat.le_refl 1
  | field _ => exact Nat.le_refl 1
  | parentheses _ _ => exact Nat.le_add_left 1 _
  | call _ args _ _ => exact Argument.one_le_deepest args

end Derives

theorem Level.rank_tighter {l k : Level} (h : l.tighter? = some k) : k.rank = l.rank + 1 := by
  cases l <;> cases h <;> rfl

/-- The tokens that a phrase of a level may start with. -/
inductive Opens : Level → Token → Prop
  | negation {l : Level} (hl : l.rank ≤ Level.negation.rank) : Opens l .not
  | sign {l : Level} {t : Token} {op : UnaryOp} (ht : Signs t op) (hl : l.rank ≤ Level.sign.rank) :
      Opens l t
  | literal {l : Level} {t : Token} {v : Literal} (ht : Denotes t v) : Opens l t
  | identifier (l : Level) (name : String) : Opens l (.identifier name)
  | leftParen (l : Level) : Opens l .leftParen

namespace Opens

variable {l k : Level} {t : Token}

theorem of_tighter (hk : l.tighter? = some k) (h : Opens k t) : Opens l t := by
  have hrank := Level.rank_tighter hk
  cases h with
  | negation hl => exact .negation (by omega)
  | sign ht hl => exact .sign ht (by omega)
  | literal ht => exact .literal ht
  | identifier name => exact .identifier l name
  | leftParen => exact .leftParen l

theorem ne_not (hl : Level.negation.rank < l.rank) (h : Opens l t) : t ≠ .not := by
  rintro rfl
  cases h with
  | negation hl' => omega
  | sign ht _ => cases ht
  | literal ht => cases ht

theorem not_sign (hl : Level.sign.rank < l.rank) (h : Opens l t) {op : UnaryOp} :
    ¬ Signs t op := by
  intro ht
  cases h with
  | negation _ => cases ht
  | sign _ hl' => omega
  | literal hv => cases hv <;> cases ht
  | identifier _ => cases ht
  | leftParen => cases ht

theorem ne_rightParen (h : Opens l t) : t ≠ .rightParen := by
  rintro rfl
  cases h with
  | sign ht _ => cases ht
  | literal ht => cases ht

end Opens

theorem Derives.opens {l : Level} {ts : List Token} {x : Expr} {n : Nat} (h : Derives l ts x n) :
    ∃ t us, ts = t :: us ∧ Opens l t := by
  induction h with
  | tighter hk _ ih =>
    obtain ⟨t, us, rfl, ht⟩ := ih
    exact ⟨t, us, rfl, ht.of_tighter hk⟩
  | join _ _ _ _ ihx _ =>
    obtain ⟨t, us, rfl, ht⟩ := ihx
    exact ⟨t, _, List.cons_append, ht⟩
  | negation _ _ => exact ⟨_, _, rfl, .negation (Nat.le_refl _)⟩
  | sign ht _ _ => exact ⟨_, _, rfl, .sign ht (Nat.le_refl _)⟩
  | power _ _ ihx _ =>
    obtain ⟨t, us, rfl, ht⟩ := ihx
    exact ⟨t, _, List.cons_append, ht.of_tighter rfl⟩
  | literal ht => exact ⟨_, _, rfl, .literal ht⟩
  | field name => exact ⟨_, _, rfl, .identifier _ name⟩
  | parentheses _ _ => exact ⟨_, _, rfl, .leftParen _⟩
  | call name _ _ _ => exact ⟨_, _, rfl, .identifier _ name⟩

/-- The tokens that a phrase of a level may not stop before, as a longer phrase could go on with
them. -/
inductive Continues : Level → Token → Prop
  | call (l : Level) : Continues l .leftParen
  | power {l : Level} (hl : l ≠ .primary) : Continues l .doubleStar
  | join {l k : Level} {t : Token} {op : BinaryOp} (ht : Joins k t op) (hl : l.rank ≤ k.rank) :
      Continues l t

namespace Continues

variable {l k : Level} {t : Token}

theorem of_tighter (hk : l.tighter? = some k) (h : Continues k t) : Continues l t := by
  cases h with
  | call => exact .call l
  | power _ => exact .power fun hl => by rw [hl] at hk; cases hk
  | join ht hrank => exact .join ht (by have := Level.rank_tighter hk; omega)

theorem rank_le_of_joins {op : BinaryOp} (ht : Joins k t op) (h : Continues l t) :
    l.rank ≤ k.rank := by
  cases ht <;> cases h with
  | join ht hrank => cases ht; exact hrank

theorem not_tighter_of_joins {op : BinaryOp} (ht : Joins l t op) (hk : l.tighter? = some k) :
    ¬ Continues k t := fun h => by
  have := rank_le_of_joins ht h
  have := Level.rank_tighter hk
  omega

theorem not_comma : ¬ Continues l .comma := fun h => by
  cases h with
  | join ht _ => cases ht

theorem not_rightParen : ¬ Continues l .rightParen := fun h => by
  cases h with
  | join ht _ => cases ht

/-- No token joins powers, so that an exponent stops where its power does. -/
theorem power_of_sign (h : Continues .sign t) : Continues .power t := by
  cases h with
  | call => exact .call .power
  | power _ => exact .power nofun
  | join ht hrank => cases ht <;> simp [Level.rank] at hrank

theorem not_doubleStar_primary : ¬ Continues .primary .doubleStar := fun h => by
  cases h with
  | power h => exact h rfl
  | join ht _ => cases ht

end Continues

end FormLogic.Grammar
