import FormLogic.Proofs.Formula.Parsing
import FormLogic.Proofs.Formula.Walks

/-! How high the tree of an accepted formula can be. Whatever nests counts against the limit, but
operators of one level that follow one another do not: each of them puts the tree so far one step
further down on the left. So a tree is as high as the longest such chain makes it, times the levels
of the grammar, times the nesting limit. -/

namespace FormLogic

open Grammar

/-- The level at which an operator joins its operands. -/
def BinaryOp.level : BinaryOp → Level
  | or => .disjunction
  | and => .conjunction
  | equal | notEqual => .equality
  | order _ => .relation
  | arithmetic .add | arithmetic .subtract => .sum
  | arithmetic .multiply | arithmetic .divide | arithmetic .modulo => .product
  | arithmetic .power => .power

theorem Grammar.Joins.level_eq {l : Level} {t : Token} {op : BinaryOp} (h : Joins l t op) :
    op.level = l := by
  cases h <;> rfl

namespace Expr

/-- How many operators of a level follow one another, from the formula on along left operands. -/
def chainAt (l : Level) : Expr → Nat
  | binary op x _ => if op.level = l then chainAt l x + 1 else 0
  | _ => 0

mutual

/-- The number of operators in the longest chain of one level in a formula. -/
def longestChain : Expr → Nat
  | literal _ => 0
  | field _ => 0
  | unary _ x => longestChain x
  | binary op x y => max (chainAt op.level x + 1) (max (longestChain x) (longestChain y))
  | call _ args => longestChainOfArgs args

def longestChainOfArgs : List Expr → Nat
  | [] => 0
  | x :: xs => max (longestChain x) (longestChainOfArgs xs)

end

theorem longestChainOfArgs_le_iff {args : List Expr} {n : Nat} :
    longestChainOfArgs args ≤ n ↔ ∀ x ∈ args, x.longestChain ≤ n := by
  induction args with
  | nil => simp [longestChainOfArgs]
  | cons x xs ih => rw [longestChainOfArgs, Nat.max_le, ih, List.forall_mem_cons]

variable {x : Expr}

theorem chainAt_le_longestChain (l : Level) (x : Expr) : x.chainAt l ≤ x.longestChain := by
  cases x with
  | binary op x y =>
    by_cases hop : op.level = l
    · simp only [chainAt, longestChain, hop]
      exact Nat.le_max_left _ _
    · simp [chainAt, hop]
  | _ => simp [chainAt]

theorem chainAt_lt_height (l : Level) (x : Expr) : x.chainAt l < x.height := by
  induction x using inductionOnParts with
  | binary op x y ihx _ =>
    have hmax := Nat.le_max_left x.height y.height
    by_cases hop : op.level = l
    · simp only [chainAt, if_pos hop, height]
      omega
    · simp [chainAt, hop, height]
  | _ => simp [chainAt, height]

theorem longestChain_lt_height (x : Expr) : x.longestChain < x.height := by
  induction x using inductionOnParts with
  | literal l => simp [longestChain, height]
  | field name => simp [longestChain, height]
  | unary op x ih =>
    simp only [longestChain, height]
    omega
  | binary op x y ihx ihy =>
    have hchain := chainAt_lt_height op.level x
    simp only [longestChain, height]
    omega
  | call function args ih =>
    have hargs : longestChainOfArgs args ≤ heightOfArgs args := longestChainOfArgs_le_iff.mpr
      fun x hx => Nat.le_trans (Nat.le_of_lt (ih x hx)) (heightOfArgs_le_iff.mp (Nat.le_refl _) x hx)
    simp only [longestChain, height]
    omega

end Expr

namespace Grammar

/-- How many levels there are from a level on inward, up to a nesting. -/
def Level.reach (l : Level) (n : Nat) : Nat := 10 * n - l.rank

theorem Level.rank_le (l : Level) : l.rank ≤ 9 := by
  cases l <;> simp [rank]

theorem Level.reach_tighter {l k : Level} {n : Nat} (hk : l.tighter? = some k) (hn : 1 ≤ n) :
    l.reach n = k.reach n + 1 := by
  have hrank := rank_tighter hk
  have hle := k.rank_le
  simp only [reach]
  omega

theorem Level.reach_mono (l : Level) {m n : Nat} (h : m ≤ n) : l.reach m ≤ l.reach n := by
  simp only [reach]
  omega

theorem Level.reach_succ (l k : Level) {n : Nat} (hn : 1 ≤ n) : l.reach n + 1 ≤ k.reach (n + 1) := by
  have hle := k.rank_le
  simp only [reach]
  omega

namespace Derives

variable {l : Level} {ts : List Token} {x : Expr} {n k : Nat}

/-- What is no higher than some levels allow, the chain on top apart, is so with one step more and
one level more. -/
theorem succ_height_add_le {e : Nat} (h : x.height + k ≤ l.reach n * (k + 1) + x.chainAt l)
    (hx : x.longestChain ≤ k) (he : l.reach n + 1 ≤ e) : x.height + 1 + k ≤ e * (k + 1) := by
  have hchain := Nat.le_trans (x.chainAt_le_longestChain l) hx
  have hstep : (l.reach n + 1) * (k + 1) ≤ e * (k + 1) := Nat.mul_le_mul_right _ he
  rw [Nat.succ_mul] at hstep
  omega

/-- The induction is on the derivation. The chain that a tree begins with is counted apart, as it
goes on where the phrase does. -/
theorem height_add_le (h : Derives l ts x n) (hx : x.longestChain ≤ k) :
    x.height + k ≤ l.reach n * (k + 1) + x.chainAt l := by
  induction h with
  | @tighter l l' ts x n hk h ih =>
    have hle := succ_height_add_le (ih hx) hx (Nat.le_of_eq (Level.reach_tighter hk h.one_le).symm)
    omega
  | @join l l' t op ts us x y m n ht hk _ h' ihx ihy =>
    simp only [Expr.longestChain, Nat.max_le] at hx
    obtain ⟨-, hx, hy⟩ := hx
    have hreach : l'.reach n + 1 ≤ l.reach (max m n) := by
      rw [← Level.reach_tighter hk h'.one_le]
      exact l.reach_mono (Nat.le_max_right m n)
    have hmono : l.reach m * (k + 1) ≤ l.reach (max m n) * (k + 1) :=
      Nat.mul_le_mul_right _ (l.reach_mono (Nat.le_max_left m n))
    have hleft := ihx hx
    have hright := succ_height_add_le (ihy hy) hy hreach
    simp only [Expr.height, Expr.chainAt, ht.level_eq, if_true]
    omega
  | @negation ts x n h ih =>
    have hle := succ_height_add_le (ih hx) hx (Level.reach_succ _ .negation h.one_le)
    simp only [Expr.height]
    omega
  | @sign t op ts x n _ h ih =>
    have hle := succ_height_add_le (ih hx) hx (Level.reach_succ _ .sign h.one_le)
    simp only [Expr.height]
    omega
  | @power ts us x y m n h h' ihx ihy =>
    simp only [Expr.longestChain, Nat.max_le] at hx
    obtain ⟨-, hx, hy⟩ := hx
    have hbase : Level.primary.reach m + 1 ≤ Level.power.reach (max m (n + 1)) := by
      rw [← Level.reach_tighter (l := .power) rfl h.one_le]
      exact Level.power.reach_mono (Nat.le_max_left _ _)
    have hexponent : Level.sign.reach n + 1 ≤ Level.power.reach (max m (n + 1)) :=
      Nat.le_trans (Level.reach_succ .sign .power h'.one_le)
        (Level.power.reach_mono (Nat.le_max_right _ _))
    have hleft := succ_height_add_le (ihx hx) hx hbase
    have hright := succ_height_add_le (ihy hy) hy hexponent
    simp only [Expr.height]
    omega
  | literal _ =>
    simp only [Expr.height, Level.reach, Level.rank]
    omega
  | field name =>
    simp only [Expr.height, Level.reach, Level.rank]
    omega
  | @parentheses ts x n h ih =>
    have hle := succ_height_add_le (ih hx) hx (Level.reach_succ _ .primary h.one_le)
    omega
  | call name args h ih =>
    rw [Expr.longestChain, Expr.longestChainOfArgs_le_iff] at hx
    -- A call without arguments has a nesting too, so there is always a level to spend on it.
    obtain ⟨n, hn⟩ := Nat.exists_eq_add_of_le' (Argument.one_le_deepest args)
    have hnesting := Argument.deepest_le_succ_iff.mp (Nat.le_of_eq hn)
    have hone : 1 ≤ Level.primary.reach (n + 1) := by
      simp only [Level.reach, Level.rank]
      omega
    have hbound : k + 1 ≤ Level.primary.reach (n + 1) * (k + 1) := Nat.le_mul_of_pos_left _ hone
    have hargs : Expr.heightOfArgs (args.map (·.tree)) ≤
        Level.primary.reach (n + 1) * (k + 1) - (k + 1) := by
      refine Expr.heightOfArgs_le_iff.mpr fun x hmem => ?_
      obtain ⟨a, ha, rfl⟩ := List.mem_map.mp hmem
      have hreach : Level.disjunction.reach a.nesting + 1 ≤ Level.primary.reach (n + 1) :=
        Nat.le_trans (Level.reach_succ .disjunction .primary (h a ha).one_le)
          (Level.primary.reach_mono (Nat.succ_le_succ (hnesting a ha)))
      have hle := succ_height_add_le (ih a ha (hx _ hmem)) (hx _ hmem) hreach
      omega
    rw [hn]
    simp only [Expr.height]
    omega

/-- A formula of nesting n is at most 10 n times higher than its longest chain is long. -/
theorem height_le (h : Derives .disjunction ts x n) : x.height ≤ 10 * n * (x.longestChain + 1) := by
  have hle := h.height_add_le (Nat.le_refl x.longestChain)
  have hchain := x.chainAt_le_longestChain .disjunction
  simp only [Level.reach, Level.rank, Nat.sub_zero] at hle
  omega

end Derives

end Grammar

namespace Expr

theorem height_le_of_parse {text : String} {x : Expr} (h : Expr.parse text = .ok x) :
    x.height ≤ 10 * nestingLimit * (x.longestChain + 1) := by
  obtain ⟨ts, n, -, hderives, hn⟩ := exists_derives_of_parse h
  exact Nat.le_trans hderives.height_le (Nat.mul_le_mul_right _ (Nat.mul_le_mul_left 10 hn))

/-- A sum of ones with a given number of operators. -/
def sumOfOnes : Nat → Expr
  | 0 => literal (.integer 1)
  | n + 1 => binary (.arithmetic .add) (sumOfOnes n) (literal (.integer 1))

def plusOnes (n : Nat) : List Char := (List.replicate n ['+', '1']).flatten

def plusOneTokens (n : Nat) : List Token := (List.replicate n [.plus, .integer 1]).flatten

def sumText (n : Nat) : String := String.ofList ('1' :: plusOnes n)

theorem scans_one {n : Nat} (h : Scans (plusOnes n) (plusOneTokens n)) :
    Scans ('1' :: plusOnes n) (.integer 1 :: plusOneTokens n) := by
  have hscan : Lexer.scanToken 0 '1' (plusOnes n) = .ok (.integer 1, plusOnes n) := by
    cases n <;> rfl
  exact .token rfl hscan h

theorem scans_plusOnes (n : Nat) : Scans (plusOnes n) (plusOneTokens n) := by
  induction n with
  | zero => exact .blank rfl
  | succ n ih =>
    have hscan : Lexer.scanToken 0 '+' ('1' :: plusOnes n) = .ok (.plus, '1' :: plusOnes n) := rfl
    exact .token rfl hscan (scans_one ih)

theorem derives_sumOfOnes (n : Nat) :
    Derives .sum (.integer 1 :: plusOneTokens n) (sumOfOnes n) 1 := by
  have hone : Derives .product [.integer 1] (literal (.integer 1)) 1 :=
    .tighter rfl (.tighter rfl (.tighter rfl (.literal (.integer 1))))
  induction n with
  | zero => exact .tighter rfl hone
  | succ n ih =>
    have htokens : plusOneTokens (n + 1) = plusOneTokens n ++ [.plus, .integer 1] := by
      simp [plusOneTokens, List.replicate_succ']
    rw [htokens]
    exact .join .plus rfl ih hone

theorem parse_sumText (n : Nat) : Expr.parse (sumText n) = .ok (sumOfOnes n) := by
  have hscans : Scans (sumText n).toList (.integer 1 :: plusOneTokens n) := by
    rw [sumText, String.toList_ofList]
    exact scans_one (scans_plusOnes n)
  have hequality : Derives .equality (.integer 1 :: plusOneTokens n) (sumOfOnes n) 1 :=
    .tighter rfl (.tighter rfl (derives_sumOfOnes n))
  exact parse_of_derives hscans (.tighter rfl (.tighter rfl (.tighter rfl hequality))) (by decide)

theorem height_sumOfOnes (n : Nat) : (sumOfOnes n).height = n + 1 := by
  induction n with
  | zero => rfl
  | succ n ih => rw [sumOfOnes, height, ih, height, Nat.max_eq_left (Nat.le_add_left 1 n)]

/-- The formulas of some texts have a common bound on their heights exactly if they have one on their
chains. The nesting limit and the longest chain alone give such a bound, and no walk goes deeper. -/
theorem height_bounded_iff (texts : Set String) :
    ((∃ bound, ∀ text ∈ texts, ∀ x, Expr.parse text = .ok x → x.height ≤ bound) ↔
      ∃ k, ∀ text ∈ texts, ∀ x, Expr.parse text = .ok x → x.longestChain ≤ k) ∧
    ∀ k, (∀ text ∈ texts, ∀ x, Expr.parse text = .ok x → x.longestChain ≤ k) →
      ∀ text ∈ texts, ∀ x, Expr.parse text = .ok x →
        x.height ≤ 10 * nestingLimit * (k + 1) ∧ x.WalkedWithin (10 * nestingLimit * (k + 1)) := by
  have hbound : ∀ k, (∀ text ∈ texts, ∀ x, Expr.parse text = .ok x → x.longestChain ≤ k) →
      ∀ text ∈ texts, ∀ x, Expr.parse text = .ok x →
        x.height ≤ 10 * nestingLimit * (k + 1) := by
    intro k hk text htext x hx
    have hchain := Nat.succ_le_succ (hk text htext x hx)
    exact Nat.le_trans (height_le_of_parse hx) (Nat.mul_le_mul_left _ hchain)
  refine ⟨⟨?_, ?_⟩, fun k hk text htext x hx => ?_⟩
  · rintro ⟨bound, h⟩
    exact ⟨bound, fun text htext x hx =>
      Nat.le_trans (Nat.le_of_lt x.longestChain_lt_height) (h text htext x hx)⟩
  · rintro ⟨k, hk⟩
    exact ⟨_, hbound k hk⟩
  · have hheight := hbound k hk text htext x hx
    exact ⟨hheight, walkedWithin_iff.mpr hheight⟩

theorem height_bounded_iff_sumText :
    (∀ text ∈ ({sumText 3} : Set String), ∀ x, Expr.parse text = .ok x → x.longestChain ≤ 3) ∧
      (sumOfOnes 3).height ≤ 10 * nestingLimit * 4 ∧
      (sumOfOnes 3).WalkedWithin (10 * nestingLimit * 4) := by
  have hchains : ∀ text ∈ ({sumText 3} : Set String), ∀ x, Expr.parse text = .ok x →
      x.longestChain ≤ 3 := by
    rintro _ rfl x hx
    rw [parse_sumText] at hx
    cases hx
    decide
  exact ⟨hchains, (height_bounded_iff {sumText 3}).2 3 hchains _ rfl _ (parse_sumText 3)⟩

/-- The nesting limit alone bounds no heights: sums of any length are accepted, and each operator of
a sum makes its formula higher. -/
theorem not_exists_height_bound :
    ¬ ∃ bound, ∀ text x, Expr.parse text = .ok x → x.height ≤ bound := by
  rintro ⟨bound, h⟩
  have hheight := h (sumText bound) (sumOfOnes bound) (parse_sumText bound)
  rw [height_sumOfOnes] at hheight
  omega

end Expr

end FormLogic
