import FormLogic.Proofs.InPlace.Scanner

/-! The parser in place. Its routines call each other with no bound on how long they do so, and
count how deep the formula is nested. Calls that a token is taken between may be of one routine; all
others go down in rank. -/

namespace FormLogic.InPlace

open Grammar (Level)
open Procedure

namespace Procedure

def enter (r : Routine) (active : Calls) : Procedure Calls := do
  let taken := (← place).taken
  note (.called r taken active)
  return (r, taken) :: active

def ahead : Procedure (Option Token) := do return (← place).token

def descend : Procedure Unit := do
  move fun v => { v with depth := v.depth + 1 }
  let depth := (← place).depth
  note (.counted depth)
  if nestingLimit < depth then fault (.tooDeep nestingLimit) else pure ()

/-- Counts the nesting down. There is no counting down from zero. -/
def ascend : Procedure Unit := do
  match (← place).depth with
  | 0 => demand none
  | depth + 1 => move fun v => { v with depth := depth }

/-- What stands one step further inside. The nesting is counted down again after a stop as well. -/
abbrev within (p : Procedure Expr) : Procedure Expr := do
  descend
  let outcome ← settled p
  ascend
  resume outcome

end Procedure

def operator? : Level → Token → Option BinaryOp
  | .disjunction => Parser.or?
  | .conjunction => Parser.and?
  | .equality => Parser.equality?
  | .relation => Parser.relation?
  | .sum => Parser.additive?
  | .product => Parser.multiplicative?
  | _ => fun _ => none

namespace Source

def consume (s : Source) : Procedure Unit := do
  move fun v => { v with token := none, taken := v.taken + 1 }
  s.advanceToken

def expect (s : Source) (wanted : Token) : Procedure Unit := do
  let v ← place
  if v.token = some wanted then s.consume
  else fault (.expected wanted v.token (← s.column v.start))

def literal (s : Source) (value : Literal) : Procedure Expr := do
  s.consume
  return .literal value

def atom (s : Source) : Token → Procedure Expr
  | .integer n => s.literal (.integer n)
  | .float x => s.literal (.float x)
  | .text t => s.literal (.text t)
  | .boolean b => s.literal (.boolean b)
  | .none => s.literal .none
  | token => do fault (.unexpectedToken token (← s.column (← place).start))

mutual

def expression (s : Source) (active : Calls) : Procedure Expr := do
  let active ← enter .expression active
  within (s |>.level active .disjunction)
partial_fixpoint

def level (s : Source) (active : Calls) (l : Level) : Procedure Expr := do
  let active ← enter (.level l) active
  s |>.phrase active l
partial_fixpoint

/-- A phrase of a level. -/
def phrase (s : Source) (active : Calls) (l : Level) : Procedure Expr :=
  match l with
  | .disjunction => s |>.chain active .disjunction .conjunction
  | .conjunction => s |>.chain active .conjunction .negation
  | .negation => s |>.negation active
  | .equality => s |>.chain active .equality .relation
  | .relation => s |>.chain active .relation .sum
  | .sum => s |>.chain active .sum .product
  | .product => s |>.chain active .product .sign
  | .sign => s |>.signed active
  | .power => s |>.power active
  | .primary => s |>.primary active
partial_fixpoint

def chain (s : Source) (active : Calls) (l k : Level) : Procedure Expr := do
  let left ← s |>.level active k
  s |>.operators active l k left
partial_fixpoint

/-- Goes on with a chain whose left part is read. -/
def operators (s : Source) (active : Calls) (l k : Level) (left : Expr) : Procedure Expr := do
  let active ← enter (.operators l) active
  match (← ahead).bind (operator? l) with
  | some op =>
    s.consume
    let right ← s |>.level active k
    s |>.operators active l k (.binary op left right)
  | none => return left
partial_fixpoint

def negation (s : Source) (active : Calls) : Procedure Expr := do
  if (← ahead) = some .not then
    s.consume
    let x ← within (s |>.level active .negation)
    return .unary .not x
  else s |>.level active .equality
partial_fixpoint

def signed (s : Source) (active : Calls) : Procedure Expr := do
  match (← ahead).bind Parser.sign? with
  | some op =>
    s.consume
    let x ← within (s |>.level active .sign)
    return .unary op x
  | none => s |>.level active .power
partial_fixpoint

def power (s : Source) (active : Calls) : Procedure Expr := do
  let base ← s |>.level active .primary
  if (← ahead) = some .doubleStar then
    s.consume
    let exponent ← within (s |>.level active .sign)
    return .binary (.arithmetic .power) base exponent
  else return base
partial_fixpoint

def primary (s : Source) (active : Calls) : Procedure Expr := do
  match ← ahead with
  | some .leftParen =>
    s.consume
    let x ← s |>.expression active
    s.expect .rightParen
    return x
  | some (.identifier name) =>
    s.consume
    if (← ahead) = some .leftParen then s |>.call active name
    else return .field name
  | some token => s.atom token
  | none => fault .unexpectedEnd
partial_fixpoint

def call (s : Source) (active : Calls) (name : String) : Procedure Expr := do
  let active ← enter .call active
  s.expect .leftParen
  let args ← s |>.arguments active
  s.expect .rightParen
  return .call name args
partial_fixpoint

def arguments (s : Source) (active : Calls) : Procedure (List Expr) := do
  if (← ahead) = some .rightParen then return []
  else
    let arg ← s |>.expression active
    s |>.moreArguments active [arg]
partial_fixpoint

/-- Goes on with arguments some of which are read. -/
def moreArguments (s : Source) (active : Calls) (args : List Expr) : Procedure (List Expr) := do
  let active ← enter .arguments active
  if (← ahead) = some .comma then
    s.consume
    let arg ← s |>.expression active
    s |>.moreArguments active (args ++ [arg])
  else return args
partial_fixpoint

end

def parse (s : Source) : Procedure Expr := do
  if s.chars.all Text.isBlank then fault .emptyFormula
  else
    s.advanceToken
    let x ← s.expression []
    match ← ahead with
    | some token => fault (.trailing token (← s.column (← place).start))
    | none => return x

end Source

section Calls

/-- The rank of a routine, which falls from call to call unless a token is taken. -/
def Routine.rank : Routine → Nat
  | expression => 21
  | level l => 20 - 2 * l.rank
  | operators l => 19 - 2 * l.rank
  | call => 0
  | arguments => 0

/-- Every call that is going on began behind fewer tokens, or behind as many in a routine above the
rank. -/
def Below (active : Calls) (taken rank : Nat) : Prop :=
  ∀ r n, (r, n) ∈ active → n < taken ∨ n = taken ∧ rank < r.rank

variable {active : Calls} {taken taken' rank rank' : Nat} {r : Routine}

theorem below_nil (taken rank : Nat) : Below [] taken rank := fun _ _ h => nomatch h

namespace Below

theorem lawful (h : Below active taken r.rank) : (Event.called r taken active).Lawful := by
  intro n hn
  rcases h r n hn with hlt | ⟨-, hlt⟩
  · exact hlt
  · exact absurd hlt (Nat.lt_irrefl _)

theorem of_le (h : Below active taken rank) (hrank : rank' ≤ rank) (htaken : taken ≤ taken') :
    Below active taken' rank' := by
  intro r n hn
  rcases h r n hn with hlt | ⟨rfl, hlt⟩
  · exact .inl (Nat.lt_of_lt_of_le hlt htaken)
  · rcases Nat.lt_or_eq_of_le htaken with hlater | rfl
    · exact .inl hlater
    · exact .inr ⟨rfl, Nat.lt_of_le_of_lt hrank hlt⟩

theorem later (h : Below active taken rank) (htaken : taken < taken') (rank' : Nat) :
    Below active taken' rank' := by
  intro r n hn
  rcases h r n hn with hlt | ⟨rfl, -⟩
  · exact .inl (Nat.lt_trans hlt htaken)
  · exact .inl htaken

theorem enter (h : Below active taken r.rank) (hrank : rank < r.rank) :
    Below ((r, taken) :: active) taken rank := by
  intro r' n hn
  rcases List.mem_cons.mp hn with heq | hn
  · obtain ⟨rfl, rfl⟩ := Prod.mk.inj heq
    exact .inr ⟨rfl, hrank⟩
  · exact h.of_le (Nat.le_of_lt hrank) (Nat.le_refl _) r' n hn

theorem enter_later (h : Below active taken r.rank) (htaken : taken < taken') (rank : Nat) :
    Below ((r, taken) :: active) taken' rank := by
  intro r' n hn
  rcases List.mem_cons.mp hn with heq | hn
  · obtain ⟨-, rfl⟩ := Prod.mk.inj heq
    exact .inl htaken
  · exact h.later htaken rank r' n hn

end Below

theorem yields_enter {v : Place} (h : Below active v.taken r.rank) :
    Yields (enter r active) v ((r, v.taken) :: active) v :=
  (yields_place v).bind ((yields_note h.lawful v).bind (yields_pure _ v))

end Calls

section Nesting

variable {p : Procedure Expr} {v : Place} {P : Except SyntaxError Expr → Place → Prop}

theorem yields_descend (h : v.depth < nestingLimit) :
    Yields descend v () { v with depth := v.depth + 1 } := by
  have hlawful : (Event.counted (v.depth + 1)).Lawful := Nat.succ_le_succ (Nat.le_of_lt h)
  refine (yields_move _ v).bind ((yields_place _).bind ((yields_note hlawful _).bind ?_))
  rw [if_neg (Nat.not_lt.mpr h)]
  exact yields_pure () _

/-- The fault past the limit leaves the counter one above it. -/
theorem meets_descend_of_limit (h : v.depth = nestingLimit) :
    Meets descend v fun r w => r = .error (.tooDeep nestingLimit) ∧ w.depth = v.depth + 1 := by
  have hlawful : (Event.counted (v.depth + 1)).Lawful := Nat.succ_le_succ (Nat.le_of_eq h)
  refine (yields_move _ v).bind ((yields_place _).bind ((yields_note hlawful _).bind ?_))
  rw [if_pos (show nestingLimit < v.depth + 1 by omega)]
  exact meets_fault ⟨rfl, rfl⟩

theorem yields_ascend {n : Nat} (h : v.depth = n + 1) :
    Yields ascend v () { v with depth := n } := by
  refine (yields_place v).bind ?_
  rw [h]
  exact yields_move _ v

theorem meets_resume {r : Except SyntaxError Expr} (h : P r v) :
    Meets (resume (r.mapError .fault)) v P := by
  cases r with
  | ok a => exact meets_pure h
  | error e => exact meets_fault h

end Nesting

end FormLogic.InPlace
