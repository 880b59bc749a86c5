import FormLogic.Formula.Parser
import FormLogic.Proofs.Except
import FormLogic.Proofs.Formula.Grammar

/-! What the readers of formulas accept. A reader of a level is sound if all that it reads off the
front of the tokens derives the tree, and complete if it reads every phrase that could not go on.
Each reader inherits both from those that it is made of. -/

namespace FormLogic.Grammar

open FormLogic.Parser

/-- The tokens without their columns. -/
def words (ts : List Located) : List Token := ts.map (·.token)

@[simp] theorem words_nil : words [] = [] := rfl
@[simp] theorem words_cons (t : Located) (ts : List Located) :
    words (t :: ts) = t.token :: words ts := rfl
@[simp] theorem words_append (ts us : List Located) : words (ts ++ us) = words ts ++ words us :=
  List.map_append

/-- If no tokens are left, the text is at its end, and not at a fault. -/
def Ends (ending : Ending) (rest : List Located) : Prop :=
  rest = [] → ∃ column, ending = .endOfText column

/-- The next token, if there is one, cannot go on with a phrase of the level. -/
def Stops (l : Level) (rest : List Located) : Prop :=
  ∀ t ts, rest = t :: ts → ¬ Continues l t.token

/-- A reader of a level, for phrases up to a limit of nesting. -/
structure Reads (ending : Ending) (l : Level) (limit : Nat) (read : Reader) : Prop where
  sound : ∀ {ts x rest}, read ts = .ok (x, rest) → ∃ used n, ts = used ++ rest ∧
    Derives l (words used) x n ∧ n ≤ limit ∧ Ends ending rest
  complete : ∀ {used x n rest}, Derives l (words used) x n → n ≤ limit → Stops l rest →
    Ends ending rest → read (used ++ rest) = .ok (x, rest)

/-- The readers for what stands further inside. -/
structure InnerReads (ending : Ending) (limit : Nat) (inner : Inner) : Prop where
  expression : Reads ending .disjunction limit inner.expression
  negatable : Reads ending .negation limit inner.negatable
  signed : Reads ending .sign limit inner.signed

variable {ending : Ending} {l k : Level} {limit : Nat}

theorem Ends.append {used rest : List Located} (h : Ends ending rest) : Ends ending (used ++ rest) :=
  fun hnil => h (List.append_eq_nil_iff.mp hnil).2

theorem ends_cons (t : Located) (ts : List Located) : Ends ending (t :: ts) :=
  fun h => absurd h (List.cons_ne_nil t ts)

theorem Stops.of_tighter {rest : List Located} (hk : l.tighter? = some k) (h : Stops l rest) :
    Stops k rest := fun t ts heq hc => h t ts heq (hc.of_tighter hk)

theorem stops_cons {t : Located} {ts : List Located} (h : ¬ Continues l t.token) :
    Stops l (t :: ts) := fun _ _ heq => by
  obtain ⟨rfl, rfl⟩ := List.cons.inj heq
  exact h

theorem advance_eq_ok_iff {t : Located} {ts rest : List Located} :
    advance ending (t :: ts) = .ok rest ↔ rest = ts ∧ Ends ending ts := by
  cases ts with
  | cons next ts => simp [advance, Ends, eq_comm]
  | nil => cases ending <;> simp [advance, Ends, eq_comm]

theorem expect_eq_ok_iff {wanted : Token} {ts rest : List Located} :
    expect ending wanted ts = .ok rest ↔
      ∃ t, ts = t :: rest ∧ t.token = wanted ∧ Ends ending rest := by
  cases ts with
  | nil => cases ending <;> simp [expect]
  | cons t ts =>
    by_cases h : t.token = wanted
    · simp only [expect, h, if_true, advance_eq_ok_iff, List.cons.injEq]
      constructor
      · rintro ⟨rfl, hends⟩
        exact ⟨t, ⟨rfl, rfl⟩, h, hends⟩
      · rintro ⟨u, ⟨rfl, rfl⟩, -, hends⟩
        exact ⟨rfl, hends⟩
    · simp only [expect, h, if_false, List.cons.injEq]
      constructor
      · exact fun hf => nomatch hf
      · rintro ⟨u, ⟨rfl, rfl⟩, hu, -⟩
        exact absurd hu h

theorem head?_token_eq_some_iff {ts : List Located} {wanted : Token} :
    ts.head?.map (·.token) = some wanted ↔ ∃ t rest, ts = t :: rest ∧ t.token = wanted := by
  cases ts with
  | nil => simp
  | cons t ts =>
    constructor
    · exact fun h => ⟨t, ts, rfl, Option.some.inj h⟩
    · rintro ⟨u, rest, heq, hu⟩
      obtain ⟨rfl, rfl⟩ := List.cons.inj heq
      exact congrArg some hu

end FormLogic.Grammar
