/-! Steps that may fail, one after the other. -/

namespace FormLogic

variable {ε α β : Type}

theorem ok_bind (a : α) (next : α → Except ε β) : (Except.ok a >>= next) = next a := rfl

theorem bind_eq_ok_iff {step : Except ε α} {next : α → Except ε β} {b : β} :
    (step >>= next) = .ok b ↔ ∃ a, step = .ok a ∧ next a = .ok b := by
  cases step <;> simp [bind, Except.bind]

theorem bind_eq_error_iff {step : Except ε α} {next : α → Except ε β} {e : ε} :
    (step >>= next) = .error e ↔ step = .error e ∨ ∃ a, step = .ok a ∧ next a = .error e := by
  cases step <;> simp [bind, Except.bind]

/-- Every error that a step may end with is of a kind. -/
def FailsOnly (kind : ε → Prop) (step : Except ε α) : Prop := ∀ e, step = .error e → kind e

namespace FailsOnly

variable {kind : ε → Prop} {step : Except ε α}

theorem ok (a : α) : FailsOnly kind (.ok a) := nofun

theorem error {e : ε} (h : kind e) : FailsOnly kind (.error e : Except ε α) := by
  rintro _ ⟨⟩
  exact h

theorem mono {other : ε → Prop} (h : FailsOnly kind step) (hkind : ∀ e, kind e → other e) :
    FailsOnly other step := fun e he => hkind e (h e he)

theorem bind {next : α → Except ε β} (h : FailsOnly kind step)
    (hnext : ∀ a, step = .ok a → FailsOnly kind (next a)) : FailsOnly kind (step >>= next) := by
  cases step with
  | error e => exact error (h e rfl)
  | ok a => exact hnext a rfl

end FailsOnly

end FormLogic
