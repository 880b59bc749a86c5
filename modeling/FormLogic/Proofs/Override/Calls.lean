import FormLogic.Override.Basic

/-! Calls on an override, which change the record in place. What a call has changed by the time it
fails stays changed; that a call which fails has changed nothing is a property of the calls. -/

namespace FormLogic.Override

/-- Something that is done to an override in place, step by step, and may fail between the steps. -/
abbrev Procedure (ε α : Type) := EStateM ε Override α

def touch {ε : Type} (now : Timestamp) : Procedure ε Unit := modify ({ · with updatedAt := now })

def take (t : Transition) (now : Timestamp) : Procedure ModelError Unit := do
  let o ← get
  if t.startsIn o.state then
    modify ({ · with state := t.target })
    touch now
  else throw (.invalidTransition t o.state)

/-- Takes the step that gives an override up, and then notes the reason. -/
def giveUp (reason : String) (now : Timestamp) : Procedure ModelError Unit := do
  take .invalidate now
  modify ({ · with reason := some reason })

def note {ε : Type} (kind : Option ConflictKind) (now : Timestamp) : Procedure ε Unit := do
  modify ({ · with conflict := kind })
  touch now

inductive Call where
  | accept
  | sync
  | syncFormula
  | invalidate (reason : String)
  | markConflict (kind : ConflictKind)
  | clearConflict
  | applyConflict (found : Option Conflict)

namespace Call

def perform (now : Timestamp) : Call → Procedure ModelError Unit
  | accept => take .accept now
  | sync => take .sync now
  | syncFormula => take .syncFormula now
  | invalidate reason => giveUp reason now
  | markConflict kind => note (some kind) now
  | clearConflict => note none now
  | applyConflict (some found) => note (some found.kind) now
  | applyConflict none => note none now

def apply (o : Override) (now : Timestamp) : Call → Except ModelError Override
  | accept => o.accept now
  | sync => o.sync now
  | syncFormula => o.syncFormula now
  | invalidate reason => o.invalidate reason now
  | markConflict kind => .ok (o.recordConflict (some kind) now)
  | clearConflict => .ok (o.recordConflict none now)
  | applyConflict found => .ok (o.applyConflict found now)

end Call

def settle {ε α : Type} (o : Override) : Except ε (α × Override) → EStateM.Result ε Override α
  | .ok (a, after) => .ok a after
  | .error e => .error e o

theorem run_take (t : Transition) (now : Timestamp) (o : Override) :
    (take t now).run o = o.settle ((o.step t now).map ((), ·)) := by
  by_cases h : t.startsIn o.state = true
  · simp [take, touch, step, settle, Except.map, h]
  · simp [take, step, settle, Except.map, h]

/-- The reason is noted only once the step is taken. -/
theorem run_giveUp (reason : String) (now : Timestamp) (o : Override) :
    (giveUp reason now).run o = o.settle ((o.invalidate reason now).map ((), ·)) := by
  rw [giveUp, EStateM.run_bind, run_take, invalidate]
  cases h : o.step .invalidate now with
  | ok after => rfl
  | error e => rfl

theorem run_note {ε : Type} (kind : Option ConflictKind) (now : Timestamp) (o : Override) :
    (note kind now : Procedure ε Unit).run o = .ok () (o.recordConflict kind now) := rfl

namespace Call

/-- A call does in place what it makes of the override, or nothing at all. -/
theorem run_perform (c : Call) (now : Timestamp) (o : Override) :
    (c.perform now).run o = o.settle ((c.apply o now).map ((), ·)) := by
  cases c with
  | accept => exact run_take .accept now o
  | sync => exact run_take .sync now o
  | syncFormula => exact run_take .syncFormula now o
  | invalidate reason => exact run_giveUp reason now o
  | markConflict kind => exact run_note (some kind) now o
  | clearConflict => exact run_note none now o
  | applyConflict found =>
    cases found with
    | none => exact run_note none now o
    | some found => exact run_note (some found.kind) now o

def transition? : Call → Option Transition
  | accept => some .accept
  | sync => some .sync
  | syncFormula => some .syncFormula
  | invalidate _ => some .invalidate
  | markConflict _ | clearConflict | applyConflict _ => none

def reason? : Call → Option String
  | invalidate reason => some reason
  | _ => none

/-- What a call that takes a step makes of an override: the reason is replaced if there is one. -/
theorem apply_of_transition? {c : Call} {t : Transition} (h : c.transition? = some t) (o : Override)
    (now : Timestamp) :
    c.apply o now = (o.step t now).map ({ · with reason := c.reason?.or o.reason }) := by
  have hkept : ∀ t : Transition, o.step t now = (o.step t now).map ({ · with reason := o.reason }) := by
    intro t
    by_cases hstart : t.startsIn o.state = true
    · simp [step, hstart, Except.map]
    · simp [step, hstart, Except.map]
  cases c with
  | accept => cases h; exact hkept .accept
  | sync => cases h; exact hkept .sync
  | syncFormula => cases h; exact hkept .syncFormula
  | invalidate reason => cases h; rfl
  | markConflict kind => cases h
  | clearConflict => cases h
  | applyConflict found => cases h

theorem apply_of_transition?_eq_none {c : Call} (h : c.transition? = none) (o : Override)
    (now : Timestamp) : ∃ kind, c.apply o now = .ok (o.recordConflict kind now) := by
  cases c with
  | accept => cases h
  | sync => cases h
  | syncFormula => cases h
  | invalidate reason => cases h
  | markConflict kind => exact ⟨some kind, rfl⟩
  | clearConflict => exact ⟨none, rfl⟩
  | applyConflict found => exact ⟨found.map (·.kind), rfl⟩

end Call

end FormLogic.Override
