/-! The life of an override: pending until a user accepts it, accepted until it is settled. -/

namespace FormLogic

inductive OverrideState where
  | pending
  | accepted
  | synced
  /-- Settled because the formula of the field agrees by now. -/
  | syncedFormula
  | invalid
deriving DecidableEq, Repr

namespace OverrideState

def all : List OverrideState := [pending, accepted, synced, syncedFormula, invalid]

def name : OverrideState → String
  | pending => "PENDING"
  | accepted => "ACCEPTED"
  | synced => "SYNCED"
  | syncedFormula => "SYNCED_FORMULA"
  | invalid => "INVALID"

def ofName? (s : String) : Option OverrideState := all.find? (·.name = s)

/-- Whether nothing leads out of the state. -/
def isTerminal : OverrideState → Bool
  | pending | accepted => false
  | synced | syncedFormula | invalid => true

theorem ofName?_name (s : OverrideState) : ofName? s.name = some s := by cases s <;> decide

end OverrideState

inductive Transition where
  | accept
  | sync
  | syncFormula
  | invalidate
deriving DecidableEq, Repr

namespace Transition

def verb : Transition → String
  | accept => "accept"
  | sync | syncFormula => "sync"
  | invalidate => "invalidate"

def startsIn : Transition → OverrideState → Bool
  | accept, .pending => true
  | sync, .accepted | syncFormula, .accepted => true
  | invalidate, .pending | invalidate, .accepted => true
  | _, _ => false

def target : Transition → OverrideState
  | accept => .accepted
  | sync => .synced
  | syncFormula => .syncedFormula
  | invalidate => .invalid

theorem startsIn_eq_false_of_isTerminal (t : Transition) {s : OverrideState}
    (h : s.isTerminal = true) : t.startsIn s = false := by
  cases s <;> cases t <;> first | rfl | cases h

end Transition

end FormLogic
