import FormLogic.Conflict
import FormLogic.Timestamp.Basic

/-! Overrides: values that users give to fields against a formula or a rule. -/

namespace FormLogic

structure Override where
  id : String
  project : String
  field : String
  given : Value
  replaced : Value
  state : OverrideState
  reason : Option String
  conflict : Option ConflictKind
  createdAt : Timestamp
  updatedAt : Timestamp
deriving DecidableEq

namespace Override

def new (id project field : String) (given replaced : Value) (reason : Option String)
    (now : Timestamp) : Override :=
  ⟨id, project, field, given, replaced, .pending, reason, none, now, now⟩

def hasConflict (o : Override) : Bool := o.conflict.isSome

/-- Takes a step of the life cycle, unless it does not lead out of the state. -/
def step (o : Override) (t : Transition) (now : Timestamp) : Except ModelError Override :=
  if t.startsIn o.state then .ok { o with state := t.target, updatedAt := now }
  else .error (.invalidTransition t o.state)

def accept (o : Override) (now : Timestamp) : Except ModelError Override := o.step .accept now

def sync (o : Override) (now : Timestamp) : Except ModelError Override := o.step .sync now

def syncFormula (o : Override) (now : Timestamp) : Except ModelError Override :=
  o.step .syncFormula now

/-- Gives the override up, with a reason in place of the earlier one. -/
def invalidate (o : Override) (reason : String) (now : Timestamp) : Except ModelError Override :=
  (o.step .invalidate now).map ({ · with reason := some reason })

def recordConflict (o : Override) (kind : Option ConflictKind) (now : Timestamp) : Override :=
  { o with conflict := kind, updatedAt := now }

def applyConflict (o : Override) (found : Option Conflict) (now : Timestamp) : Override :=
  o.recordConflict (found.map (·.kind)) now

/-- A step that succeeds leads out of the state, and changes nothing else but the time. -/
theorem step_eq_ok_iff {o result : Override} {t : Transition} {now : Timestamp} :
    o.step t now = .ok result ↔
      t.startsIn o.state = true ∧ result = { o with state := t.target, updatedAt := now } := by
  by_cases h : t.startsIn o.state = true
  · simp only [step, h, if_true, Except.ok.injEq, true_and]
    exact eq_comm
  · simp [step, h]

theorem step_of_isTerminal {o : Override} (h : o.state.isTerminal = true) (t : Transition)
    (now : Timestamp) : o.step t now = .error (.invalidTransition t o.state) := by
  simp [step, Transition.startsIn_eq_false_of_isTerminal t h]

@[simp] theorem state_recordConflict (o : Override) (kind : Option ConflictKind) (now : Timestamp) :
    (o.recordConflict kind now).state = o.state := rfl

@[simp] theorem state_applyConflict (o : Override) (found : Option Conflict) (now : Timestamp) :
    (o.applyConflict found now).state = o.state := rfl

end Override

end FormLogic
