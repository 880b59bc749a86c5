import FormLogic.ModelError
import FormLogic.Text.Blank
import FormLogic.Value.Equality
import FormLogic.Value.Printer

/-! Conflicts between the value that a user gave a field and those that a formula or a rule gives
it. A value that agrees with one of them is in no conflict. -/

namespace FormLogic

/-- Whose value an override differs from. -/
inductive ConflictKind where
  | formula
  | control
  | formulaControl
deriving DecidableEq, Repr

namespace ConflictKind

def all : List ConflictKind := [formula, control, formulaControl]

def name : ConflictKind → String
  | formula => "formula"
  | control => "control"
  | formulaControl => "formula_control"

def ofName? (s : String) : Option ConflictKind := all.find? (·.name = s)

def label : ConflictKind → String
  | formula => "Formula"
  | control => "Control"
  | formulaControl => "FormulaControl"

theorem ofName?_name (k : ConflictKind) : ofName? k.name = some k := by cases k <;> decide

end ConflictKind

structure Conflict where
  field : String
  kind : ConflictKind
  given : Value
  computed : Option Value
  control : Option Value
  description : String
deriving DecidableEq

namespace Conflict

def guardField (field : String) (found : Option Conflict) :
    Except InvalidFieldId (Option Conflict) :=
  if Text.isBlankText field then .error ⟨field⟩ else .ok found

def withFormula? (field : String) (given computed : Value) : Option Conflict :=
  if given.agrees computed then none
  else some ⟨field, .formula, given, some computed, none,
    "Override " ++ given.repr ++ " differs from formula result " ++ computed.repr ++
      " for field '" ++ field ++ "'"⟩

/-- How a given value differs from the value that a rule sets. -/
def withControl? (field : String) (given control : Value) : Option Conflict :=
  if given.agrees control then none
  else some ⟨field, .control, given, none, some control,
    "Override " ++ given.repr ++ " differs from control rule value " ++ control.repr ++
      " for field '" ++ field ++ "'"⟩

def withBoth? (field : String) (given computed control : Value) : Option Conflict :=
  if given.agrees computed || given.agrees control then none
  else some ⟨field, .formulaControl, given, some computed, some control,
    "Override " ++ given.repr ++ " matches neither formula result " ++ computed.repr ++
      " nor control rule value " ++ control.repr ++ " for field '" ++ field ++ "'"⟩

def between? (field : String) (given : Value) : Option Value → Option Value → Option Conflict
  | some computed, some control => withBoth? field given computed control
  | some computed, none => withFormula? field given computed
  | none, some control => withControl? field given control
  | none, none => none

def detectFormula (field : String) (given computed : Value) :
    Except InvalidFieldId (Option Conflict) :=
  guardField field (withFormula? field given computed)

def detectControl (field : String) (given control : Value) :
    Except InvalidFieldId (Option Conflict) :=
  guardField field (withControl? field given control)

def detectBoth (field : String) (given computed control : Value) :
    Except InvalidFieldId (Option Conflict) :=
  guardField field (withBoth? field given computed control)

/-- The conflict of a given value with those of a formula and a rule, as far as there are any. -/
def detect (field : String) (given : Value) (computed control : Option Value) :
    Except InvalidFieldId (Option Conflict) :=
  guardField field (between? field given computed control)

end Conflict

end FormLogic
