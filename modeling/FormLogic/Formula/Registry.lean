import FormLogic.Formula.Builtin
import FormLogic.Formula.Catalog

/-! Functions as the evaluator sees them: by name, each with a body that may fail in its own way. -/

namespace FormLogic

/-- How the body of a function ends. -/
inductive Outcome where
  | value (v : Value)
  | refused (e : FormulaError)
  | broke (message : Option String)

abbrev FunctionBody := List Value → Outcome

abbrev Registry := Dictionary FunctionBody

def Outcome.ofExcept : Except FormulaError Value → Outcome
  | .ok v => .value v
  | .error e => .refused e

namespace Builtin

/-- A standard function behind a check of the number of its arguments. -/
def body (f : Builtin) (arity : Arity) : FunctionBody := fun args =>
  if arity.accepts args.length then .ofExcept (f.apply args)
  else .refused (.invalidArgument (.wrongCount arity args.length))

/-- A standard function without such a check. -/
def uncheckedBody (f : Builtin) : FunctionBody := fun args => .ofExcept (f.apply args)

end Builtin

namespace Registry

def register (r : Registry) (name : String) (body : FunctionBody) : Registry := r.insert name body

/-- The registry with one more standard function, behind the check of its signature; a function
that the catalog does not list is not checked. -/
def registerStandard (r : Registry) (f : Builtin) : Registry :=
  match Catalog.standard.find? f.name with
  | some s => r.register s.name (f.body s.arity)
  | none => r.register f.name f.uncheckedBody

def standard : Registry := Builtin.all.foldl registerStandard .empty

def summary (r : Registry) : String :=
  "FunctionRegistry \x7b functions: [" ++ ", ".intercalate (r.keys.map Text.quoted) ++ "] \x7d"

end Registry

end FormLogic
