import FormLogic.Formula.Arity
import FormLogic.Schema

/-! Functions as a checker sees them: name, number of arguments and type of the result. -/

namespace FormLogic

structure Signature where
  name : String
  arity : Arity
  returns : ResultType
deriving DecidableEq

/-- The functions that formulas may call; of several with one name the first counts. -/
abbrev Catalog := List Signature

namespace Catalog

def find? (catalog : Catalog) (name : String) : Option Signature :=
  List.find? (·.name = name) catalog

def contains (catalog : Catalog) (name : String) : Bool := (catalog.find? name).isSome

def names (catalog : Catalog) : List String :=
  (catalog.map (·.name)).mergeSort fun a b => decide (a ≤ b)

/-- The standard functions, which every formula may call. -/
def standard : Catalog :=
  [⟨"abs", ⟨1, some 1⟩, .number⟩, ⟨"coalesce", ⟨1, none⟩, .unknown⟩, ⟨"concat", ⟨0, none⟩, .text⟩,
    ⟨"if_else", ⟨3, some 3⟩, .unknown⟩, ⟨"is_empty", ⟨1, some 1⟩, .boolean⟩,
    ⟨"lower", ⟨1, some 1⟩, .text⟩, ⟨"max", ⟨1, none⟩, .number⟩, ⟨"min", ⟨1, none⟩, .number⟩,
    ⟨"pow", ⟨2, some 2⟩, .number⟩, ⟨"round", ⟨1, some 2⟩, .number⟩, ⟨"strip", ⟨1, some 1⟩, .text⟩,
    ⟨"sum", ⟨0, none⟩, .number⟩, ⟨"upper", ⟨1, some 1⟩, .text⟩]

end Catalog

end FormLogic
