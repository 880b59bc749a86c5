/-! How many arguments a function takes. -/

namespace FormLogic

/-- A range of argument counts, open above without a maximum. -/
structure Arity where
  min : Nat
  max : Option Nat
deriving DecidableEq, Repr

namespace Arity

def accepts (a : Arity) (count : Nat) : Bool :=
  a.min ≤ count && match a.max with
    | some max => count ≤ max
    | none => true

def describe (a : Arity) : String :=
  let counted (n : Nat) := toString n ++ if n = 1 then " argument" else " arguments"
  match a.max with
  | some max =>
    if max = a.min then counted max
    else toString a.min ++ " to " ++ toString max ++ " arguments"
  | none => "at least " ++ counted a.min

end Arity

end FormLogic
