import FormLogic.Dictionary

/-! Which fields are computed from which. An edge leads from a precedent to a dependent. -/

namespace FormLogic

/-- Known fields, and for each the fields next to it in both directions. -/
structure DependencyGraph where
  fields : NameSet
  dependents : Dictionary NameSet
  precedents : Dictionary NameSet
deriving DecidableEq

namespace DependencyGraph

def empty : DependencyGraph := ⟨.empty, .empty, .empty⟩

def addField (g : DependencyGraph) (field : String) : DependencyGraph :=
  { g with fields := g.fields.add field }

def link (index : Dictionary NameSet) (field neighbour : String) : Dictionary NameSet :=
  index.insert field (((index.get? field).getD .empty).add neighbour)

def addDependency (g : DependencyGraph) (precedent dependent : String) : DependencyGraph where
  fields := (g.fields.add precedent).add dependent
  dependents := link g.dependents precedent dependent
  precedents := link g.precedents dependent precedent

def dependentsOf (g : DependencyGraph) (field : String) : List String :=
  ((g.dependents.get? field).getD .empty).names

def precedentsOf (g : DependencyGraph) (field : String) : List String :=
  ((g.precedents.get? field).getD .empty).names

structure Walk where
  met : List String
  finished : List String

/-- Walks depth first through a field and its precedents, passing over fields met before, and
lists each field after those it depends on. A path that repeats no field is never longer than the
given bound, if that is the number of known fields. -/
def visit (g : DependencyGraph) : Nat → Walk → String → Walk
  | 0, walk, _ => walk
  | bound + 1, walk, field =>
    if field ∈ walk.met then walk
    else
      let inner := (g.precedentsOf field).foldl (fun walk p => visit g bound walk p)
        ⟨field :: walk.met, walk.finished⟩
      ⟨inner.met, inner.finished ++ [field]⟩

def visitAll (g : DependencyGraph) (walk : Walk) (fields : List String) : Walk :=
  fields.foldl (fun walk field => g.visit g.fields.size walk field) walk

def ancestors (g : DependencyGraph) (field : String) : List String :=
  (g.visitAll ⟨[], []⟩ (g.precedentsOf field)).met

/-- Whether a field depends on itself. -/
def isOnCycle (g : DependencyGraph) (field : String) : Bool := field ∈ g.ancestors field

def circularFields (g : DependencyGraph) : List String := g.fields.names.filter g.isOnCycle

def hasCycles (g : DependencyGraph) : Bool := g.fields.names.any g.isOnCycle

/-- The fields that depend on themselves in no way, each after those it depends on. -/
def calculationOrder (g : DependencyGraph) : List String :=
  (g.visitAll ⟨[], []⟩ g.fields.names).finished.filter fun field => !g.isOnCycle field

end DependencyGraph

end FormLogic
