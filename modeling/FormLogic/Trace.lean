import FormLogic.Event
import FormLogic.Service

/-! The events of each activity, in the order in which they happen. -/

namespace FormLogic

/-- A formula fails in silence, unless a function broke off. -/
def FormulaError.events : FormulaError → List Event
  | functionBroke function message => [.functionBroke function message]
  | _ => []

def Calculation.events (entity : String) (c : Calculation) : List Event :=
  let circular := c.errors.entries.filterMap fun
    | (field, .circular) => some (.circularFormula entity field)
    | _ => none
  let formula (field : String) : List Event :=
    match c.values.get? field, c.errors.get? field with
    | some v, _ => [.calculated field v]
    | none, some (.failed e) => e.events ++ [.notCalculated field e]
    | none, _ => []
  circular ++ c.order.flatMap formula

def Verdict.events (r : Rule) : Verdict → List Event
  | fired e => [.fired e]
  | idle => [.idle r.id]
  | skipped fault =>
    (match fault.cause? with
      | some e => e.events
      | none => []) ++ [.skipped r.id fault]

def Dependencies.events (entity : String) (d : Dependencies) : List Event :=
  d.circular.map (.onCycle entity)

def Controls.events (entity : Entity) (options : ControlOptions) (c : Controls) : List Event :=
  (if options.warnOnCycles then entity.dependencies.events entity.id else []) ++
    c.verdicts.flatMap fun (r, v) => v.events r

namespace Service

def projectControlsEvents (s : Service) (id : String) : List Event :=
  match s.loadSubject id with
  | .ok ⟨project, entity⟩ =>
    .evaluatingProject project.id entity.id ::
      (s.controlsOf entity project.values).events entity s.options
  | .error _ => []

def entityControlsEvents (s : Service) (id : String) (values : FieldValues) : List Event :=
  match s.loadEntity id with
  | .ok entity =>
    .evaluatingEntity entity.id :: (s.controlsOf entity values).events entity s.options
  | .error _ => []

def calculateProjectEvents (s : Service) (id : String) : List Event :=
  match s.loadSubject id with
  | .ok ⟨project, entity⟩ =>
    .calculatingProject project.id entity.id ::
      (entity.calculate project.values .standard).events entity.id
  | .error _ => []

def refreshEvents (s : Service) (o : Override) : List Event :=
  match s.assess o.project with
  | .ok a =>
    a.calculation.events a.subject.entity.id ++ a.controls.events a.subject.entity s.options ++
      match a.conflict o with
      | .ok found => [.refreshed o.id o.field (found.map (·.kind))]
      | .error _ => []
  | .error _ => []

end Service

end FormLogic
