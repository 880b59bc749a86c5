import FormLogic.Calculation
import FormLogic.Controls
import FormLogic.Override.Basic

/-! Rules, calculated fields and conflicts of stored projects. -/

namespace FormLogic

/-- Why a repository could not answer, and perhaps what that came from. -/
structure RepositoryError where
  message : String
  source : Option String := none
deriving DecidableEq

/-- Records by id; there may be none of an id. -/
abbrev Repository (α : Type) := String → Except RepositoryError (Option α)

namespace Repository

def ofDictionary {α : Type} (d : Dictionary α) : Repository α := fun id => .ok (d.get? id)

def broken {α : Type} (e : RepositoryError) : Repository α := fun _ => .error e

end Repository

/-- What repositories hold. -/
inductive RecordKind where
  | project
  | entity
deriving DecidableEq

def RecordKind.name : RecordKind → String
  | project => "project"
  | entity => "entity"

inductive ServiceError where
  | noRepository (kind : RecordKind)
  | invalidId (kind : RecordKind) (id : String)
  | loadFailed (kind : RecordKind) (id : String) (cause : RepositoryError)
  | notFound (kind : RecordKind) (id : String)
  | conflict (e : InvalidFieldId)
deriving DecidableEq

namespace ServiceError

def message : ServiceError → String
  | noRepository .project => "No project repository configured"
  | noRepository .entity => "No schema repository configured"
  | invalidId kind id => "Invalid " ++ kind.name ++ " id: " ++ Text.quoted id
  | loadFailed .project id _ => "Failed to load project '" ++ id ++ "'"
  | loadFailed .entity id _ => "Failed to load entity definition '" ++ id ++ "'"
  | notFound .project id => "Project not found: '" ++ id ++ "'"
  | notFound .entity id => "Entity definition not found: '" ++ id ++ "'"
  | conflict e => e.message

def causes : ServiceError → List String
  | loadFailed _ _ cause => cause.message :: cause.source.toList
  | _ => []

end ServiceError

/-- Whether an id is one or more letters, digits, underscores and hyphens of ASCII. -/
def isRecordId (id : String) : Bool :=
  id ≠ "" ∧ id.toList.all fun c => c.isAlphanum ∨ c = '_' ∨ c = '-'

/-- Loads a record. The id is looked at only if there is a repository. -/
def RecordKind.load {α : Type} (kind : RecordKind) (repository : Option (Repository α))
    (id : String) : Except ServiceError α :=
  match repository with
  | none => .error (.noRepository kind)
  | some repository =>
    if isRecordId id then
      match repository id with
      | .ok (some record) => .ok record
      | .ok none => .error (.notFound kind id)
      | .error e => .error (.loadFailed kind id e)
    else .error (.invalidId kind id)

/-- Repositories, each of which may be missing, and how rules are evaluated. -/
structure Service where
  projects : Option (Repository Project)
  entities : Option (Repository Entity)
  options : ControlOptions

structure Subject where
  project : Project
  entity : Entity

/-- The calculated fields and rules of a project. -/
structure Assessment where
  subject : Subject
  calculation : Calculation
  controls : Controls

namespace Assessment

def conflict (a : Assessment) (o : Override) : Except InvalidFieldId (Option Conflict) :=
  Conflict.detect o.field o.given (a.calculation.values.get? o.field)
    (a.controls.fieldState o.field).value

end Assessment

namespace Service

def loadProject (s : Service) (id : String) : Except ServiceError Project :=
  RecordKind.project.load s.projects id

def loadEntity (s : Service) (id : String) : Except ServiceError Entity :=
  RecordKind.entity.load s.entities id

def loadSubject (s : Service) (id : String) : Except ServiceError Subject := do
  let project ← s.loadProject id
  let entity ← s.loadEntity project.entity
  return ⟨project, entity⟩

def controlsOf (s : Service) (entity : Entity) (values : FieldValues) : Controls :=
  entity.controls s.options ⟨values, .standard⟩

def projectControls (s : Service) (id : String) : Except ServiceError Controls := do
  let subject ← s.loadSubject id
  return s.controlsOf subject.entity subject.project.values

def entityControls (s : Service) (id : String) (values : FieldValues) :
    Except ServiceError Controls := do
  let entity ← s.loadEntity id
  return s.controlsOf entity values

def calculateProject (s : Service) (id : String) : Except ServiceError Calculation := do
  let subject ← s.loadSubject id
  return subject.entity.calculate subject.project.values .standard

/-- Calculates the fields of a project, and evaluates the rules over what came of them. -/
def assess (s : Service) (id : String) : Except ServiceError Assessment := do
  let subject ← s.loadSubject id
  let calculation := subject.entity.calculate subject.project.values .standard
  return ⟨subject, calculation,
    s.controlsOf subject.entity (calculation.merged subject.project.values)⟩

def findConflict (s : Service) (o : Override) : Except ServiceError (Option Conflict) := do
  let assessment ← s.assess o.project
  (assessment.conflict o).mapError .conflict

/-- Finds the conflict that an override is in by now, and notes it on the override. -/
def refresh (s : Service) (o : Override) (now : Timestamp) :
    Except ServiceError (Option Conflict × Override) := do
  let found ← s.findConflict o
  return (found, o.applyConflict found now)

def summary (s : Service) : String :=
  "ControlService \x7b projects: " ++ toString s.projects.isSome ++ ", schemas: " ++
    toString s.entities.isSome ++ ", options: " ++ s.options.summary ++ " \x7d"

end Service

end FormLogic
