import FormLogic.Calculation
import FormLogic.CommandLine.Manual
import FormLogic.Controls
import FormLogic.Json.Printer
import FormLogic.Stored.Entity
import FormLogic.Stored.Override

/-! What commands answer. -/

namespace FormLogic.CommandLine

inductive Document where
  | entity
  | values
deriving DecidableEq

def Document.title : Document → String
  | entity => "entity definition"
  | values => "field values"

/-- Why a command has no answer. -/
inductive Failure where
  | usage
  | readFailed (document : Document) (file : String)
  | parseFailed (document : Document) (file : String)
  | invalidJson (option : String)
  | nothingToCompare
  | invalidFieldId (e : InvalidFieldId)
deriving DecidableEq

def Failure.message : Failure → String
  | usage => "Invalid arguments"
  | readFailed document file => "Failed to read " ++ document.title ++ " '" ++ file ++ "'"
  | parseFailed document file => "Failed to parse " ++ document.title ++ " '" ++ file ++ "'"
  | invalidJson option => "Invalid JSON for --" ++ option
  | nothingToCompare => "Pass --computed, --control or both"
  | invalidFieldId e => e.message

/-- The answer of a command: whether all is well, lines of output, and lines of notes beside it. -/
structure Report where
  ok : Bool
  output : List String
  notes : List String := []
deriving DecidableEq

/-- The texts of files by name; none of a file that cannot be read. -/
abbrev Files := String → Option String

/-- A path without the dots that lead from the directory it starts in to that directory itself. -/
def localPath : List Char → List Char
  | '.' :: '/' :: cs => localPath cs
  | cs => cs

def Files.inDirectory (texts : List (String × String)) : Files := fun path =>
  valueOf? (String.ofList (localPath path.toList)) texts

def Files.load {α : Type} (files : Files) (document : Document) (read? : Json → Option α)
    (file : String) : Except Failure α :=
  match files file with
  | none => .error (.readFailed document file)
  | some text =>
    match (Json.read? text).bind read? with
    | some a => .ok a
    | none => .error (.parseFailed document file)

def Files.loadEntity (files : Files) (file : String) : Except Failure Entity :=
  files.load .entity (Entity.ofJson? Json.nestingLimit) file

def Files.loadValues (files : Files) : Option String → Except Failure FieldValues
  | some file => files.load .values (FieldValues.ofJson? Json.nestingLimit) file
  | none => .ok .empty

def readOption (option text : String) : Except Failure Value :=
  match (Json.read? text).bind (Value.ofJson? Json.nestingLimit) with
  | some v => .ok v
  | none => .error (.invalidJson option)

def readOptional (option : String) : Option String → Except Failure (Option Value)
  | some text => (readOption option text).map some
  | none => .ok none

def reportCheck (files : Files) (formula : String) (schema : Option String) :
    Except Failure Report := do
  let schema ← match schema with
    | some file => (·.schema) <$> files.loadEntity file
    | none => .ok []
  let v := Validation.ofText ⟨schema, .standard⟩ formula
  let references := match v.references.names with
    | [] => []
    | names => ["References: " ++ ", ".intercalate names]
  let summary := ["Valid: " ++ toString v.isValid, "Type: " ++ v.resultType.name]
  return ⟨v.isValid, summary ++ references ++
    v.problems.map ("error: " ++ ·.message) ++ v.doubts.map ("warning: " ++ ·.message), []⟩

def reportEval (files : Files) (formula : String) (values : Option String) :
    Except Failure Report := do
  let values ← files.loadValues values
  match evalText ⟨values, .standard⟩ formula with
  | .ok v => return ⟨true, [v.toJson.compactText], []⟩
  | .error e => return ⟨false, ["error: " ++ e.message], []⟩

def reportControls (files : Files) (entity : String) (values : Option String) (infer : Bool) :
    Except Failure Report := do
  let entity ← files.loadEntity entity
  let values ← files.loadValues values
  let c := entity.controls { inferConditionTypes := infer } ⟨values, .standard⟩
  return ⟨c.isOk, [(Json.array (c.resolved.map (·.toJson))).prettyText],
    c.errors.map ("skipped: " ++ ·)⟩

def reportCalculate (files : Files) (entity : String) (values : Option String) :
    Except Failure Report := do
  let entity ← files.loadEntity entity
  let values ← files.loadValues values
  let c := entity.calculate values .standard
  return ⟨c.isOk, [c.values.toJson.prettyText],
    c.errors.entries.map fun (field, e) => field ++ ": " ++ e.message⟩

def reportConflict (field given : String) (computed control : Option String) :
    Except Failure Report := do
  if computed.isNone ∧ control.isNone then throw .nothingToCompare
  let given ← readOption "override" given
  let computed ← readOptional "computed" computed
  let control ← readOptional "control" control
  match Conflict.detect field given computed control with
  | .error e => throw (.invalidFieldId e)
  | .ok (some c) => return ⟨false, [c.toJson.prettyText], []⟩
  | .ok none => return ⟨true, ["No conflict"], []⟩

namespace Command

def report (files : Files) : Command → Except Failure Report
  | check formula schema => reportCheck files formula schema
  | eval formula values => reportEval files formula values
  | controls entity values infer => reportControls files entity values infer
  | calculate entity values => reportCalculate files entity values
  | conflict field given computed control => reportConflict field given computed control
  | help topic => .ok ⟨true, topic.manual, []⟩
  | version => .ok ⟨true, [programName ++ " " ++ programVersion], []⟩

end Command

/-- How a run ends: the exit code, the lines of output and those of notes and errors. -/
structure Exit where
  code : UInt32
  output : List String
  errors : List String
deriving DecidableEq

def Exit.ofReport : Except Failure Report → Exit
  | .ok r => ⟨if r.ok then 0 else 1, r.output, r.notes⟩
  | .error .usage => ⟨2, [], Topic.program.manual⟩
  | .error e => ⟨2, [], ["Error: " ++ e.message]⟩

def run (files : Files) (args : List String) : Except Failure Report :=
  match Command.ofArguments? args with
  | some command => command.report files
  | none => .error .usage

end FormLogic.CommandLine
