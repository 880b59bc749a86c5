import FormLogic.Json.Reader
import FormLogic.Json.Record
import FormLogic.Number.Word

/-! Values as they are stored. JSON has no place for infinities and for what is not a number: null
stands for them. -/

namespace FormLogic

namespace Value

mutual

def toJson : Value → Json
  | null => .null
  | boolean b => .boolean b
  | integer n => .integer n.toInt
  | float x => if Binary64.isFinite x then .float x else .null
  | text s => .text s
  | list items => .array (toJsons items)
  | map entries => .object (toMembers entries)

def toJsons : List Value → List Json
  | [] => []
  | v :: vs => toJson v :: toJsons vs

def toMembers : List (String × Value) → List (String × Json)
  | [] => []
  | (key, v) :: vs => (key, toJson v) :: toMembers vs

end

/-- The value that a document is, if no more containers stand inside one another than given. An
integer past 64 bits is taken to a double. -/
def ofJson? : Nat → Json → Option Value
  | _, .null => some .null
  | _, .boolean b => some (.boolean b)
  | _, .integer n =>
    match Number.fit? n with
    | some w => some (.integer w)
    | none => some (.float (Binary64.ofInt n))
  | _, .float x => some (.float x)
  | _, .text s => some (.text s)
  | depth + 1, .array items => (items.mapM (ofJson? depth)).map .list
  | depth + 1, .object members =>
    (members.mapM fun m => (ofJson? depth m.2).map (m.1, ·)).map ofEntries
  | _, _ => none

end Value

namespace FieldValues

def toJson (values : FieldValues) : Json := .object (Value.toMembers values.entries)

/-- The values that an object holds; the last one of a name counts. -/
def ofJson? : Nat → Json → Option FieldValues
  | depth + 1, .object members =>
    (members.mapM fun m => (Value.ofJson? depth m.2).map (m.1, ·)).map Dictionary.ofList
  | _, _ => none

end FieldValues

end FormLogic
