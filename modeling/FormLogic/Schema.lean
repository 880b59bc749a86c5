import FormLogic.Text.Blank

/-! What a host application says about its fields: a type name per field. -/

namespace FormLogic

inductive FieldType where
  | text
  | textArea
  | email
  | url
  | dropdown
  | radio
  | date
  | dateTime
  | number
  | currency
  | boolean
  | calculated
  | lookup
  | table
  | multiSelect
  | file
deriving DecidableEq, Repr

namespace FieldType

def all : List FieldType :=
  [text, textArea, email, url, dropdown, radio, date, dateTime, number, currency, boolean,
   calculated, lookup, table, multiSelect, file]

def name : FieldType → String
  | text => "text"
  | textArea => "textarea"
  | email => "email"
  | url => "url"
  | dropdown => "dropdown"
  | radio => "radio"
  | date => "date"
  | dateTime => "datetime"
  | number => "number"
  | currency => "currency"
  | boolean => "boolean"
  | calculated => "calculated"
  | lookup => "lookup"
  | table => "table"
  | multiSelect => "multiselect"
  | file => "file"

def ofName? (s : String) : Option FieldType := all.find? (·.name = s)

/-- The type that a host means: case and blanks around the name do not matter, and some names
have a second spelling. -/
def parse? (s : String) : Option FieldType :=
  match String.ofList ((Text.trimChars s.toList).map Char.toLower) with
  | "checkbox" | "bool" => some boolean
  | "text_area" => some textArea
  | "date_time" => some dateTime
  | "multi_select" => some multiSelect
  | s => ofName? s

theorem ofName?_name (t : FieldType) : ofName? t.name = some t := by cases t <;> decide

end FieldType

/-- A field and the type name that its host gave; a name that no type has says nothing. -/
structure SchemaField where
  field : String
  typeName : String
deriving DecidableEq

def SchemaField.type? (f : SchemaField) : Option FieldType := FieldType.parse? f.typeName

/-- Fields with their type names; of several entries for one field the first counts. -/
abbrev Schema := List SchemaField

/-- What is known of a formula's value before it is computed. -/
inductive ResultType where
  | boolean
  | number
  | text
  | unknown
deriving DecidableEq, Repr

namespace ResultType

def name : ResultType → String
  | boolean => "BOOLEAN"
  | number => "NUMBER"
  | text => "TEXT"
  | unknown => "UNKNOWN"

def ofFieldType : FieldType → ResultType
  | .text | .textArea | .email | .url | .dropdown | .radio | .date | .dateTime => text
  | .number | .currency => number
  | .boolean => boolean
  | .calculated | .lookup | .table | .multiSelect | .file => unknown

/-- What a field of the type that a host means holds. -/
def ofTypeName (s : String) : ResultType :=
  match FieldType.parse? s with
  | some t => ofFieldType t
  | none => unknown

end ResultType

def Schema.typeOf? (schema : Schema) (field : String) : Option ResultType :=
  (schema.find? (·.field = field)).map fun f => .ofTypeName f.typeName

end FormLogic
