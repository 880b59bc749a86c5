import FormLogic.Json.Token

/-! Reading JSON. A container that is still open waits in a list, so the reader goes through the
tokens once and never back. -/

namespace FormLogic.Json

/-- A container that is still open, with what is already in it, the last first. A name that cannot
be read is none. -/
inductive Frame where
  | array (items : List Json)
  | object (members : List (Option String × Json)) (name : Option String)

def textOf? (pieces : List TextPiece) : Option String := (joinPieces pieces).map String.ofList

def ofPieces (pieces : List TextPiece) : Json :=
  match textOf? pieces with
  | some s => .text s
  | none => .unreadable

def ofMembers (members : List (Option String × Json)) : Json :=
  match members.mapM fun (name, j) => name.map fun name => (name, j) with
  | some members => .object members
  | none => .unreadable

section

variable (double? : Numeral → Option Float)

mutual

/-- Reads on where a document has to start. -/
def readStart : List Frame → List Token → Option Json
  | open_, .null :: ts => readEnd open_ .null ts
  | open_, .boolean b :: ts => readEnd open_ (.boolean b) ts
  | open_, .number n :: ts => readEnd open_ (n.toJson double?) ts
  | open_, .text pieces :: ts => readEnd open_ (ofPieces pieces) ts
  | open_, .openArray :: .closeArray :: ts => readEnd open_ (.array []) ts
  | open_, .openArray :: ts => readStart (.array [] :: open_) ts
  | open_, .openObject :: .closeObject :: ts => readEnd open_ (.object []) ts
  | open_, .openObject :: .text name :: .colon :: ts =>
    readStart (.object [] (textOf? name) :: open_) ts
  | _, _ => none

def readEnd : List Frame → Json → List Token → Option Json
  | [], j, [] => some j
  | .array items :: open_, j, .comma :: ts => readStart (.array (j :: items) :: open_) ts
  | .array items :: open_, j, .closeArray :: ts => readEnd open_ (.array (j :: items).reverse) ts
  | .object members name :: open_, j, .comma :: .text next :: .colon :: ts =>
    readStart (.object ((name, j) :: members) (textOf? next) :: open_) ts
  | .object members name :: open_, j, .closeObject :: ts =>
    readEnd open_ (ofMembers ((name, j) :: members).reverse) ts
  | _, _, _ => none

end

/-- The document that a text is, if numbers are taken to doubles as given. -/
def readWith (text : String) : Option Json :=
  (tokensOf text.toList).bind (readStart double? [])

end

def read? : String → Option Json := readWith Numeral.float?

end FormLogic.Json
