import FormLogic.Value.Basic

/-! JSON documents, as far as stored records need them. -/

namespace FormLogic

/-- A JSON document. The members of an object stand as they were written, repeated ones too. -/
inductive Json where
  | null
  | boolean (b : Bool)
  | integer (n : Int)
  | float (x : Float)
  | text (s : String)
  | array (items : List Json)
  | object (members : List (String × Json))
  /-- Well formed, but without a value: a number out of range, a text with half a surrogate pair, or
  an object with a member of such a name. -/
  | unreadable
deriving Inhabited

namespace Json

/-- How many containers may stand inside one another. -/
def nestingLimit : Nat := 127

end Json

end FormLogic
