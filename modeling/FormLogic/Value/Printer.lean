import FormLogic.Number.FloatText
import FormLogic.Text.Quoted
import FormLogic.Value.Basic

/-! The text of values for people. -/

namespace FormLogic.Value

open Number Text

mutual

def repr : Value → String
  | .null => "null"
  | .boolean b => if b then "true" else "false"
  | .integer n => toString n.toInt
  | .float x => floatText x
  | .text s => quoted s
  | .list items => "[" ++ ", ".intercalate (itemReprs items) ++ "]"
  | .map entries => "\x7b" ++ ", ".intercalate (entryReprs entries) ++ "\x7d"

def itemReprs : List Value → List String
  | [] => []
  | v :: vs => repr v :: itemReprs vs

def entryReprs : List (String × Value) → List String
  | [] => []
  | (k, v) :: vs => (quoted k ++ ": " ++ repr v) :: entryReprs vs

end

def display : Value → String
  | .text s => s
  | v => repr v

end FormLogic.Value
