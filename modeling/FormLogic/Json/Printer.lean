import FormLogic.Json.Text
import FormLogic.Number.FloatText

/-! Writing JSON, in one line or with a line for each item. -/

namespace FormLogic.Json

open Number

/-- Doubles in JSON: plain from `0.00001` to below `10 ^ 16`, and exponents always have a sign. -/
def floatStyle : FloatStyle where
  plainFrom := -5
  plainBelow := 16
  signedExponent := true
  tie := .even

mutual

def compact : Json → List Char
  | null | unreadable => ['n', 'u', 'l', 'l']
  | boolean b => (toString b).toList
  | integer n => (toString n).toList
  | float x => (floatStyle.finiteText x).toList
  | text s => quotedText s
  | array items => '[' :: compactItems items ++ [']']
  | object members => '\x7b' :: compactMembers members ++ ['\x7d']

def compactItems : List Json → List Char
  | [] => []
  | [j] => compact j
  | j :: js => compact j ++ ',' :: compactItems js

def compactMembers : List (String × Json) → List Char
  | [] => []
  | [(name, j)] => quotedText name ++ ':' :: compact j
  | (name, j) :: js => quotedText name ++ ':' :: compact j ++ ',' :: compactMembers js

end

/-- A new line, two blanks deeper for each container around it. -/
def newLine (depth : Nat) : List Char := '\n' :: List.replicate (2 * depth) ' '

mutual

def indented (depth : Nat) : Json → List Char
  | null | unreadable => ['n', 'u', 'l', 'l']
  | boolean b => (toString b).toList
  | integer n => (toString n).toList
  | float x => (floatStyle.finiteText x).toList
  | text s => quotedText s
  | array [] => ['[', ']']
  | array items => '[' :: indentedItems (depth + 1) items ++ newLine depth ++ [']']
  | object [] => ['\x7b', '\x7d']
  | object members => '\x7b' :: indentedMembers (depth + 1) members ++ newLine depth ++ ['\x7d']

def indentedItems (depth : Nat) : List Json → List Char
  | [] => []
  | [j] => newLine depth ++ indented depth j
  | j :: js => newLine depth ++ indented depth j ++ ',' :: indentedItems depth js

def indentedMembers (depth : Nat) : List (String × Json) → List Char
  | [] => []
  | [(name, j)] => newLine depth ++ quotedText name ++ ':' :: ' ' :: indented depth j
  | (name, j) :: js =>
    newLine depth ++ quotedText name ++ ':' :: ' ' :: indented depth j ++
      ',' :: indentedMembers depth js

end

def compactText (j : Json) : String := String.ofList j.compact

def prettyText (j : Json) : String := String.ofList (j.indented 0)

end FormLogic.Json
