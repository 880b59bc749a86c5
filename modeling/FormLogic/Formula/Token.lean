import FormLogic.Number.FloatText
import FormLogic.Text.Quoted

/-! The words of formula text. -/

namespace FormLogic

inductive Token where
  | integer (n : Int64)
  | float (x : Float)
  | text (s : String)
  | boolean (b : Bool)
  | none
  | identifier (name : String)
  | and
  | or
  | not
  | plus
  | minus
  | star
  | doubleStar
  | slash
  | percent
  | equal
  | notEqual
  | less
  | lessEqual
  | greater
  | greaterEqual
  | comma
  | leftParen
  | rightParen
deriving DecidableEq

def Token.describe : Token → String
  | .integer n => "number " ++ toString n.toInt
  | .float x => "number " ++ Number.floatText x
  | .text s => "string " ++ Text.quoted s
  | .boolean b => if b then "'true'" else "'false'"
  | .none => "'none'"
  | .identifier name => "identifier '" ++ name ++ "'"
  | .and => "'and'"
  | .or => "'or'"
  | .not => "'not'"
  | .plus => "'+'"
  | .minus => "'-'"
  | .star => "'*'"
  | .doubleStar => "'**'"
  | .slash => "'/'"
  | .percent => "'%'"
  | .equal => "'=='"
  | .notEqual => "'!='"
  | .less => "'<'"
  | .lessEqual => "'<='"
  | .greater => "'>'"
  | .greaterEqual => "'>='"
  | .comma => "','"
  | .leftParen => "'('"
  | .rightParen => "')'"

def Token.describe? : Option Token → String
  | some t => t.describe
  | .none => "end of input"

/-- Why formula text is not a formula. Columns count characters from zero. -/
inductive SyntaxError where
  | emptyFormula
  | unexpectedCharacter (c : Char) (column : Nat) (hint : Option String)
  | unterminatedText (column : Nat)
  | malformedNumber (lexeme : String) (column : Nat)
  | invalidNumber (lexeme : String) (column : Nat)
  | integerOutOfRange (lexeme : String)
  | unexpectedEnd
  | unexpectedToken (token : Token) (column : Nat)
  | expected (wanted : Token) (found : Option Token) (column : Nat)
  | trailing (token : Token) (column : Nat)
  | tooDeep (limit : Nat)
  /-- A fault in the words of a function that answers with one. -/
  | other (message : String)
deriving DecidableEq

def SyntaxError.message : SyntaxError → String
  | .emptyFormula => "Empty formula"
  | .unexpectedCharacter c column hint =>
    "Unexpected character '" ++ c.toString ++ "' at position " ++ toString column ++
      match hint with
      | some h => " (" ++ h ++ ")"
      | .none => ""
  | .unterminatedText column =>
    "Unterminated string literal starting at position " ++ toString column
  | .malformedNumber lexeme column =>
    "Malformed number '" ++ lexeme ++ "' at position " ++ toString column
  | .invalidNumber lexeme column =>
    "Invalid number literal '" ++ lexeme ++ "' at position " ++ toString column
  | .integerOutOfRange lexeme => "Integer literal out of range: " ++ lexeme
  | .unexpectedEnd => "Unexpected end of input"
  | .unexpectedToken token column =>
    "Unexpected " ++ token.describe ++ " at position " ++ toString column
  | .expected wanted found column =>
    "Expected " ++ wanted.describe ++ " but found " ++ Token.describe? found ++
      " at position " ++ toString column
  | .trailing token column =>
    "Unexpected " ++ token.describe ++ " after expression at position " ++ toString column
  | .tooDeep limit => "Formula nested more than " ++ toString limit ++ " levels deep"
  | .other message => message

end FormLogic
