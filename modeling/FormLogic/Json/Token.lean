import FormLogic.Json.Numeral
import FormLogic.Json.Text

/-! JSON text cut into tokens. -/

namespace FormLogic.Json

inductive Token where
  | openArray
  | closeArray
  | openObject
  | closeObject
  | comma
  | colon
  | null
  | boolean (b : Bool)
  | number (n : Numeral)
  | text (pieces : List TextPiece)
deriving DecidableEq

def isBlank (c : Char) : Bool := c = ' ' ∨ c = '\n' ∨ c = '\t' ∨ c = '\r'

/-- The token at the start, and what follows it. -/
def scanToken : List Char → Option (Token × List Char)
  | '[' :: rest => some (.openArray, rest)
  | ']' :: rest => some (.closeArray, rest)
  | '\x7b' :: rest => some (.openObject, rest)
  | '\x7d' :: rest => some (.closeObject, rest)
  | ',' :: rest => some (.comma, rest)
  | ':' :: rest => some (.colon, rest)
  | 'n' :: 'u' :: 'l' :: 'l' :: rest => some (.null, rest)
  | 't' :: 'r' :: 'u' :: 'e' :: rest => some (.boolean true, rest)
  | 'f' :: 'a' :: 'l' :: 's' :: 'e' :: rest => some (.boolean false, rest)
  | '"' :: rest =>
    match scanText rest with
    | some (pieces, rest) => some (.text pieces, rest)
    | none => none
  | cs =>
    match scanNumeral cs with
    | some (n, rest) => some (.number n, rest)
    | none => none

theorem length_scanToken {cs rest : List Char} {t : Token} (h : scanToken cs = some (t, rest)) :
    rest.length < cs.length := by
  unfold scanToken at h
  split at h
  case h_10 =>
    split at h
    · next hs =>
      obtain ⟨-, rfl⟩ := Prod.mk.inj (Option.some.inj h)
      exact Nat.lt_succ_of_lt (length_scanText hs)
    · simp at h
  case h_11 =>
    split at h
    · next hs =>
      obtain ⟨-, rfl⟩ := Prod.mk.inj (Option.some.inj h)
      exact length_scanNumeral hs
    · simp at h
  all_goals
    obtain ⟨-, rfl⟩ := Prod.mk.inj (Option.some.inj h)
    simp only [List.length_cons]
    omega

/-- The tokens of the characters; none if some of them make no token. -/
def tokensOf (cs : List Char) : Option (List Token) :=
  match _hs : cs.dropWhile isBlank with
  | [] => some []
  | c :: rest =>
    match _ht : scanToken (c :: rest) with
    | none => none
    | some (token, rest) => (tokensOf rest).map (token :: ·)
termination_by cs.length
decreasing_by
  have h1 := length_scanToken _ht
  have h2 := (List.dropWhile_suffix (l := cs) isBlank).length_le
  rw [_hs] at h2
  omega

end FormLogic.Json
