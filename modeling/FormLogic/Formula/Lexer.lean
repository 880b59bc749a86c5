import FormLogic.Formula.Token
import FormLogic.Number.Word
import FormLogic.Text.Blank

/-! Formula text cut into tokens. A character that starts no token ends the tokens with a fault,
which counts only once a reader comes to it. -/

namespace FormLogic

open Number Text

structure Located where
  token : Token
  column : Nat
deriving DecidableEq

/-- What stands after the last token: the end of the text, or a fault. -/
inductive Ending where
  | endOfText (column : Nat)
  | fault (e : SyntaxError)
deriving DecidableEq

structure TokenStream where
  tokens : List Located
  ending : Ending
deriving DecidableEq

namespace Lexer

def isNameChar (c : Char) : Bool := c.isAlphanum || c = '_'

/-- What a backslash and a character stand for in a text; a pair without a meaning stays. -/
def unescape : Char → List Char
  | '"' => ['"']
  | '\\' => ['\\']
  | 'n' => ['\n']
  | 't' => ['\t']
  | 'r' => ['\r']
  | c => ['\\', c]

def scanText : List Char → Option (List Char × List Char)
  | [] => none
  | '"' :: rest => some ([], rest)
  | '\\' :: c :: rest => (scanText rest).map fun r => (unescape c ++ r.1, r.2)
  | c :: rest => (scanText rest).map fun r => (c :: r.1, r.2)

def splitFraction : List Char → List Char × List Char
  | '.' :: rest => ('.' :: rest.takeWhile Char.isDigit, rest.dropWhile Char.isDigit)
  | rest => ([], rest)

def splitSign : List Char → List Char × List Char
  | '+' :: rest => (['+'], rest)
  | '-' :: rest => (['-'], rest)
  | rest => ([], rest)

def splitExponent : List Char → List Char × List Char × List Char
  | [] => ([], [], [])
  | c :: rest =>
    if c = 'e' || c = 'E' then
      let (sign, rest) := splitSign rest
      (c :: sign, rest.takeWhile Char.isDigit, rest.dropWhile Char.isDigit)
    else ([], [], c :: rest)

/-- A number, which starts with a digit or with a point before one. -/
def scanNumber (column : Nat) (cs : List Char) : Except SyntaxError (Token × List Char) :=
  let whole := cs.takeWhile Char.isDigit
  let (fraction, rest) := splitFraction (cs.dropWhile Char.isDigit)
  let (mark, power, rest) := splitExponent rest
  let lexeme := whole ++ fraction ++ mark ++ power
  let tail := rest.takeWhile isNameChar
  if !mark.isEmpty && power.isEmpty then
    .error (.malformedNumber (String.ofList lexeme) column)
  else if !tail.isEmpty then .error (.invalidNumber (String.ofList (lexeme ++ tail)) column)
  else if fraction.isEmpty && mark.isEmpty then
    match fit? (digitsValue whole) with
    | some n => .ok (.integer n, rest)
    | none => .error (.integerOutOfRange (String.ofList lexeme))
  else
    let exponent : Int :=
      if mark.getLast? = some '-' then -(digitsValue power : Int) else digitsValue power
    .ok (.float ((Decimal.ofParts whole (fraction.drop 1) exponent).toFloat false), rest)

def wordToken (word : String) : Token :=
  match word with
  | "and" => .and
  | "or" => .or
  | "not" => .not
  | "true" | "True" => .boolean true
  | "false" | "False" => .boolean false
  | "none" | "None" | "null" => .none
  | name => .identifier name

def startsNumber (c : Char) (rest : List Char) : Bool :=
  c.isDigit || (c = '.' && (rest.head?.map Char.isDigit).getD false)

/-- The token that starts with the first character, and what follows it. -/
def scanToken (column : Nat) (c : Char) (rest : List Char) :
    Except SyntaxError (Token × List Char) :=
  match c, rest with
  | '+', rest => .ok (.plus, rest)
  | '-', rest => .ok (.minus, rest)
  | '/', rest => .ok (.slash, rest)
  | '%', rest => .ok (.percent, rest)
  | ',', rest => .ok (.comma, rest)
  | '(', rest => .ok (.leftParen, rest)
  | ')', rest => .ok (.rightParen, rest)
  | '*', '*' :: rest => .ok (.doubleStar, rest)
  | '*', rest => .ok (.star, rest)
  | '<', '=' :: rest => .ok (.lessEqual, rest)
  | '<', rest => .ok (.less, rest)
  | '>', '=' :: rest => .ok (.greaterEqual, rest)
  | '>', rest => .ok (.greater, rest)
  | '=', '=' :: rest => .ok (.equal, rest)
  | '=', _ => .error (.unexpectedCharacter c column (some "did you mean '=='?"))
  | '!', '=' :: rest => .ok (.notEqual, rest)
  | '!', _ => .error (.unexpectedCharacter c column (some "did you mean '!=' or 'not'?"))
  | '"', rest =>
    match scanText rest with
    | some (content, rest) => .ok (.text (String.ofList content), rest)
    | none => .error (.unterminatedText column)
  | c, rest =>
    if startsNumber c rest then scanNumber column (c :: rest)
    else if c.isAlpha || c = '_' then
      .ok (wordToken (String.ofList (c :: rest.takeWhile isNameChar)), rest.dropWhile isNameChar)
    else .error (.unexpectedCharacter c column none)

theorem length_scanText {cs content rest : List Char} (h : scanText cs = some (content, rest)) :
    rest.length < cs.length := by
  induction cs using scanText.induct generalizing content rest with
  | case1 => simp [scanText] at h
  | case2 r => simp [scanText] at h; simp [h.2]
  | case3 c r ih =>
    simp only [scanText, Option.map_eq_some_iff, Prod.mk.injEq] at h
    obtain ⟨⟨x, y⟩, hr, -, rfl⟩ := h
    have : y.length < r.length := ih hr
    simp only [List.length_cons]; omega
  | case4 c r h1 h2 ih =>
    rw [scanText] at h
    · simp only [Option.map_eq_some_iff, Prod.mk.injEq] at h
      obtain ⟨⟨x, y⟩, hr, -, rfl⟩ := h
      have : y.length < r.length := ih hr
      simp only [List.length_cons]; omega
    · exact h1
    · exact h2

theorem length_dropWhile_le (p : Char → Bool) (cs : List Char) :
    (cs.dropWhile p).length ≤ cs.length := (List.dropWhile_suffix p).length_le

theorem length_splitFraction (cs : List Char) : (splitFraction cs).2.length ≤ cs.length := by
  unfold splitFraction
  split
  · next rest => have := length_dropWhile_le Char.isDigit rest; simp; omega
  · simp

theorem length_splitSign (cs : List Char) : (splitSign cs).2.length ≤ cs.length := by
  unfold splitSign; split <;> simp

theorem length_splitExponent (cs : List Char) : (splitExponent cs).2.2.length ≤ cs.length := by
  unfold splitExponent
  split
  · simp
  · next c rest =>
    split
    · exact Nat.le_succ_of_le
        (Nat.le_trans (length_dropWhile_le ..) (length_splitSign rest))
    · simp

theorem rest_scanNumber {column : Nat} {cs rest : List Char} {t : Token}
    (h : scanNumber column cs = .ok (t, rest)) :
    rest = (splitExponent (splitFraction (cs.dropWhile Char.isDigit)).2).2.2 := by
  simp only [scanNumber] at h
  split at h
  · simp at h
  · split at h
    · simp at h
    · split at h
      · split at h
        · exact (Prod.mk.inj (Except.ok.inj h)).2.symm
        · simp at h
      · exact (Prod.mk.inj (Except.ok.inj h)).2.symm

theorem length_scanNumber {column : Nat} {c : Char} {cs rest : List Char} {t : Token}
    (hc : startsNumber c cs = true) (h : scanNumber column (c :: cs) = .ok (t, rest)) :
    rest.length ≤ cs.length := by
  rw [rest_scanNumber h]
  refine Nat.le_trans (length_splitExponent _) ?_
  by_cases hd : c.isDigit = true
  · refine Nat.le_trans (length_splitFraction _) ?_
    rw [List.dropWhile_cons_of_pos hd]
    exact length_dropWhile_le ..
  · have hp : c = '.' := by simp [startsNumber, hd] at hc; exact hc.1
    subst hp
    rw [List.dropWhile_cons_of_neg hd]
    exact length_dropWhile_le ..

theorem length_scanToken {column : Nat} {c : Char} {cs rest : List Char} {t : Token}
    (h : scanToken column c cs = .ok (t, rest)) : rest.length ≤ cs.length := by
  unfold scanToken at h
  split at h
  case h_18 =>
    split at h
    · next hs =>
      obtain ⟨-, rfl⟩ := Prod.mk.inj (Except.ok.inj h)
      exact Nat.le_of_lt (length_scanText hs)
    · simp at h
  case h_19 =>
    split at h
    · next hs => exact length_scanNumber hs h
    · split at h
      · obtain ⟨-, rfl⟩ := Prod.mk.inj (Except.ok.inj h)
        exact length_dropWhile_le ..
      · simp at h
  all_goals first
    | (obtain ⟨-, rfl⟩ := Prod.mk.inj (Except.ok.inj h); simp)
    | simp at h

/-- The tokens of the characters, which are the last ones of a text of the given length. -/
def tokensOf (length : Nat) (cs : List Char) : TokenStream :=
  match _hs : cs.dropWhile isBlank with
  | [] => ⟨[], .endOfText length⟩
  | c :: rest =>
    let column := length - (rest.length + 1)
    match _ht : scanToken column c rest with
    | .error e => ⟨[], .fault e⟩
    | .ok (token, rest) =>
      let stream := tokensOf length rest
      ⟨⟨token, column⟩ :: stream.tokens, stream.ending⟩
termination_by cs.length
decreasing_by
  have h1 := length_scanToken _ht
  have h2 := length_dropWhile_le isBlank cs
  rw [_hs, List.length_cons] at h2
  omega

def tokenize (s : String) : TokenStream := tokensOf s.toList.length s.toList

end Lexer

end FormLogic
