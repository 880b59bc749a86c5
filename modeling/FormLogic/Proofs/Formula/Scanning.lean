import FormLogic.Formula.Lexer
import FormLogic.Proofs.Formula.Reading

/-! Which tokens a text scans into, as a relation between characters and tokens, and that the
stream of a text holds them. -/

namespace FormLogic.Grammar

open Lexer Text

/-- Characters scan into tokens one after the other, blanks aside, and nothing is left over. -/
inductive Scans : List Char → List Token → Prop
  | blank {cs : List Char} (h : cs.dropWhile isBlank = []) : Scans cs []
  | token {cs rest behind : List Char} {c : Char} {column : Nat} {t : Token} {ts : List Token}
      (hc : cs.dropWhile isBlank = c :: rest) (ht : scanToken column c rest = .ok (t, behind))
      (h : Scans behind ts) : Scans cs (t :: ts)

theorem scanNumber_column {column column' : Nat} {cs : List Char} {r : Token × List Char}
    (h : scanNumber column cs = .ok r) : scanNumber column' cs = .ok r := by
  simp only [scanNumber] at h ⊢
  split at h
  · cases h
  · next hexponent =>
    split at h
    · cases h
    · next htail =>
      rw [if_neg hexponent, if_neg htail]
      exact h

/-- Columns only matter where scanning fails. -/
theorem scanToken_column {column column' : Nat} {c : Char} {cs : List Char}
    {r : Token × List Char} (h : scanToken column c cs = .ok r) :
    scanToken column' c cs = .ok r := by
  unfold scanToken at h ⊢
  split at h
  case h_18 =>
    split at h
    · exact h
    · cases h
  case h_19 =>
    split at h
    · next hnumber =>
      rw [if_pos hnumber]
      exact scanNumber_column h
    · next hnumber =>
      rw [if_neg hnumber]
      split at h
      · next hword =>
        rw [if_pos hword]
        exact h
      · cases h
  all_goals first
    | exact h
    | cases h

section TokensOf

variable {length : Nat} {cs rest : List Char} {c : Char}

theorem tokensOf_of_blank (h : cs.dropWhile isBlank = []) :
    tokensOf length cs = ⟨[], .endOfText length⟩ := by
  rw [tokensOf]
  split
  · rfl
  · next hc => cases h.symm.trans hc

theorem tokensOf_of_error {e : SyntaxError} (hc : cs.dropWhile isBlank = c :: rest)
    (ht : scanToken (length - (rest.length + 1)) c rest = .error e) :
    tokensOf length cs = ⟨[], .fault e⟩ := by
  rw [tokensOf]
  split
  · next hnil => cases hnil.symm.trans hc
  · next hcons =>
    obtain ⟨rfl, rfl⟩ := List.cons.inj (hcons.symm.trans hc)
    dsimp only
    split
    · next he => rw [Except.error.inj (he.symm.trans ht)]
    · next hok => cases hok.symm.trans ht

theorem tokensOf_of_ok {t : Token} {behind : List Char} (hc : cs.dropWhile isBlank = c :: rest)
    (ht : scanToken (length - (rest.length + 1)) c rest = .ok (t, behind)) :
    tokensOf length cs = ⟨⟨t, length - (rest.length + 1)⟩ :: (tokensOf length behind).tokens,
      (tokensOf length behind).ending⟩ := by
  rw [tokensOf]
  split
  · next hnil => cases hnil.symm.trans hc
  · next hcons =>
    obtain ⟨rfl, rfl⟩ := List.cons.inj (hcons.symm.trans hc)
    dsimp only
    split
    · next he => cases he.symm.trans ht
    · next hok =>
      obtain ⟨rfl, rfl⟩ := Prod.mk.inj (Except.ok.inj (hok.symm.trans ht))
      rfl

end TokensOf

theorem Scans.tokensOf {cs : List Char} {ts : List Token} (h : Scans cs ts) (length : Nat) :
    words (Lexer.tokensOf length cs).tokens = ts ∧
      (Lexer.tokensOf length cs).ending = .endOfText length := by
  induction h with
  | blank h =>
    rw [tokensOf_of_blank h]
    exact ⟨rfl, rfl⟩
  | token hc ht _ ih =>
    rw [tokensOf_of_ok hc (scanToken_column ht), words_cons, ih.1]
    exact ⟨rfl, ih.2⟩

theorem scans_words_tokensOf {length column : Nat} {cs : List Char}
    (h : (Lexer.tokensOf length cs).ending = .endOfText column) :
    Scans cs (words (Lexer.tokensOf length cs).tokens) := by
  induction cs using tokensOf.induct length with
  | case1 cs hnil =>
    rw [tokensOf_of_blank hnil]
    exact .blank hnil
  | case2 cs c rest hc _ e he =>
    rw [tokensOf_of_error hc he] at h
    cases h
  | case3 cs c rest hc _ t behind ht ih =>
    rw [tokensOf_of_ok hc ht] at h ⊢
    exact .token hc ht (ih h)

end FormLogic.Grammar
