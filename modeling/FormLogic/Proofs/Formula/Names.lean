import Mathlib.Data.List.TakeWhile
import FormLogic.Proofs.Formula.Parsing
import FormLogic.Proofs.Formula.Parts

/-! The names that formulas can have for fields: every name in a formula is, as a text of its own,
the formula of just that field. -/

namespace FormLogic

open Grammar Lexer

def IsFieldName (name : String) : Prop := Expr.parse name = .ok (.field name)

namespace Grammar

theorem mem_separated {a : Argument} {args : List Argument} (ha : a ∈ args) {t : Token}
    (ht : t ∈ a.tokens) : t ∈ Argument.separated args := by
  cases args with
  | nil => cases ha
  | cons first rest =>
    rw [Argument.separated, List.mem_append]
    rcases List.mem_cons.mp ha with rfl | ha
    · exact .inl ht
    · exact .inr (List.mem_flatMap.mpr ⟨a, ha, List.mem_cons_of_mem _ ht⟩)

theorem Derives.identifier_mem {l : Level} {ts : List Token} {x : Expr} {n : Nat} {name : String}
    (h : Derives l ts x n) (hname : name ∈ x.fieldNames) : .identifier name ∈ ts := by
  induction h with
  | tighter _ _ ih => exact ih hname
  | join _ _ _ _ ihx ihy =>
    rw [Expr.fieldNames, List.mem_append] at hname
    rw [List.mem_append]
    exact hname.imp ihx fun hy => List.mem_cons_of_mem _ (ihy hy)
  | negation _ ih => exact List.mem_cons_of_mem _ (ih hname)
  | sign _ _ ih => exact List.mem_cons_of_mem _ (ih hname)
  | power _ _ ihx ihy =>
    rw [Expr.fieldNames, List.mem_append] at hname
    rw [List.mem_append]
    exact hname.imp ihx fun hy => List.mem_cons_of_mem _ (ihy hy)
  | literal _ => cases hname
  | field other =>
    obtain rfl := List.mem_singleton.mp hname
    exact List.mem_singleton.mpr rfl
  | parentheses _ ih => exact List.mem_cons_of_mem _ (List.mem_append_left _ (ih hname))
  | call other args _ ih =>
    obtain ⟨x, hx, hname⟩ := Expr.mem_fieldNamesOfArgs.mp hname
    obtain ⟨a, ha, rfl⟩ := List.mem_map.mp hx
    exact List.mem_cons_of_mem _ (List.mem_cons_of_mem _
      (List.mem_append_left _ (mem_separated ha (ih a ha hname))))

end Grammar

namespace Lexer

def StartsWord (c : Char) : Prop := c.isAlpha = true ∨ c = '_'

theorem isDigit_eq_false_of_isAlpha {c : Char} (h : c.isAlpha = true) : c.isDigit = false := by
  rw [Bool.eq_false_iff]
  intro hdigit
  obtain ⟨-, hnine⟩ := Bool.and_eq_true_iff.mp hdigit
  have hle : c.val ≤ '9'.val := of_decide_eq_true hnine
  have hge : 'A'.val ≤ c.val := by
    rcases Bool.or_eq_true_iff.mp h with hletter | hletter
    · have hupper : 'A'.val ≤ c.val ∧ c.val ≤ 'Z'.val := of_decide_eq_true hletter
      exact hupper.1
    · have ha : 'a'.val ≤ c.val := of_decide_eq_true (Bool.and_eq_true_iff.mp hletter).1
      exact UInt32.le_trans (by decide) ha
  exact absurd (UInt32.le_trans hge hle) (by decide)

theorem StartsWord.startsNumber {c : Char} (hc : StartsWord c) (rest : List Char) :
    startsNumber c rest = false := by
  have hdigit : c.isDigit = false := by
    rcases hc with hc | rfl
    · exact isDigit_eq_false_of_isAlpha hc
    · decide
  have hpoint : c ≠ '.' := by
    rintro rfl
    exact absurd hc (by simp [StartsWord])
  simp [Lexer.startsNumber, hdigit, hpoint]

theorem StartsWord.scanToken {c : Char} (hc : StartsWord c) (column : Nat) (rest : List Char) :
    scanToken column c rest = .ok (wordToken (String.ofList (c :: rest.takeWhile isNameChar)),
      rest.dropWhile isNameChar) := by
  unfold Lexer.scanToken
  split
  case h_19 =>
    have hword : (c.isAlpha || decide (c = '_')) = true := by simpa [StartsWord] using hc
    rw [hc.startsNumber, if_neg Bool.false_ne_true, if_pos hword]
  all_goals exact absurd hc (by simp [StartsWord])

theorem scanNumber_ne_identifier (column : Nat) (cs behind : List Char) (name : String) :
    scanNumber column cs ≠ .ok (.identifier name, behind) := by
  intro h
  simp only [scanNumber] at h
  split at h
  · cases h
  · split at h
    · cases h
    · split at h
      · split at h <;> cases h
      · cases h

theorem startsWord_of_scanToken {column : Nat} {c : Char} {rest behind : List Char} {name : String}
    (h : scanToken column c rest = .ok (.identifier name, behind)) : StartsWord c := by
  unfold Lexer.scanToken at h
  split at h
  case h_18 => split at h <;> cases h
  case h_19 =>
    split at h
    · exact (scanNumber_ne_identifier _ _ _ _ h).elim
    · split at h
      · next hword => simpa [StartsWord] using hword
      · cases h
  all_goals cases h

theorem eq_of_wordToken {word name : String} (h : wordToken word = .identifier name) :
    word = name := by
  unfold wordToken at h
  split at h
  all_goals first
    | exact Token.identifier.inj h
    | cases h

theorem scans_identifier {column : Nat} {c : Char} {cs rest behind : List Char} {name : String}
    (hc : cs.dropWhile Text.isBlank = c :: rest)
    (h : scanToken column c rest = .ok (.identifier name, behind)) :
    Scans name.toList [.identifier name] := by
  have hstart := startsWord_of_scanToken h
  have hblank : ¬ Text.isBlank c = true := by
    have := List.head_dropWhile_not Text.isBlank (l := cs) (by simp [hc])
    simpa [hc] using this
  rw [hstart.scanToken] at h
  obtain ⟨hword, -⟩ := Prod.mk.inj (Except.ok.inj h)
  have hname := eq_of_wordToken hword
  have hchars : name.toList = c :: rest.takeWhile isNameChar := by
    rw [← hname, String.toList_ofList]
  have htail : (rest.takeWhile isNameChar).takeWhile isNameChar = rest.takeWhile isNameChar :=
    List.takeWhile_eq_self_iff.mpr fun _ => List.mem_takeWhile_imp
  have hend : (rest.takeWhile isNameChar).dropWhile isNameChar = [] :=
    List.dropWhile_eq_nil_iff.mpr fun _ => List.mem_takeWhile_imp
  have hself : name.toList.dropWhile Text.isBlank = c :: rest.takeWhile isNameChar := by
    rw [hchars, List.dropWhile_cons_of_neg hblank]
  have hscan : Lexer.scanToken 0 c (rest.takeWhile isNameChar) = .ok (.identifier name, []) := by
    rw [hstart.scanToken, htail, hend, hword]
  exact .token hself hscan (.blank rfl)

end Lexer

theorem isFieldName_of_scans {cs : List Char} {ts : List Token} {name : String}
    (h : Scans cs ts) (hname : .identifier name ∈ ts) : IsFieldName name := by
  induction h with
  | blank => cases hname
  | token hc ht _ ih =>
    rcases List.mem_cons.mp hname with rfl | hrest
    · exact Expr.parse_of_derives (scans_identifier hc ht) (.of_primary (.field name))
        (Nat.le_add_left 1 63)
    · exact ih hrest

/-- The fields that a formula names have names of fields. -/
theorem isFieldName_of_parse {text : String} {x : Expr} {name : String}
    (h : Expr.parse text = .ok x) (hname : name ∈ x.fieldNames) : IsFieldName name := by
  obtain ⟨ts, n, hscans, hderives, -⟩ := Expr.exists_derives_of_parse h
  exact isFieldName_of_scans hscans (hderives.identifier_mem hname)

end FormLogic
