import Mathlib.Data.List.TakeWhile
import FormLogic.Proofs.Formula.Readers
import FormLogic.Proofs.Formula.Scanning

/-! Formulas are parsed exactly as the grammar derives them. -/

namespace FormLogic

open Grammar FormLogic.Parser

theorem Parser.parseStream_eq_ok_iff {stream : TokenStream} {x : Expr} :
    parseStream stream = .ok x ↔ (∃ column, stream.ending = .endOfText column) ∧
      ∃ n, Derives .disjunction (words stream.tokens) x n ∧ n ≤ nestingLimit := by
  have hreads := (innerReads_inner stream.ending nestingLimit).expression
  constructor
  · intro hok
    obtain ⟨⟨y, rest⟩, hy, hend⟩ := bind_eq_ok_iff.mp hok
    cases rest with
    | cons t ts => cases hend
    | nil =>
      cases hend
      obtain ⟨used, n, htokens, hderives, hn, hends⟩ := hreads.sound hy
      rw [List.append_nil] at htokens
      exact ⟨hends rfl, n, htokens ▸ hderives, hn⟩
  · rintro ⟨hending, n, hderives, hn⟩
    have hstops : Stops .disjunction [] := nofun
    have hread := hreads.complete hderives hn hstops fun _ => hending
    rw [List.append_nil] at hread
    rw [parseStream, hread, ok_bind]

theorem Expr.exists_derives_of_parse {text : String} {x : Expr} (h : Expr.parse text = .ok x) :
    ∃ ts n, Scans text.toList ts ∧ Derives .disjunction ts x n ∧ n ≤ 64 := by
  unfold Expr.parse at h
  split at h
  · cases h
  · obtain ⟨⟨column, hending⟩, n, hderives, hn⟩ := parseStream_eq_ok_iff.mp h
    exact ⟨_, n, scans_words_tokensOf hending, hderives, hn⟩

theorem Expr.parse_of_derives {text : String} {ts : List Token} {x : Expr} {n : Nat}
    (hscans : Scans text.toList ts) (hderives : Derives .disjunction ts x n) (hn : n ≤ 64) :
    Expr.parse text = .ok x := by
  obtain ⟨rfl, hending⟩ := hscans.tokensOf text.toList.length
  have hblank : ¬ Text.isBlankText text = true := by
    intro hall
    rw [Text.isBlankText, List.all_eq_true] at hall
    rw [tokensOf_of_blank (List.dropWhile_eq_nil_iff.mpr hall)] at hderives
    obtain ⟨t, us, hnil, -⟩ := hderives.opens
    cases hnil
  rw [Expr.parse, if_neg hblank]
  exact parseStream_eq_ok_iff.mpr ⟨⟨_, hending⟩, n, hderives, hn⟩

/-- A text parses as a tree exactly if it scans into tokens from which the grammar derives the tree
with a nesting of at most 64. -/
theorem Expr.parse_eq_ok_iff_derives (text : String) (x : Expr) :
    Expr.parse text = .ok x ↔
      ∃ ts n, Scans text.toList ts ∧ Derives .disjunction ts x n ∧ n ≤ 64 := by
  constructor
  · exact Expr.exists_derives_of_parse
  · rintro ⟨ts, n, hscans, hderives, hn⟩
    exact Expr.parse_of_derives hscans hderives hn

theorem Expr.parse_signed_power :
    Expr.parse "-n**2 -a-1" = .ok (.binary (.arithmetic .subtract)
      (.binary (.arithmetic .subtract)
        (.unary .negate (.binary (.arithmetic .power) (.field "n") (.literal (.integer 2))))
        (.field "a"))
      (.literal (.integer 1))) := by
  have hsign : Lexer.scanToken 0 '-' ['n', '*', '*', '2', ' ', '-', 'a', '-', '1'] =
      .ok (.minus, ['n', '*', '*', '2', ' ', '-', 'a', '-', '1']) := rfl
  have hn : Lexer.scanToken 0 'n' ['*', '*', '2', ' ', '-', 'a', '-', '1'] =
      .ok (.identifier "n", ['*', '*', '2', ' ', '-', 'a', '-', '1']) := rfl
  have hstars : Lexer.scanToken 0 '*' ['*', '2', ' ', '-', 'a', '-', '1'] =
      .ok (.doubleStar, ['2', ' ', '-', 'a', '-', '1']) := rfl
  have htwo : Lexer.scanToken 0 '2' [' ', '-', 'a', '-', '1'] =
      .ok (.integer 2, [' ', '-', 'a', '-', '1']) := rfl
  have hfirst : Lexer.scanToken 0 '-' ['a', '-', '1'] = .ok (.minus, ['a', '-', '1']) := rfl
  have ha : Lexer.scanToken 0 'a' ['-', '1'] = .ok (.identifier "a", ['-', '1']) := rfl
  have hsecond : Lexer.scanToken 0 '-' ['1'] = .ok (.minus, ['1']) := rfl
  have hone : Lexer.scanToken 0 '1' [] = .ok (.integer 1, []) := rfl
  have hscans : Scans "-n**2 -a-1".toList [.minus, .identifier "n", .doubleStar, .integer 2,
      .minus, .identifier "a", .minus, .integer 1] :=
    .token rfl hsign (.token rfl hn (.token rfl hstars (.token rfl htwo (.token rfl hfirst
      (.token rfl ha (.token rfl hsecond (.token rfl hone (.blank rfl))))))))
  have hpower : Derives .power ([.identifier "n"] ++ .doubleStar :: [.integer 2]) _ 2 :=
    .power (.field "n") (.tighter rfl (.tighter rfl (.literal (.integer 2))))
  have hsigned : Derives .product (.minus :: [.identifier "n", .doubleStar, .integer 2]) _ 3 :=
    .tighter rfl (.sign .minus (.tighter rfl hpower))
  have hleft : Derives .product [.identifier "a"] _ 1 :=
    .tighter rfl (.tighter rfl (.tighter rfl (.field "a")))
  have hright : Derives .product [.integer 1] _ 1 :=
    .tighter rfl (.tighter rfl (.tighter rfl (.literal (.integer 1))))
  have hsum : Derives .sum _ _ 3 :=
    .join .minus rfl (.join .minus rfl (.tighter rfl hsigned) hleft) hright
  have hformula : Derives .disjunction _ _ 3 :=
    .tighter rfl (.tighter rfl (.tighter rfl (.tighter rfl (.tighter rfl hsum))))
  exact (parse_eq_ok_iff_derives _ _).mpr ⟨_, 3, hscans, hformula, by decide⟩

end FormLogic
