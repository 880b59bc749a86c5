import Mathlib.Data.Nat.Find
import FormLogic.Proofs.Formula.Parsing

/-! Texts between quotes. What is written of a text reads back as the text, and a text in a formula
ends at its first quote that belongs to no backslash. -/

namespace FormLogic

open Grammar

namespace Lexer

/-- The ways to write a character between quotes. Only a quote and a backslash cannot stand for
themselves. -/
inductive Writes : Char → List Char → Prop
  | raw {c : Char} (hquote : c ≠ '"') (hbackslash : c ≠ '\\') : Writes c [c]
  | quote : Writes '"' ['\\', '"']
  | backslash : Writes '\\' ['\\', '\\']
  | newLine : Writes '\n' ['\\', 'n']
  | tab : Writes '\t' ['\\', 't']
  | carriageReturn : Writes '\r' ['\\', 'r']

inductive Spells : List Char → List Char → Prop
  | nil : Spells [] []
  | cons {c : Char} {cs written rest : List Char} (hc : Writes c written) (hcs : Spells cs rest) :
      Spells (c :: cs) (written ++ rest)

theorem scanText_of_ne {c : Char} (hquote : c ≠ '"') (hbackslash : c ≠ '\\') (cs : List Char) :
    scanText (c :: cs) = (scanText cs).map fun r => (c :: r.1, r.2) := by
  rw [scanText]
  · exact hquote
  · exact fun _ _ h => absurd h hbackslash

theorem scanText_of_writes {c : Char} {written : List Char} (h : Writes c written)
    (cs : List Char) : scanText (written ++ cs) = (scanText cs).map fun r => (c :: r.1, r.2) := by
  cases h with
  | raw hquote hbackslash => exact scanText_of_ne hquote hbackslash cs
  | quote | backslash | newLine | tab | carriageReturn => rfl

theorem scanText_of_spells {cs written : List Char} (h : Spells cs written) (rest : List Char) :
    scanText (written ++ '"' :: rest) = some (cs, rest) := by
  induction h with
  | nil => rfl
  | cons hc _ ih => rw [List.append_assoc, scanText_of_writes hc, ih, Option.map_some]

/-- Whether the character at a place is the second one of a pair: it stands behind a backslash, and
that one is not itself the second of a pair. -/
def Paired (cs : List Char) : Nat → Prop
  | 0 => False
  | n + 1 => cs[n]? = some '\\' ∧ ¬ Paired cs n

/-- Whether the character at a place is a quote that belongs to no backslash. -/
def Closes (cs : List Char) (n : Nat) : Prop := cs[n]? = some '"' ∧ ¬ Paired cs n

/-- The first place where a text closes. -/
def FirstCloses (cs : List Char) (n : Nat) : Prop := Closes cs n ∧ ∀ m < n, ¬ Closes cs m

/-- Whether the rest is what stands behind the quote that closes a text. -/
def ClosesBefore (cs rest : List Char) : Prop := ∃ n, FirstCloses cs n ∧ rest = cs.drop (n + 1)

section Places

variable {c : Char} {cs rest : List Char} {n : Nat}

theorem paired_cons (hc : c ≠ '\\') : Paired (c :: cs) (n + 1) ↔ Paired cs n := by
  induction n with
  | zero => simp [Paired, hc]
  | succ n ih => rw [Paired, ih, List.getElem?_cons_succ, Paired]

theorem paired_pair : Paired ('\\' :: c :: cs) (n + 2) ↔ Paired cs n := by
  induction n with
  | zero => simp [Paired]
  | succ n ih => rw [Paired, ih, List.getElem?_cons_succ, List.getElem?_cons_succ, Paired]

theorem closes_cons (hc : c ≠ '\\') : Closes (c :: cs) (n + 1) ↔ Closes cs n := by
  rw [Closes, paired_cons hc, List.getElem?_cons_succ, Closes]

theorem closes_pair : Closes ('\\' :: c :: cs) (n + 2) ↔ Closes cs n := by
  rw [Closes, paired_pair, List.getElem?_cons_succ, List.getElem?_cons_succ, Closes]

theorem not_closes_zero (hc : c ≠ '"') : ¬ Closes (c :: cs) 0 := by
  rintro ⟨h, -⟩
  exact hc (Option.some.inj h)

theorem not_closes_pair_one : ¬ Closes ('\\' :: c :: cs) 1 := fun ⟨_, h⟩ => h ⟨rfl, id⟩

theorem closesBefore_quote : ClosesBefore ('"' :: cs) rest ↔ rest = cs := by
  have hzero : Closes ('"' :: cs) 0 := ⟨rfl, id⟩
  constructor
  · rintro ⟨n, ⟨-, hfirst⟩, rfl⟩
    obtain rfl : n = 0 := Nat.eq_zero_of_not_pos fun hn => hfirst 0 hn hzero
    rfl
  · rintro rfl
    exact ⟨0, ⟨hzero, fun m hm => absurd hm (Nat.not_lt_zero m)⟩, rfl⟩

/-- Where nothing closes among the first characters, what closes is what closes behind them. -/
theorem closesBefore_append (front : List Char)
    (hfront : ∀ m < front.length, ¬ Closes (front ++ cs) m)
    (hback : ∀ m, Closes (front ++ cs) (m + front.length) ↔ Closes cs m) :
    ClosesBefore (front ++ cs) rest ↔ ClosesBefore cs rest := by
  have hdrop : ∀ m, (front ++ cs).drop (m + front.length + 1) = cs.drop (m + 1) := fun m => by
    rw [Nat.add_right_comm, Nat.add_comm, List.drop_length_add_append]
  constructor
  · rintro ⟨n, ⟨hn, hfirst⟩, rfl⟩
    have hlength : front.length ≤ n := Nat.le_of_not_lt fun hlt => hfront n hlt hn
    obtain ⟨m, rfl⟩ := Nat.exists_eq_add_of_le' hlength
    refine ⟨m, ⟨(hback m).mp hn, fun i hi hcloses => ?_⟩, hdrop m⟩
    exact hfirst (i + front.length) (Nat.add_lt_add_right hi _) ((hback i).mpr hcloses)
  · rintro ⟨m, ⟨hm, hfirst⟩, rfl⟩
    refine ⟨m + front.length, ⟨(hback m).mpr hm, fun i hi hcloses => ?_⟩, (hdrop m).symm⟩
    have hlength : front.length ≤ i := Nat.le_of_not_lt fun hlt => hfront i hlt hcloses
    obtain ⟨j, rfl⟩ := Nat.exists_eq_add_of_le' hlength
    exact hfirst j (Nat.lt_of_add_lt_add_right hi) ((hback j).mp hcloses)

theorem closesBefore_cons (hquote : c ≠ '"') (hbackslash : c ≠ '\\') :
    ClosesBefore (c :: cs) rest ↔ ClosesBefore cs rest := by
  refine closesBefore_append [c] (fun m hm => ?_) fun m => closes_cons hbackslash
  obtain rfl : m = 0 := Nat.lt_one_iff.mp hm
  exact not_closes_zero hquote

theorem closesBefore_pair : ClosesBefore ('\\' :: c :: cs) rest ↔ ClosesBefore cs rest := by
  refine closesBefore_append ['\\', c] (fun m hm => ?_) fun m => closes_pair
  match m, hm with
  | 0, _ => exact not_closes_zero (by decide)
  | 1, _ => exact not_closes_pair_one

theorem exists_closesBefore (h : ∃ n, Closes cs n) : ∃ rest, ClosesBefore cs rest := by
  classical
  exact ⟨_, Nat.find h, ⟨Nat.find_spec h, fun m hm => Nat.find_min h hm⟩, rfl⟩

end Places

/-- The scanner leaves what stands behind the first place where the text closes. -/
theorem map_snd_scanText_eq_some_iff {cs rest : List Char} :
    (scanText cs).map (·.2) = some rest ↔ ClosesBefore cs rest := by
  induction cs using scanText.induct with
  | case1 => simp [scanText, ClosesBefore, FirstCloses, Closes]
  | case2 cs => simp [scanText, closesBefore_quote, eq_comm]
  | case3 c cs ih => rw [closesBefore_pair, ← ih, scanText, Option.map_map]; rfl
  | case4 c cs hquote hpair ih =>
    by_cases hbackslash : c = '\\'
    · subst hbackslash
      cases cs with
      | nil => simp [scanText, ClosesBefore, FirstCloses, Closes, List.getElem?_singleton]
      | cons d cs => exact absurd rfl (hpair d cs rfl)
    · rw [closesBefore_cons hquote hbackslash, ← ih, scanText_of_ne hquote hbackslash,
        Option.map_map]
      rfl

theorem scanText_eq_none_iff {cs : List Char} : scanText cs = none ↔ ¬ ∃ n, Closes cs n := by
  constructor
  · intro hnone hcloses
    obtain ⟨rest, hrest⟩ := exists_closesBefore hcloses
    have hsome := map_snd_scanText_eq_some_iff.mpr hrest
    rw [hnone] at hsome
    cases hsome
  · intro hcloses
    cases hscan : scanText cs with
    | none => rfl
    | some r =>
      obtain ⟨n, hn, -⟩ := map_snd_scanText_eq_some_iff.mp (congrArg (Option.map (·.2)) hscan)
      exact absurd ⟨n, hn.1⟩ hcloses

theorem scanToken_quote (column : Nat) (cs : List Char) :
    scanToken column '"' cs = match scanText cs with
      | some (content, rest) => .ok (.text (String.ofList content), rest)
      | none => .error (.unterminatedText column) := by
  rfl

end Lexer

open Lexer

/-- A text written between quotes is a formula, and means the text. What starts at any quote ends at
the first quote behind it that is not the second of a pair, and is open if there is none. -/
theorem Expr.parse_quoted :
    (∀ (s : String) (written : List Char), Spells s.toList written →
      Expr.parse (String.ofList ('"' :: written ++ ['"'])) = .ok (.literal (.text s))) ∧
    ∀ (column : Nat) (cs : List Char),
      (∀ rest, (∃ content, scanToken column '"' cs = .ok (.text content, rest)) ↔
        ClosesBefore cs rest) ∧
      (scanToken column '"' cs = .error (.unterminatedText column) ↔ ¬ ∃ n, Closes cs n) := by
  refine ⟨fun s written hspells => ?_, fun column cs => ⟨fun rest => ?_, ?_⟩⟩
  · have htoken : scanToken 0 '"' (written ++ ['"']) = .ok (.text s, []) := by
      rw [scanToken_quote, scanText_of_spells hspells]
      simp only [String.ofList_toList]
    have hscans : Scans ('"' :: written ++ ['"']) [.text s] :=
      .token rfl htoken (.blank rfl)
    have hderives : Derives .disjunction [.text s] (.literal (.text s)) 1 :=
      .of_primary (.literal (.text s))
    refine Expr.parse_of_derives ?_ hderives (by decide)
    rwa [String.toList_ofList]
  · rw [← map_snd_scanText_eq_some_iff, scanToken_quote]
    cases scanText cs with
    | none => simp
    | some r => obtain ⟨content, back⟩ := r; simp
  · rw [← scanText_eq_none_iff, scanToken_quote]
    cases scanText cs with
    | none => simp
    | some r => simp

theorem Expr.parse_quoted_backslash :
    Spells "\\\"\t\n".toList ['\\', '\\', '\\', '"', '\t', '\\', 'n'] ∧
      Expr.parse (String.ofList ['"', '\\', '\\', '\\', '"', '\t', '\\', 'n', '"']) =
        .ok (.literal (.text "\\\"\t\n")) := by
  have hspells : Spells "\\\"\t\n".toList ['\\', '\\', '\\', '"', '\t', '\\', 'n'] :=
    .cons .backslash (.cons .quote (.cons (.raw (by decide) (by decide)) (.cons .newLine .nil)))
  exact ⟨hspells, Expr.parse_quoted.1 _ _ hspells⟩

end FormLogic
