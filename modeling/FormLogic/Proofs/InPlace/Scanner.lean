import FormLogic.Proofs.Formula.Numerals
import FormLogic.Proofs.InPlace.Procedure

/-! The scanner in place. It goes over the text with a cursor that moves by the bytes of the
character under it, and takes lexemes as slices of the text. Every one of its loops advances, and it
finds the tokens and the faults that the scanner of lists finds. -/

namespace FormLogic.InPlace

open Lexer Number Procedure Text

namespace Source

/-- The characters behind the cursor. -/
def behind (s : Source) : Procedure (List Char) := do
  return (← demand (cut? s.chars (← place).pos)).2

def peek (s : Source) : Procedure (Option Char) := do return (← s.behind).head?

def peekSecond (s : Source) : Procedure (Option Char) := do return (← s.behind)[1]?

def bump (s : Source) : Procedure Unit := do
  match ← s.peek with
  | some c => move fun v => { v with pos := v.pos + c.utf8Size }
  | none => pure ()

/-- The text between a byte and the cursor. -/
def lexeme (s : Source) (start : Nat) : Procedure (List Char) := do
  demand (slice? s.chars start (← place).pos)

def column (s : Source) (n : Nat) : Procedure Nat := do
  return (← demand (slice? s.chars 0 n)).length

def skipWhile (s : Source) (p : Char → Bool) : Procedure Unit := do
  match ← s.peek with
  | some c =>
    if p c then
      let before := (← place).pos
      s.bump
      turn before
      s |>.skipWhile p
    else pure ()
  | none => pure ()
partial_fixpoint

def scanText (s : Source) (start : Nat) (content : List Char) : Procedure Token := do
  let before := (← place).pos
  match ← s.peek with
  | none => fault (.unterminatedText (← s.column start))
  | some '"' =>
    s.bump
    return .text (String.ofList content)
  | some '\\' =>
    s.bump
    match ← s.peek with
    | some c =>
      s.bump
      turn before
      s |>.scanText start (content ++ unescape c)
    | none =>
      turn before
      s |>.scanText start content
  | some c =>
    s.bump
    turn before
    s |>.scanText start (content ++ [c])
partial_fixpoint

def scanQuoted (s : Source) : Procedure Token := do
  let start := (← place).pos
  s.bump
  s.scanText start []

def skipFraction (s : Source) : Procedure Bool := do
  if (← s.peek) = some '.' then
    s.bump
    s.skipWhile Char.isDigit
    return true
  else return false

def skipSign (s : Source) : Procedure Unit := do
  match ← s.peek with
  | some '+' => s.bump
  | some '-' => s.bump
  | _ => pure ()

def skipExponent (s : Source) (start : Nat) : Procedure Bool := do
  match ← s.peek with
  | some c =>
    if c = 'e' || c = 'E' then
      s.bump
      s.skipSign
      if (← s.peek).any Char.isDigit then
        s.skipWhile Char.isDigit
        return true
      else fault (.malformedNumber (String.ofList (← s.lexeme start)) (← s.column start))
    else return false
  | none => return false

def refuseName (s : Source) (start : Nat) : Procedure Unit := do
  if (← s.peek).any isNameChar then
    s.skipWhile isNameChar
    fault (.invalidNumber (String.ofList (← s.lexeme start)) (← s.column start))
  else pure ()

def scanNumber (s : Source) : Procedure Token := do
  let start := (← place).pos
  s.skipWhile Char.isDigit
  let hasFraction ← s.skipFraction
  let hasExponent ← s.skipExponent start
  s.refuseName start
  let lexeme ← s.lexeme start
  if hasFraction || hasExponent then
    -- there is always a double to a lexeme with a point or an exponent
    return .float (← demand (readFloat? (String.ofList lexeme)))
  else
    match fit? (digitsValue lexeme) with
    | some n => return .integer n
    | none => fault (.integerOutOfRange (String.ofList lexeme))

def scanWord (s : Source) : Procedure Token := do
  let start := (← place).pos
  s.skipWhile isNameChar
  return wordToken (String.ofList (← s.lexeme start))

def unexpected (s : Source) (c : Char) (hint : Option String) : Procedure Token := do
  fault (.unexpectedCharacter c (← s.column (← place).start) hint)

def single (s : Source) (t : Token) : Procedure Token := do
  s.bump
  return t

/-- A token of two characters, or what the first one is without the second. -/
def double (s : Source) (second : Char) (long : Token) (short : Procedure Token) :
    Procedure Token := do
  s.bump
  if (← s.peek) = some second then
    s.bump
    return long
  else short

def scanFrom (s : Source) (c : Char) : Procedure Token := do
  match c with
  | '+' => s.single .plus
  | '-' => s.single .minus
  | '/' => s.single .slash
  | '%' => s.single .percent
  | ',' => s.single .comma
  | '(' => s.single .leftParen
  | ')' => s.single .rightParen
  | '*' => s.double '*' .doubleStar (pure .star)
  | '<' => s.double '=' .lessEqual (pure .less)
  | '>' => s.double '=' .greaterEqual (pure .greater)
  | '=' => s.double '=' .equal (s.unexpected '=' (some "did you mean '=='?"))
  | '!' => s.double '=' .notEqual (s.unexpected '!' (some "did you mean '!=' or 'not'?"))
  | '"' => s.scanQuoted
  | c =>
    if c.isDigit || c = '.' && (← s.peekSecond).any Char.isDigit then s.scanNumber
    else if c.isAlpha || c = '_' then s.scanWord
    else s.unexpected c none

def scanToken (s : Source) : Procedure (Option Token) := do
  match ← s.peek with
  | some c => return some (← s.scanFrom c)
  | none => return none

def advanceToken (s : Source) : Procedure Unit := do
  s.skipWhile isBlank
  move fun v => { v with start := v.pos }
  let token ← s.scanToken
  move fun v => { v with token := token }

end Source

/-- A scan that found the token and the rest that were to be found, and stands before that rest; or
the fault that was. -/
def Scanned {α : Type} (v : Place) (cs : List Char) (o : Except SyntaxError (α × List Char)) :
    Except SyntaxError α → Place → Prop := fun r w =>
  match o with
  | .ok (a, back) => r = .ok a ∧ ∃ used, cs = used ++ back ∧ w = v.skip used
  | .error e => r = .error e ∧ w.depth = v.depth

theorem Scanned.of_skip {α : Type} {v w : Place} {used cs : List Char}
    {o : Except SyntaxError (α × List Char)} {r : Except SyntaxError α}
    (h : Scanned (v.skip used) cs o r w) : Scanned v (used ++ cs) o r w := by
  cases o with
  | error e => exact h
  | ok a =>
    obtain ⟨hr, more, rfl, rfl⟩ := h
    exact ⟨hr, used ++ more, (List.append_assoc ..).symm, Place.skip_skip v used more⟩

theorem meets_map_scanned {α β : Type} {p : Procedure α} {v : Place} {cs : List Char}
    {o : Except SyntaxError (α × List Char)} (g : α → β) (h : Meets p v (Scanned v cs o)) :
    Meets (do return g (← p)) v (Scanned v cs (o.map fun a => (g a.1, a.2))) := by
  cases o with
  | error e => exact h.bind_fault fun hw => ⟨rfl, hw⟩
  | ok a => exact h.bind_result fun hw => meets_pure ⟨rfl, hw⟩

variable {s : Source} {v : Place} {c : Char} {cs used : List Char}

theorem Source.CutAt.skip (h : s.CutAt v.pos (used ++ cs)) : s.CutAt (v.skip used).pos cs :=
  h.append

theorem Source.CutAt.bump (h : s.CutAt v.pos (c :: cs)) : s.CutAt (v.skip [c]).pos cs := h.cons

theorem Place.pos_lt_skip (v : Place) (c : Char) (cs : List Char) :
    v.pos < (v.skip (c :: cs)).pos := by
  have := c.utf8Size_pos
  simp only [skip_pos, bytes_cons]
  omega

section Cursor

theorem yields_behind (h : s.CutAt v.pos cs) : Yields s.behind v cs v := by
  obtain ⟨front, hcut⟩ := h.cut?
  exact (yields_place v).bind ((yields_demand hcut v).bind (yields_pure cs v))

theorem yields_peek (h : s.CutAt v.pos cs) : Yields s.peek v cs.head? v :=
  (yields_behind h).bind (yields_pure _ v)

theorem yields_peekSecond (h : s.CutAt v.pos cs) : Yields s.peekSecond v cs[1]? v :=
  (yields_behind h).bind (yields_pure _ v)

theorem yields_bump (h : s.CutAt v.pos (c :: cs)) : Yields s.bump v () (v.skip [c]) :=
  (yields_peek h).bind (yields_move _ v)

theorem yields_lexeme (h : s.CutAt v.pos (used ++ cs)) :
    Yields (s.lexeme v.pos) (v.skip used) used (v.skip used) :=
  (yields_place _).bind (yields_demand h.slice? _)

theorem yields_column {n : Nat} (h : s.CutAt n cs) :
    Yields (s.column n) v (s.chars.length - cs.length) v := by
  obtain ⟨front, hslice, hlength⟩ := h.column
  exact (yields_demand hslice v).bind (hlength ▸ yields_pure _ v)

theorem yields_skipWhile (p : Char → Bool) (h : s.CutAt v.pos cs) :
    Yields (s.skipWhile p) v () (v.skip (cs.takeWhile p)) := by
  induction cs generalizing v with
  | nil =>
    rw [Source.skipWhile]
    exact (yields_peek h).bind (yields_pure () v)
  | cons c cs ih =>
    rw [Source.skipWhile]
    refine (yields_peek h).bind ?_
    by_cases hc : p c = true
    · simp only [List.head?_cons, hc, if_true, List.takeWhile_cons_of_pos hc]
      have hloop := ih h.bump
      rw [Place.skip_skip] at hloop
      exact (yields_place v).bind ((yields_bump h).bind
        ((yields_turn (v.pos_lt_skip c [])).bind hloop))
    · simp only [List.head?_cons, hc, List.takeWhile_cons_of_neg hc]
      exact yields_pure () v

end Cursor

section ScanText

/-- A text whose content so far goes on with what the scanner of lists finds. -/
def textFrom (column : Nat) (content cs : List Char) : Except SyntaxError (Token × List Char) :=
  match Lexer.scanText cs with
  | some (more, back) => .ok (.text (String.ofList (content ++ more)), back)
  | none => .error (.unterminatedText column)

theorem textFrom_of_step {column : Nat} {content more cs ds : List Char}
    (h : Lexer.scanText cs = (Lexer.scanText ds).map fun r => (more ++ r.1, r.2)) :
    textFrom column content cs = textFrom column (content ++ more) ds := by
  unfold textFrom
  rw [h]
  cases Lexer.scanText ds with
  | none => rfl
  | some r => simp only [Option.map_some, List.append_assoc]

/-- The loop ends with the text or its quote. A backslash that ends the text takes a turn of its
own, with nothing behind it. -/
theorem meets_scanText {start : Nat} {content quoted : List Char} (hstart : s.CutAt start quoted)
    (h : s.CutAt v.pos cs) :
    Meets (s.scanText start content) v
      (Scanned v cs (textFrom (s.chars.length - quoted.length) content cs)) := by
  induction cs using Lexer.scanText.induct generalizing v content with
  | case1 =>
    rw [Source.scanText]
    refine (yields_place v).bind ((yields_peek h).bind ?_)
    exact (yields_column hstart).bind (meets_fault ⟨rfl, rfl⟩)
  | case2 rest =>
    rw [Source.scanText]
    refine (yields_place v).bind ((yields_peek h).bind ?_)
    refine (yields_bump h).bind (meets_pure ⟨?_, ['"'], rfl, rfl⟩)
    rw [List.append_nil]
  | case3 c rest ih =>
    rw [Source.scanText, textFrom_of_step rfl]
    refine (yields_place v).bind ((yields_peek h).bind ?_)
    refine (yields_bump h).bind ((yields_peek h.bump).bind ?_)
    have hcut : s.CutAt (v.skip ['\\', c]).pos rest := h.skip
    have hloop : Meets (s.scanText start (content ++ unescape c)) (v.skip ['\\', c]) _ :=
      (ih hcut).mono Scanned.of_skip
    refine (yields_bump h.bump).bind ?_
    rw [Place.skip_skip]
    exact (yields_turn (v.pos_lt_skip _ _)).bind hloop
  | case4 c rest hquote hescape ih =>
    have hstep : Lexer.scanText (c :: rest) =
        (Lexer.scanText rest).map fun r => ([c] ++ r.1, r.2) := by
      rw [Lexer.scanText]
      · rfl
      · exact hquote
      · exact hescape
    have hloop : ∀ content, Meets (s.scanText start content) (v.skip [c]) _ := fun content =>
      (ih h.bump).mono Scanned.of_skip
    have hturn := yields_turn (v.pos_lt_skip c [])
    rw [Source.scanText, textFrom_of_step hstep]
    refine (yields_place v).bind ((yields_peek h).bind ?_)
    rw [List.head?_cons]
    split
    · next hnone => cases hnone
    · next hsome => exact absurd (Option.some.inj hsome) hquote
    · next hsome =>
      obtain rfl := Option.some.inj hsome
      obtain rfl : rest = [] := by
        cases rest with
        | nil => rfl
        | cons d rest => exact absurd rfl (hescape d rest rfl)
      exact (yields_bump h).bind ((yields_peek h.bump).bind (hturn.bind (hloop content)))
    · next d hquote' hescape' hsome =>
      obtain rfl := Option.some.inj hsome
      exact (yields_bump h).bind (hturn.bind (hloop (content ++ [c])))

theorem meets_scanQuoted (h : s.CutAt v.pos ('"' :: cs)) :
    Meets s.scanQuoted v
      (Scanned v ('"' :: cs) (textFrom (s.chars.length - (cs.length + 1)) [] cs)) :=
  (yields_place v).bind ((yields_bump h).bind
    ((meets_scanText h h.bump).mono fun hscan => Scanned.of_skip hscan))

end ScanText

section ScanNumber

theorem yields_skipFraction (h : s.CutAt v.pos cs) :
    Yields s.skipFraction v (!(splitFraction cs).1.isEmpty) (v.skip (splitFraction cs).1) := by
  refine (yields_peek h).bind ?_
  fun_cases splitFraction cs with
  | case1 rest =>
    have hdigits := yields_skipWhile Char.isDigit h.bump
    rw [Place.skip_skip] at hdigits
    exact (yields_bump h).bind (hdigits.bind (yields_pure true _))
  | case2 _ hpoint =>
    have hhead : cs.head? ≠ some '.' := by
      intro hhead
      obtain ⟨rest, rfl⟩ := List.head?_eq_some_iff.mp hhead
      exact hpoint rest rfl
    rw [if_neg hhead]
    exact yields_pure false v

theorem yields_skipSign (h : s.CutAt v.pos cs) :
    Yields s.skipSign v () (v.skip (splitSign cs).1) := by
  refine (yields_peek h).bind ?_
  fun_cases splitSign cs with
  | case1 rest => exact yields_bump h
  | case2 rest => exact yields_bump h
  | case3 _ hplus hminus =>
    split
    · next hhead =>
      obtain ⟨rest, rfl⟩ := List.head?_eq_some_iff.mp hhead
      exact absurd rfl (hplus rest)
    · next hhead =>
      obtain ⟨rest, rfl⟩ := List.head?_eq_some_iff.mp hhead
      exact absurd rfl (hminus rest)
    · exact yields_pure () v

theorem any_head?_iff (p : Char → Bool) (cs : List Char) :
    cs.head?.any p = !(cs.takeWhile p).isEmpty := by
  cases cs with
  | nil => rfl
  | cons c cs => cases hc : p c <;> simp [hc]

theorem meets_skipExponent (h : s.CutAt v.pos (used ++ cs)) {mark power rest : List Char}
    (hsplit : splitExponent cs = (mark, power, rest)) :
    Meets (s.skipExponent v.pos) (v.skip used) fun r w =>
      if !mark.isEmpty && power.isEmpty then
        r = .error (.malformedNumber (String.ofList (used ++ mark))
          (s.chars.length - (used ++ cs).length)) ∧ w.depth = v.depth
      else r = .ok (!mark.isEmpty) ∧ w = v.skip (used ++ mark ++ power) := by
  refine (yields_peek h.skip).bind ?_
  fun_cases splitExponent cs with
  | case1 =>
    obtain ⟨rfl, rfl, -⟩ : mark = [] ∧ power = [] ∧ rest = [] := by
      simpa [splitExponent, eq_comm] using hsplit
    exact meets_pure ⟨rfl, by simp⟩
  | case2 c more hc sign behind hsign =>
    obtain ⟨rfl, rfl, -⟩ : mark = c :: sign ∧ power = behind.takeWhile Char.isDigit ∧
        rest = behind.dropWhile Char.isDigit := by
      simpa [splitExponent, hc, hsign, eq_comm] using hsplit
    obtain rfl : sign ++ behind = more := by
      have happend := append_splitSign more
      rwa [hsign] at happend
    have hcut : s.CutAt v.pos ((used ++ c :: sign) ++ behind) := by
      simpa using h
    have hskip := yields_skipSign h.skip.bump
    rw [hsign] at hskip
    simp only [Place.skip_skip, List.append_assoc, List.singleton_append] at hskip
    simp only [List.head?_cons, hc, if_true]
    refine (yields_bump h.skip).bind ?_
    rw [Place.skip_skip]
    refine hskip.bind ((yields_peek hcut.skip).bind ?_)
    rw [any_head?_iff]
    split
    · next hdigits =>
      have hpower := yields_skipWhile Char.isDigit hcut.skip
      rw [Place.skip_skip] at hpower
      refine hpower.bind (meets_pure ?_)
      rw [if_neg (by simpa using hdigits)]
      exact ⟨rfl, rfl⟩
    · next hdigits =>
      refine (yields_lexeme hcut).bind ((yields_column h).bind (meets_fault ?_))
      rw [if_pos (by simpa using hdigits)]
      exact ⟨rfl, rfl⟩
  | case3 c more hc =>
    obtain ⟨rfl, rfl, -⟩ : mark = [] ∧ power = [] ∧ rest = c :: more := by
      simpa [splitExponent, hc, eq_comm] using hsplit
    simp only [List.head?_cons, hc]
    exact meets_pure ⟨rfl, by simp⟩

theorem meets_refuseName (h : s.CutAt v.pos (used ++ cs)) :
    Meets (s.refuseName v.pos) (v.skip used) fun r w =>
      if !(cs.takeWhile isNameChar).isEmpty then
        r = .error (.invalidNumber (String.ofList (used ++ cs.takeWhile isNameChar))
          (s.chars.length - (used ++ cs).length)) ∧ w.depth = v.depth
      else r = .ok () ∧ w = v.skip used := by
  refine (yields_peek h.skip).bind ?_
  rw [any_head?_iff]
  split
  · have hname := yields_skipWhile isNameChar h.skip
    rw [Place.skip_skip] at hname
    have hcut : s.CutAt v.pos
        ((used ++ cs.takeWhile isNameChar) ++ cs.dropWhile isNameChar) := by
      rwa [List.append_assoc, List.takeWhile_append_dropWhile]
    exact hname.bind ((yields_lexeme hcut).bind ((yields_column h).bind (meets_fault ⟨rfl, rfl⟩)))
  · exact meets_pure ⟨rfl, rfl⟩

theorem meets_scanNumber (h : s.CutAt v.pos (c :: cs)) (hstart : startsNumber c cs = true) :
    Meets s.scanNumber v
      (Scanned v (c :: cs) (Lexer.scanNumber (s.chars.length - (cs.length + 1)) (c :: cs))) := by
  obtain ⟨fraction, behind, hfraction⟩ :
      ∃ fraction behind, splitFraction ((c :: cs).dropWhile Char.isDigit) = (fraction, behind) :=
    ⟨_, _, rfl⟩
  obtain ⟨mark, power, rest, hexponent⟩ :
      ∃ mark power rest, splitExponent behind = (mark, power, rest) := ⟨_, _, _, rfl⟩
  have hparts := readFloat?_parts hstart rfl hfraction hexponent
  have hwhole := yields_skipWhile Char.isDigit h
  have hsplit : s.CutAt v.pos
      ((c :: cs).takeWhile Char.isDigit ++ (c :: cs).dropWhile Char.isDigit) := by
    rwa [List.takeWhile_append_dropWhile]
  have hpoint := yields_skipFraction hsplit.skip
  have hchars : (c :: cs).takeWhile Char.isDigit ++ fraction ++ behind = c :: cs := by
    have happend := append_splitFraction ((c :: cs).dropWhile Char.isDigit)
    rw [hfraction] at happend
    rw [List.append_assoc, happend, List.takeWhile_append_dropWhile]
  rw [hfraction, Place.skip_skip] at hpoint
  simp only [Lexer.scanNumber, hfraction, hexponent]
  generalize (c :: cs).takeWhile Char.isDigit = whole at hparts hwhole hpoint hchars ⊢
  have hmark := meets_skipExponent (hchars.symm ▸ h : s.CutAt v.pos (whole ++ fraction ++ behind))
    hexponent
  refine (yields_place v).bind (hwhole.bind (hpoint.bind ?_))
  rw [hchars] at hmark
  by_cases hmalformed : (!mark.isEmpty && power.isEmpty) = true
  · simp only [hmalformed, if_true] at hmark ⊢
    obtain rfl : power = [] := by simpa using (Bool.and_eq_true_iff.mp hmalformed).2
    rw [List.append_nil]
    exact hmark.bind_fault fun hw => ⟨rfl, hw⟩
  · simp only [hmalformed] at hmark ⊢
    have hlexeme : whole ++ fraction ++ mark ++ power ++ rest = c :: cs := by
      have happend := append_splitExponent behind
      rw [hexponent] at happend
      rw [List.append_assoc, List.append_assoc, ← List.append_assoc mark, happend, hchars]
    have hcut : s.CutAt v.pos (whole ++ fraction ++ mark ++ power ++ rest) := hlexeme.symm ▸ h
    have hname := meets_refuseName hcut
    rw [hlexeme] at hname
    refine Yields.bind hmark ?_
    by_cases htail : (!(rest.takeWhile isNameChar).isEmpty) = true
    · simp only [htail, if_true] at hname ⊢
      exact hname.bind_fault fun hw => ⟨rfl, hw⟩
    · simp only [htail] at hname ⊢
      refine Yields.bind hname ((yields_lexeme hcut).bind ?_)
      by_cases hinteger : (fraction.isEmpty && mark.isEmpty) = true
      · obtain ⟨rfl, rfl⟩ : fraction = [] ∧ mark = [] := by simpa using hinteger
        obtain rfl := splitExponent_digits hexponent rfl
        simp only [List.append_nil] at hlexeme ⊢
        cases hfit : fit? (digitsValue whole) with
        | some n => exact meets_pure ⟨rfl, whole, hlexeme.symm, rfl⟩
        | none => exact meets_fault ⟨rfl, rfl⟩
      · have hfloat : (!fraction.isEmpty || !mark.isEmpty) = true := by
          simpa [Decidable.imp_iff_not_or] using hinteger
        rw [if_pos hfloat, if_neg hinteger]
        have hdigits : mark = [] ∨ power ≠ [] := by
          simpa [← Decidable.not_imp_iff_and_not, Decidable.imp_iff_not_or] using hmalformed
        exact (yields_demand (hparts hdigits) _).bind (meets_pure ⟨rfl, _, hlexeme.symm, rfl⟩)

end ScanNumber

section ScanToken

theorem meets_scanWord (h : s.CutAt v.pos (c :: cs)) (hc : isNameChar c = true) :
    Meets s.scanWord v (Scanned v (c :: cs)
      (.ok (wordToken (String.ofList (c :: cs.takeWhile isNameChar)),
        cs.dropWhile isNameChar))) := by
  have hskip := yields_skipWhile isNameChar h
  rw [List.takeWhile_cons_of_pos hc] at hskip
  have hsplit : c :: cs = c :: cs.takeWhile isNameChar ++ cs.dropWhile isNameChar := by
    rw [List.cons_append, List.takeWhile_append_dropWhile]
  exact (yields_place v).bind (hskip.bind ((yields_lexeme (hsplit ▸ h)).bind
    (meets_pure ⟨rfl, _, hsplit, rfl⟩)))

theorem meets_unexpected {back : List Char} (hstart : s.CutAt v.start back) (hint : Option String) :
    Meets (s.unexpected c hint) v fun r w =>
      r = .error (.unexpectedCharacter c (s.chars.length - back.length) hint) ∧
        w.depth = v.depth :=
  (yields_place v).bind ((yields_column hstart).bind (meets_fault ⟨rfl, rfl⟩))

theorem meets_single (h : s.CutAt v.pos (c :: cs)) (t : Token) :
    Meets (s.single t) v (Scanned v (c :: cs) (.ok (t, cs))) :=
  (yields_bump h).bind (meets_pure ⟨rfl, [c], rfl, rfl⟩)

/-- A token of two characters, once for both ways to go on behind the first. -/
theorem meets_double (h : s.CutAt v.pos (c :: cs)) {second : Char} {long : Token}
    {short : Procedure Token} {o : Except SyntaxError (Token × List Char)}
    (hlong : ∀ rest, cs = second :: rest → o = .ok (long, rest))
    (hshort : (∀ rest, cs = second :: rest → False) →
      Meets short (v.skip [c]) (Scanned v (c :: cs) o)) :
    Meets (s.double second long short) v (Scanned v (c :: cs) o) := by
  refine (yields_bump h).bind ((yields_peek h.bump).bind ?_)
  split
  · next hhead =>
    obtain ⟨rest, rfl⟩ := List.head?_eq_some_iff.mp hhead
    have hcut : s.CutAt (v.skip [c]).pos (second :: rest) := h.bump
    rw [hlong rest rfl]
    refine (yields_bump hcut).bind (meets_pure ⟨rfl, [c, second], rfl, ?_⟩)
    rw [Place.skip_skip]
    rfl
  · next hhead => exact hshort fun rest heq => hhead (heq ▸ rfl)

theorem meets_doubleOrSingle (h : s.CutAt v.pos (c :: cs)) {second : Char} {long short : Token}
    {o : Except SyntaxError (Token × List Char)}
    (hlong : ∀ rest, cs = second :: rest → o = .ok (long, rest))
    (hshort : (∀ rest, cs = second :: rest → False) → o = .ok (short, cs)) :
    Meets (s.double second long (pure short)) v (Scanned v (c :: cs) o) := by
  refine meets_double h hlong fun hother => ?_
  rw [hshort hother]
  exact meets_pure ⟨rfl, [c], rfl, rfl⟩

/-- What stands at the cursor is scanned as by the scanner of lists. The cases are those of the
first character. -/
theorem meets_scanFrom (h : s.CutAt v.pos (c :: cs)) (hstart : v.start = v.pos) :
    Meets (s.scanFrom c) v (Scanned v (c :: cs)
      (Lexer.scanToken (s.chars.length - (cs.length + 1)) c cs)) := by
  have hunexpected : ∀ {w : Place} (hint : Option String), w.start = v.start → w.depth = v.depth →
      Meets (s.unexpected c hint) w (Scanned v (c :: cs)
        (.error (.unexpectedCharacter c (s.chars.length - (cs.length + 1)) hint))) := by
    intro w hint hw hdepth
    have hcut : s.CutAt w.start (c :: cs) := by rwa [hw, hstart]
    exact (meets_unexpected hcut hint).mono fun hr => ⟨hr.1, hr.2.trans hdepth⟩
  unfold Source.scanFrom
  split
  · exact meets_single h .plus
  · exact meets_single h .minus
  · exact meets_single h .slash
  · exact meets_single h .percent
  · exact meets_single h .comma
  · exact meets_single h .leftParen
  · exact meets_single h .rightParen
  · refine meets_doubleOrSingle h (by rintro rest rfl; rfl) fun hother => ?_
    rw [Lexer.scanToken]
    exact hother
  · refine meets_doubleOrSingle h (by rintro rest rfl; rfl) fun hother => ?_
    rw [Lexer.scanToken]
    exact hother
  · refine meets_doubleOrSingle h (by rintro rest rfl; rfl) fun hother => ?_
    rw [Lexer.scanToken]
    exact hother
  · refine meets_double h (by rintro rest rfl; rfl) fun hother => ?_
    rw [Lexer.scanToken]
    · exact hunexpected _ rfl rfl
    · exact hother
  · refine meets_double h (by rintro rest rfl; rfl) fun hother => ?_
    rw [Lexer.scanToken]
    · exact hunexpected _ rfl rfl
    · exact hother
  · exact meets_scanQuoted h
  · have hnumber : (c.isDigit || decide (c = '.') && (c :: cs)[1]?.any Char.isDigit) =
        startsNumber c cs := by
      cases cs <;> rfl
    rw [Lexer.scanToken]
    · refine (yields_peekSecond h).bind ?_
      rw [hnumber]
      by_cases hstarts : startsNumber c cs = true
      · rw [if_pos hstarts, if_pos hstarts]
        exact meets_scanNumber h hstarts
      · rw [if_neg hstarts, if_neg hstarts]
        by_cases hword : (c.isAlpha || decide (c = '_')) = true
        · rw [if_pos hword, if_pos hword]
          refine meets_scanWord h ?_
          simp only [Bool.or_eq_true, isNameChar, Char.isAlphanum] at hword ⊢
          exact hword.imp_left .inl
        · rw [if_neg hword, if_neg hword]
          exact hunexpected none rfl rfl
    all_goals first
      | assumption
      | intro rest hc; contradiction

theorem meets_scanToken (h : s.CutAt v.pos cs) (hstart : v.start = v.pos) :
    Meets s.scanToken v fun r w =>
      match cs with
      | [] => r = .ok none ∧ w = v
      | c :: rest => Scanned v cs ((Lexer.scanToken (s.chars.length - (rest.length + 1)) c rest).map
          fun a => (some a.1, a.2)) r w := by
  refine (yields_peek h).bind ?_
  cases cs with
  | nil => exact meets_pure ⟨rfl, rfl⟩
  | cons c rest =>
    exact meets_map_scanned some (meets_scanFrom h hstart)

end ScanToken

end FormLogic.InPlace
