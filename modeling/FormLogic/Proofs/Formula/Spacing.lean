import FormLogic.Proofs.Formula.Numerals
import FormLogic.Proofs.Formula.TextLiterals

/-! White space between tokens. No token reads farther than to the character behind it, and a blank
there ends it, so blanks put in before, between and after tokens change no tree. -/

namespace FormLogic

open Grammar Number Text

namespace Lexer

/-- Whether characters can stand behind a token in the place of others: they start with a blank, or
as those do, or there are none. -/
def Follows (cs ds : List Char) : Prop := ∀ d ∈ ds.head?, isBlank d = true ∨ d ∈ cs.head?

/-- Whether a class of characters leaves out the blanks. -/
def NoBlank (p : Char → Bool) : Prop := ∀ c, isBlank c = true → p c = false

theorem toNat_of_isNameChar {c : Char} (h : isNameChar c = true) :
    48 ≤ c.toNat ∧ c.toNat ≤ 122 := by
  change (((decide (65 ≤ c.val ∧ c.val ≤ 90) ||
    (decide (97 ≤ c.val) && decide (c.val ≤ 122))) ||
    (decide (48 ≤ c.val) && decide (c.val ≤ 57))) || decide (c = '_')) = true at h
  simp only [Bool.or_eq_true, Bool.and_eq_true, decide_eq_true_eq, UInt32.le_iff_toNat_le] at h
  change ((((65 ≤ c.toNat ∧ c.toNat ≤ 90) ∨ (97 ≤ c.toNat ∧ c.toNat ≤ 122)) ∨
    (48 ≤ c.toNat ∧ c.toNat ≤ 57)) ∨ c = '_') at h
  rcases h with ((h | h) | h) | rfl
  · omega
  · omega
  · omega
  · decide

theorem noBlank_isNameChar : NoBlank isNameChar := by
  intro c hblank
  by_contra hname
  have hc := toNat_of_isNameChar (Bool.of_not_eq_false hname)
  obtain ⟨r, hr, hlow, hhigh⟩ := (CodeRanges.covers_iff _ _).mp hblank
  have hranges : ∀ r ∈ blankRanges, r.2 < 48 ∨ 122 < r.1 := by decide
  have := hranges r hr
  omega

theorem noBlank_isDigit : NoBlank Char.isDigit := fun c hblank => by
  have hname := noBlank_isNameChar c hblank
  simp only [isNameChar, Char.isAlphanum, Bool.or_eq_false_iff] at hname
  exact hname.1.2

namespace Follows

variable {cs ds : List Char}

theorem append_left (h : Follows cs ds) (front : List Char) :
    Follows (front ++ cs) (front ++ ds) := by
  cases front with
  | nil => exact h
  | cons c front => exact fun d hd => .inr hd

theorem head_eq_false (h : Follows cs ds) {p : Char → Bool} (hp : NoBlank p)
    (hcs : ∀ c ∈ cs.head?, p c = false) : ∀ d ∈ ds.head?, p d = false := fun d hd =>
  (h d hd).elim (hp d) (hcs d)

theorem ne_cons (h : Follows cs ds) {c : Char} (hblank : isBlank c = false)
    (hcs : ∀ rest, cs = c :: rest → False) : ∀ rest, ds = c :: rest → False := by
  rintro rest rfl
  rcases h c rfl with hc | hc
  · exact absurd hc (by simp [hblank])
  · obtain ⟨rest, rfl⟩ := List.head?_eq_some_iff.mp hc
    exact hcs rest rfl

end Follows

section Run

variable {p : Char → Bool} {cs ds : List Char}

theorem head_dropWhile (p : Char → Bool) (cs : List Char) :
    ∀ c ∈ (cs.dropWhile p).head?, p c = false := fun c hc => by
  have := List.head?_dropWhile_not p cs
  simp_all

theorem takeWhile_follows (hp : NoBlank p) (h : Follows (cs.dropWhile p) ds) :
    (cs.takeWhile p ++ ds).takeWhile p = cs.takeWhile p := by
  have hds := h.head_eq_false hp (head_dropWhile p cs)
  rw [List.takeWhile_append_of_pos (List.all_eq_true.mp List.all_takeWhile)]
  cases ds with
  | nil => simp
  | cons d ds => simp [hds d rfl]

theorem dropWhile_follows (hp : NoBlank p) (h : Follows (cs.dropWhile p) ds) :
    (cs.takeWhile p ++ ds).dropWhile p = ds := by
  have hds := h.head_eq_false hp (head_dropWhile p cs)
  rw [List.dropWhile_append_of_pos (List.all_eq_true.mp List.all_takeWhile)]
  cases ds with
  | nil => rfl
  | cons d ds => simp [hds d rfl]

end Run

section Number

variable {cs ds : List Char}

theorem splitFraction_of_ne {cs : List Char} (h : ∀ rest, cs = '.' :: rest → False) :
    splitFraction cs = ([], cs) := by
  rw [splitFraction]
  exact h

theorem splitFraction_follows (h : Follows (splitFraction cs).2 ds) :
    splitFraction ((splitFraction cs).1 ++ ds) = ((splitFraction cs).1, ds) := by
  by_cases hpoint : ∃ rest, cs = '.' :: rest
  · obtain ⟨rest, rfl⟩ := hpoint
    have hrest : Follows (rest.dropWhile Char.isDigit) ds := h
    simp only [splitFraction, List.cons_append, takeWhile_follows noBlank_isDigit hrest,
      dropWhile_follows noBlank_isDigit hrest]
  · have hne : ∀ rest, cs = '.' :: rest → False := fun rest heq => hpoint ⟨rest, heq⟩
    rw [splitFraction_of_ne hne] at h ⊢
    exact splitFraction_of_ne (h.ne_cons (by decide) hne)

/-- The letters that mark an exponent. -/
def isMark (c : Char) : Bool := c = 'e' || c = 'E'

theorem noBlank_isMark : NoBlank isMark := by
  intro c hblank
  by_contra hmark
  simp only [isMark, Bool.not_eq_false, Bool.or_eq_true, decide_eq_true_eq] at hmark
  rcases hmark with rfl | rfl <;> cases hblank

theorem splitExponent_mark {c : Char} (hc : isMark c = true) (cs : List Char) :
    splitExponent (c :: cs) = (c :: (splitSign cs).1, (splitSign cs).2.takeWhile Char.isDigit,
      (splitSign cs).2.dropWhile Char.isDigit) := if_pos hc

theorem splitExponent_of_head {cs : List Char} (h : ∀ c ∈ cs.head?, isMark c = false) :
    splitExponent cs = ([], [], cs) := by
  cases cs with
  | nil => rfl
  | cons c cs => exact if_neg (Bool.eq_false_iff.mp (h c rfl))

theorem splitSign_of_isDigit {d : Char} (hd : d.isDigit = true) (cs : List Char) :
    splitSign (d :: cs) = ([], d :: cs) := by
  rw [splitSign]
  · rintro rest heq
    obtain rfl := (List.cons.inj heq).1
    cases hd
  · rintro rest heq
    obtain rfl := (List.cons.inj heq).1
    cases hd

theorem splitSign_append {digits : List Char} (hne : digits ≠ [])
    (hdigits : ∀ c ∈ digits, c.isDigit = true) :
    splitSign ((splitSign cs).1 ++ (digits ++ ds)) = ((splitSign cs).1, digits ++ ds) := by
  obtain ⟨d, digits, rfl⟩ := List.exists_cons_of_ne_nil hne
  rcases splitSign_cases cs with hsign | hsign | hsign
  · rw [hsign]
    exact splitSign_of_isDigit (hdigits d List.mem_cons_self) _
  · rw [hsign]
    rfl
  · rw [hsign]
    rfl

theorem splitExponent_follows (hdigits : (splitExponent cs).1 = [] ∨ (splitExponent cs).2.1 ≠ [])
    (h : Follows (splitExponent cs).2.2 ds) :
    splitExponent ((splitExponent cs).1 ++ ((splitExponent cs).2.1 ++ ds)) =
      ((splitExponent cs).1, (splitExponent cs).2.1, ds) := by
  by_cases hmark : ∀ c ∈ cs.head?, isMark c = false
  · rw [splitExponent_of_head hmark] at h ⊢
    exact splitExponent_of_head (h.head_eq_false noBlank_isMark hmark)
  · obtain ⟨c, rest, rfl, hc⟩ : ∃ c rest, cs = c :: rest ∧ isMark c = true := by
      cases cs with
      | nil => simp at hmark
      | cons c rest => exact ⟨c, rest, rfl, by simpa using hmark⟩
    rw [splitExponent_mark hc] at hdigits h ⊢
    have hne := hdigits.resolve_left (List.cons_ne_nil _ _)
    dsimp only at hne h ⊢
    rw [List.cons_append, splitExponent_mark hc,
      splitSign_append hne (isDigit_of_mem_takeWhile _)]
    dsimp only
    rw [takeWhile_follows noBlank_isDigit h, dropWhile_follows noBlank_isDigit h]

/-- Characters cut into the parts of a number and what stands behind it. -/
structure Cut (cs whole fraction mark power back : List Char) : Prop where
  whole : cs.takeWhile Char.isDigit = whole
  fraction : splitFraction (cs.dropWhile Char.isDigit) = (fraction, mark ++ (power ++ back))
  exponent : splitExponent (mark ++ (power ++ back)) = (mark, power, back)

/-- The token that a number is by its parts; none if it is an integer out of range. -/
def numberToken? (whole fraction mark power : List Char) : Option Token :=
  if fraction.isEmpty && mark.isEmpty then (fit? (digitsValue whole)).map .integer
  else
    let exponent : Int :=
      if mark.getLast? = some '-' then -(digitsValue power : Int) else digitsValue power
    some (.float ((Decimal.ofParts whole (fraction.drop 1) exponent).toFloat false))

section Cut

variable {whole fraction mark power back : List Char}

theorem Cut.dropWhile_eq (h : Cut cs whole fraction mark power back) :
    cs.dropWhile Char.isDigit = fraction ++ (mark ++ (power ++ back)) := by
  have hcut := append_splitFraction (cs.dropWhile Char.isDigit)
  rw [h.fraction] at hcut
  exact hcut.symm

theorem Cut.eq_append (h : Cut cs whole fraction mark power back) :
    cs = whole ++ (fraction ++ (mark ++ (power ++ back))) := by
  rw [← h.whole, ← h.dropWhile_eq, List.takeWhile_append_dropWhile]

theorem Cut.follows (h : Cut cs whole fraction mark power back) (hdigits : mark = [] ∨ power ≠ [])
    (hds : Follows back ds) :
    Cut (whole ++ (fraction ++ (mark ++ (power ++ ds)))) whole fraction mark power ds := by
  have hrest : Follows (mark ++ (power ++ back)) (mark ++ (power ++ ds)) :=
    (hds.append_left power).append_left mark
  have hdrop : Follows (cs.dropWhile Char.isDigit) (fraction ++ (mark ++ (power ++ ds))) :=
    h.dropWhile_eq ▸ hrest.append_left fraction
  have hfraction := @splitFraction_follows (cs.dropWhile Char.isDigit) (mark ++ (power ++ ds))
  have hexponent := @splitExponent_follows (mark ++ (power ++ back)) ds
  rw [h.fraction] at hfraction
  rw [h.exponent] at hexponent
  refine ⟨?_, ?_, hexponent hdigits hds⟩
  · rw [← h.whole, takeWhile_follows noBlank_isDigit hdrop]
  · rw [← h.whole, dropWhile_follows noBlank_isDigit hdrop]
    exact hfraction hrest

theorem exists_cut (cs : List Char) :
    ∃ whole fraction mark power back, Cut cs whole fraction mark power back := by
  rcases hfraction : splitFraction (cs.dropWhile Char.isDigit) with ⟨fraction, rest⟩
  rcases hexponent : splitExponent rest with ⟨mark, power, back⟩
  obtain rfl : mark ++ (power ++ back) = rest := by
    simpa [hexponent] using append_splitExponent rest
  exact ⟨_, fraction, mark, power, back, rfl, hfraction, hexponent⟩

theorem Cut.scanNumber_eq_ok_iff (h : Cut cs whole fraction mark power back) {column : Nat}
    {t : Token} {rest : List Char} :
    scanNumber column cs = .ok (t, rest) ↔ rest = back ∧ (mark = [] ∨ power ≠ []) ∧
      back.takeWhile isNameChar = [] ∧ numberToken? whole fraction mark power = some t := by
  have hmissing : (!mark.isEmpty && power.isEmpty) = true ↔ ¬ (mark = [] ∨ power ≠ []) := by
    simp
  have hname : (!(back.takeWhile isNameChar).isEmpty) = true ↔
      ¬ back.takeWhile isNameChar = [] := by
    simp
  simp only [scanNumber, h.whole, h.fraction, h.exponent, numberToken?, hmissing, hname]
  split
  · next hdigits => exact iff_of_false (by simp) fun hok => hdigits hok.2.1
  next hdigits =>
  split
  · next hback => exact iff_of_false (by simp) fun hok => hback hok.2.2.1
  next hback =>
  simp only [Decidable.not_not] at hdigits hback
  split
  · cases fit? (digitsValue whole) <;> simp [hdigits, hback, eq_comm, and_comm]
  · simp [hdigits, hback, eq_comm, and_comm]

end Cut

/-- A number has no name right behind it, and reads the same with other characters behind it. -/
theorem scanNumber_follows {column : Nat} {t : Token} {back : List Char}
    (h : scanNumber column cs = .ok (t, back)) :
    ∃ lexeme, cs = lexeme ++ back ∧ (∀ c ∈ back.head?, isNameChar c = false) ∧
      ∀ column' ds, Follows back ds → scanNumber column' (lexeme ++ ds) = .ok (t, ds) := by
  obtain ⟨whole, fraction, mark, power, rest, hcut⟩ := exists_cut cs
  obtain ⟨rfl, hdigits, hback, ht⟩ := hcut.scanNumber_eq_ok_iff.mp h
  have hname : ∀ c ∈ back.head?, isNameChar c = false := by
    intro c hc
    obtain ⟨rest, rfl⟩ := List.head?_eq_some_iff.mp hc
    simpa [List.takeWhile_cons] using hback
  refine ⟨whole ++ (fraction ++ (mark ++ power)), by simpa using hcut.eq_append, hname,
    fun column' ds hds => ?_⟩
  have hds' : ds.takeWhile isNameChar = [] := by
    have hhead := hds.head_eq_false noBlank_isNameChar hname
    cases ds with
    | nil => rfl
    | cons d ds => simp [hhead d rfl]
  rw [List.append_assoc, List.append_assoc, List.append_assoc]
  exact (hcut.follows hdigits hds).scanNumber_eq_ok_iff.mpr ⟨rfl, hdigits, hds', ht⟩

end Number

theorem scanText_follows {cs content back : List Char} (h : scanText cs = some (content, back)) :
    ∃ lexeme, cs = lexeme ++ back ∧ ∀ ds, scanText (lexeme ++ ds) = some (content, ds) := by
  induction cs using scanText.induct generalizing content back with
  | case1 => cases h
  | case2 cs =>
    cases h
    exact ⟨['"'], rfl, fun ds => rfl⟩
  | case3 c cs ih =>
    rw [scanText, Option.map_eq_some_iff] at h
    obtain ⟨⟨more, back⟩, hscan, heq⟩ := h
    cases heq
    obtain ⟨lexeme, rfl, hds⟩ := ih hscan
    refine ⟨'\\' :: c :: lexeme, rfl, fun ds => ?_⟩
    rw [List.cons_append, List.cons_append, scanText, hds, Option.map_some]
  | case4 c cs hquote hpair ih =>
    by_cases hbackslash : c = '\\'
    · subst hbackslash
      cases cs with
      | nil => cases h
      | cons d cs => exact absurd rfl (hpair d cs rfl)
    · rw [scanText_of_ne hquote hbackslash, Option.map_eq_some_iff] at h
      obtain ⟨⟨more, back⟩, hscan, heq⟩ := h
      cases heq
      obtain ⟨lexeme, rfl, hds⟩ := ih hscan
      refine ⟨c :: lexeme, rfl, fun ds => ?_⟩
      rw [List.cons_append, scanText_of_ne hquote hbackslash, hds, Option.map_some]

theorem startsNumber_append {c : Char} {lexeme back : List Char}
    (h : startsNumber c (lexeme ++ back) = true) (hback : ∀ d ∈ back.head?, isNameChar d = false)
    (ds : List Char) : startsNumber c (lexeme ++ ds) = true := by
  cases lexeme with
  | cons d lexeme => exact h
  | nil =>
    have hdigit : (back.head?.map Char.isDigit).getD false = false := by
      cases back with
      | nil => rfl
      | cons d back =>
        have hname := hback d rfl
        simp only [isNameChar, Char.isAlphanum, Bool.or_eq_false_iff] at hname
        exact hname.1.2
    have hc : c.isDigit = true := by simpa [startsNumber, hdigit] using h
    simp [startsNumber, hc]

theorem not_startsNumber_of_word {c : Char} {cs : List Char}
    (hword : (c.isAlpha || decide (c = '_')) = true) (h : ¬ startsNumber c cs = true)
    (ds : List Char) : ¬ startsNumber c ds = true := by
  simp only [startsNumber, Bool.or_eq_true, not_or] at h ⊢
  refine ⟨h.1, fun hpoint => ?_⟩
  obtain rfl : c = '.' := of_decide_eq_true (Bool.and_eq_true_iff.mp hpoint).1
  cases hword

theorem scanToken_follows {column : Nat} {c : Char} {cs back : List Char} {t : Token}
    (h : scanToken column c cs = .ok (t, back)) :
    ∃ lexeme, cs = lexeme ++ back ∧
      ∀ column' ds, Follows back ds → scanToken column' c (lexeme ++ ds) = .ok (t, ds) := by
  unfold scanToken at h
  split at h
  case h_9 hother | h_11 hother | h_13 hother =>
    cases h
    refine ⟨[], rfl, fun column' ds hds => ?_⟩
    rw [List.nil_append, scanToken]
    exact hds.ne_cons (by decide) hother
  case h_18 rest =>
    split at h
    · next content back' hscan =>
      cases h
      obtain ⟨lexeme, hcs, hds⟩ := scanText_follows hscan
      refine ⟨lexeme, hcs, fun column' ds _ => ?_⟩
      rw [scanToken, hds]
    · cases h
  case h_19 =>
    split at h
    · next hnumber =>
      obtain ⟨lexeme, hcs, hback, hds⟩ := scanNumber_follows h
      cases lexeme with
      | nil =>
        have hlength := length_scanNumber hnumber h
        rw [← List.nil_append back, ← hcs, List.length_cons] at hlength
        omega
      | cons d lexeme =>
        obtain ⟨rfl, rfl⟩ := List.cons.inj hcs
        refine ⟨lexeme, rfl, fun column' ds hfollows => ?_⟩
        rw [scanToken]
        · rw [if_pos (startsNumber_append hnumber hback ds)]
          exact hds column' ds hfollows
        all_goals first
          | assumption
          | intro rest hc; contradiction
    · next hnumber =>
      split at h
      · next hword =>
        cases h
        refine ⟨_, List.takeWhile_append_dropWhile.symm, fun column' ds hds => ?_⟩
        rw [scanToken]
        · rw [if_neg (not_startsNumber_of_word hword hnumber _), if_pos hword,
            takeWhile_follows noBlank_isNameChar hds, dropWhile_follows noBlank_isNameChar hds]
        all_goals first
          | assumption
          | intro rest hc; contradiction
      · cases h
  case h_8 | h_10 | h_12 | h_14 | h_16 =>
    cases h
    exact ⟨[_], rfl, fun _ _ _ => rfl⟩
  all_goals first
    | (cases h; done)
    | (cases h; exact ⟨[], rfl, fun _ _ _ => rfl⟩)

theorem isBlank_eq_false_of_scanToken {column : Nat} {c : Char} {cs : List Char}
    {r : Token × List Char} (h : scanToken column c cs = .ok r) : isBlank c = false := by
  by_contra hblank
  have hblank : isBlank c = true := Bool.of_not_eq_false hblank
  have hname := noBlank_isNameChar c hblank
  simp only [isNameChar, Char.isAlphanum, Bool.or_eq_false_iff] at hname
  have hnumber : ¬ startsNumber c cs = true := by
    simp only [startsNumber, hname.1.2, Bool.false_or, Bool.and_eq_true, decide_eq_true_eq]
    rintro ⟨rfl, -⟩
    cases hblank
  unfold scanToken at h
  split at h
  case h_19 =>
    rw [if_neg hnumber, if_neg (by simp [hname])] at h
    cases h
  all_goals cases hblank

end Lexer

namespace Grammar

open Lexer

/-- Whether blanks are other blanks with any number of blanks put in anywhere. -/
structure Widens (gap wide : List Char) : Prop where
  sublist : gap.Sublist wide
  blank : ∀ c ∈ wide, isBlank c = true

/-- A text and the same with blanks put in before its tokens, between them and after them. -/
inductive Respaced : List Char → List Char → Prop
  | ending {gap wide : List Char} (hgap : Widens gap wide) : Respaced gap wide
  | token {gap wide lexeme cs ds : List Char} {c : Char} {column : Nat} {t : Token}
      (hgap : Widens gap wide) (ht : scanToken column c (lexeme ++ cs) = .ok (t, cs))
      (h : Respaced cs ds) : Respaced (gap ++ c :: (lexeme ++ cs)) (wide ++ c :: (lexeme ++ ds))

namespace Widens

variable {gap wide : List Char}

theorem blank_gap (h : Widens gap wide) : ∀ c ∈ gap, isBlank c = true := fun c hc =>
  h.blank c (h.sublist.subset hc)

theorem refl (h : ∀ c ∈ gap, isBlank c = true) : Widens gap gap := ⟨.refl gap, h⟩

theorem follows (h : Widens gap wide) {cs ds : List Char} (hds : gap = [] → Follows cs ds) :
    Follows (gap ++ cs) (wide ++ ds) := by
  intro d hd
  cases wide with
  | nil =>
    obtain rfl : gap = [] := List.sublist_nil.mp h.sublist
    exact hds rfl d hd
  | cons c wide =>
    obtain rfl := Option.some.inj hd
    exact .inl (h.blank c List.mem_cons_self)

end Widens

theorem dropWhile_blank_append {gap : List Char} (hgap : ∀ c ∈ gap, isBlank c = true) {c : Char}
    (hc : isBlank c = false) (cs : List Char) : (gap ++ c :: cs).dropWhile isBlank = c :: cs := by
  rw [List.dropWhile_append_of_pos hgap]
  exact List.dropWhile_cons_of_neg (by simp [hc])

namespace Respaced

variable {cs ds : List Char}

theorem follows (h : Respaced cs ds) : Follows cs ds := by
  cases h with
  | ending hgap =>
    have hnil : Follows [] [] := nofun
    simpa only [List.append_nil] using hgap.follows fun _ => hnil
  | token hgap ht h => exact hgap.follows fun _ d hd => .inr hd

theorem scans (h : Respaced cs ds) {ts : List Token} (hscans : Scans cs ts) : Scans ds ts := by
  induction h generalizing ts with
  | @ending gap wide hgap =>
    have hnil : gap.dropWhile isBlank = [] := List.dropWhile_eq_nil_iff.mpr hgap.blank_gap
    cases hscans with
    | blank => exact .blank (List.dropWhile_eq_nil_iff.mpr hgap.blank)
    | token hc => cases hnil.symm.trans hc
  | @token gap wide lexeme cs ds c column t hgap ht h ih =>
    have hblank := isBlank_eq_false_of_scanToken ht
    have hfirst := dropWhile_blank_append hgap.blank_gap hblank (lexeme ++ cs)
    cases hscans with
    | blank hnil => cases hfirst.symm.trans hnil
    | token hc ht' hbehind =>
      obtain ⟨rfl, rfl⟩ := List.cons.inj (hfirst.symm.trans hc)
      obtain ⟨rfl, rfl⟩ := Prod.mk.inj (Except.ok.inj (ht.symm.trans (scanToken_column ht')))
      obtain ⟨lexeme', hlexeme, hds⟩ := scanToken_follows ht
      obtain rfl : lexeme = lexeme' := List.append_cancel_right hlexeme
      have hwide := dropWhile_blank_append hgap.blank hblank (lexeme ++ ds)
      exact .token hwide (hds column ds h.follows) (ih hbehind)

end Respaced

/-- Every text that scans is cut into blanks and tokens. -/
theorem Scans.respaced {cs : List Char} {ts : List Token} (h : Scans cs ts) : Respaced cs cs := by
  induction h with
  | blank h => exact .ending (.refl (List.dropWhile_eq_nil_iff.mp h))
  | @token cs rest behind c column t ts hc ht h ih =>
    obtain ⟨lexeme, rfl, -⟩ := scanToken_follows ht
    have hgap : ∀ d ∈ cs.takeWhile isBlank, isBlank d = true :=
      List.all_eq_true.mp List.all_takeWhile
    rw [← List.takeWhile_append_dropWhile (p := isBlank) (l := cs), hc]
    exact .token (.refl hgap) ht ih

end Grammar

/-- Blanks put in before the first token, between tokens and after the last token do not matter:
what is accepted is cut into blanks and tokens, and with more blanks it is the same tree. -/
theorem Expr.parse_spaced {text : String} {x : Expr} (h : Expr.parse text = .ok x) :
    Respaced text.toList text.toList ∧
      ∀ spaced : String, Respaced text.toList spaced.toList → Expr.parse spaced = .ok x := by
  obtain ⟨ts, n, hscans, hderives, hn⟩ := exists_derives_of_parse h
  exact ⟨hscans.respaced, fun spaced hspaced =>
    parse_of_derives (hspaced.scans hscans) hderives hn⟩

theorem Expr.parse_spaced_comparison :
    Expr.parse "1 <=2" =
        .ok (.binary (.order .lessEqual) (.literal (.integer 1)) (.literal (.integer 2))) ∧
      Respaced "1 <=2".toList "1 \t<=\u30002\n".toList ∧
      Expr.parse "1 \t<=\u30002\n" =
        .ok (.binary (.order .lessEqual) (.literal (.integer 1)) (.literal (.integer 2))) := by
  have hone : Lexer.scanToken 0 '1' [' ', '<', '=', '2'] =
      .ok (.integer 1, [' ', '<', '=', '2']) := rfl
  have hop : Lexer.scanToken 0 '<' ['=', '2'] = .ok (.lessEqual, ['2']) := rfl
  have htwo : Lexer.scanToken 0 '2' [] = .ok (.integer 2, []) := rfl
  have hscans : Scans "1 <=2".toList [.integer 1, .lessEqual, .integer 2] :=
    .token rfl hone (.token rfl hop (.token rfl htwo (.blank rfl)))
  have hleft : Derives .sum [.integer 1] (.literal (.integer 1)) 1 :=
    .tighter rfl (.tighter rfl (.tighter rfl (.tighter rfl (.literal (.integer 1)))))
  have hright : Derives .sum [.integer 2] (.literal (.integer 2)) 1 :=
    .tighter rfl (.tighter rfl (.tighter rfl (.tighter rfl (.literal (.integer 2)))))
  have hrelation : Derives .relation [.integer 1, .lessEqual, .integer 2]
      (.binary (.order .lessEqual) (.literal (.integer 1)) (.literal (.integer 2))) 1 :=
    .join .lessEqual rfl (.tighter rfl hleft) hright
  have hparse : Expr.parse "1 <=2" =
      .ok (.binary (.order .lessEqual) (.literal (.integer 1)) (.literal (.integer 2))) :=
    parse_of_derives hscans (.tighter rfl (.tighter rfl (.tighter rfl (.tighter rfl hrelation))))
      (by decide)
  have hwide : Widens [' '] [' ', '\t'] := ⟨by decide, List.all_eq_true.mp (by decide)⟩
  have hgap : Widens [] ['\u3000'] := ⟨by decide, List.all_eq_true.mp (by decide)⟩
  have hend : Widens [] ['\n'] := ⟨by decide, List.all_eq_true.mp (by decide)⟩
  have hlast : Respaced ([] ++ '2' :: ([] ++ [])) (['\u3000'] ++ '2' :: ([] ++ ['\n'])) :=
    .token hgap htwo (.ending hend)
  have hrest : Respaced ([' '] ++ '<' :: (['='] ++ ['2']))
      ([' ', '\t'] ++ '<' :: (['='] ++ ['\u3000', '2', '\n'])) := .token hwide hop hlast
  have hspaced : Respaced ([] ++ '1' :: ([] ++ [' ', '<', '=', '2']))
      ([] ++ '1' :: ([] ++ [' ', '\t', '<', '=', '\u3000', '2', '\n'])) :=
    .token (.refl nofun) hone hrest
  exact ⟨hparse, hspaced, (parse_spaced hparse).2 _ hspaced⟩

end FormLogic
