import FormLogic.Formula.Lexer

/-! The lexemes of numbers. What a number is cut into reads, put together again, as the number that
the scanner makes of the parts. -/

namespace FormLogic.Lexer

open Number

/-- A fraction with its digits, or none at all. -/
inductive Fraction : List Char → List Char → Prop
  | absent : Fraction [] []
  | point {digits : List Char} (h : ∀ c ∈ digits, c.isDigit = true) :
      Fraction ('.' :: digits) digits

/-- The mark and the digits of an exponent with its value, or none at all. -/
inductive Exponent : List Char → List Char → Int → Prop
  | absent : Exponent [] [] 0
  | marked {c : Char} {sign digits : List Char} (hc : c = 'e' ∨ c = 'E')
      (hsign : sign = [] ∨ sign = ['+'] ∨ sign = ['-']) (hne : digits ≠ [])
      (h : ∀ c ∈ digits, c.isDigit = true) :
      Exponent (c :: sign) digits
        (if (c :: sign).getLast? = some '-' then -(digitsValue digits : Int)
          else digitsValue digits)

def NoDigitFirst (cs : List Char) : Prop := ∀ c ∈ cs.head?, c.isDigit = false

theorem isDigit_of_mem_takeWhile (cs : List Char) :
    ∀ c ∈ cs.takeWhile Char.isDigit, c.isDigit = true :=
  List.all_eq_true.mp List.all_takeWhile

theorem takeWhile_isDigit_append {digits cs : List Char} (h : ∀ c ∈ digits, c.isDigit = true)
    (hcs : NoDigitFirst cs) : (digits ++ cs).takeWhile Char.isDigit = digits := by
  rw [List.takeWhile_append_of_pos h]
  cases cs with
  | nil => simp
  | cons c cs => simp [hcs c rfl]

theorem dropWhile_isDigit_append {digits cs : List Char} (h : ∀ c ∈ digits, c.isDigit = true)
    (hcs : NoDigitFirst cs) : (digits ++ cs).dropWhile Char.isDigit = cs := by
  rw [List.dropWhile_append_of_pos h]
  cases cs with
  | nil => rfl
  | cons c cs => simp [hcs c rfl]

section Split

theorem append_splitFraction (cs : List Char) :
    (splitFraction cs).1 ++ (splitFraction cs).2 = cs := by
  unfold splitFraction
  split
  · simp
  · rfl

theorem fraction_splitFraction (cs : List Char) :
    Fraction (splitFraction cs).1 ((splitFraction cs).1.drop 1) := by
  unfold splitFraction
  split
  · exact .point (isDigit_of_mem_takeWhile _)
  · exact .absent

theorem append_splitSign (cs : List Char) : (splitSign cs).1 ++ (splitSign cs).2 = cs := by
  unfold splitSign
  split <;> rfl

theorem splitSign_cases (cs : List Char) :
    (splitSign cs).1 = [] ∨ (splitSign cs).1 = ['+'] ∨ (splitSign cs).1 = ['-'] := by
  unfold splitSign
  split
  · exact .inr (.inl rfl)
  · exact .inr (.inr rfl)
  · exact .inl rfl

theorem append_splitExponent (cs : List Char) :
    (splitExponent cs).1 ++ (splitExponent cs).2.1 ++ (splitExponent cs).2.2 = cs := by
  unfold splitExponent
  split
  · rfl
  · next c rest =>
    split
    · simp [List.takeWhile_append_dropWhile, append_splitSign]
    · rfl

theorem splitExponent_digits {cs mark power rest : List Char}
    (h : splitExponent cs = (mark, power, rest)) (hmark : mark = []) : power = [] := by
  unfold splitExponent at h
  split at h
  · simp_all
  · split at h <;> simp_all

theorem exponent_splitExponent (cs : List Char)
    (hdigits : (splitExponent cs).1 = [] ∨ (splitExponent cs).2.1 ≠ []) :
    Exponent (splitExponent cs).1 (splitExponent cs).2.1
      (if (splitExponent cs).1.getLast? = some '-' then -(digitsValue (splitExponent cs).2.1 : Int)
        else digitsValue (splitExponent cs).2.1) := by
  unfold splitExponent at hdigits ⊢
  split at hdigits
  · exact .absent
  · next c rest =>
    by_cases hc : (decide (c = 'e') || decide (c = 'E')) = true
    · simp only [hc, if_true, reduceCtorEq, false_or] at hdigits ⊢
      exact .marked (by simpa using hc) (splitSign_cases rest) hdigits (isDigit_of_mem_takeWhile _)
    · simp only [hc]
      exact .absent

end Split

namespace Exponent

variable {mark power : List Char} {n : Int}

theorem noDigitFirst (h : Exponent mark power n) : NoDigitFirst (mark ++ power) := by
  intro c hc
  cases h with
  | absent => cases hc
  | marked hmark =>
    obtain rfl := Option.some.inj hc
    rcases hmark with rfl | rfl <;> rfl

theorem readExponent? (h : Exponent mark power n) :
    Number.readExponent? (mark ++ power) = some n := by
  cases h with
  | absent => rfl
  | @marked c sign _ hmark hsign hne h =>
    have hletter : (decide (c = 'e') || decide (c = 'E')) = true := by simpa using hmark
    have hc : c ≠ '-' := by rcases hmark with rfl | rfl <;> decide
    rcases hsign with rfl | rfl | rfl
    · obtain ⟨d, ds, rfl⟩ := List.exists_cons_of_ne_nil hne
      have hd : d.isDigit = true := h d List.mem_cons_self
      have hminus : d ≠ '-' := by rintro rfl; cases hd
      have hplus : d ≠ '+' := by rintro rfl; cases hd
      simp only [Number.readExponent?, List.cons_append, List.nil_append, hletter, if_true]
      split
      · next heq => exact absurd (List.cons.inj heq).1 hminus
      · next heq => exact absurd (List.cons.inj heq).1 hplus
      · simpa [hc] using h
    · simpa [Number.readExponent?, hletter, hne] using h
    · simpa [Number.readExponent?, hletter, hne] using h

end Exponent

theorem readDecimal?_of_parts {whole fraction digits mark power : List Char} {n : Int}
    (hwhole : ∀ c ∈ whole, c.isDigit = true) (hfraction : Fraction fraction digits)
    (hexponent : Exponent mark power n) (hsome : whole ≠ [] ∨ digits ≠ []) :
    readDecimal? (whole ++ fraction ++ (mark ++ power)) =
      some (Decimal.ofParts whole digits n) := by
  have hrest : NoDigitFirst (fraction ++ (mark ++ power)) := by
    cases hfraction with
    | absent => exact hexponent.noDigitFirst
    | point _ =>
      intro c hc
      obtain rfl := Option.some.inj hc
      rfl
  rw [List.append_assoc]
  simp only [readDecimal?, takeWhile_isDigit_append hwhole hrest,
    dropWhile_isDigit_append hwhole hrest]
  have hread := hexponent.readExponent?
  cases hfraction with
  | absent =>
    have hwhole : whole ≠ [] := hsome.resolve_right fun h => h rfl
    cases hexponent with
    | absent => simpa [hwhole] using ⟨0, hread, rfl⟩
    | marked hmark => rcases hmark with rfl | rfl <;> simp_all
  | point h =>
    simp only [List.cons_append, takeWhile_isDigit_append h hexponent.noDigitFirst,
      dropWhile_isDigit_append h hexponent.noDigitFirst, hread, Option.map_some]
    rw [if_neg]
    simpa [← Decidable.not_and_iff_not_or_not] using hsome

/-- A numeral that starts with a digit or a point has no sign and spells no other word. -/
theorem readFloat?_of_readDecimal? {c : Char} {cs : List Char} {d : Decimal}
    (hc : c.isDigit = true ∨ c = '.') (h : readDecimal? (c :: cs) = some d) :
    readFloat? (String.ofList (c :: cs)) = some (d.toFloat false) := by
  have hword : ∀ w : Char, w.isDigit = false → w ≠ '.' → c ≠ w := by
    rintro w hdigit hpoint rfl
    rcases hc with hc | hc
    · exact absurd hc (by simp [hdigit])
    · exact hpoint hc
  have hlower : c.toLower = c := by
    refine dif_neg ?_
    rintro ⟨hA, -⟩
    rcases hc with hc | rfl
    · simp only [Char.isDigit, Bool.and_eq_true, decide_eq_true_eq] at hc
      exact absurd (UInt32.le_trans hA hc.2) (by decide)
    · exact absurd hA (by decide)
  have hfirst : ∀ (s : String) (w : Char), s.toList.head? = some w → w.isDigit = false →
      w ≠ '.' → String.ofList ((c :: cs).map Char.toLower) ≠ s := by
    rintro s w hs hdigit hpoint rfl
    rw [String.toList_ofList, List.map_cons, hlower] at hs
    exact hword w hdigit hpoint (Option.some.inj hs)
  have hminus : ∀ ds, c :: cs ≠ '-' :: ds := fun ds heq =>
    hword '-' rfl (by decide) (List.cons.inj heq).1
  have hplus : ∀ ds, c :: cs ≠ '+' :: ds := fun ds heq =>
    hword '+' rfl (by decide) (List.cons.inj heq).1
  simp only [readFloat?, String.toList_ofList]
  split
  · next heq => exact absurd heq (hfirst _ 'i' rfl rfl (by decide))
  · next heq => exact absurd heq (hfirst _ 'i' rfl rfl (by decide))
  · next heq => exact absurd heq (hfirst _ 'n' rfl rfl (by decide))
  · rw [h, Option.map_some]

theorem ne_nil_of_startsNumber {c : Char} {cs : List Char} (h : startsNumber c cs = true) :
    (c :: cs).takeWhile Char.isDigit ≠ [] ∨
      (splitFraction ((c :: cs).dropWhile Char.isDigit)).1.drop 1 ≠ [] := by
  by_cases hc : c.isDigit = true
  · exact .inl (by simp [hc])
  · obtain ⟨rfl, hd⟩ : c = '.' ∧ (cs.head?.map Char.isDigit).getD false = true := by
      simpa [startsNumber, hc] using h
    refine .inr ?_
    cases cs with
    | nil => cases hd
    | cons d cs =>
      have hd : d.isDigit = true := hd
      simp [hc, splitFraction, hd]

/-- The lexeme of a number with a fraction or an exponent reads as what its parts stand for. -/
theorem readFloat?_parts {c : Char} {cs : List Char} (h : startsNumber c cs = true)
    {whole fraction mark power rest rest' : List Char}
    (hwhole : whole = (c :: cs).takeWhile Char.isDigit)
    (hfraction : splitFraction ((c :: cs).dropWhile Char.isDigit) = (fraction, rest))
    (hexponent : splitExponent rest = (mark, power, rest')) (hdigits : mark = [] ∨ power ≠ []) :
    readFloat? (String.ofList (whole ++ fraction ++ mark ++ power)) =
      some ((Decimal.ofParts whole (fraction.drop 1)
        (if mark.getLast? = some '-' then -(digitsValue power : Int)
          else digitsValue power)).toFloat false) := by
  rw [List.append_assoc (whole ++ fraction)]
  have hsplit : whole ++ fraction ++ (mark ++ power) ++ rest' = c :: cs := by
    have hrest := append_splitExponent rest
    have hfront := append_splitFraction ((c :: cs).dropWhile Char.isDigit)
    rw [hexponent] at hrest
    rw [hfraction] at hfront
    rw [List.append_assoc, hrest, List.append_assoc, hfront, hwhole,
      List.takeWhile_append_dropWhile]
  have hsome := ne_nil_of_startsNumber h
  rw [hfraction, ← hwhole] at hsome
  have hmarked := exponent_splitExponent rest (by rwa [hexponent])
  rw [hexponent] at hmarked
  have hread := readDecimal?_of_parts (hwhole ▸ isDigit_of_mem_takeWhile (c :: cs))
    (hfraction ▸ fraction_splitFraction _) hmarked hsome
  have hc : c.isDigit = true ∨ c = '.' := by
    simp only [startsNumber, Bool.or_eq_true, Bool.and_eq_true, decide_eq_true_eq] at h
    exact h.imp_right And.left
  generalize whole ++ fraction ++ (mark ++ power) = lexeme at hsplit hread ⊢
  cases lexeme with
  | nil => cases hread
  | cons d ds =>
    obtain rfl : d = c := (List.cons.inj hsplit).1
    exact readFloat?_of_readDecimal? hc hread

end FormLogic.Lexer
