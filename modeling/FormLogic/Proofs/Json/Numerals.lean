import Mathlib.Data.Nat.Digits.Defs
import FormLogic.Json.Printer
import FormLogic.Json.Token
import FormLogic.Proofs.Formula.Numerals
import FormLogic.Proofs.Number.Shortest

/-! Numbers of JSON text. What is written of an integer reads as the integer, and what is written of
a finite double is a number that is never taken for an integer and has that double for its nearest
one. -/

namespace FormLogic.Json

open Number
open Lexer (NoDigitFirst takeWhile_isDigit_append dropWhile_isDigit_append)

/-- Whether characters that stand behind a number cannot go on with it. -/
def Apart (rest : List Char) : Prop :=
  ∀ c ∈ rest.head?, c.isDigit = false ∧ c ≠ '.' ∧ c ≠ 'e' ∧ c ≠ 'E'

theorem apart_nil : Apart [] := nofun

theorem Apart.noDigitFirst {rest : List Char} (h : Apart rest) : NoDigitFirst rest :=
  fun c hc => (h c hc).1

structure Digits (cs : List Char) : Prop where
  ne_nil : cs ≠ []
  isDigit : ∀ c ∈ cs, c.isDigit = true

theorem digits_zero : Digits ['0'] :=
  ⟨List.cons_ne_nil _ _, fun _ hc => List.mem_singleton.1 hc ▸ rfl⟩

theorem Digits.isEmpty_eq_false {cs : List Char} (h : Digits cs) : cs.isEmpty = false :=
  List.isEmpty_eq_false_iff.2 h.ne_nil

inductive Fraction : List Char → List Char → Prop
  | absent : Fraction [] []
  | point {digits : List Char} (h : Digits digits) : Fraction ('.' :: digits) digits

inductive Exponent : List Char → Option Int → Prop
  | absent : Exponent [] none
  | plus {digits : List Char} (h : Digits digits) :
      Exponent ('e' :: '+' :: digits) (some (digitsValue digits))
  | minus {digits : List Char} (h : Digits digits) :
      Exponent ('e' :: '-' :: digits) (some (-(digitsValue digits : Int)))

section Scan

variable {digits fraction exponent rest : List Char}

theorem scanDigits_append (h : Digits digits) (hrest : NoDigitFirst rest) :
    scanDigits (digits ++ rest) = some (digits, rest) := by
  rw [scanDigits, takeWhile_isDigit_append h.isDigit hrest,
    dropWhile_isDigit_append h.isDigit hrest]
  exact if_neg (by simpa using h.ne_nil)

theorem Exponent.noDigitFirst {e : Option Int} (h : Exponent exponent e) (hrest : Apart rest) :
    NoDigitFirst (exponent ++ rest) := by
  cases h with
  | absent => exact hrest.noDigitFirst
  | plus | minus => exact fun c hc => by obtain rfl := Option.some.inj hc; rfl

theorem Fraction.noDigitFirst (h : Fraction fraction digits) (hrest : NoDigitFirst rest) :
    NoDigitFirst (fraction ++ rest) := by
  cases h with
  | absent => exact hrest
  | point => exact fun c hc => by obtain rfl := Option.some.inj hc; rfl

theorem scanExponent_append {e : Option Int} (h : Exponent exponent e) (hrest : Apart rest) :
    scanExponent (exponent ++ rest) = some (e, rest) := by
  cases h with
  | absent =>
    cases rest with
    | nil => rfl
    | cons c rest =>
      obtain ⟨-, -, he, hE⟩ := hrest c rfl
      exact if_neg (by simp [he, hE])
  | plus h | minus h =>
    simp [scanExponent, scanSign, scanDigits_append h hrest.noDigitFirst]

theorem scanFraction_append {e : Option Int} (h : Fraction fraction digits)
    (hexponent : Exponent exponent e) (hrest : Apart rest) :
    scanFraction (fraction ++ (exponent ++ rest)) = some (digits, exponent ++ rest) := by
  have hfirst := hexponent.noDigitFirst hrest
  cases h with
  | point h => exact scanDigits_append h hfirst
  | absent =>
    rw [List.nil_append, scanFraction]
    rintro back heq
    cases hexponent with
    | absent =>
      obtain rfl : rest = '.' :: back := heq
      exact (hrest '.' rfl).2.1 rfl
    | plus | minus => cases heq

theorem scanMagnitude_append {whole : List Char} {e : Option Int} (hwhole : Digits whole)
    (hzero : whole.head? = some '0' → whole = ['0']) (hfraction : Fraction fraction digits)
    (hexponent : Exponent exponent e) (hrest : Apart rest) (negative : Bool) :
    scanMagnitude negative (whole ++ (fraction ++ (exponent ++ rest))) =
      some (⟨negative, whole, digits, e.getD 0, digits.isEmpty && e.isNone⟩, rest) := by
  have hfirst := hfraction.noDigitFirst (hexponent.noDigitFirst hrest)
  have hone : ¬ (whole.head? = some '0' ∧ whole ≠ ['0']) := fun h => h.2 (hzero h.1)
  simp only [scanMagnitude, scanDigits_append hwhole hfirst,
    scanFraction_append hfraction hexponent hrest, scanExponent_append hexponent hrest,
    Option.bind_eq_bind, Option.bind_some, if_neg hone]

theorem scanNumeral_of_isDigit {cs : List Char} (h : ∀ c ∈ cs.head?, c.isDigit = true) :
    scanNumeral cs = scanMagnitude false cs := by
  rw [scanNumeral]
  rintro rest rfl
  cases h '-' rfl

end Scan

section Integers

theorem digits_toDigits (n : Nat) : Digits (Nat.toDigits 10 n) :=
  ⟨Nat.toDigits_ne_nil, fun _ hc => Nat.isDigit_of_mem_toDigits (by decide) (by decide) hc⟩

theorem eq_zero_of_head?_toDigits {n : Nat} (h : (Nat.toDigits 10 n).head? = some '0') : n = 0 := by
  induction n using Nat.strong_induction_on with
  | _ n ih =>
    by_cases hn : n < 10
    · have hdigit : ∀ d < 10, Nat.digitChar d = '0' → d = 0 := by decide
      rw [Nat.toDigits_of_lt_base hn] at h
      exact hdigit n hn (Option.some.inj h)
    · have hle : 10 ≤ n := Nat.le_of_not_lt hn
      rw [Nat.toDigits_of_base_le (by decide) hle,
        List.head?_append_of_ne_nil _ Nat.toDigits_ne_nil] at h
      have := ih (n / 10) (by omega) h
      omega

theorem toList_toString_nat (n : Nat) : (toString n).toList = Nat.toDigits 10 n := by
  rw [Nat.toString_eq_ofList_toDigits, String.toList_ofList]

theorem toList_toString_int (n : Int) :
    (toString n).toList = (if n < 0 then ['-'] else []) ++ Nat.toDigits 10 n.natAbs := by
  rw [Int.toString_eq_repr, Int.repr_eq_if]
  by_cases hn : n < 0
  · have habs : (-n).toNat = n.natAbs := by omega
    rw [if_neg (by omega), if_pos hn, habs, String.toList_append, Nat.repr_eq_ofList_toDigits]
    simp only [String.toList_ofList]
    rfl
  · have habs : n.toNat = n.natAbs := by omega
    rw [if_pos (by omega), if_neg hn, habs, Nat.repr_eq_ofList_toDigits, String.toList_ofList]
    rfl

theorem le_ofDigitChars (cs : List Char) (n : Nat) : n ≤ Nat.ofDigitChars 10 cs n := by
  induction cs generalizing n with
  | nil => exact Nat.le_refl n
  | cons c cs ih =>
    rw [Nat.ofDigitChars_cons]
    exact Nat.le_trans (by omega) (ih _)

theorem absorb_of_lt {n : Nat} {cs : List Char} (h : Nat.ofDigitChars 10 cs n < 1 <<< 64) :
    absorb n cs = (Nat.ofDigitChars 10 cs n, []) := by
  induction cs generalizing n with
  | nil => rfl
  | cons c cs ih =>
    rw [Nat.ofDigitChars_cons] at h ⊢
    have hnext := Nat.lt_of_le_of_lt (le_ofDigitChars cs _) h
    rw [absorb]
    exact (if_pos hnext).trans (ih h)

def Numeral.ofInt (n : Int) : Numeral := ⟨n < 0, Nat.toDigits 10 n.natAbs, [], 0, true⟩

theorem Numeral.toJson_ofInt {n : Int} (h : Fits n) (double? : Numeral → Option Float) :
    (Numeral.ofInt n).toJson double? = .integer n := by
  obtain ⟨hlow, hhigh⟩ := h
  have hvalue : Nat.ofDigitChars 10 (Nat.toDigits 10 n.natAbs) 0 = n.natAbs :=
    Nat.ofDigitChars_ten_toDigits
  have habsorb : absorb 0 (Nat.toDigits 10 n.natAbs) = (n.natAbs, []) := by
    rw [absorb_of_lt (by rw [hvalue]; omega), hvalue]
  have hinteger : (Numeral.ofInt n).integer? = some n := by
    simp only [integer?, leading, ofInt, habsorb, absorb, Bool.true_and, List.isEmpty_nil, if_true]
    by_cases hn : n < 0
    · have hnatAbs : n.natAbs ≠ 0 ∧ n.natAbs ≤ 1 <<< 63 := by omega
      have hneg : -(n.natAbs : Int) = n := by omega
      simp only [hn, decide_true, Bool.not_true, Bool.false_eq_true, if_false, if_pos hnatAbs, hneg]
    · have hpos : (n.natAbs : Int) = n := by omega
      simp only [hn, decide_false, Bool.not_false, if_true, hpos]
  rw [toJson, hinteger]

theorem scanNumeral_integer (n : Int) {rest : List Char} (hrest : Apart rest) :
    scanNumeral ((toString n).toList ++ rest) = some (.ofInt n, rest) := by
  have hzero : (Nat.toDigits 10 n.natAbs).head? = some '0' → Nat.toDigits 10 n.natAbs = ['0'] :=
    fun h => by rw [eq_zero_of_head?_toDigits h]; rfl
  have hscan := scanMagnitude_append (digits_toDigits n.natAbs) hzero .absent .absent hrest
  rw [toList_toString_int]
  by_cases hn : n < 0
  · rw [if_pos hn, Numeral.ofInt, decide_eq_true hn]
    exact hscan true
  · rw [if_neg hn, Numeral.ofInt, decide_eq_false hn, List.nil_append, scanNumeral_of_isDigit]
    · exact hscan false
    · intro c hc
      obtain ⟨d, ds, hds⟩ := List.exists_cons_of_ne_nil (digits_toDigits n.natAbs).ne_nil
      rw [hds] at hc
      obtain rfl := Option.some.inj hc
      exact (digits_toDigits n.natAbs).isDigit d (hds ▸ List.mem_cons_self)

end Integers

section Floats

/-- A number with a fraction or an exponent, and what it is without its sign. -/
inductive WrittenReal : List Char → Decimal → Prop
  | parts {whole fraction digits exponent : List Char} {e : Option Int} (hwhole : Digits whole)
      (hzero : whole.head? = some '0' → whole = ['0']) (hfraction : Fraction fraction digits)
      (hexponent : Exponent exponent e) (hreal : (digits.isEmpty && e.isNone) = false) :
      WrittenReal (whole ++ (fraction ++ exponent)) (.ofParts whole digits (e.getD 0))

variable {cs digits : List Char} {d : Decimal}

theorem WrittenReal.exists_scanMagnitude (h : WrittenReal cs d) (negative : Bool) :
    ∃ n : Numeral, n.plain = false ∧ n.negative = negative ∧ n.decimal = d ∧
      ∀ rest, Apart rest → scanMagnitude negative (cs ++ rest) = some (n, rest) := by
  cases h with
  | @parts whole fraction digits exponent e hwhole hzero hfraction hexponent hreal =>
    refine ⟨⟨negative, whole, digits, e.getD 0, digits.isEmpty && e.isNone⟩, hreal, rfl, rfl,
      fun rest hrest => ?_⟩
    rw [List.append_assoc, List.append_assoc]
    exact scanMagnitude_append hwhole hzero hfraction hexponent hrest negative

theorem WrittenReal.isDigit_head (h : WrittenReal cs d) (rest : List Char) :
    ∀ c ∈ (cs ++ rest).head?, c.isDigit = true := by
  cases h with
  | parts hwhole =>
    rw [List.append_assoc, List.head?_append_of_ne_nil _ hwhole.ne_nil]
    exact fun c hc => hwhole.isDigit c (List.mem_of_head? hc)

structure Significant (cs : List Char) : Prop extends Digits cs where
  head_ne : cs.head? ≠ some '0'

theorem significant_toDigits {n : Nat} (h : 0 < n) : Significant (Nat.toDigits 10 n) :=
  { digits_toDigits n with
    head_ne := fun hzero => by rw [eq_zero_of_head?_toDigits hzero] at h; cases h }

theorem Digits.append {front back : List Char} (hfront : Digits front)
    (hback : ∀ c ∈ back, c.isDigit = true) : Digits (front ++ back) :=
  ⟨List.append_ne_nil_of_left_ne_nil hfront.ne_nil _, fun c hc =>
    (List.mem_append.1 hc).elim (hfront.isDigit c) (hback c)⟩

theorem isDigit_of_mem_replicate_zero {n : Nat} : ∀ c ∈ List.replicate n '0', c.isDigit = true :=
  fun _ hc => (List.eq_of_mem_replicate hc) ▸ rfl

theorem digitsValue_zeros_append (n : Nat) (cs : List Char) :
    digitsValue (List.replicate n '0' ++ cs) = digitsValue cs := by
  show Nat.ofDigitChars 10 _ 0 = Nat.ofDigitChars 10 _ 0
  rw [Nat.ofDigitChars_append, Nat.ofDigitChars_replicate_zero, Nat.mul_zero]

theorem digitsValue_append_zeros (cs : List Char) (n : Nat) :
    digitsValue (cs ++ List.replicate n '0') = digitsValue cs * 10 ^ n := by
  show Nat.ofDigitChars 10 _ 0 = Nat.ofDigitChars 10 _ 0 * _
  rw [Nat.ofDigitChars_append, Nat.ofDigitChars_replicate_zero, Nat.mul_comm]

theorem writtenReal_below_one (h : Significant digits) (zeros : Nat) :
    WrittenReal ('0' :: '.' :: List.replicate zeros '0' ++ digits)
      ⟨digitsValue digits, -(zeros + digits.length : Nat)⟩ := by
  have hfraction : Digits (List.replicate zeros '0' ++ digits) :=
    ⟨List.append_ne_nil_of_right_ne_nil _ h.ne_nil, fun c hc =>
      (List.mem_append.1 hc).elim (isDigit_of_mem_replicate_zero c) (h.isDigit c)⟩
  have hwritten := WrittenReal.parts digits_zero (fun _ => rfl) (.point hfraction) .absent
    (by rw [hfraction.isEmpty_eq_false]; rfl)
  have hvalue : digitsValue ('0' :: (List.replicate zeros '0' ++ digits)) = digitsValue digits :=
    digitsValue_zeros_append (zeros + 1) digits
  simpa [Decimal.ofParts, hvalue] using hwritten

theorem writtenReal_split (h : Significant digits) {k : Nat} (hpos : 0 < k)
    (hk : k < digits.length) :
    WrittenReal (digits.take k ++ '.' :: digits.drop k)
      ⟨digitsValue digits, k - digits.length⟩ := by
  have hwhole : Digits (digits.take k) :=
    ⟨by simp [h.ne_nil]; omega, fun c hc => h.isDigit c (List.mem_of_mem_take hc)⟩
  have hfraction : Digits (digits.drop k) :=
    ⟨by simpa using hk, fun c hc => h.isDigit c (List.mem_of_mem_drop hc)⟩
  have hhead : (digits.take k).head? = digits.head? := by
    rw [List.head?_take]
    exact if_neg (by omega)
  have hwritten := WrittenReal.parts hwhole (fun hfirst => absurd (hhead ▸ hfirst) h.head_ne)
    (.point hfraction) .absent (by rw [hfraction.isEmpty_eq_false]; rfl)
  have hexponent : -((digits.length - k : Nat) : Int) = k - digits.length := by omega
  simpa [Decimal.ofParts, hexponent] using hwritten

theorem writtenReal_whole (h : Significant digits) (zeros : Nat) :
    WrittenReal (digits ++ List.replicate zeros '0' ++ ['.', '0'])
      ⟨digitsValue digits * 10 ^ (zeros + 1), -1⟩ := by
  have hhead : (digits ++ List.replicate zeros '0').head? = digits.head? :=
    List.head?_append_of_ne_nil _ h.ne_nil
  have hwritten := WrittenReal.parts (h.append isDigit_of_mem_replicate_zero)
    (fun hfirst => absurd (hhead ▸ hfirst) h.head_ne) (.point digits_zero) .absent rfl
  have hvalue : digitsValue (digits ++ (List.replicate zeros '0' ++ ['0'])) =
      digitsValue digits * 10 ^ (zeros + 1) := by
    rw [← List.replicate_succ', digitsValue_append_zeros]
  simpa [Decimal.ofParts, hvalue] using hwritten

/-- However the digits are laid out, they are read back alike. -/
theorem exists_writtenReal_plainText (h : Significant digits) (lead : Int) :
    ∃ d, WrittenReal (plainText digits lead) d ∧
      ∀ bits, readsBack bits d = readsBack bits ⟨digitsValue digits, lead + 1 - digits.length⟩ := by
  unfold plainText
  split
  · have hexponent : -(((-lead - 1).toNat + digits.length : Nat) : Int) =
        lead + 1 - digits.length := by omega
    exact ⟨_, hexponent ▸ writtenReal_below_one h _, fun _ => rfl⟩
  · dsimp only
    by_cases hall : digits.length ≤ lead.toNat + 1
    · have hexponent : lead + 1 - digits.length = (lead.toNat + 1 - digits.length : Nat) := by omega
      rw [List.take_of_length_le hall, List.drop_of_length_le hall, hexponent]
      exact ⟨_, writtenReal_whole h _, fun _ => readsBack_shift _ _⟩
    · have hexponent : ((lead.toNat + 1 : Nat) : Int) - digits.length =
          lead + 1 - digits.length := by omega
      have hfraction : (digits.drop (lead.toNat + 1)).isEmpty = false := by simpa using hall
      rw [List.length_take_of_le (by omega), Nat.sub_self, List.replicate_zero, List.append_nil,
        hfraction]
      exact ⟨_, hexponent ▸ writtenReal_split h (by omega) (by omega), fun _ => rfl⟩

theorem exponent_toString (lead : Int) :
    Exponent ('e' :: (if true && decide (0 ≤ lead) then ['+'] else []) ++
      (toString lead).toList) (some lead) := by
  have hvalue : digitsValue (Nat.toDigits 10 lead.natAbs) = lead.natAbs :=
    Nat.ofDigitChars_ten_toDigits
  rw [toList_toString_int]
  by_cases hneg : lead < 0
  · have hpos : ¬ 0 ≤ lead := by omega
    have hlead : -(lead.natAbs : Int) = lead := by omega
    have hminus := Exponent.minus (digits_toDigits lead.natAbs)
    rw [hvalue, hlead] at hminus
    simpa [hneg, hpos] using hminus
  · have hpos : 0 ≤ lead := by omega
    have hlead : (lead.natAbs : Int) = lead := by omega
    have hplus := Exponent.plus (digits_toDigits lead.natAbs)
    rw [hvalue, hlead] at hplus
    simpa [hneg, hpos] using hplus

theorem writtenReal_exponentText (h : Significant digits) (lead : Int) :
    WrittenReal (exponentText true digits lead)
      ⟨digitsValue digits, lead + 1 - digits.length⟩ := by
  have hexponent := exponent_toString lead
  obtain ⟨c, cs, rfl⟩ := List.exists_cons_of_ne_nil h.ne_nil
  have hwhole : Digits [c] :=
    ⟨List.cons_ne_nil _ _, fun b hb => h.isDigit b (List.mem_singleton.1 hb ▸ List.mem_cons_self)⟩
  have hfirst : [c].head? = some '0' → [c] = ['0'] := fun hc => by rw [Option.some.inj hc]
  have hplaces : lead - cs.length = lead + 1 - (c :: cs).length := by
    rw [List.length_cons]
    omega
  rw [← hplaces]
  cases cs with
  | nil => simpa [exponentText, Decimal.ofParts] using
      WrittenReal.parts hwhole hfirst .absent hexponent rfl
  | cons c' cs =>
    have hfraction : Digits (c' :: cs) :=
      ⟨List.cons_ne_nil _ _, fun b hb => h.isDigit b (List.mem_cons_of_mem _ hb)⟩
    simpa [exponentText, Decimal.ofParts] using
      WrittenReal.parts hwhole hfirst (.point hfraction) hexponent rfl

theorem exists_writtenReal_magnitudeText (bits : Nat) :
    ∃ d, WrittenReal (floatStyle.magnitudeText bits) d ∧
      (bits < Binary64.infinityBits → d.nearestBits = bits) := by
  unfold FloatStyle.magnitudeText
  split
  · next hzero =>
    subst hzero
    have hwritten : WrittenReal (['0'] ++ ('.' :: ['0'] ++ [])) _ :=
      .parts digits_zero (fun _ => rfl) (.point digits_zero) .absent (e := none) rfl
    exact ⟨_, hwritten, fun _ => rfl⟩
  · next hbits =>
    have hread := readsBack_shortest floatStyle.tie hbits
    generalize shortest floatStyle.tie bits = d at hread ⊢
    have hdigits : Significant (toString d.digits).toList := by
      rw [toList_toString_nat]
      exact significant_toDigits (digits_pos_of_readsBack hbits hread)
    have hvalue : digitsValue (toString d.digits).toList = d.digits := by
      rw [toList_toString_nat]
      exact Nat.ofDigitChars_ten_toDigits
    dsimp only
    generalize (toString d.digits).toList = digits at hdigits hvalue ⊢
    have hsame : Decimal.mk (digitsValue digits)
        (d.exponent + digits.length - 1 + 1 - digits.length) = d := by
      rw [hvalue]
      congr 1
      omega
    split
    · obtain ⟨d', hwritten, hback⟩ :=
        exists_writtenReal_plainText hdigits (d.exponent + digits.length - 1)
      rw [hsame] at hback
      exact ⟨d', hwritten, fun hfinite =>
        nearestBits_of_readsBack hbits hfinite ((hback bits).trans hread)⟩
    · have hwritten := writtenReal_exponentText hdigits (d.exponent + digits.length - 1)
      rw [hsame] at hwritten
      exact ⟨d, hwritten, fun hfinite => nearestBits_of_readsBack hbits hfinite hread⟩

/-- What is written of a double is a number with a fraction or an exponent, and that of a finite one
is nearest to it. -/
theorem exists_scanNumeral_float (x : Float) :
    ∃ n : Numeral, n.plain = false ∧ (Binary64.isFinite x = true → n.nearest? = some x) ∧
      ∀ rest, Apart rest →
        scanNumeral ((floatStyle.finiteText x).toList ++ rest) = some (n, rest) := by
  obtain ⟨d, hwritten, hnearest⟩ := exists_writtenReal_magnitudeText (Binary64.magnitude x)
  obtain ⟨n, hplain, hnegative, rfl, hscan⟩ :=
    hwritten.exists_scanMagnitude (Binary64.isNegative x)
  refine ⟨n, hplain, fun hfinite => ?_, fun rest hrest => ?_⟩
  · have hlow := Binary64.isFinite_iff.mp hfinite
    rw [Numeral.nearest?, Decimal.toFloat, hnearest hlow, hnegative,
      Binary64.ofMagnitude_magnitude (Nat.le_of_lt hlow), if_pos hfinite]
  · rw [FloatStyle.finiteText, String.toList_ofList]
    cases hneg : Binary64.isNegative x with
    | true =>
      rw [hneg] at hscan
      exact hscan rest hrest
    | false =>
      rw [hneg] at hscan
      rw [if_neg Bool.false_ne_true, scanNumeral_of_isDigit (hwritten.isDigit_head rest)]
      exact hscan rest hrest

end Floats

end FormLogic.Json
