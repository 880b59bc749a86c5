import FormLogic.Number.Decimal

/-! Doubles as text, and text as doubles. -/

namespace FormLogic.Number

open Binary64

/-- How a numeral is laid out. -/
structure FloatStyle where
  /-- Least power of ten of the leading digit that is written without an exponent. -/
  plainFrom : Int
  /-- Least power of ten above those written without an exponent. -/
  plainBelow : Int
  /-- Whether an exponent that is not negative has a sign. -/
  signedExponent : Bool
  tie : Tie

/-- Digits laid out with a point before the place of `10 ^ (lead - 1)`; at least one digit stands
on either side. -/
def plainText (digits : List Char) (lead : Int) : List Char :=
  if lead < 0 then '0' :: '.' :: List.replicate (-lead - 1).toNat '0' ++ digits
  else
    let whole := digits.take (lead.toNat + 1)
    let fraction := digits.drop (lead.toNat + 1)
    whole ++ List.replicate (lead.toNat + 1 - whole.length) '0' ++
      '.' :: (if fraction.isEmpty then ['0'] else fraction)

def exponentText (signed : Bool) (digits : List Char) (lead : Int) : List Char :=
  let point := match digits.drop 1 with
    | [] => []
    | fraction => '.' :: fraction
  let sign := if signed && 0 ≤ lead then ['+'] else []
  digits.take 1 ++ point ++ 'e' :: sign ++ (toString lead).toList

namespace FloatStyle

def magnitudeText (style : FloatStyle) (bits : Nat) : List Char :=
  if bits = 0 then ['0', '.', '0']
  else
    let d := shortest style.tie bits
    let digits := (toString d.digits).toList
    let lead : Int := d.exponent + digits.length - 1
    if style.plainFrom ≤ lead ∧ lead < style.plainBelow then plainText digits lead
    else exponentText style.signedExponent digits lead

def finiteText (style : FloatStyle) (x : Float) : String :=
  let text := style.magnitudeText (magnitude x)
  String.ofList (if isNegative x then '-' :: text else text)

def text (style : FloatStyle) (x : Float) : String :=
  match place? x with
  | none => "NaN"
  | some .negativeEnd => "-inf"
  | some .positiveEnd => "inf"
  | some (.finite _) => style.finiteText x

end FloatStyle

/-- Doubles as people see them: shortest digits, plain from `0.0001` to below `10 ^ 16`. -/
def displayStyle : FloatStyle where
  plainFrom := -4
  plainBelow := 16
  signedExponent := false
  tie := .up

def floatText (x : Float) : String := displayStyle.text x

def readExponent? (cs : List Char) : Option Int :=
  match cs with
  | [] => some 0
  | c :: rest =>
    if c = 'e' || c = 'E' then
      let (negative, digits) := match rest with
        | '-' :: ds => (true, ds)
        | '+' :: ds => (false, ds)
        | ds => (false, ds)
      if digits.isEmpty || !digits.all Char.isDigit then none
      else some (if negative then -(digitsValue digits : Int) else digitsValue digits)
    else none

/-- The numeral without a sign that the characters spell: digits with or without a point, at
least one of them, and perhaps an exponent. -/
def readDecimal? (cs : List Char) : Option Decimal :=
  let whole := cs.takeWhile Char.isDigit
  let rest := cs.dropWhile Char.isDigit
  let (fraction, rest) := match rest with
    | '.' :: r => (r.takeWhile Char.isDigit, r.dropWhile Char.isDigit)
    | r => ([], r)
  if whole.isEmpty && fraction.isEmpty then none
  else (readExponent? rest).map (Decimal.ofParts whole fraction ·)

/-- The double nearest to a signed numeral; infinities and the absence of a number are spelled
out in letters of either case. -/
def readFloat? (s : String) : Option Float :=
  let (negative, body) := match s.toList with
    | '-' :: cs => (true, cs)
    | '+' :: cs => (false, cs)
    | cs => (false, cs)
  match String.ofList (body.map Char.toLower) with
  | "inf" | "infinity" => some (ofMagnitude negative infinityBits)
  | "nan" => some nan
  | _ => (readDecimal? body).map (Decimal.toFloat negative)

end FormLogic.Number
