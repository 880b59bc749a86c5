import FormLogic.Json.Printer
import FormLogic.Json.Reader

/-! Text formats of documents. What storing relies on is named here, so that it holds of any format
that keeps what it is given; two formats of that kind are the layouts of JSON. -/

namespace FormLogic.Json

mutual

/-- How many containers stand inside one another. -/
def nesting : Json → Nat
  | array items => nestingOfItems items + 1
  | object members => nestingOfMembers members + 1
  | _ => 0

def nestingOfItems : List Json → Nat
  | [] => 0
  | j :: js => max (nesting j) (nestingOfItems js)

def nestingOfMembers : List (String × Json) → Nat
  | [] => 0
  | (_, j) :: js => max (nesting j) (nestingOfMembers js)

end

/-- Documents with integers of 64 bits, doubles of the given kind, and no name twice in an object. -/
inductive Plain (double : Float → Prop) : Json → Prop
  | null : Plain double .null
  | boolean (b : Bool) : Plain double (.boolean b)
  | integer {n : Int} (h : Number.Fits n) : Plain double (.integer n)
  | float {x : Float} (h : double x) : Plain double (.float x)
  | text (s : String) : Plain double (.text s)
  | array {items : List Json} (h : ∀ j ∈ items, Plain double j) : Plain double (.array items)
  | object {members : List (String × Json)} (hnames : (members.map (·.1)).Nodup)
      (h : ∀ m ∈ members, Plain double m.2) : Plain double (.object members)

/-- Documents that storing keeps. -/
abbrev Storable : Json → Prop := Plain fun x => Binary64.isFinite x = true

theorem Plain.mono {p q : Float → Prop} (h : ∀ x, p x → q x) {j : Json} (hj : Plain p j) :
    Plain q j := by
  induction hj with
  | null => exact .null
  | boolean b => exact .boolean b
  | integer hn => exact .integer hn
  | float hx => exact .float (h _ hx)
  | text s => exact .text s
  | array _ ih => exact .array ih
  | object hnames _ ih => exact .object hnames ih

/-- A way to write documents as text and to read them again, down to so many containers inside one
another. -/
structure TextFormat where
  write : Json → String
  read? : String → Option Json
  nestingLimit : Nat

namespace TextFormat

variable (format : TextFormat)

/-- Whether the number that is written of a double is read as a double again, and as that one. -/
def KeepsDouble (x : Float) : Prop := format.read? (format.write (.float x)) = some (.float x)

/-- What storing relies on. A document comes back if each of its doubles does by itself, and every
finite double does. -/
structure Faithful : Prop where
  documents : ∀ j, Plain format.KeepsDouble j → j.nesting ≤ format.nestingLimit →
    format.read? (format.write j) = some j
  doubles : ∀ x, Binary64.isFinite x = true → format.KeepsDouble x

/-- A document with finite doubles comes back. -/
theorem Faithful.read?_write {format : TextFormat} (h : format.Faithful) {j : Json}
    (hj : j.Storable) (hdepth : j.nesting ≤ format.nestingLimit) :
    format.read? (format.write j) = some j :=
  h.documents j (hj.mono h.doubles) hdepth

end TextFormat

/-- Documents in one line, with numbers that are taken to doubles as given. -/
def compactFormat (double? : Numeral → Option Float) : TextFormat where
  write := compactText
  read? := readWith double?
  nestingLimit := nestingLimit

def prettyFormat (double? : Numeral → Option Float) : TextFormat where
  write := prettyText
  read? := readWith double?
  nestingLimit := nestingLimit

end FormLogic.Json
