import FormLogic.Value.Basic

/-! Two equalities of values: being the same value, which tells everything apart, and agreeing,
which compares numbers of both kinds by what they denote. -/

namespace FormLogic.Value

mutual

def decideEq : (v w : Value) → Decidable (v = w)
  | .null, .null => isTrue rfl
  | .boolean a, .boolean b => decidable_of_iff (a = b) (by simp)
  | .integer a, .integer b => decidable_of_iff (a = b) (by simp)
  | .float a, .float b => decidable_of_iff (a = b) (by simp)
  | .text a, .text b => decidable_of_iff (a = b) (by simp)
  | .list a, .list b =>
    match decideItemsEq a b with
    | isTrue h => isTrue (by rw [h])
    | isFalse h => isFalse (by simpa using h)
  | .map a, .map b =>
    match decideEntriesEq a b with
    | isTrue h => isTrue (by rw [h])
    | isFalse h => isFalse (by simpa using h)
  | .null, .boolean _ | .null, .integer _ | .null, .float _ | .null, .text _ | .null, .list _
  | .null, .map _ | .boolean _, .null | .boolean _, .integer _ | .boolean _, .float _
  | .boolean _, .text _ | .boolean _, .list _ | .boolean _, .map _ | .integer _, .null
  | .integer _, .boolean _ | .integer _, .float _ | .integer _, .text _ | .integer _, .list _
  | .integer _, .map _ | .float _, .null | .float _, .boolean _ | .float _, .integer _
  | .float _, .text _ | .float _, .list _ | .float _, .map _ | .text _, .null
  | .text _, .boolean _ | .text _, .integer _ | .text _, .float _ | .text _, .list _
  | .text _, .map _ | .list _, .null | .list _, .boolean _ | .list _, .integer _
  | .list _, .float _ | .list _, .text _ | .list _, .map _ | .map _, .null | .map _, .boolean _
  | .map _, .integer _ | .map _, .float _ | .map _, .text _ | .map _, .list _ =>
    isFalse nofun

def decideItemsEq : (vs ws : List Value) → Decidable (vs = ws)
  | [], [] => isTrue rfl
  | [], _ :: _ | _ :: _, [] => isFalse nofun
  | v :: vs, w :: ws =>
    match decideEq v w, decideItemsEq vs ws with
    | isTrue h, isTrue hs => isTrue (by rw [h, hs])
    | isFalse h, _ => isFalse (by simp [h])
    | _, isFalse hs => isFalse (by simp [hs])

def decideEntriesEq : (vs ws : List (String × Value)) → Decidable (vs = ws)
  | [], [] => isTrue rfl
  | [], _ :: _ | _ :: _, [] => isFalse nofun
  | (k, v) :: vs, (l, w) :: ws =>
    match decEq k l, decideEq v w, decideEntriesEq vs ws with
    | isTrue hk, isTrue h, isTrue hs => isTrue (by rw [hk, h, hs])
    | isFalse hk, _, _ => isFalse (by simp [hk])
    | _, isFalse h, _ => isFalse (by simp [h])
    | _, _, isFalse hs => isFalse (by simp [hs])

end

instance : DecidableEq Value := decideEq

mutual

/-- Whether two values agree. An integer agrees with a float that denotes exactly it; otherwise
values of different kinds do not agree, and what is not a number agrees with nothing. -/
def agrees : Value → Value → Bool
  | .null, .null => true
  | .boolean a, .boolean b => a = b
  | .integer a, .integer b => a = b
  | .integer n, .float x => Binary64.isExactly x n
  | .float x, .integer n => Binary64.isExactly x n
  | .float x, .float y => Binary64.compare? x y = some .eq
  | .text a, .text b => a = b
  | .list a, .list b => itemsAgree a b
  | .map a, .map b => entriesAgree a b
  | _, _ => false

def itemsAgree : List Value → List Value → Bool
  | [], [] => true
  | v :: vs, w :: ws => agrees v w && itemsAgree vs ws
  | _, _ => false

def entriesAgree : List (String × Value) → List (String × Value) → Bool
  | [], [] => true
  | (k, v) :: vs, (l, w) :: ws => k = l && agrees v w && entriesAgree vs ws
  | _, _ => false

end

end FormLogic.Value
