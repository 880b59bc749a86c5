/-! Texts cut by bytes. A cut falls between two characters or it cannot be made. -/

namespace FormLogic.InPlace

def bytes : List Char → Nat
  | [] => 0
  | c :: cs => c.utf8Size + bytes cs

@[simp] theorem bytes_nil : bytes [] = 0 := rfl
@[simp] theorem bytes_cons (c : Char) (cs : List Char) :
    bytes (c :: cs) = c.utf8Size + bytes cs := rfl
@[simp] theorem bytes_append (cs ds : List Char) : bytes (cs ++ ds) = bytes cs + bytes ds := by
  induction cs with
  | nil => simp
  | cons c cs ih => simp [ih, Nat.add_assoc]

theorem bytes_eq_zero_iff {cs : List Char} : bytes cs = 0 ↔ cs = [] := by
  cases cs with
  | nil => simp
  | cons c cs =>
    have := c.utf8Size_pos
    simp only [bytes_cons, reduceCtorEq, iff_false]
    omega

/-- The characters up to a byte and those from there on. -/
def cut? : List Char → Nat → Option (List Char × List Char)
  | cs, 0 => some ([], cs)
  | [], _ + 1 => none
  | c :: cs, n + 1 =>
    if c.utf8Size ≤ n + 1 then (cut? cs (n + 1 - c.utf8Size)).map fun r => (c :: r.1, r.2)
    else none

def slice? (text : List Char) (first last : Nat) : Option (List Char) :=
  if first ≤ last then do
    let (_, back) ← cut? text first
    let (middle, _) ← cut? back (last - first)
    return middle
  else none

theorem cut?_eq_some_iff {text front back : List Char} {n : Nat} :
    cut? text n = some (front, back) ↔ text = front ++ back ∧ bytes front = n := by
  induction text, n using cut?.induct generalizing front back with
  | case1 cs =>
    simp only [cut?, Option.some.injEq, Prod.mk.injEq, bytes_eq_zero_iff]
    constructor
    · rintro ⟨rfl, rfl⟩
      exact ⟨rfl, rfl⟩
    · rintro ⟨rfl, rfl⟩
      exact ⟨rfl, rfl⟩
  | case2 n =>
    simp only [cut?, reduceCtorEq, false_iff]
    rintro ⟨hnil, hbytes⟩
    rw [(List.append_eq_nil_iff.mp hnil.symm).1] at hbytes
    cases hbytes
  | case3 c cs n hsize ih =>
    simp only [cut?, hsize, if_true, Option.map_eq_some_iff, Prod.exists, Prod.mk.injEq, ih]
    constructor
    · rintro ⟨front, back, ⟨rfl, hbytes⟩, rfl, rfl⟩
      exact ⟨rfl, by rw [bytes_cons, hbytes, Nat.add_sub_of_le hsize]⟩
    · rintro ⟨htext, hbytes⟩
      cases front with
      | nil => cases hbytes
      | cons d front =>
        obtain ⟨rfl, rfl⟩ := List.cons.inj htext
        exact ⟨front, back, ⟨rfl, Nat.eq_sub_of_add_eq' hbytes⟩, rfl, rfl⟩
  | case4 c cs n hsize =>
    simp only [cut?, hsize, if_false, reduceCtorEq, false_iff]
    rintro ⟨htext, hbytes⟩
    cases front with
    | nil => cases hbytes
    | cons d front =>
      obtain ⟨rfl, rfl⟩ := List.cons.inj htext
      exact hsize (Nat.le.intro hbytes)

/-- A slice can be taken exactly between two cuts, the first no later than the last. -/
theorem slice?_eq_some_iff {text middle : List Char} {first last : Nat} :
    slice? text first last = some middle ↔ ∃ front back, text = front ++ middle ++ back ∧
      bytes front = first ∧ bytes (front ++ middle) = last := by
  simp only [slice?, Option.ite_none_right_eq_some, Option.bind_eq_bind, Option.bind_eq_some_iff,
    Option.pure_def, Option.some.injEq, Prod.exists, cut?_eq_some_iff]
  constructor
  · rintro ⟨hle, front, cs, ⟨rfl, rfl⟩, middle, back, ⟨rfl, hbytes⟩, rfl⟩
    exact ⟨front, back, (List.append_assoc ..).symm, rfl,
      by rw [bytes_append, hbytes, Nat.add_sub_of_le hle]⟩
  · rintro ⟨front, back, rfl, rfl, rfl⟩
    rw [bytes_append]
    exact ⟨Nat.le_add_right _ _, front, middle ++ back, ⟨List.append_assoc .., rfl⟩, middle, back,
      ⟨rfl, (Nat.add_sub_cancel_left _ _).symm⟩, rfl⟩

/-- A text that is read in place, by the bytes of its characters. -/
structure Source where
  chars : List Char

namespace Source

def CutAt (s : Source) (n : Nat) (back : List Char) : Prop :=
  ∃ front, s.chars = front ++ back ∧ bytes front = n

variable {s : Source} {n : Nat} {back : List Char}

theorem cutAt_zero (s : Source) : s.CutAt 0 s.chars := ⟨[], rfl, rfl⟩

namespace CutAt

theorem cut? (h : s.CutAt n back) : ∃ front, InPlace.cut? s.chars n = some (front, back) := by
  obtain ⟨front, h⟩ := h
  exact ⟨front, cut?_eq_some_iff.mpr h⟩

theorem append {used : List Char} (h : s.CutAt n (used ++ back)) :
    s.CutAt (n + bytes used) back := by
  obtain ⟨front, hchars, rfl⟩ := h
  exact ⟨front ++ used, by rw [hchars, List.append_assoc], bytes_append front used⟩

theorem cons {c : Char} (h : s.CutAt n (c :: back)) : s.CutAt (n + c.utf8Size) back :=
  have hused : s.CutAt n ([c] ++ back) := h
  hused.append

theorem slice? {used : List Char} (h : s.CutAt n (used ++ back)) :
    InPlace.slice? s.chars n (n + bytes used) = some used := by
  obtain ⟨front, hchars, rfl⟩ := h
  exact slice?_eq_some_iff.mpr
    ⟨front, back, by rw [hchars, List.append_assoc], rfl, bytes_append front used⟩

theorem column (h : s.CutAt n back) :
    ∃ front, InPlace.slice? s.chars 0 n = some front ∧
      front.length = s.chars.length - back.length := by
  obtain ⟨front, hchars, rfl⟩ := h
  refine ⟨front, slice?_eq_some_iff.mpr ⟨[], back, hchars, rfl, rfl⟩, ?_⟩
  rw [hchars, List.length_append, Nat.add_sub_cancel]

end CutAt

end Source

end FormLogic.InPlace
