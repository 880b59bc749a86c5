import FormLogic.Value.Equality
import FormLogic.Proofs.Number.Integers

/-! What values mean: a number of either kind means its place on the number line. Values agree
exactly if they mean the same, and only what contains the absence of a number means nothing. -/

namespace FormLogic

open Binary64

/-- Where a number lies exactly. -/
def Quantity.place? : Quantity → Option Place
  | .integer n => some (.ofInt n.toInt)
  | .float x => Binary64.place? x

/-- What a value means. -/
inductive Meaning where
  | null
  | boolean (b : Bool)
  | number (place : Place)
  | text (s : String)
  | list (items : List Meaning)
  | map (entries : List (String × Meaning))

def Meaning.isTruthy : Meaning → Bool
  | .null => false
  | .boolean b => b
  | .number p => p ≠ .ofInt 0
  | .text s => s ≠ ""
  | .list items => !items.isEmpty
  | .map entries => !entries.isEmpty

namespace Value

mutual

/-- What a value means, if no float in it is the absence of a number. -/
def meaning? : Value → Option Meaning
  | .null => some .null
  | .boolean b => some (.boolean b)
  | .integer n => (Quantity.integer n).place?.map .number
  | .float x => (Quantity.float x).place?.map .number
  | .text s => some (.text s)
  | .list items => (itemMeanings? items).map .list
  | .map entries => (entryMeanings? entries).map .map

def itemMeanings? : List Value → Option (List Meaning)
  | [] => some []
  | v :: vs =>
    match meaning? v, itemMeanings? vs with
    | some m, some ms => some (m :: ms)
    | _, _ => none

def entryMeanings? : List (String × Value) → Option (List (String × Meaning))
  | [] => some []
  | (k, v) :: es =>
    match meaning? v, entryMeanings? es with
    | some m, some ms => some ((k, m) :: ms)
    | _, _ => none

end

mutual

/-- Whether some float anywhere in a value is the absence of a number. -/
def hasNaN : Value → Bool
  | .float x => isNaN x
  | .list items => itemsHaveNaN items
  | .map entries => entriesHaveNaN entries
  | .null | .boolean _ | .integer _ | .text _ => false

def itemsHaveNaN : List Value → Bool
  | [] => false
  | v :: vs => hasNaN v || itemsHaveNaN vs

def entriesHaveNaN : List (String × Value) → Bool
  | [] => false
  | (_, v) :: es => hasNaN v || entriesHaveNaN es

end

/-- Induction on values, in which lists and maps have their items for parts. -/
@[elab_as_elim]
theorem inductionOnParts {motive : Value → Prop} (null : motive .null)
    (boolean : ∀ b, motive (.boolean b)) (integer : ∀ n, motive (.integer n))
    (float : ∀ x, motive (.float x)) (text : ∀ s, motive (.text s))
    (list : ∀ items, (∀ v ∈ items, motive v) → motive (.list items))
    (map : ∀ entries, (∀ e ∈ entries, motive e.2) → motive (.map entries)) (v : Value) : motive v :=
  match v with
  | .null => null
  | .boolean b => boolean b
  | .integer n => integer n
  | .float x => float x
  | .text s => text s
  | .list items =>
    list items fun v _ => inductionOnParts null boolean integer float text list map v
  | .map entries =>
    map entries fun (_, v) _ => inductionOnParts null boolean integer float text list map v
termination_by v
decreasing_by
  · next hv =>
    have hsize := List.sizeOf_lt_of_mem hv
    simp only [Value.list.sizeOf_spec]
    omega
  · next he =>
    have hsize := List.sizeOf_lt_of_mem he
    simp only [Value.map.sizeOf_spec, Prod.mk.sizeOf_spec] at hsize ⊢
    omega

variable {items : List Value} {entries : List (String × Value)}

theorem isSome_itemMeanings? (h : ∀ v ∈ items, v.meaning?.isSome = !v.hasNaN) :
    (itemMeanings? items).isSome = !itemsHaveNaN items := by
  induction items with
  | nil => rfl
  | cons v vs ih =>
    have hv := h v List.mem_cons_self
    have hvs := ih fun w hw => h w (List.mem_cons_of_mem _ hw)
    rw [itemMeanings?, itemsHaveNaN, Bool.not_or, ← hv, ← hvs]
    cases meaning? v <;> cases itemMeanings? vs <;> rfl

theorem isSome_entryMeanings? (h : ∀ e ∈ entries, e.2.meaning?.isSome = !e.2.hasNaN) :
    (entryMeanings? entries).isSome = !entriesHaveNaN entries := by
  induction entries with
  | nil => rfl
  | cons e es ih =>
    have he := h e List.mem_cons_self
    have hes := ih fun f hf => h f (List.mem_cons_of_mem _ hf)
    rw [entryMeanings?, entriesHaveNaN, Bool.not_or, ← he, ← hes]
    cases meaning? e.2 <;> cases entryMeanings? es <;> rfl

theorem isSome_meaning? (v : Value) : v.meaning?.isSome = !v.hasNaN := by
  induction v using inductionOnParts with
  | null => rfl
  | boolean b => rfl
  | integer n => rfl
  | float x =>
    rw [meaning?, hasNaN, isNaN, Quantity.place?, Option.isSome_map]
    cases Binary64.place? x <;> rfl
  | text s => rfl
  | list items ih => rw [meaning?, hasNaN, Option.isSome_map, isSome_itemMeanings? ih]
  | map entries ih => rw [meaning?, hasNaN, Option.isSome_map, isSome_entryMeanings? ih]

theorem agrees_ofQuantity_iff {a b : Quantity} :
    (ofQuantity a).agrees (ofQuantity b) = true ↔ ∃ p, a.place? = some p ∧ b.place? = some p := by
  cases a with
  | integer m =>
    cases b with
    | integer n =>
      simp only [ofQuantity, agrees, decide_eq_true_eq, Quantity.place?, Option.some.injEq,
        exists_eq_left', ← Int64.toInt_inj]
      exact ⟨fun h => by rw [h], fun h => (Place.strictMono_ofInt.injective h).symm⟩
    | float y => simp [ofQuantity, agrees, isExactly_iff, Quantity.place?]
  | float x =>
    cases b with
    | integer n => simp [ofQuantity, agrees, isExactly_iff, Quantity.place?]
    | float y =>
      rw [ofQuantity, ofQuantity, agrees, decide_eq_true_eq, Quantity.place?, Quantity.place?]
      cases hx : Binary64.place? x with
      | none => simp [compare?, hx]
      | some p =>
        cases hy : Binary64.place? y with
        | none => simp [compare?, hy]
        | some q => simp [compare?_eq hx hy, Place.compare_eq_eq, eq_comm (a := q)]

theorem itemMeanings?_cons_eq_some_iff {v : Value} {ms : List Meaning} :
    itemMeanings? (v :: items) = some ms ↔
      ∃ m ns, v.meaning? = some m ∧ itemMeanings? items = some ns ∧ ms = m :: ns := by
  rw [itemMeanings?]
  cases meaning? v <;> cases itemMeanings? items <;> simp [eq_comm]

theorem entryMeanings?_cons_eq_some_iff {e : String × Value} {ms : List (String × Meaning)} :
    entryMeanings? (e :: entries) = some ms ↔
      ∃ m ns, e.2.meaning? = some m ∧ entryMeanings? entries = some ns ∧ ms = (e.1, m) :: ns := by
  rw [entryMeanings?]
  cases meaning? e.2 <;> cases entryMeanings? entries <;> simp [eq_comm]

theorem itemsAgree_iff
    (h : ∀ v ∈ items, ∀ w, v.agrees w = true ↔ ∃ m, v.meaning? = some m ∧ w.meaning? = some m)
    (others : List Value) :
    itemsAgree items others = true ↔
      ∃ ms, itemMeanings? items = some ms ∧ itemMeanings? others = some ms := by
  induction items generalizing others with
  | nil =>
    cases others with
    | nil => simp [itemsAgree, itemMeanings?]
    | cons w ws => simp [itemsAgree, itemMeanings?.eq_1, itemMeanings?_cons_eq_some_iff]
  | cons v vs ih =>
    cases others with
    | nil => simp [itemsAgree, itemMeanings?.eq_1, itemMeanings?_cons_eq_some_iff]
    | cons w ws =>
      have hv := h v List.mem_cons_self w
      have hvs := ih (fun u hu => h u (List.mem_cons_of_mem _ hu)) ws
      simp only [itemsAgree, Bool.and_eq_true, hv, hvs, itemMeanings?_cons_eq_some_iff]
      constructor
      · rintro ⟨⟨m, hm, hm'⟩, ns, hns, hns'⟩
        exact ⟨m :: ns, ⟨m, ns, hm, hns, rfl⟩, m, ns, hm', hns', rfl⟩
      · rintro ⟨_, ⟨m, ns, hm, hns, rfl⟩, _, _, hm', hns', hms⟩
        cases hms
        exact ⟨⟨m, hm, hm'⟩, ns, hns, hns'⟩

theorem entriesAgree_iff
    (h : ∀ e ∈ entries, ∀ w,
      e.2.agrees w = true ↔ ∃ m, e.2.meaning? = some m ∧ w.meaning? = some m)
    (others : List (String × Value)) :
    entriesAgree entries others = true ↔
      ∃ ms, entryMeanings? entries = some ms ∧ entryMeanings? others = some ms := by
  induction entries generalizing others with
  | nil =>
    cases others with
    | nil => simp [entriesAgree, entryMeanings?]
    | cons f fs => simp [entriesAgree, entryMeanings?.eq_1, entryMeanings?_cons_eq_some_iff]
  | cons e es ih =>
    cases others with
    | nil => simp [entriesAgree, entryMeanings?.eq_1, entryMeanings?_cons_eq_some_iff]
    | cons f fs =>
      have he := h e List.mem_cons_self f.2
      have hes := ih (fun g hg => h g (List.mem_cons_of_mem _ hg)) fs
      simp only [entriesAgree, Bool.and_eq_true, decide_eq_true_eq, he, hes,
        entryMeanings?_cons_eq_some_iff]
      constructor
      · rintro ⟨⟨hkey, m, hm, hm'⟩, ns, hns, hns'⟩
        exact ⟨(e.1, m) :: ns, ⟨m, ns, hm, hns, rfl⟩, m, ns, hm', hns', by rw [hkey]⟩
      · rintro ⟨_, ⟨m, ns, hm, hns, rfl⟩, _, _, hm', hns', hms⟩
        simp only [List.cons.injEq, Prod.mk.injEq] at hms
        obtain ⟨⟨hkey, rfl⟩, rfl⟩ := hms
        exact ⟨⟨hkey, m, hm, hm'⟩, ns, hns, hns'⟩

theorem meaning?_ofQuantity (q : Quantity) : (ofQuantity q).meaning? = q.place?.map .number := by
  cases q <;> rfl

theorem agrees_iff_of_quantity (q : Quantity) (w : Value) :
    (ofQuantity q).agrees w = true ↔
      ∃ m, (ofQuantity q).meaning? = some m ∧ w.meaning? = some m := by
  cases hw : w.quantity? with
  | some r =>
    have hofQuantity : w = ofQuantity r := by
      cases w <;> cases hw <;> rfl
    subst hofQuantity
    rw [agrees_ofQuantity_iff, meaning?_ofQuantity, meaning?_ofQuantity]
    simp
  | none =>
    have hdisagrees : (ofQuantity q).agrees w = false := by
      cases q <;> cases w <;> first | rfl | cases hw
    rw [meaning?_ofQuantity, hdisagrees]
    cases w with
    | integer n => cases hw
    | float x => cases hw
    | _ => simp [meaning?]

/-- Values agree exactly if they mean the same. -/
theorem agrees_iff (v w : Value) :
    v.agrees w = true ↔ ∃ m, v.meaning? = some m ∧ w.meaning? = some m := by
  induction v using inductionOnParts generalizing w with
  | null => cases w <;> simp [agrees, meaning?]
  | boolean b => cases w <;> simp [agrees, meaning?, eq_comm]
  | integer n => exact agrees_iff_of_quantity (.integer n) w
  | float x => exact agrees_iff_of_quantity (.float x) w
  | text s => cases w <;> simp [agrees, meaning?, eq_comm]
  | list items ih =>
    cases w with
    | list others => simp [agrees, meaning?, itemsAgree_iff ih]
    | _ => simp [agrees, meaning?]
  | map entries ih =>
    cases w with
    | map rest => simp [agrees, meaning?, entriesAgree_iff ih]
    | _ => simp [agrees, meaning?]

end Value
end FormLogic
