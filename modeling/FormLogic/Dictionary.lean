/-! Values by name, kept in ascending order of the names. Two dictionaries with the same lookups
are equal, so what was inserted in which order leaves no trace. -/

namespace FormLogic

variable {α β : Type}

def Ascending (entries : List (String × α)) : Prop := entries.Pairwise (·.1 < ·.1)

instance (entries : List (String × α)) : Decidable (Ascending entries) :=
  inferInstanceAs (Decidable (List.Pairwise _ _))

/-- Entries with one more at its place in the order; an entry of the same key is replaced. -/
def insertEntry (key : String) (value : α) : List (String × α) → List (String × α)
  | [] => [(key, value)]
  | entry :: rest =>
    if key < entry.1 then (key, value) :: entry :: rest
    else if key = entry.1 then (key, value) :: rest
    else entry :: insertEntry key value rest

theorem lt_of_not_lt_of_ne {a b : String} (h : ¬ a < b) (hne : a ≠ b) : b < a := by
  rcases String.le_total a b with hab | hba
  · exact absurd (String.le_antisymm hab (String.not_lt.1 h)) hne
  · exact Classical.byContradiction fun hn => hne (String.le_antisymm (String.not_lt.1 hn) hba)

theorem fst_of_mem_insertEntry {key : String} {value : α} {entries : List (String × α)}
    {e : String × α} (h : e ∈ insertEntry key value entries) : e.1 = key ∨ e ∈ entries := by
  induction entries with
  | nil => simp [insertEntry] at h; exact .inl (congrArg Prod.fst h)
  | cons x rest ih =>
    unfold insertEntry at h
    split at h
    · rcases List.mem_cons.1 h with rfl | h
      · exact .inl rfl
      · exact .inr h
    · split at h
      · rcases List.mem_cons.1 h with rfl | h
        · exact .inl rfl
        · exact .inr (List.mem_cons_of_mem _ h)
      · rcases List.mem_cons.1 h with rfl | h
        · exact .inr List.mem_cons_self
        · exact (ih h).imp_right (List.mem_cons_of_mem _)

theorem ascending_insertEntry {key : String} {value : α} {entries : List (String × α)}
    (h : Ascending entries) : Ascending (insertEntry key value entries) := by
  induction entries with
  | nil => simp [insertEntry, Ascending]
  | cons x rest ih =>
    obtain ⟨hx, hrest⟩ := List.pairwise_cons.1 h
    unfold insertEntry
    split
    · next hlt =>
      refine List.pairwise_cons.2 ⟨fun e he => ?_, h⟩
      rcases List.mem_cons.1 he with rfl | he
      · exact hlt
      · exact String.lt_trans hlt (hx e he)
    · next hnlt =>
      split
      · next heq => exact List.pairwise_cons.2 ⟨fun e he => heq ▸ hx e he, hrest⟩
      · next hne =>
        refine List.pairwise_cons.2 ⟨fun e he => ?_, ih hrest⟩
        rcases fst_of_mem_insertEntry he with heq | he
        · exact heq ▸ lt_of_not_lt_of_ne hnlt hne
        · exact hx e he

def valueOf? (name : String) : List (String × α) → Option α
  | [] => none
  | entry :: rest => if name = entry.1 then some entry.2 else valueOf? name rest

theorem valueOf?_insertEntry (key : String) (value : α) (entries : List (String × α))
    (name : String) : valueOf? name (insertEntry key value entries) =
      if name = key then some value else valueOf? name entries := by
  induction entries with
  | nil => rfl
  | cons x rest ih => grind [insertEntry, valueOf?]

theorem valueOf?_filter (key name : String) (entries : List (String × α)) :
    valueOf? name (entries.filter (·.1 ≠ key)) =
      if name = key then none else valueOf? name entries := by
  induction entries with
  | nil => simp [valueOf?]
  | cons x rest ih => grind [valueOf?]

theorem valueOf?_eq_none {key : String} {entries : List (String × α)}
    (h : ∀ e ∈ entries, key < e.1) : valueOf? key entries = none := by
  induction entries with
  | nil => rfl
  | cons x rest ih =>
    have hx := h x List.mem_cons_self
    have hne : key ≠ x.1 := fun heq => String.lt_irrefl _ (heq ▸ hx)
    simp [valueOf?, hne, ih fun e he => h e (List.mem_cons_of_mem _ he)]

theorem valueOf?_concat (name : String) (entries : List (String × α)) (e : String × α) :
    valueOf? name (entries ++ [e]) =
      (valueOf? name entries).or (if name = e.1 then some e.2 else none) := by
  induction entries with
  | nil => rfl
  | cons x rest ih => by_cases hn : name = x.1 <;> simp [valueOf?, hn, ih]

theorem valueOf?_reverse {entries : List (String × α)} (h : Ascending entries) (name : String) :
    valueOf? name entries.reverse = valueOf? name entries := by
  induction entries with
  | nil => rfl
  | cons x rest ih =>
    obtain ⟨hx, hrest⟩ := List.pairwise_cons.1 h
    rw [List.reverse_cons, valueOf?_concat, ih hrest]
    by_cases hn : name = x.1
    · simp [valueOf?, hn, valueOf?_eq_none hx]
    · simp [valueOf?, hn]

/-- Ascending entries are fixed by what is found under each key. -/
theorem eq_of_valueOf?_eq {xs ys : List (String × α)} (hx : Ascending xs) (hy : Ascending ys)
    (h : ∀ name, valueOf? name xs = valueOf? name ys) : xs = ys := by
  induction xs generalizing ys with
  | nil =>
    cases ys with
    | nil => rfl
    | cons y ys => simpa [valueOf?] using h y.1
  | cons x xs ih =>
    obtain ⟨hxs, hxa⟩ := List.pairwise_cons.1 hx
    cases ys with
    | nil => simpa [valueOf?] using h x.1
    | cons y ys =>
      obtain ⟨hys, hya⟩ := List.pairwise_cons.1 hy
      have hkey : x.1 = y.1 := by
        refine Classical.byContradiction fun hne => ?_
        rcases Classical.em (x.1 < y.1) with hlt | hnlt
        · have hnone := valueOf?_eq_none fun e he => String.lt_trans hlt (hys e he)
          simpa [valueOf?, hne, hnone] using h x.1
        · have hlt := lt_of_not_lt_of_ne hnlt hne
          have hnone := valueOf?_eq_none fun e he => String.lt_trans hlt (hxs e he)
          simpa [valueOf?, Ne.symm hne, hnone] using h y.1
      have hvalue : x.2 = y.2 := by simpa [valueOf?, hkey] using h x.1
      obtain rfl : x = y := Prod.ext hkey hvalue
      refine congrArg _ (ih hxa hya fun name => ?_)
      by_cases hn : name = x.1
      · rw [hn, valueOf?_eq_none hxs, valueOf?_eq_none hys]
      · simpa [valueOf?, hn] using h name

structure Dictionary (α : Type) where
  entries : List (String × α)
  ascending : Ascending entries

namespace Dictionary

def empty : Dictionary α := ⟨[], List.Pairwise.nil⟩

instance : Inhabited (Dictionary α) := ⟨empty⟩

instance [DecidableEq α] : DecidableEq (Dictionary α) := fun d e =>
  decidable_of_iff (d.entries = e.entries) ⟨fun h => by cases d; cases e; simp_all, (· ▸ rfl)⟩

def get? (d : Dictionary α) (name : String) : Option α := valueOf? name d.entries

def contains (d : Dictionary α) (name : String) : Bool := (d.get? name).isSome

def keys (d : Dictionary α) : List String := d.entries.map (·.1)

def size (d : Dictionary α) : Nat := d.entries.length

def insert (d : Dictionary α) (name : String) (value : α) : Dictionary α :=
  ⟨insertEntry name value d.entries, ascending_insertEntry d.ascending⟩

def erase (d : Dictionary α) (name : String) : Dictionary α :=
  ⟨d.entries.filter (·.1 ≠ name), d.ascending.filter _⟩

/-- The entries in turn, later ones in place of earlier ones of the same name. -/
def insertAll (d : Dictionary α) (entries : List (String × α)) : Dictionary α :=
  entries.foldl (fun d e => d.insert e.1 e.2) d

def ofList (entries : List (String × α)) : Dictionary α := empty.insertAll entries

/-- The first dictionary with the values of the second laid over it. -/
def overlay (d upper : Dictionary α) : Dictionary α := d.insertAll upper.entries

@[simp] theorem get?_empty (name : String) : (empty : Dictionary α).get? name = none := rfl

theorem get?_insert (d : Dictionary α) (key : String) (value : α) (name : String) :
    (d.insert key value).get? name = if name = key then some value else d.get? name :=
  valueOf?_insertEntry ..

theorem get?_erase (d : Dictionary α) (key name : String) :
    (d.erase key).get? name = if name = key then none else d.get? name :=
  valueOf?_filter ..

theorem contains_iff {d : Dictionary α} {name : String} :
    d.contains name = true ↔ ∃ v, d.get? name = some v := by
  rw [contains, Option.isSome_iff_exists]

theorem get?_eq_some_iff {d : Dictionary α} {name : String} {value : α} :
    d.get? name = some value ↔ (name, value) ∈ d.entries := by
  obtain ⟨entries, h⟩ := d
  show valueOf? name entries = some value ↔ (name, value) ∈ entries
  induction entries with
  | nil => simp [valueOf?]
  | cons x rest ih =>
    obtain ⟨hx, hrest⟩ := List.pairwise_cons.1 h
    by_cases hn : name = x.1
    · subst hn
      have hnot : ∀ v, (x.1, v) ∉ rest := fun v hv => String.lt_irrefl _ (hx (x.1, v) hv)
      rw [valueOf?, if_pos rfl, List.mem_cons]
      exact ⟨fun hv => .inl (Prod.ext rfl (Option.some.inj hv).symm), fun hv =>
        hv.elim (fun he => congrArg some (congrArg Prod.snd he).symm) (absurd · (hnot value))⟩
    · have hne : (name, value) ≠ x := fun he => hn (congrArg Prod.fst he)
      simp [valueOf?, hn, hne, ih hrest]

theorem mem_keys_iff {d : Dictionary α} {name : String} :
    name ∈ d.keys ↔ d.contains name = true := by
  rw [contains_iff, keys, List.mem_map]
  exact ⟨fun ⟨e, he, hn⟩ => ⟨e.2, get?_eq_some_iff.2 (hn ▸ he)⟩,
    fun ⟨v, hv⟩ => ⟨(name, v), get?_eq_some_iff.1 hv, rfl⟩⟩

/-- Of entries laid over a dictionary the last one of a name counts. -/
theorem get?_insertAll (d : Dictionary α) (entries : List (String × α)) (name : String) :
    (d.insertAll entries).get? name = (valueOf? name entries.reverse).or (d.get? name) := by
  induction entries generalizing d with
  | nil => rfl
  | cons e rest ih =>
    show ((d.insert e.1 e.2).insertAll rest).get? name = _
    rw [ih, get?_insert, List.reverse_cons, valueOf?_concat, Option.or_assoc]
    by_cases hn : name = e.1 <;> simp [hn]

theorem get?_overlay (d upper : Dictionary α) (name : String) :
    (d.overlay upper).get? name = (upper.get? name).or (d.get? name) := by
  rw [overlay, get?_insertAll, valueOf?_reverse upper.ascending]
  rfl

theorem ext_get? {d e : Dictionary α} (h : ∀ name, d.get? name = e.get? name) : d = e := by
  cases d with
  | mk xs hx => cases e with
    | mk ys hy => congr; exact eq_of_valueOf?_eq hx hy h

end Dictionary

/-- A finite set of names, in ascending order. -/
abbrev NameSet := Dictionary Unit

namespace NameSet

def add (s : NameSet) (name : String) : NameSet := s.insert name ()

def ofNames (names : List String) : NameSet := names.foldl add .empty

def names (s : NameSet) : List String := s.keys

theorem mem_names_add {s : NameSet} {name other : String} :
    other ∈ (s.add name).names ↔ other = name ∨ other ∈ s.names := by
  rw [names, names, Dictionary.mem_keys_iff, Dictionary.mem_keys_iff, Dictionary.contains,
    Dictionary.contains, add, Dictionary.get?_insert]
  by_cases h : other = name <;> simp [h]

theorem mem_names_ofNames {names : List String} {name : String} :
    name ∈ (ofNames names).names ↔ name ∈ names := by
  have key : ∀ (s : NameSet), name ∈ (names.foldl add s).names ↔ name ∈ s.names ∨ name ∈ names := by
    induction names with
    | nil => simp
    | cons x rest ih => intro s; rw [List.foldl_cons, ih, mem_names_add, List.mem_cons]; grind
  simpa [ofNames, NameSet.names, Dictionary.keys, Dictionary.empty] using key .empty

end NameSet

end FormLogic
