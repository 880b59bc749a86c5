import FormLogic.Json.Format
import FormLogic.Json.Record

/-! Records that their documents give back, and so do the texts of a faithful format. What is needed
of a record is needed of its members, each of them inside one container more. -/

namespace FormLogic.Json

section Nesting

variable {depth : Nat}

theorem nestingOfItems_le_iff {items : List Json} :
    nestingOfItems items ≤ depth ↔ ∀ j ∈ items, j.nesting ≤ depth := by
  induction items with
  | nil => simp [nestingOfItems]
  | cons j js ih => simp [nestingOfItems, Nat.max_le, ih]

theorem nestingOfMembers_le_iff {members : List (String × Json)} :
    nestingOfMembers members ≤ depth ↔ ∀ m ∈ members, m.2.nesting ≤ depth := by
  induction members with
  | nil => simp [nestingOfMembers]
  | cons m js ih => simp [nestingOfMembers, Nat.max_le, ih]

/-- An array takes one container, and leaves the others to its items. -/
theorem exists_of_nesting_array_le {items : List Json} (h : (array items).nesting ≤ depth) :
    ∃ d, depth = d + 1 ∧ ∀ j ∈ items, j.nesting ≤ d := by
  rw [nesting] at h
  refine ⟨depth - 1, by omega, nestingOfItems_le_iff.mp (by omega)⟩

theorem exists_of_nesting_object_le {members : List (String × Json)}
    (h : (object members).nesting ≤ depth) :
    ∃ d, depth = d + 1 ∧ ∀ m ∈ members, m.2.nesting ≤ d := by
  rw [nesting] at h
  refine ⟨depth - 1, by omega, nestingOfMembers_le_iff.mp (by omega)⟩

theorem nesting_le_of_mem_items {items : List Json} {j : Json} (hj : j ∈ items)
    (h : (array items).nesting ≤ depth) : j.nesting ≤ depth - 1 := by
  obtain ⟨d, rfl, hd⟩ := exists_of_nesting_array_le h
  exact hd j hj

theorem nesting_le_of_mem_members {members : List (String × Json)} {m : String × Json}
    (hm : m ∈ members) (h : (object members).nesting ≤ depth) : m.2.nesting ≤ depth - 1 := by
  obtain ⟨d, rfl, hd⟩ := exists_of_nesting_object_le h
  exact hd m hm

end Nesting

section Records

variable {α : Type}

/-- Whether a record is a document with finite doubles, and a reader gives it back of the document
however deep it may go. -/
structure Restores (read? : Nat → Json → Option α) (write : α → Json) (a : α) : Prop where
  storable : (write a).Storable
  reads : ∀ depth, (write a).nesting ≤ depth → read? depth (write a) = some a

theorem Restores.read?_write {read? : Nat → Json → Option α} {write : α → Json} {a : α}
    (h : Restores read? write a) {format : TextFormat} (hformat : format.Faithful)
    (hdepth : (write a).nesting ≤ format.nestingLimit) :
    (format.read? (format.write (write a))).bind (read? format.nestingLimit) = some a := by
  rw [hformat.read?_write h.storable hdepth, Option.bind_some, h.reads _ hdepth]

/-- Records that come back do so in a list, which takes one container. -/
theorem Restores.items {read? : Nat → Json → Option α} {write : α → Json} {as : List α}
    (h : ∀ a ∈ as, Restores read? write a) :
    Restores (fun depth => items? (read? (depth - 1))) (fun as => .array (as.map write)) as where
  storable := .array (List.forall_mem_map.mpr fun a ha => (h a ha).storable)
  reads _ hdepth := mapM_map_eq_some fun a ha =>
    (h a ha).reads _ (nesting_le_of_mem_items (List.mem_map_of_mem ha) hdepth)

theorem members?_object {names : List String} {members : Members}
    (hnames : members.map (·.1) = names) (hnodup : names.Nodup) :
    members? names (.object members) = some members := by
  have hknown : members.filter (·.1 ∈ names) = members :=
    List.filter_eq_self.mpr fun m hm => by
      simpa using hnames ▸ List.mem_map_of_mem hm
  rw [members?]
  simp only [hknown, hnames, if_pos hnodup]

theorem valueOf?_head (name : String) (a : α) (entries : List (String × α)) :
    valueOf? name ((name, a) :: entries) = some a := if_pos rfl

theorem valueOf?_tail {name other : String} (h : name ≠ other) (a : α)
    (entries : List (String × α)) :
    valueOf? name ((other, a) :: entries) = valueOf? name entries := if_neg h

theorem optional_of_null {members : Members} {name : String} {read? : Json → Option α}
    (h : valueOf? name members = some .null) : members.optional name read? = some none := by
  rw [Members.optional, h]

theorem optional_of_ne_null {members : Members} {name : String} {read? : Json → Option α} {j : Json}
    (h : valueOf? name members = some j) (hj : j ≠ .null) :
    members.optional name read? = (read? j).map some := by
  rw [Members.optional, h]
  cases j <;> first | rfl | exact absurd rfl hj

theorem optional_text {members : Members} {name : String} {s : Option String}
    (h : valueOf? name members = some (ofOption .text s)) :
    members.optional name text? = some s := by
  cases s with
  | none => exact optional_of_null h
  | some s => exact optional_of_ne_null h nofun

end Records

end FormLogic.Json
