import FormLogic.Json.Format
import FormLogic.Proofs.Json.Documents

/-! The layouts of JSON. A document is read as itself, in one line or with a line for each item, if
each of its doubles is; with numbers taken to the nearest double every finite one is. -/

namespace FormLogic.Json

open Number

variable {double? : Numeral → Option Float}

/-- The text of a double is never taken for an integer. -/
theorem exists_spelled_float (x : Float) :
    ∃ n : Numeral, (Binary64.isFinite x = true → n.nearest? = some x) ∧ ∀ double?,
      Spelled double? (floatStyle.finiteText x).toList ((double? n).elim .unreadable .float) := by
  obtain ⟨n, hplain, hnearest, hscan⟩ := exists_scanNumeral_float x
  refine ⟨n, hnearest, fun double? => ?_⟩
  have hinteger : n.integer? = none := by
    rw [Numeral.integer?, hplain]
    rfl
  have hjson : n.toJson double? = (double? n).elim .unreadable .float := by
    rw [Numeral.toJson, hinteger]
    dsimp only
    cases double? n <;> rfl
  exact hjson ▸ spelled_number hscan

/-- Whether the text of a double reads as the double. -/
def SpelledDouble (double? : Numeral → Option Float) (x : Float) : Prop :=
  Spelled double? (floatStyle.finiteText x).toList (.float x)

theorem spelledDouble_of_readWith {x : Float}
    (h : readWith double? (String.ofList (floatStyle.finiteText x).toList) = some (.float x)) :
    SpelledDouble double? x := by
  obtain ⟨n, -, hspelled⟩ := exists_spelled_float x
  have hsame := Option.some.inj ((hspelled double?).readWith_ofList.symm.trans h)
  rw [SpelledDouble, ← hsame]
  exact hspelled double?

theorem spelledDouble_nearest? {x : Float} (h : Binary64.isFinite x = true) :
    SpelledDouble Numeral.nearest? x := by
  obtain ⟨n, hnearest, hspelled⟩ := exists_spelled_float x
  have hx := hspelled Numeral.nearest?
  rwa [hnearest h] at hx

theorem spelled_boolean (b : Bool) : Spelled double? (toString b).toList (.boolean b) := by
  refine ⟨[.boolean b], ?_, fun _ _ => rfl⟩
  cases b <;> exact cutsInto_of_scanToken rfl fun _ _ => rfl

theorem spelled_null : Spelled double? ['n', 'u', 'l', 'l'] .null :=
  ⟨[.null], cutsInto_of_scanToken rfl fun _ _ => rfl, fun _ _ => rfl⟩

theorem spelled_integer {n : Int} (h : Fits n) :
    Spelled double? (toString n).toList (.integer n) :=
  Numeral.toJson_ofInt h double? ▸ spelled_number fun _ => scanNumeral_integer n

section Compact

theorem spelled_compactItems {j : Json} {items : List Json}
    (h : ∀ i ∈ j :: items, Spelled double? i.compact i) :
    SpelledItems double? (compactItems (j :: items)) (j :: items) := by
  induction items generalizing j with
  | nil => exact .one (h j List.mem_cons_self)
  | cons i items ih =>
    exact .cons (h j List.mem_cons_self) (ih fun k hk => h k (List.mem_cons_of_mem _ hk))

theorem spelled_compactMembers {m : String × Json} {members : List (String × Json)}
    (h : ∀ k ∈ m :: members, Spelled double? k.2.compact k.2) :
    SpelledMembers double? (compactMembers (m :: members)) (m :: members) := by
  induction members generalizing m with
  | nil => exact .one m.1 (h m List.mem_cons_self)
  | cons l members ih =>
    exact .cons m.1 (h m List.mem_cons_self) (ih fun k hk => h k (List.mem_cons_of_mem _ hk))

theorem Plain.spelled_compact {j : Json} (h : Plain (SpelledDouble double?) j) :
    Spelled double? j.compact j := by
  induction h with
  | null => exact spelled_null
  | boolean b => exact spelled_boolean b
  | integer h => exact spelled_integer h
  | float h => exact h
  | text s => exact spelled_text s
  | @array items _ ih =>
    cases items with
    | nil => exact spelled_emptyArray
    | cons j items => simpa [compact] using (spelled_compactItems ih).array gap_nil
  | @object members _ _ ih =>
    cases members with
    | nil => exact spelled_emptyObject
    | cons m members => simpa [compact] using (spelled_compactMembers ih).object gap_nil

end Compact

section Indented

theorem gap_newLine (depth : Nat) : Gap (newLine depth) := by
  intro c hc
  rcases List.mem_cons.mp hc with rfl | hc
  · rfl
  · rw [List.eq_of_mem_replicate hc]
    rfl

theorem gap_blank : Gap [' '] := List.forall_mem_singleton.mpr rfl

theorem spelled_indentedItems {depth : Nat} {j : Json} {items : List Json}
    (h : ∀ i ∈ j :: items, Spelled double? (i.indented depth) i) :
    SpelledItems double? (indentedItems depth (j :: items)) (j :: items) := by
  have hitem := (h j List.mem_cons_self).behind (gap_newLine depth)
  induction items generalizing j with
  | nil => exact .one hitem
  | cons i items ih =>
    have hrest := fun k hk => h k (List.mem_cons_of_mem _ hk)
    exact .cons hitem (ih hrest ((hrest i List.mem_cons_self).behind (gap_newLine depth)))

theorem spelled_indentedMembers {depth : Nat} {m : String × Json} {members : List (String × Json)}
    (h : ∀ k ∈ m :: members, Spelled double? (k.2.indented depth) k.2) :
    SpelledMembers double? (indentedMembers depth (m :: members)) (m :: members) := by
  induction members generalizing m with
  | nil =>
    have hmember := (h m List.mem_cons_self).behind gap_blank
    simpa [indentedMembers] using (SpelledMembers.one m.1 hmember).behind (gap_newLine depth)
  | cons l members ih =>
    have hmember := (h m List.mem_cons_self).behind gap_blank
    have hrest := ih fun k hk => h k (List.mem_cons_of_mem _ hk)
    simpa [indentedMembers] using
      (SpelledMembers.cons m.1 hmember hrest).behind (gap_newLine depth)

theorem Plain.spelled_indented {j : Json} (h : Plain (SpelledDouble double?) j) (depth : Nat) :
    Spelled double? (j.indented depth) j := by
  induction h generalizing depth with
  | null => exact spelled_null
  | boolean b => exact spelled_boolean b
  | integer h => exact spelled_integer h
  | float h => exact h
  | text s => exact spelled_text s
  | @array items _ ih =>
    cases items with
    | nil => exact spelled_emptyArray
    | cons j items =>
      exact (spelled_indentedItems fun i hi => ih i hi (depth + 1)).array (gap_newLine depth)
  | @object members _ _ ih =>
    cases members with
    | nil => exact spelled_emptyObject
    | cons m members =>
      exact (spelled_indentedMembers fun k hk => ih k hk (depth + 1)).object (gap_newLine depth)

end Indented

/-- A document in one line is read as itself if each of its doubles is. -/
theorem faithful_compactFormat (h : ∀ x, Binary64.isFinite x = true → SpelledDouble double? x) :
    (compactFormat double?).Faithful where
  documents _ hj _ := (hj.mono fun _ => spelledDouble_of_readWith).spelled_compact.readWith_ofList
  doubles _ hx := (Plain.float (h _ hx)).spelled_compact.readWith_ofList

example :
    (compactFormat Numeral.nearest?).write (.array [.float 5.0, .float (-0.0), .float 1e21]) =
      "[5.0,-0.0,1e+21]" := by
  decide +kernel

theorem faithful_prettyFormat (h : ∀ x, Binary64.isFinite x = true → SpelledDouble double? x) :
    (prettyFormat double?).Faithful where
  documents _ hj _ :=
    ((hj.mono fun _ => spelledDouble_of_readWith).spelled_indented 0).readWith_ofList
  doubles _ hx := ((Plain.float (h _ hx)).spelled_indented 0).readWith_ofList

end FormLogic.Json
