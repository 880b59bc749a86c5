import FormLogic.Proofs.Json.Records
import FormLogic.Proofs.Number.Range
import FormLogic.Stored.Value

/-! Values that storing keeps, of whatever kind they are. -/

namespace FormLogic

open Json

namespace Value

/-- Values that storing keeps: all doubles are finite, and maps have their keys in order. -/
inductive Storable : Value → Prop
  | null : Storable .null
  | boolean (b : Bool) : Storable (.boolean b)
  | integer (n : Int64) : Storable (.integer n)
  | float {x : Float} (hfinite : Binary64.isFinite x = true) : Storable (.float x)
  | text (s : String) : Storable (.text s)
  | list {items : List Value} (h : ∀ v ∈ items, Storable v) : Storable (.list items)
  | map {entries : List (String × Value)} (hkeys : Ascending entries)
      (h : ∀ e ∈ entries, Storable e.2) : Storable (.map entries)

theorem toJsons_eq_map (items : List Value) : toJsons items = items.map toJson := by
  induction items with
  | nil => rfl
  | cons v vs ih => rw [toJsons, ih, List.map_cons]

theorem toMembers_eq_map (entries : List (String × Value)) :
    toMembers entries = entries.map fun e => (e.1, e.2.toJson) := by
  induction entries with
  | nil => rfl
  | cons e es ih => rw [toMembers, ih, List.map_cons]

variable {entries : List (String × Value)}

theorem storable_object_toMembers (hkeys : Ascending entries)
    (h : ∀ e ∈ entries, Restores ofJson? toJson e.2) :
    (Json.object (toMembers entries)).Storable := by
  rw [toMembers_eq_map]
  refine .object ?_ (List.forall_mem_map.mpr fun e he => (h e he).storable)
  rw [List.map_map]
  exact List.pairwise_map.mpr (hkeys.imp fun hlt => (ne_of_lt hlt : _ ≠ _))

theorem exists_mapM_toMembers (h : ∀ e ∈ entries, Restores ofJson? toJson e.2) {depth : Nat}
    (hdepth : (Json.object (toMembers entries)).nesting ≤ depth) :
    ∃ d, depth = d + 1 ∧
      (toMembers entries).mapM (fun m => (ofJson? d m.2).map (m.1, ·)) = some entries := by
  obtain ⟨d, rfl, hd⟩ := exists_of_nesting_object_le hdepth
  rw [toMembers_eq_map] at hd ⊢
  refine ⟨d, rfl, mapM_map_eq_some fun e he => ?_⟩
  rw [(h e he).reads d (hd _ (List.mem_map_of_mem he)), Option.map_some]

end Value

theorem Dictionary.ofList_entries {α : Type} (d : Dictionary α) : ofList d.entries = d :=
  ext_get? fun name => by
    rw [ofList, get?_insertAll, valueOf?_reverse d.ascending, get?_empty, Option.or_none]
    rfl

/-- A value is read back as itself, and so in its own kind. -/
theorem Value.Storable.restores {v : Value} (h : v.Storable) : Restores ofJson? toJson v := by
  induction h with
  | null => exact ⟨.null, fun depth _ => by rw [toJson, ofJson?]⟩
  | boolean b => exact ⟨.boolean b, fun depth _ => by rw [toJson, ofJson?]⟩
  | integer n =>
    refine ⟨.integer (Number.fits_toInt n), fun depth _ => ?_⟩
    rw [toJson, ofJson?, Number.fit?_eq_some_iff.mpr rfl]
  | @float x hfinite =>
    have hwrite : toJson (.float x) = .float x := by rw [toJson, if_pos hfinite]
    refine ⟨hwrite ▸ .float hfinite, fun depth _ => ?_⟩
    rw [hwrite, ofJson?]
  | text s => exact ⟨.text s, fun depth _ => by rw [toJson, ofJson?]⟩
  | @list items _ ih =>
    obtain ⟨hstorable, hreads⟩ := Restores.items ih
    have hwrite : toJson (.list items) = .array (items.map toJson) := by
      rw [toJson, toJsons_eq_map]
    refine ⟨hwrite ▸ hstorable, fun depth hdepth => ?_⟩
    rw [hwrite] at hdepth ⊢
    obtain ⟨d, rfl, -⟩ := exists_of_nesting_array_le hdepth
    have hread : (items.map toJson).mapM (ofJson? d) = some items := hreads (d + 1) hdepth
    rw [ofJson?, hread, Option.map_some]
  | @map entries hkeys _ ih =>
    refine ⟨storable_object_toMembers hkeys ih, fun depth hdepth => ?_⟩
    rw [toJson] at hdepth ⊢
    obtain ⟨d, rfl, hread⟩ := exists_mapM_toMembers ih hdepth
    rw [ofJson?, hread, Option.map_some, ofEntries, Dictionary.ofList_entries ⟨entries, hkeys⟩]

theorem FieldValues.restores {values : FieldValues} (h : ∀ e ∈ values.entries, e.2.Storable) :
    Restores ofJson? toJson values := by
  have hentries : ∀ e ∈ values.entries, Restores Value.ofJson? Value.toJson e.2 :=
    fun e he => (h e he).restores
  refine ⟨Value.storable_object_toMembers values.ascending hentries, fun depth hdepth => ?_⟩
  obtain ⟨d, rfl, hread⟩ := Value.exists_mapM_toMembers hentries hdepth
  rw [toJson, ofJson?, hread, Option.map_some, Dictionary.ofList_entries]

end FormLogic
