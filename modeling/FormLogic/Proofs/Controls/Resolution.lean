import FormLogic.Controls
import Mathlib.Data.List.Induction
import Mathlib.Data.List.Nodup

/-! Resolving effects. Of the effects on one control of a field the last is kept, in the place of the
first, so that resolving again changes nothing. -/

namespace FormLogic.Effect

def slot (e : Effect) : String × Control := (e.target, e.control)

def resolve (effects : List Effect) : List Effect := effects.foldl settle []

variable {effects : List Effect} {e f : Effect} {s : String × Control}

theorem slot_eq_iff {field : String} {control : Control} :
    e.slot = (field, control) ↔ e.target = field ∧ e.control = control := by
  simp [slot]

theorem competes_iff : e.Competes f ↔ f.slot = e.slot := by
  simp [Competes, slot, eq_comm]

theorem resolve_concat (effects : List Effect) (e : Effect) :
    resolve (effects ++ [e]) = settle (resolve effects) e := by
  rw [resolve, List.foldl_append]
  rfl

def replace (e f : Effect) : Effect := if f.slot = e.slot then e else f

@[simp] theorem slot_replace (e f : Effect) : (replace e f).slot = f.slot := by
  by_cases h : f.slot = e.slot <;> simp [replace, h]

theorem settle_of_mem (h : e.slot ∈ effects.map slot) :
    settle effects e = effects.map (replace e) := by
  have hany : effects.any (e.Competes ·) = true := by simpa [competes_iff] using h
  rw [settle, if_pos hany]
  simp only [competes_iff]
  rfl

theorem settle_of_notMem (h : e.slot ∉ effects.map slot) : settle effects e = effects ++ [e] := by
  have hany : ¬ effects.any (e.Competes ·) = true := by simpa [competes_iff] using h
  rw [settle, if_neg hany]

theorem slots_settle (effects : List Effect) (e : Effect) : (settle effects e).map slot =
    if e.slot ∈ effects.map slot then effects.map slot else effects.map slot ++ [e.slot] := by
  by_cases h : e.slot ∈ effects.map slot
  · rw [settle_of_mem h, if_pos h, List.map_map]
    exact List.map_congr_left fun f _ => slot_replace e f
  · rw [settle_of_notMem h, if_neg h, List.map_append]
    rfl

theorem find?_settle (effects : List Effect) (e : Effect) (s : String × Control) :
    (settle effects e).find? (·.slot = s) =
      if e.slot = s then some e else effects.find? (·.slot = s) := by
  by_cases h : e.slot ∈ effects.map slot
  · have hslot : (fun f : Effect => decide (f.slot = s)) ∘ replace e =
        fun f => decide (f.slot = s) := by
      funext f
      simp
    rw [settle_of_mem h, List.find?_map, hslot]
    cases hfound : effects.find? (·.slot = s) with
    | none =>
      have hs : e.slot ≠ s := by
        rintro rfl
        obtain ⟨f, hf, hfe⟩ := List.mem_map.mp h
        simpa [hfe] using List.find?_eq_none.mp hfound f hf
      simp [hs]
    | some f =>
      have hf : f.slot = s := by simpa using List.find?_some hfound
      by_cases hs : e.slot = s
      · simp [replace, hf, hs]
      · simp [replace, hf, hs, Ne.symm hs]
  · rw [settle_of_notMem h, List.find?_append]
    by_cases hs : e.slot = s
    · have hnone : effects.find? (·.slot = s) = none := by
        simpa [← hs] using h
      simp [hnone, hs]
    · simp [hs]

/-- Each slot that some effect sets is set once, in the order of the first effects. -/
theorem slots_resolve (effects : List Effect) :
    (resolve effects).map slot = (effects.map slot).eraseDups := by
  induction effects using List.reverseRecOn with
  | nil => rfl
  | append_singleton effects e ih =>
    rw [resolve_concat, slots_settle, ih, List.map_append, List.eraseDups_append]
    by_cases h : e.slot ∈ effects.map slot
    · have hremove : [e.slot].removeAll (effects.map slot) = [] := by
        simpa [List.removeAll, List.filter_cons] using h
      simp [h, hremove]
    · have hremove : [e.slot].removeAll (effects.map slot) = [e.slot] := by
        simpa [List.removeAll, List.filter_cons] using h
      simp [h, hremove, List.eraseDups_cons]

theorem nodup_slots_resolve (effects : List Effect) : ((resolve effects).map slot).Nodup := by
  induction effects using List.reverseRecOn with
  | nil => exact List.nodup_nil
  | append_singleton effects e ih =>
    rw [resolve_concat, slots_settle]
    by_cases h : e.slot ∈ (resolve effects).map slot
    · rwa [if_pos h]
    · rw [if_neg h, List.nodup_append]
      refine ⟨ih, List.nodup_singleton _, ?_⟩
      rintro a ha b hb rfl
      exact h (List.mem_singleton.mp hb ▸ ha)

theorem find?_resolve (effects : List Effect) (s : String × Control) :
    (resolve effects).find? (·.slot = s) = (effects.filter (·.slot = s)).getLast? := by
  induction effects using List.reverseRecOn with
  | nil => rfl
  | append_singleton effects e ih =>
    rw [resolve_concat, find?_settle, ih, List.filter_append]
    by_cases hs : e.slot = s <;> simp [hs]

theorem mem_iff_find?_slot (h : (effects.map slot).Nodup) :
    e ∈ effects ↔ effects.find? (·.slot = e.slot) = some e := by
  constructor
  · intro he
    cases hfound : effects.find? (·.slot = e.slot) with
    | none => simpa using List.find?_eq_none.mp hfound e he
    | some f =>
      have hf : f.slot = e.slot := by simpa using List.find?_some hfound
      rw [List.inj_on_of_nodup_map h (List.mem_of_find?_eq_some hfound) he hf]
  · exact List.mem_of_find?_eq_some

theorem mem_resolve_iff :
    e ∈ resolve effects ↔ (effects.filter (·.slot = e.slot)).getLast? = some e := by
  rw [mem_iff_find?_slot (nodup_slots_resolve effects), find?_resolve]

theorem resolve_of_nodup (h : (effects.map slot).Nodup) : resolve effects = effects := by
  induction effects using List.reverseRecOn with
  | nil => rfl
  | append_singleton effects e ih =>
    rw [List.map_append, List.nodup_append] at h
    have he : e.slot ∉ effects.map slot := fun hmem => h.2.2 _ hmem _ (by simp) rfl
    rw [resolve_concat, ih h.1, settle_of_notMem he]

theorem resolve_resolve (effects : List Effect) : resolve (resolve effects) = resolve effects :=
  resolve_of_nodup (nodup_slots_resolve effects)

end FormLogic.Effect

namespace FormLogic.Controls

theorem resolved_eq (c : Controls) : c.resolved = Effect.resolve c.effects := rfl

/-- The effect that decides about a control is the last one on it. -/
theorem winner?_eq (c : Controls) (field : String) (control : Control) :
    c.winner? field control = (c.effects.filter (·.slot = (field, control))).getLast? := by
  rw [← Effect.find?_resolve, winner?, resolved_eq]
  simp only [Effect.slot_eq_iff]

end FormLogic.Controls
