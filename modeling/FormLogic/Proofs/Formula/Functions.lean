import FormLogic.Formula.Registry

/-! The standard functions under their names. Each of them is listed in the catalog, so that none is
registered without a check of its arguments, and nothing else is listed or registered. -/

namespace FormLogic

namespace Builtin

theorem isSome_find?_name (f : Builtin) : (Catalog.standard.find? f.name).isSome = true := by
  cases f <;> decide

def signature (f : Builtin) : Signature := (Catalog.standard.find? f.name).get f.isSome_find?_name

theorem find?_name (f : Builtin) : Catalog.standard.find? f.name = some f.signature :=
  (Option.some_get _).symm

theorem name_signature (f : Builtin) : f.signature.name = f.name := by
  simpa using List.find?_some f.find?_name

theorem ofName?_name (f : Builtin) : ofName? f.name = some f := by cases f <;> decide

/-- No two standard functions have one name. -/
theorem eq_of_name_eq {f g : Builtin} (h : f.name = g.name) : f = g :=
  Option.some.inj ((ofName?_name f).symm.trans (h ▸ ofName?_name g))

end Builtin

namespace Catalog

variable {name : String} {s : Signature}

theorem exists_builtin_of_mem_standard (h : s ∈ standard) : ∃ f : Builtin, f.signature = s := by
  have hall : ∀ s ∈ standard, ∃ f ∈ Builtin.all, f.signature = s := by decide
  obtain ⟨f, -, hf⟩ := hall s h
  exact ⟨f, hf⟩

theorem find?_standard_iff : standard.find? name = some s ↔ s ∈ standard ∧ s.name = name := by
  constructor
  · intro h
    exact ⟨List.mem_of_find?_eq_some h, by simpa using List.find?_some h⟩
  · rintro ⟨hs, rfl⟩
    obtain ⟨f, rfl⟩ := exists_builtin_of_mem_standard hs
    rw [f.name_signature, f.find?_name]

theorem exists_builtin_of_find?_standard (h : standard.find? name = some s) :
    ∃ f : Builtin, f.name = name ∧ f.signature = s := by
  obtain ⟨hs, hname⟩ := find?_standard_iff.mp h
  obtain ⟨f, rfl⟩ := exists_builtin_of_mem_standard hs
  exact ⟨f, f.name_signature.symm.trans hname, rfl⟩

end Catalog

namespace Registry

variable {name : String} {body : FunctionBody}

/-- No standard function is registered without the check of its signature. -/
theorem registerStandard_eq (r : Registry) (f : Builtin) :
    r.registerStandard f = r.register f.name (f.body f.signature.arity) := by
  rw [registerStandard, f.find?_name]
  dsimp only
  rw [f.name_signature]

theorem get?_foldl_registerStandard {fs : List Builtin} {r : Registry}
    (h : (fs.foldl registerStandard r).get? name = some body) :
    r.get? name = some body ∨ ∃ f : Builtin, f.name = name ∧ body = f.body f.signature.arity := by
  induction fs generalizing r with
  | nil => exact .inl h
  | cons f fs ih =>
    rcases ih h with hr | hf
    · simp only [registerStandard_eq, register, Dictionary.get?_insert] at hr
      split at hr
      · next hname => exact .inr ⟨f, hname.symm, (Option.some.inj hr).symm⟩
      · exact .inl hr
    · exact .inr hf

theorem exists_builtin_of_get?_standard (h : standard.get? name = some body) :
    ∃ f : Builtin, f.name = name ∧ body = f.body f.signature.arity := by
  rcases get?_foldl_registerStandard h with hempty | hf
  · cases hempty
  · exact hf

theorem get?_standard_name (f : Builtin) :
    standard.get? f.name = some (f.body f.signature.arity) := by
  have hfound : (standard.get? f.name).isSome = true := by cases f <;> rfl
  obtain ⟨body, hbody⟩ := Option.isSome_iff_exists.mp hfound
  obtain ⟨g, hg, rfl⟩ := exists_builtin_of_get?_standard hbody
  rw [hbody, Builtin.eq_of_name_eq hg]

end Registry

end FormLogic
