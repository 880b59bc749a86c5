import FormLogic.Proofs.DependencyGraph.Additions

/-! Graphs as sets. The indexes of a graph hold a field only if it has neighbours there, so that a
graph is fixed by the fields that it knows and by its edges. In which order these were added, and how
often, leaves no trace. -/

namespace FormLogic

theorem NameSet.ext_names {s t : NameSet} (h : ∀ name, name ∈ s.names ↔ name ∈ t.names) : s = t := by
  refine Dictionary.ext_get? fun name => ?_
  have hcontains : (s.get? name).isSome = true ↔ (t.get? name).isSome = true := by
    have hname := h name
    rwa [names, names, Dictionary.mem_keys_iff, Dictionary.mem_keys_iff] at hname
  cases hs : s.get? name <;> cases ht : t.get? name <;> simp [hs, ht] at hcontains ⊢

namespace DependencyGraph

def neighbours (index : Dictionary NameSet) (field : String) : List String :=
  ((index.get? field).getD .empty).names

/-- An index holds no field without neighbours. -/
def Tidy (index : Dictionary NameSet) : Prop :=
  ∀ field s, index.get? field = some s → s.names ≠ []

variable {index other : Dictionary NameSet} {g g' : DependencyGraph}

theorem tidy_empty : Tidy .empty := by
  intro field s h
  cases h

theorem tidy_link (h : Tidy index) (field neighbour : String) :
    Tidy (link index field neighbour) := by
  intro name s hs
  rw [link, Dictionary.get?_insert] at hs
  by_cases hname : name = field
  · have hmem : neighbour ∈ s.names := by
      rw [if_pos hname, Option.some.injEq] at hs
      rw [← hs]
      exact NameSet.mem_names_add.mpr (.inl rfl)
    exact List.ne_nil_of_mem hmem
  · rw [if_neg hname] at hs
    exact h name s hs

theorem Tidy.get?_eq_none_iff (h : Tidy index) {field : String} :
    index.get? field = none ↔ ∀ x, x ∉ neighbours index field := by
  cases hs : index.get? field with
  | none =>
    have hnil : neighbours index field = [] := by
      rw [neighbours, hs]
      rfl
    simp [hnil]
  | some s =>
    obtain ⟨x, hx⟩ := List.exists_mem_of_ne_nil _ (h field s hs)
    have hmem : x ∈ neighbours index field := by
      rwa [neighbours, hs]
    simpa using ⟨x, hmem⟩

theorem Tidy.ext (h : Tidy index) (hother : Tidy other)
    (hsame : ∀ field x, x ∈ neighbours index field ↔ x ∈ neighbours other field) :
    index = other := by
  refine Dictionary.ext_get? fun field => ?_
  have hnone : index.get? field = none ↔ other.get? field = none := by
    rw [h.get?_eq_none_iff, hother.get?_eq_none_iff]
    exact forall_congr' fun x => not_congr (hsame field x)
  cases hs : index.get? field with
  | none => exact (hnone.mp hs).symm
  | some s =>
    cases ht : other.get? field with
    | none => cases hs.symm.trans (hnone.mpr ht)
    | some t =>
      refine congrArg some (NameSet.ext_names fun x => ?_)
      simpa [neighbours, hs, ht] using hsame field x

/-- Consistent graphs with tidy indexes, the same fields and the same edges are equal. -/
theorem ext_edges (hg : g.Consistent) (hg' : g'.Consistent)
    (htidy : Tidy g.dependents ∧ Tidy g.precedents)
    (htidy' : Tidy g'.dependents ∧ Tidy g'.precedents)
    (hfields : ∀ x, x ∈ g.fields.names ↔ x ∈ g'.fields.names)
    (hedges : ∀ d p, g.DependsOn d p ↔ g'.DependsOn d p) : g = g' := by
  have hdependents : g.dependents = g'.dependents := by
    refine htidy.1.ext htidy'.1 fun p d => ?_
    exact (hg.mirrored p d).trans ((hedges d p).trans (hg'.mirrored p d).symm)
  have hprecedents : g.precedents = g'.precedents := htidy.2.ext htidy'.2 hedges
  have hknown : g.fields = g'.fields := NameSet.ext_names hfields
  cases g
  cases g'
  simp only [mk.injEq]
  exact ⟨hknown, hdependents, hprecedents⟩

open Addition

variable {additions others : List Addition}

theorem tidy_apply (h : Tidy g.dependents ∧ Tidy g.precedents) (a : Addition) :
    Tidy (a.apply g).dependents ∧ Tidy (a.apply g).precedents := by
  cases a with
  | field name => exact h
  | dependency precedent dependent =>
    exact ⟨tidy_link h.1 precedent dependent, tidy_link h.2 dependent precedent⟩

theorem tidy_ofAdditions (additions : List Addition) :
    Tidy (ofAdditions additions).dependents ∧ Tidy (ofAdditions additions).precedents := by
  induction additions using List.reverseRecOn with
  | nil => exact ⟨tidy_empty, tidy_empty⟩
  | append_singleton additions a ih =>
    rw [ofAdditions_concat]
    exact tidy_apply ih a

/-- Additions build the same graph exactly if they mention the same fields and bring the same
edges. -/
theorem ofAdditions_eq_iff :
    ofAdditions additions = ofAdditions others ↔
      (∀ x, (∃ a ∈ additions, a.Mentions x) ↔ ∃ a ∈ others, a.Mentions x) ∧
        ∀ d p, Needs additions d p ↔ Needs others d p := by
  constructor
  · intro h
    refine ⟨fun x => ?_, fun d p => ?_⟩
    · rw [← mem_fields_ofAdditions, h, mem_fields_ofAdditions]
    · rw [← dependsOn_ofAdditions, h, dependsOn_ofAdditions]
  · rintro ⟨hmentions, hneeds⟩
    refine ext_edges (consistent_ofAdditions _) (consistent_ofAdditions _) (tidy_ofAdditions _)
      (tidy_ofAdditions _) (fun x => ?_) fun d p => ?_
    · rw [mem_fields_ofAdditions, mem_fields_ofAdditions]
      exact hmentions x
    · rw [dependsOn_ofAdditions, dependsOn_ofAdditions]
      exact hneeds d p

theorem ofAdditions_congr (h : ∀ a, a ∈ additions ↔ a ∈ others) :
    ofAdditions additions = ofAdditions others := by
  rw [ofAdditions_eq_iff]
  exact ⟨fun x => exists_congr fun a => and_congr_left fun _ => h a, fun d p => h _⟩

/-- Whatever a graph is built from, its three indexes tell the same story. An edge stands in both
directions or in neither, it stands there exactly if some addition brings it, and it joins known
fields. The known fields are those that are mentioned, and the same additions in another order or
with other repetitions build the very same graph. -/
theorem indexes_exact (additions : List Addition) :
    (∀ p d, d ∈ (ofAdditions additions).dependentsOf p ↔
      p ∈ (ofAdditions additions).precedentsOf d) ∧
    (∀ p d, p ∈ (ofAdditions additions).precedentsOf d ↔ Needs additions d p) ∧
    (∀ p d, p ∈ (ofAdditions additions).precedentsOf d →
      p ∈ (ofAdditions additions).fields.names ∧ d ∈ (ofAdditions additions).fields.names) ∧
    (∀ x, x ∈ (ofAdditions additions).fields.names ↔ ∃ a ∈ additions, a.Mentions x) ∧
    ∀ others, (∀ a, a ∈ additions ↔ a ∈ others) → ofAdditions additions = ofAdditions others := by
  have hg := consistent_ofAdditions additions
  refine ⟨hg.mirrored, fun p d => dependsOn_ofAdditions, fun p d hedge => ?_,
    fun x => mem_fields_ofAdditions, fun others hsame => ofAdditions_congr hsame⟩
  exact ⟨hg.known_precedent hedge, hg.known_dependent hedge⟩

/-- A total that is part of itself, beside notes that nothing depends on. -/
def compoundTotal : List Addition :=
  [.dependency "qty" "total", .dependency "total" "total", .field "notes"]

def repeatedTotal : List Addition :=
  [.field "notes", .dependency "total" "total", .field "notes", .dependency "qty" "total",
   .dependency "total" "total"]

theorem indexes_exact_compoundTotal :
    "qty" ∈ (ofAdditions compoundTotal).precedentsOf "total" ∧
      "qty" ∈ (ofAdditions compoundTotal).fields.names ∧
      "total" ∈ (ofAdditions compoundTotal).fields.names ∧
      (∀ a, a ∈ compoundTotal ↔ a ∈ repeatedTotal) ∧
      ofAdditions compoundTotal = ofAdditions repeatedTotal := by
  obtain ⟨-, hedges, hknown, -, hequal⟩ := indexes_exact compoundTotal
  have hedge : "qty" ∈ (ofAdditions compoundTotal).precedentsOf "total" :=
    (hedges "qty" "total").mpr (by simp [Needs, compoundTotal])
  have hsame : ∀ a, a ∈ compoundTotal ↔ a ∈ repeatedTotal := by
    intro a
    simp only [compoundTotal, repeatedTotal, List.mem_cons, List.not_mem_nil]
    tauto
  obtain ⟨hqty, htotal⟩ := hknown "qty" "total" hedge
  exact ⟨hedge, hqty, htotal, hsame, hequal repeatedTotal hsame⟩

end DependencyGraph

end FormLogic
