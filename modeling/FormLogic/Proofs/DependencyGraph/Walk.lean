import FormLogic.Proofs.DependencyGraph.Edges
import Mathlib.Data.List.Nodup

/-! What a depth-first walk does. While it is in the middle of some fields, all of which lead to
the one it comes to, everything that a finished field depends on is met. A field that is on no
cycle is therefore finished only after everything it depends on, also along paths through cycles. -/

namespace FormLogic.DependencyGraph

def unmet (g : DependencyGraph) (walk : Walk) : List String :=
  g.fields.names.filter fun x => x ∉ walk.met

/-- A field that the walk is in the middle of. -/
def Walk.Pending (walk : Walk) (x : String) : Prop := x ∈ walk.met ∧ x ∉ walk.finished

/-- Everything that a field on no cycle depends on stands before it. -/
def Ordered (g : DependencyGraph) (fields : List String) : Prop :=
  ∀ before x after, fields = before ++ x :: after → ¬ g.Circular x →
    ∀ y, g.Reaches x y → y ∈ before

/-- What holds of a walk at any time. -/
structure Walk.Sound (g : DependencyGraph) (walk : Walk) : Prop where
  met_of_finished : ∀ {x}, x ∈ walk.finished → x ∈ walk.met
  nodup : walk.finished.Nodup
  closed : ∀ {x p}, x ∈ walk.finished → g.DependsOn x p → p ∈ walk.met
  ordered : g.Ordered walk.finished

/-- A walk goes on from one state to another through the given fields. -/
structure Walk.Through (g : DependencyGraph) (fields : List String) (walk after : Walk) :
    Prop where
  sound : after.Sound g
  pending : ∀ x, after.Pending x ↔ walk.Pending x
  finished : ∀ {x}, x ∈ walk.finished → x ∈ after.finished
  met : ∀ {x}, x ∈ fields → x ∈ after.met
  found : ∀ {y}, y ∈ after.met → y ∈ walk.met ∨ ∃ x ∈ fields, Relation.ReflTransGen g.DependsOn x y

theorem Ordered.concat {g : DependencyGraph} {fields : List String} {x : String}
    (h : g.Ordered fields) (hx : ¬ g.Circular x → ∀ y, g.Reaches x y → y ∈ fields) :
    g.Ordered (fields ++ [x]) := by
  intro before z after heq hz y hy
  rcases List.eq_nil_or_concat after with rfl | ⟨rest, last, rfl⟩
  · obtain ⟨rfl, hlast⟩ := List.append_inj' heq rfl
    obtain rfl : x = z := by simpa using hlast
    exact hx hz y hy
  · have heq' : fields ++ [x] = (before ++ z :: rest) ++ [last] := by simpa using heq
    obtain ⟨rfl, -⟩ := List.append_inj' heq' rfl
    exact h before z rest rfl hz y hy

namespace Walk

theorem sound_start (g : DependencyGraph) : Sound g ⟨[], []⟩ where
  met_of_finished := fun h => h
  nodup := List.nodup_nil
  closed := fun h => absurd h List.not_mem_nil
  ordered := fun before x after h => by simp at h

namespace Through

variable {g : DependencyGraph} {walk middle after : Walk} {xs ys : List String}

theorem refl (h : walk.Sound g) (hx : ∀ x ∈ xs, x ∈ walk.met) : Through g xs walk walk where
  sound := h
  pending := fun _ => Iff.rfl
  finished := fun h => h
  met := fun h => hx _ h
  found := .inl

theorem mono (h : Through g xs walk after) {x : String} (hx : x ∈ walk.met) : x ∈ after.met := by
  by_cases hf : x ∈ walk.finished
  · exact h.sound.met_of_finished (h.finished hf)
  · exact ((h.pending x).mpr ⟨hx, hf⟩).1

theorem trans (h₁ : Through g xs walk middle) (h₂ : Through g ys middle after) :
    Through g (xs ++ ys) walk after where
  sound := h₂.sound
  pending := fun x => (h₂.pending x).trans (h₁.pending x)
  finished := fun hx => h₂.finished (h₁.finished hx)
  met := fun hx => by
    rcases List.mem_append.mp hx with hx | hx
    · exact h₂.mono (h₁.met hx)
    · exact h₂.met hx
  found := fun hy => by
    rcases h₂.found hy with hy | ⟨x, hx, hxy⟩
    · rcases h₁.found hy with hy | ⟨x, hx, hxy⟩
      · exact .inl hy
      · exact .inr ⟨x, List.mem_append_left _ hx, hxy⟩
    · exact .inr ⟨x, List.mem_append_right _ hx, hxy⟩

end Through

end Walk

/-- Later states have fewer fields to meet. -/
theorem unmet_length_le {g : DependencyGraph} {walk after : Walk}
    (h : ∀ x ∈ walk.met, x ∈ after.met) : (g.unmet after).length ≤ (g.unmet walk).length := by
  have hsub : (g.unmet after).Sublist (g.unmet walk) :=
    List.monotone_filter_right _ fun x hx => by
      have hnot : x ∉ after.met := by simpa using hx
      simpa using fun hmet => hnot (h x hmet)
  exact hsub.length_le

theorem unmet_length_le_size (g : DependencyGraph) (walk : Walk) :
    (g.unmet walk).length ≤ g.fields.size :=
  Nat.le_trans (List.length_filter_le _ _) (Nat.le_of_eq (List.length_map _))

theorem unmet_length_lt {g : DependencyGraph} {walk : Walk} {x : String}
    (hknown : x ∈ g.fields.names) (hx : x ∉ walk.met) :
    (g.unmet ⟨x :: walk.met, walk.finished⟩).length < (g.unmet walk).length := by
  have hmem : x ∈ g.unmet walk := List.mem_filter.mpr ⟨hknown, by simpa using hx⟩
  have heq : g.unmet ⟨x :: walk.met, walk.finished⟩ = (g.unmet walk).filter (· ≠ x) := by
    simp only [unmet, List.filter_filter]
    refine List.filter_congr fun y _ => ?_
    by_cases hy : y = x <;> simp [hy]
  rw [heq]
  refine List.length_filter_lt_length_iff_exists.mpr ⟨x, hmem, by simp⟩

/-- The visit of one field, as far as a bound suffices for it. -/
def VisitsThrough (g : DependencyGraph) (bound : Nat) : Prop :=
  ∀ walk x, walk.Sound g → x ∈ g.fields.names → (g.unmet walk).length ≤ bound →
    (∀ y, walk.Pending y → g.Reaches y x) → Walk.Through g [x] walk (g.visit bound walk x)

theorem through_foldl_visit {g : DependencyGraph} {bound : Nat} (h : g.VisitsThrough bound)
    (xs : List String) {walk : Walk} (hwalk : walk.Sound g) (hxs : ∀ x ∈ xs, x ∈ g.fields.names)
    (hbound : (g.unmet walk).length ≤ bound)
    (hpending : ∀ y, walk.Pending y → ∀ x ∈ xs, g.Reaches y x) :
    Walk.Through g xs walk (xs.foldl (g.visit bound) walk) := by
  induction xs generalizing walk with
  | nil => exact Walk.Through.refl hwalk (by simp)
  | cons x xs ih =>
    have hfirst := h walk x hwalk (hxs x List.mem_cons_self) hbound
      fun y hy => hpending y hy x List.mem_cons_self
    have hrest := ih hfirst.sound (fun y hy => hxs y (List.mem_cons_of_mem _ hy))
      (Nat.le_trans (unmet_length_le fun _ => hfirst.mono) hbound)
      fun y hy z hz => hpending y ((hfirst.pending y).mp hy) z (List.mem_cons_of_mem _ hz)
    exact hfirst.trans hrest

namespace Walk

variable {g : DependencyGraph} {walk inner : Walk} {x : String}

/-- A walk that has just come to a field. -/
theorem Sound.enter (h : walk.Sound g) : Sound g ⟨x :: walk.met, walk.finished⟩ where
  met_of_finished := fun hy => List.mem_cons_of_mem _ (h.met_of_finished hy)
  nodup := h.nodup
  closed := fun hy hp => List.mem_cons_of_mem _ (h.closed hy hp)
  ordered := h.ordered

theorem pending_enter (h : walk.Sound g) (hx : x ∉ walk.met) {y : String} :
    Pending ⟨x :: walk.met, walk.finished⟩ y ↔ y = x ∨ walk.Pending y := by
  have hx' : x ∉ walk.finished := fun hf => hx (h.met_of_finished hf)
  by_cases hy : y = x
  · subst hy
    simp [Pending, hx']
  · simp [Pending, hy]

/-- When the precedents of a field on no cycle are met and nothing pending leads to them but what
leads to the field, then all that the field depends on is finished. -/
theorem finished_of_reaches (h : inner.Sound g)
    (hpending : ∀ y, inner.Pending y → y = x ∨ g.Reaches y x)
    (hmet : ∀ p, g.DependsOn x p → p ∈ inner.met) (hx : ¬ g.Circular x) {y : String}
    (hy : g.Reaches x y) : y ∈ inner.finished := by
  have key : ∀ {z}, g.Reaches x z → z ∈ inner.met → z ∈ inner.finished := by
    intro z hz hmetz
    refine Classical.byContradiction fun hnot => hx ?_
    rcases hpending z ⟨hmetz, hnot⟩ with rfl | hzx
    · exact hz
    · exact hz.trans hzx
  induction hy with
  | single hp => exact key (.single hp) (hmet _ hp)
  | tail hxz hp ih => exact key (hxz.tail hp) (h.closed ih hp)

theorem Through.leave (hwalk : walk.Sound g) (hx : x ∉ walk.met)
    (hpending : ∀ y, walk.Pending y → g.Reaches y x)
    (h : Through g (g.precedentsOf x) ⟨x :: walk.met, walk.finished⟩ inner) :
    Through g [x] walk ⟨inner.met, inner.finished ++ [x]⟩ := by
  have hinner : ∀ y, inner.Pending y ↔ y = x ∨ walk.Pending y := fun y =>
    (h.pending y).trans (pending_enter hwalk hx)
  have hxp : inner.Pending x := (hinner x).mpr (.inl rfl)
  refine ⟨⟨fun hy => ?_, ?_, fun hy hp => ?_, ?_⟩, fun y => ?_, fun hy => ?_, fun hy => ?_,
    fun hy => ?_⟩
  · rcases List.mem_append.mp hy with hy | hy
    · exact h.sound.met_of_finished hy
    · rw [List.mem_singleton.mp hy]; exact hxp.1
  · exact List.nodup_append.mpr ⟨h.sound.nodup, List.nodup_singleton x, fun a ha b hb hab =>
      hxp.2 (List.mem_singleton.mp hb ▸ hab ▸ ha)⟩
  · rcases List.mem_append.mp hy with hy | hy
    · exact h.sound.closed hy hp
    · exact h.met (List.mem_singleton.mp hy ▸ hp)
  · refine h.sound.ordered.concat fun hcirc y hy => ?_
    refine finished_of_reaches h.sound (fun z hz => ?_) (fun p hp => h.met hp) hcirc hy
    exact ((hinner z).mp hz).imp_right (hpending z)
  · have hxw : ¬ walk.Pending x := fun hp => hx hp.1
    by_cases hy : y = x
    · subst hy
      simpa [Pending] using hxw
    · have := hinner y
      simp only [Pending, hy, false_or, List.mem_append, List.mem_singleton, or_false] at this ⊢
      exact this
  · exact List.mem_append_left _ (h.finished hy)
  · rw [List.mem_singleton.mp hy]; exact hxp.1
  · rcases h.found hy with hy | ⟨p, hp, hpy⟩
    · rcases List.mem_cons.mp hy with rfl | hy
      · exact .inr ⟨_, List.mem_singleton_self _, .refl⟩
      · exact .inl hy
    · exact .inr ⟨x, List.mem_singleton_self x, .head hp hpy⟩

end Walk

/-- Visiting a known field that everything pending leads to is a step of the walk, if the bound is
not below the number of known fields that are left. -/
theorem visitsThrough {g : DependencyGraph} (hg : g.Consistent) (bound : Nat) :
    g.VisitsThrough bound := by
  induction bound with
  | zero =>
    intro walk x hwalk hknown hbound _
    have hmet : x ∈ walk.met := Classical.byContradiction fun hx => by
      have := unmet_length_lt hknown hx
      omega
    exact Walk.Through.refl hwalk (by simpa using hmet)
  | succ bound ih =>
    intro walk x hwalk hknown hbound hpending
    by_cases hx : x ∈ walk.met
    · simp only [visit, hx, if_true]
      exact Walk.Through.refl hwalk (by simpa using hx)
    · simp only [visit, hx, if_false]
      refine Walk.Through.leave hwalk hx hpending (through_foldl_visit ih _ hwalk.enter ?_ ?_ ?_)
      · exact fun p hp => hg.known_precedent hp
      · have := unmet_length_lt hknown hx
        omega
      · intro y hy p hp
        rcases (Walk.pending_enter hwalk hx).mp hy with rfl | hy
        · exact .single hp
        · exact (hpending y hy).tail hp

theorem through_visitAll {g : DependencyGraph} (hg : g.Consistent) {fields : List String}
    (hknown : ∀ x ∈ fields, x ∈ g.fields.names) :
    Walk.Through g fields ⟨[], []⟩ (g.visitAll ⟨[], []⟩ fields) := by
  refine through_foldl_visit (visitsThrough hg _) fields (Walk.sound_start g) hknown
    (unmet_length_le_size g _) ?_
  exact fun y hy => absurd hy.1 List.not_mem_nil

end FormLogic.DependencyGraph
