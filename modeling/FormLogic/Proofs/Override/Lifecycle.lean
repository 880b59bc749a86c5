import FormLogic.Proofs.Override.Calls
import Mathlib.Data.List.Chain

/-! The life of an override over a run of calls. What a single call can do is said once, for the
entry that it leaves in the history; a run is a list of such entries, each of which begins with the
override that the one before it left. -/

namespace FormLogic

namespace OverrideState

/-- One state leads to another by a step of the life cycle. -/
inductive Leads : OverrideState → OverrideState → Prop where
  | accept : Leads pending accepted
  | sync : Leads accepted synced
  | syncFormula : Leads accepted syncedFormula
  | giveUp : Leads pending invalid
  | revoke : Leads accepted invalid

theorem leads_target {t : Transition} {s : OverrideState} (h : t.startsIn s = true) :
    Leads s t.target := by
  cases t with
  | accept => cases s <;> first | exact .accept | cases h
  | sync => cases s <;> first | exact .sync | cases h
  | syncFormula => cases s <;> first | exact .syncFormula | cases h
  | invalidate => cases s <;> first | exact .giveUp | exact .revoke | cases h

/-- Whether an override in this state has been accepted and not given up. -/
def isAccepted : OverrideState → Bool
  | accepted | synced | syncedFormula => true
  | pending | invalid => false

theorem eq_accept_of_isAccepted {t : Transition} {s : OverrideState} (h : t.startsIn s = true)
    (hs : s.isAccepted = false) (ht : t.target.isAccepted = true) : t = .accept := by
  cases t with
  | accept => rfl
  | invalidate => cases ht
  | sync => cases s <;> cases h; cases hs
  | syncFormula => cases s <;> cases h; cases hs

end OverrideState

namespace Override

open OverrideState

/-- What an override is about. -/
structure SameOrigin (o o' : Override) : Prop where
  id : o'.id = o.id
  project : o'.project = o.project
  field : o'.field = o.field
  given : o'.given = o.given
  replaced : o'.replaced = o.replaced
  createdAt : o'.createdAt = o.createdAt

theorem SameOrigin.trans {o o' o'' : Override} (h : o.SameOrigin o') (h' : o'.SameOrigin o'') :
    o.SameOrigin o'' :=
  ⟨h'.id.trans h.id, h'.project.trans h.project, h'.field.trans h.field, h'.given.trans h.given,
    h'.replaced.trans h.replaced, h'.createdAt.trans h.createdAt⟩

/-- A call with the override that it met, what it answered, and the override that it left. -/
structure Entry where
  call : Call
  before : Override
  answer : Except ModelError Unit
  after : Override

def Call.entry (c : Call) (now : Timestamp) (o : Override) : Entry :=
  match (c.perform now).run o with
  | .ok () after => ⟨c, o, .ok (), after⟩
  | .error e after => ⟨c, o, .error e, after⟩

def history (o : Override) : List (Call × Timestamp) → List Entry
  | [] => []
  | (c, now) :: calls => c.entry now o :: history (c.entry now o).after calls

/-- What a call can do. -/
structure Entry.Lawful (e : Entry) : Prop where
  taken : ∀ t, e.call.transition? = some t → t.startsIn e.before.state = true →
    e.answer = .ok () ∧ e.after.state = t.target
  refused : ∀ t, e.call.transition? = some t → t.startsIn e.before.state = false →
    e.answer = .error (.invalidTransition t e.before.state)
  noted : e.call.transition? = none → e.answer = .ok () ∧ e.after.state = e.before.state
  unchanged : ∀ error, e.answer = .error error → e.after = e.before
  reason : e.after.reason ≠ e.before.reason → ∃ reason, e.call = .invalidate reason ∧
    e.answer = .ok () ∧ e.after.reason = some reason
  origin : e.before.SameOrigin e.after

namespace Call

variable {c : Call} {o after : Override} {now : Timestamp}

theorem call_entry (c : Call) (now : Timestamp) (o : Override) : (c.entry now o).call = c := by
  rw [entry]
  split <;> rfl

theorem before_entry (c : Call) (now : Timestamp) (o : Override) : (c.entry now o).before = o := by
  rw [entry]
  split <;> rfl

theorem entry_of_apply_eq_ok (h : c.apply o now = .ok after) :
    c.entry now o = ⟨c, o, .ok (), after⟩ := by
  rw [entry, run_perform, h]
  rfl

theorem entry_of_apply_eq_error {error : ModelError} (h : c.apply o now = .error error) :
    c.entry now o = ⟨c, o, .error error, o⟩ := by
  rw [entry, run_perform, h]
  rfl

theorem reason?_eq_some_iff {reason : String} : c.reason? = some reason ↔ c = .invalidate reason := by
  cases c <;> simp [reason?]

/-- Every call keeps the laws. -/
theorem lawful_entry (c : Call) (now : Timestamp) (o : Override) : (c.entry now o).Lawful := by
  cases hc : c.transition? with
  | none =>
    obtain ⟨kind, happly⟩ := apply_of_transition?_eq_none hc o now
    rw [entry_of_apply_eq_ok happly]
    exact {
      taken := fun t ht => by simp [hc] at ht
      refused := fun t ht => by simp [hc] at ht
      noted := fun _ => ⟨rfl, rfl⟩
      unchanged := fun error herror => by cases herror
      reason := fun hne => absurd rfl hne
      origin := ⟨rfl, rfl, rfl, rfl, rfl, rfl⟩ }
  | some t =>
    have happly := apply_of_transition? hc o now
    by_cases hstart : t.startsIn o.state = true
    · rw [step, if_pos hstart] at happly
      rw [entry_of_apply_eq_ok happly]
      refine {
        taken := fun t' ht' _ => ?_
        refused := fun t' ht' hstart' => ?_
        noted := fun hnone => by simp [hc] at hnone
        unchanged := fun error herror => by cases herror
        reason := fun hne => ?_
        origin := ⟨rfl, rfl, rfl, rfl, rfl, rfl⟩ }
      · obtain rfl : t = t' := Option.some.inj (hc.symm.trans ht')
        exact ⟨rfl, rfl⟩
      · obtain rfl : t = t' := Option.some.inj (hc.symm.trans ht')
        exact absurd (hstart.symm.trans hstart') (by decide)
      · cases hreason : c.reason? with
        | none => exact absurd (by simp [hreason]) hne
        | some reason => exact ⟨reason, reason?_eq_some_iff.mp hreason, rfl, by simp⟩
    · rw [step, if_neg hstart] at happly
      rw [entry_of_apply_eq_error happly]
      refine {
        taken := fun t' ht' hstart' => ?_
        refused := fun t' ht' _ => ?_
        noted := fun hnone => by simp [hc] at hnone
        unchanged := fun _ _ => rfl
        reason := fun hne => absurd rfl hne
        origin := ⟨rfl, rfl, rfl, rfl, rfl, rfl⟩ }
      · obtain rfl : t = t' := Option.some.inj (hc.symm.trans ht')
        exact absurd hstart' hstart
      · obtain rfl : t = t' := Option.some.inj (hc.symm.trans ht')
        rfl

end Call

/-- A run: each call keeps the laws, and meets the override that the call before it left. -/
inductive Run : Override → List Entry → Prop where
  | nil (o : Override) : Run o []
  | cons {e : Entry} {entries : List Entry} :
      e.Lawful → Run e.after entries → Run e.before (e :: entries)

theorem run_history (calls : List (Call × Timestamp)) (o : Override) : Run o (o.history calls) := by
  induction calls generalizing o with
  | nil => exact .nil o
  | cons call calls ih =>
    obtain ⟨c, now⟩ := call
    have hrun := Run.cons (c.lawful_entry now o) (ih (c.entry now o).after)
    rwa [Call.before_entry] at hrun

theorem map_call_history (calls : List (Call × Timestamp)) (o : Override) :
    (o.history calls).map (·.call) = calls.map (·.1) := by
  induction calls generalizing o with
  | nil => rfl
  | cons call calls ih =>
    obtain ⟨c, now⟩ := call
    rw [history, List.map_cons, List.map_cons, Call.call_entry, ih]

/-- The states that an override comes to, one for each change of its state. -/
def visited (entries : List Entry) : List OverrideState :=
  (entries.filter fun e => e.after.state ≠ e.before.state).map (·.after.state)

namespace Entry.Lawful

variable {e : Entry}

theorem exists_transition (h : e.Lawful) (hne : e.after.state ≠ e.before.state) :
    ∃ t, e.call.transition? = some t ∧ t.startsIn e.before.state = true ∧ e.answer = .ok () ∧
      e.after.state = t.target := by
  cases ht : e.call.transition? with
  | none => exact absurd (h.noted ht).2 hne
  | some t =>
    by_cases hstart : t.startsIn e.before.state = true
    · exact ⟨t, rfl, hstart, h.taken t ht hstart⟩
    · have hrefused := h.refused t ht (by simpa using hstart)
      exact absurd (congrArg state (h.unchanged _ hrefused)) hne

theorem state_eq_of_isTerminal (h : e.Lawful) (hterminal : e.before.state.isTerminal = true) :
    e.after.state = e.before.state := by
  by_contra hne
  obtain ⟨t, -, hstart, -⟩ := h.exists_transition hne
  rw [Transition.startsIn_eq_false_of_isTerminal t hterminal] at hstart
  cases hstart

theorem accept_of_isAccepted (h : e.Lawful) (hbefore : e.before.state.isAccepted = false)
    (hafter : e.after.state.isAccepted = true) :
    e.call = .accept ∧ e.answer = .ok () ∧ e.after.state = .accepted := by
  have hne : e.after.state ≠ e.before.state := by
    intro heq
    rw [heq, hbefore] at hafter
    cases hafter
  obtain ⟨t, ht, hstart, hanswer, htarget⟩ := h.exists_transition hne
  obtain rfl := eq_accept_of_isAccepted hstart hbefore (htarget ▸ hafter)
  refine ⟨?_, hanswer, htarget⟩
  cases hc : e.call with
  | accept => rfl
  | _ => simp [hc, Call.transition?] at ht

end Entry.Lawful

namespace Run

variable {o : Override} {entries : List Entry}

theorem lawful (h : Run o entries) : ∀ e ∈ entries, e.Lawful := by
  induction h with
  | nil o => simp
  | cons he _ ih => exact List.forall_mem_cons.mpr ⟨he, ih⟩

theorem sameOrigin (h : Run o entries) : ∀ e ∈ entries, o.SameOrigin e.after := by
  induction h with
  | nil o => simp
  | cons he _ ih =>
    exact List.forall_mem_cons.mpr ⟨he.origin, fun e hmem => he.origin.trans (ih e hmem)⟩

theorem isChain_visited (h : Run o entries) : (o.state :: visited entries).IsChain Leads := by
  induction h with
  | nil o => exact .singleton _
  | @cons e entries he _ ih =>
    by_cases hstate : e.after.state = e.before.state
    · have hvisited : visited (e :: entries) = visited entries := by simp [visited, hstate]
      rwa [hvisited, ← hstate]
    · have hvisited : visited (e :: entries) = e.after.state :: visited entries := by
        simp [visited, hstate]
      obtain ⟨t, -, hstart, -, htarget⟩ := he.exists_transition hstate
      rw [hvisited]
      exact .cons_cons (htarget ▸ leads_target hstart) ih

theorem state_eq_of_isTerminal (h : Run o entries) (hterminal : o.state.isTerminal = true) :
    ∀ e ∈ entries, e.after.state = o.state := by
  induction h with
  | nil o => simp
  | cons he _ ih =>
    have hstate := he.state_eq_of_isTerminal hterminal
    rw [hstate] at ih
    exact List.forall_mem_cons.mpr ⟨hstate, ih hterminal⟩

theorem pairwise_of_isTerminal (h : Run o entries) :
    entries.Pairwise fun e e' => e.after.state.isTerminal = true → e'.after.state = e.after.state := by
  induction h with
  | nil o => exact .nil
  | cons _ hrun ih =>
    exact .cons (fun e' hmem hterminal => hrun.state_eq_of_isTerminal hterminal e' hmem) ih

/-- Before an override can settle, it has been accepted. -/
theorem exists_accept {before after : List Entry} {e : Entry}
    (h : Run o (before ++ e :: after)) (ho : o.state.isAccepted = false)
    (he : e.after.state = .synced ∨ e.after.state = .syncedFormula) :
    ∃ a ∈ before, a.call = .accept ∧ a.answer = .ok () := by
  have haccepted : e.after.state.isAccepted = true := by rcases he with he | he <;> rw [he] <;> rfl
  -- Up to the acceptance, no entry has led into the accepted states, so the rest of the run is
  -- again one that begins outside of them.
  induction before generalizing o with
  | nil =>
    cases h with
    | cons hlawful _ =>
      have hstate := (hlawful.accept_of_isAccepted ho haccepted).2.2
      rcases he with he | he <;> cases hstate.symm.trans he
  | cons a before ih =>
    cases h with
    | cons hlawful hrun =>
      by_cases ha : a.after.state.isAccepted = true
      · obtain ⟨hcall, hanswer, -⟩ := hlawful.accept_of_isAccepted ho ha
        exact ⟨a, List.mem_cons_self, hcall, hanswer⟩
      · obtain ⟨a', hmem, ha'⟩ := ih hrun (by simpa using ha)
        exact ⟨a', List.mem_cons_of_mem _ hmem, ha'⟩

end Run

/-- The life of an override, given the calls on it and what happened by each of them. -/
structure Lifecycle (o : Override) (calls : List Call) (entries : List Entry) : Prop where
  made : entries.map (·.call) = calls
  run : Run o entries
  /-- The changes of the state make a path. -/
  path : (OverrideState.pending :: visited entries).IsChain Leads
  final : entries.Pairwise fun e e' =>
    e.after.state.isTerminal = true → e'.after.state = e.after.state
  /-- An override settles only after it has been accepted. -/
  settled : ∀ before e after, entries = before ++ e :: after →
    e.after.state = .synced ∨ e.after.state = .syncedFormula →
    ∃ a ∈ before, a.call = .accept ∧ a.answer = .ok ()
  /-- A call that fails changes nothing. -/
  unchanged : ∀ e ∈ entries, ∀ error, e.answer = .error error → e.after = e.before
  noted : ∀ e ∈ entries, e.call.transition? = none →
    e.answer = .ok () ∧ e.after.state = e.before.state
  /-- The reason is changed by giving the override up, and by nothing else. -/
  reason : ∀ e ∈ entries, e.after.reason ≠ e.before.reason →
    ∃ reason, e.call = .invalidate reason ∧ e.answer = .ok () ∧ e.after.reason = some reason
  /-- What the override is about stays. -/
  origin : ∀ e ∈ entries, o.SameOrigin e.after

/-- Every new override lives like this, whatever is called and whenever. -/
theorem lifecycle_history_new (id project field : String) (given replaced : Value)
    (reason : Option String) (now : Timestamp) (calls : List (Call × Timestamp)) :
    Lifecycle (.new id project field given replaced reason now) (calls.map (·.1))
      ((new id project field given replaced reason now).history calls) :=
  have hrun := run_history calls (new id project field given replaced reason now)
  { made := map_call_history calls _
    run := hrun
    path := hrun.isChain_visited
    final := hrun.pairwise_of_isTerminal
    settled := fun before e after heq he => by
      rw [heq] at hrun
      exact hrun.exists_accept rfl he
    unchanged := fun e hmem => (hrun.lawful e hmem).unchanged
    noted := fun e hmem => (hrun.lawful e hmem).noted
    reason := fun e hmem => (hrun.lawful e hmem).reason
    origin := hrun.sameOrigin }

example : visited ((new "o1" "p1" "total" (.integer 1600) (.integer 1500) none default).history
    [(.sync, default), (.accept, default), (.accept, default), (.sync, default)]) =
      [.accepted, .synced] := rfl

end Override

end FormLogic
