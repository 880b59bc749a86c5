import FormLogic.Formula.Parser
import FormLogic.Proofs.Formula.Grammar
import FormLogic.Proofs.InPlace.Slices

/-! Procedures that go through a text with a cursor, a token ahead and a counter for the nesting.
They may come to no end at all, and they may panic. What they do that matters for that is on record
as events. -/

namespace FormLogic.InPlace

open Grammar (Level)

/-- The routines that call each other to read a formula. -/
inductive Routine where
  | expression
  | level (l : Level)
  | operators (l : Level)
  | call
  | arguments
deriving DecidableEq

/-- The calls that are going on, each with how many tokens had been taken when it began. -/
abbrev Calls := List (Routine × Nat)

inductive Event where
  | turned (before after : Nat)
  | counted (depth : Nat)
  | called (r : Routine) (taken : Nat) (active : Calls)

/-- A turn of a loop advances, the counter passes its limit by one at the most, and a routine that
calls itself, through others or not, does so behind more tokens than before. -/
def Event.Lawful : Event → Prop
  | turned before after => before < after
  | counted depth => depth ≤ nestingLimit + 1
  | called r taken active => ∀ n, (r, n) ∈ active → n < taken

/-- What a reading stands at. The token ahead is none at the end of the text. -/
structure Place where
  pos : Nat
  token : Option Token
  start : Nat
  depth : Nat
  /-- How many tokens were taken, which nothing but the record of calls depends on. -/
  taken : Nat

namespace Place

def origin : Place := ⟨0, none, 0, 0, 0⟩

def skip (v : Place) (cs : List Char) : Place := { v with pos := v.pos + bytes cs }

variable (v : Place) (cs ds : List Char)

@[simp] theorem skip_pos : (v.skip cs).pos = v.pos + bytes cs := rfl
@[simp] theorem skip_skip : (v.skip cs).skip ds = v.skip (cs ++ ds) := by
  simp only [skip, bytes_append, Nat.add_assoc]

end Place

structure State where
  place : Place
  log : List Event

inductive Stop where
  | fault (e : SyntaxError)
  | panic

/-- A change of state, which is none if it never comes to an end. -/
abbrev Machine := StateT State Option

/-- What is done from a state on, with a result or a stop. -/
abbrev Procedure (α : Type) := ExceptT Stop Machine α

namespace Procedure

variable {α : Type}

def place : Procedure Place := do return (← get).place

def move (f : Place → Place) : Procedure Unit :=
  modify fun state => { state with place := f state.place }

def note (ev : Event) : Procedure Unit :=
  modify fun state => { state with log := ev :: state.log }

def fault (e : SyntaxError) : Procedure α := throw (.fault e)

def demand : Option α → Procedure α
  | some a => pure a
  | none => throw .panic

def turn (before : Nat) : Procedure Unit := do note (.turned before (← place).pos)

/-- A procedure that goes on after a stop, which it hands over. -/
abbrev settled (p : Procedure α) : Procedure (Except Stop α) :=
  (Except.ok <$> p.run : Machine (Except Stop (Except Stop α)))

def resume : Except Stop α → Procedure α
  | .ok a => pure a
  | .error stop => throw stop

end Procedure

open Procedure

variable {α β : Type} {p : Procedure α} {f : α → Procedure β} {v w : Place}
  {P : Except SyntaxError α → Place → Prop} {Q : Except SyntaxError β → Place → Prop}

/-- From the place on, the procedure comes to an end, without a panic and with lawful events only,
and its result or fault and the place where it ends are as they should be. -/
def Meets (p : Procedure α) (v : Place) (P : Except SyntaxError α → Place → Prop) : Prop :=
  ∀ log, (∀ ev ∈ log, ev.Lawful) → ∃ r w log', (∀ ev ∈ log', ev.Lawful) ∧
    p.run.run ⟨v, log⟩ = some (r.mapError .fault, ⟨w, log'⟩) ∧ P r w

theorem Meets.mono {P' : Except SyntaxError α → Place → Prop} (h : Meets p v P)
    (hP : ∀ {r w}, P r w → P' r w) : Meets p v P' := by
  intro log hlog
  obtain ⟨r, w, log', hlog', hrun, hr⟩ := h log hlog
  exact ⟨r, w, log', hlog', hrun, hP hr⟩

theorem meets_pure {a : α} (h : P (.ok a) v) : Meets (pure a) v P :=
  fun log hlog => ⟨.ok a, v, log, hlog, rfl, h⟩

theorem meets_fault {e : SyntaxError} (h : P (.error e) v) : Meets (fault e) v P :=
  fun log hlog => ⟨.error e, v, log, hlog, rfl, h⟩

theorem Meets.bind (hp : Meets p v P) (hok : ∀ {a w}, P (.ok a) w → Meets (f a) w Q)
    (herror : ∀ {e w}, P (.error e) w → Q (.error e) w) : Meets (p >>= f) v Q := by
  intro log hlog
  obtain ⟨r, w, log', hlog', hrun, hr⟩ := hp log hlog
  cases r with
  | error e =>
    refine ⟨.error e, w, log', hlog', ?_, herror hr⟩
    rw [ExceptT.run_bind, StateT.run_bind, hrun]
    rfl
  | ok a =>
    obtain ⟨r', w', log'', hlog'', hrun', hr'⟩ := hok hr log' hlog'
    refine ⟨r', w', log'', hlog'', ?_, hr'⟩
    rw [ExceptT.run_bind, StateT.run_bind, hrun]
    exact hrun'

theorem Meets.bind_result {a : α} {R : Place → Prop} (hp : Meets p v fun r w => r = .ok a ∧ R w)
    (h : ∀ {w}, R w → Meets (f a) w Q) : Meets (p >>= f) v Q := by
  refine hp.bind ?_ (fun hr => nomatch hr.1)
  rintro b w ⟨hb, hw⟩
  rw [Except.ok.inj hb]
  exact h hw

theorem Meets.bind_fault {e : SyntaxError} {R : Place → Prop}
    (hp : Meets p v fun r w => r = .error e ∧ R w) (h : ∀ {w}, R w → Q (.error e) w) :
    Meets (p >>= f) v Q := by
  refine hp.bind (fun hr => nomatch hr.1) ?_
  rintro e' w ⟨he, hw⟩
  rw [Except.error.inj he]
  exact h hw

theorem Meets.settled_bind {f : Except Stop α → Procedure β} (hp : Meets p v P)
    (h : ∀ {r w}, P r w → Meets (f (r.mapError .fault)) w Q) : Meets (settled p >>= f) v Q := by
  intro log hlog
  obtain ⟨r, w, log', hlog', hrun, hr⟩ := hp log hlog
  obtain ⟨r', w', log'', hlog'', hrun', hr'⟩ := h hr log' hlog'
  have hsettled : p.settled.run.run ⟨v, log⟩ = some (.ok (r.mapError .fault), ⟨w, log'⟩) := by
    change StateT.run (Except.ok <$> p.run) ⟨v, log⟩ = _
    rw [StateT.run_map, hrun]
    rfl
  refine ⟨r', w', log'', hlog'', ?_, hr'⟩
  rw [← hrun', ExceptT.run_bind, StateT.run_bind, hsettled]
  rfl

/-- The procedure has the result, and ends at the place. -/
def Yields (p : Procedure α) (v : Place) (a : α) (w : Place) : Prop :=
  Meets p v fun r u => r = .ok a ∧ u = w

theorem Yields.bind {a : α} (hp : Yields p v a w) (h : Meets (f a) w Q) : Meets (p >>= f) v Q :=
  Meets.bind_result hp fun hw => hw ▸ h

theorem yields_pure (a : α) (v : Place) : Yields (pure a) v a v := meets_pure ⟨rfl, rfl⟩

theorem yields_place (v : Place) : Yields place v v v :=
  fun log hlog => ⟨.ok v, v, log, hlog, rfl, rfl, rfl⟩

theorem yields_move (g : Place → Place) (v : Place) : Yields (move g) v () (g v) :=
  fun log hlog => ⟨.ok (), g v, log, hlog, rfl, rfl, rfl⟩

theorem yields_note {ev : Event} (hev : ev.Lawful) (v : Place) : Yields (note ev) v () v :=
  fun log hlog =>
    ⟨.ok (), v, ev :: log, List.forall_mem_cons.mpr ⟨hev, hlog⟩, rfl, rfl, rfl⟩

theorem yields_turn {before : Nat} (h : before < v.pos) : Yields (turn before) v () v :=
  have hev : (Event.turned before v.pos).Lawful := h
  (yields_place v).bind (yields_note hev v)

theorem yields_demand {a : α} {o : Option α} (ho : o = some a) (v : Place) :
    Yields (demand o) v a v := by
  subst ho
  exact yields_pure a v

end FormLogic.InPlace
