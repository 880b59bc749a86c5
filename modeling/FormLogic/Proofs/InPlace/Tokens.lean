import FormLogic.Proofs.Formula.Reading
import FormLogic.Proofs.Formula.Scanning
import FormLogic.Proofs.InPlace.Parser

/-! Places of the parser in place against the tokens of the text. What is ahead is the first of the
tokens that are left, and taking it is what a step over it is for a reader of tokens. -/

namespace FormLogic.InPlace

open Lexer (tokensOf)
open Procedure

section Places

variable {s : Source} {ending : Ending} {total : Nat}

inductive Stands (s : Source) (ending : Ending) (total : Nat) : Place → List Located → Prop
  | token {v : Place} {t : Located} {ts : List Located} {front behind : List Char}
      (htoken : v.token = some t.token) (hstart : s.CutAt v.start front)
      (hcolumn : t.column = s.chars.length - front.length) (hpos : s.CutAt v.pos behind)
      (hts : tokensOf s.chars.length behind = ⟨ts, ending⟩)
      (htotal : v.taken + (ts.length + 1) = total) : Stands s ending total v (t :: ts)
  | endOfText {v : Place} (htoken : v.token = none) (hstart : s.CutAt v.start [])
      (hending : ending = .endOfText s.chars.length) (htotal : v.taken = total) :
      Stands s ending total v []

/-- What the scan for the next token leads to: a place before the tokens that are left, or the fault
that stands behind all tokens. -/
def Arrives (s : Source) (ending : Ending) (total : Nat) (v : Place) (ts : List Located) :
    Except SyntaxError Unit → Place → Prop := fun r w =>
  w.depth = v.depth ∧
    (r = .ok () ∧ Stands s ending total w ts ∨ ∃ e, r = .error e ∧ ts = [] ∧ ending = .fault e)

/-- What a reader of tokens finds: a result, with the place before the rest of the tokens and the
nesting as it was, or a fault, with the nesting not below what it was. -/
def Finds (s : Source) (ending : Ending) (total : Nat) {α : Type} (v : Place)
    (o : Except SyntaxError (α × List Located)) : Except SyntaxError α → Place → Prop := fun r w =>
  match o with
  | .ok (a, ts) => r = .ok a ∧ Stands s ending total w ts ∧ w.depth = v.depth ∧ v.taken ≤ w.taken
  | .error e => r = .error e ∧ v.depth ≤ w.depth

theorem Stands.count {v : Place} {ts : List Located} (h : Stands s ending total v ts) :
    v.taken + ts.length = total := by
  cases h with
  | token _ _ _ _ _ htotal => exact htotal
  | endOfText _ _ _ htotal => exact htotal

theorem Stands.length_lt {v w : Place} {ts us : List Located} (h : Stands s ending total v ts)
    (hw : Stands s ending total w us) (htaken : v.taken < w.taken) : us.length < ts.length := by
  have hcount : v.taken + ts.length = w.taken + us.length := h.count.trans hw.count.symm
  omega

theorem Stands.token_eq {v : Place} {ts : List Located} (h : Stands s ending total v ts) :
    v.token = ts.head?.map (·.token) := by
  cases h with
  | token htoken => exact htoken
  | endOfText htoken => exact htoken

theorem Stands.of_depth {v : Place} {ts : List Located} (n : Nat)
    (h : Stands s ending total v ts) : Stands s ending total { v with depth := n } ts := by
  cases h with
  | token htoken hstart hcolumn hpos hts htotal =>
    exact .token htoken hstart hcolumn hpos hts htotal
  | endOfText htoken hstart hending htotal => exact .endOfText htoken hstart hending htotal

variable {α β : Type} {p : Procedure α} {f : α → Procedure β} {v : Place} {ts : List Located}

theorem yields_ahead (h : Stands s ending total v ts) :
    Yields ahead v (ts.head?.map (·.token)) v := by
  have hahead : Yields ahead v v.token v := (yields_place v).bind (yields_pure _ v)
  rwa [h.token_eq] at hahead

theorem Finds.of_place {w u : Place} {o : Except SyntaxError (α × List Located)}
    {r : Except SyntaxError α} (hdepth : w.depth = v.depth) (htaken : v.taken ≤ w.taken)
    (h : Finds s ending total w o r u) : Finds s ending total v o r u := by
  cases o with
  | error e => exact ⟨h.1, hdepth ▸ h.2⟩
  | ok a => exact ⟨h.1, h.2.1, h.2.2.1.trans hdepth, Nat.le_trans htaken h.2.2.2⟩

/-- A procedure that finds what a reader does, and goes on as what follows the reader does. -/
theorem Meets.bind_finds {o : Except SyntaxError (α × List Located)}
    {g : α × List Located → Except SyntaxError (β × List Located)}
    (hp : Meets p v (Finds s ending total v o))
    (hf : ∀ {a ts w}, Stands s ending total w ts → w.depth = v.depth → v.taken ≤ w.taken →
      Meets (f a) w (Finds s ending total w (g (a, ts)))) :
    Meets (p >>= f) v (Finds s ending total v (o >>= g)) := by
  cases o with
  | error e => exact hp.bind_fault fun hw => ⟨rfl, hw⟩
  | ok a =>
    refine hp.bind_result ?_
    rintro w ⟨hw, hdepth, htaken⟩
    exact (hf hw hdepth htaken).mono (Finds.of_place hdepth htaken)

theorem meets_finds_pure {a : α} (h : Stands s ending total v ts) :
    Meets (pure a) v (Finds s ending total v (.ok (a, ts))) :=
  meets_pure ⟨rfl, h, rfl, Nat.le_refl _⟩

theorem meets_finds_fault {e : SyntaxError} :
    Meets (fault e) v (Finds s ending total v (.error e : Except SyntaxError (α × List Located))) :=
  meets_fault ⟨rfl, Nat.le_refl _⟩

end Places

section Tokens

variable {s : Source} {ending : Ending} {total : Nat} {v : Place} {ts : List Located}

/-- Behind the blanks a token is scanned: what is ahead then is the next token or the end of the
text, unless there is a fault. -/
theorem meets_next {blanks cs : List Char} (hblank : blanks.dropWhile Text.isBlank = cs)
    (hcut : s.CutAt v.pos cs) (hstart : v.start = v.pos)
    (hts : tokensOf s.chars.length blanks = ⟨ts, ending⟩) (htotal : v.taken + ts.length = total) :
    Meets (do
      let token ← s.scanToken
      move fun v => { v with token := token }) v (Arrives s ending total v ts) := by
  have hscan := meets_scanToken hcut hstart
  cases cs with
  | nil =>
    rw [Grammar.tokensOf_of_blank hblank] at hts
    obtain ⟨rfl, rfl⟩ := TokenStream.mk.inj hts
    refine Yields.bind hscan ((yields_move _ v).mono ?_)
    rintro r w ⟨hr, rfl⟩
    exact ⟨rfl, .inl ⟨hr, .endOfText rfl (hstart ▸ hcut) rfl htotal⟩⟩
  | cons c rest =>
    dsimp only at hscan
    cases htoken : Lexer.scanToken (s.chars.length - (rest.length + 1)) c rest with
    | error e =>
      rw [Grammar.tokensOf_of_error hblank htoken] at hts
      obtain ⟨rfl, rfl⟩ := TokenStream.mk.inj hts
      rw [htoken] at hscan
      exact hscan.bind_fault fun hw => ⟨hw, .inr ⟨e, rfl, rfl, rfl⟩⟩
    | ok a =>
      obtain ⟨t, behind⟩ := a
      rw [Grammar.tokensOf_of_ok hblank htoken] at hts
      obtain ⟨rfl, rfl⟩ := TokenStream.mk.inj hts
      rw [htoken] at hscan
      refine hscan.bind_result ?_
      rintro w ⟨used, hused, rfl⟩
      have hbehind : s.CutAt (v.skip used).pos behind := (hused ▸ hcut).skip
      refine (yields_move _ _).mono ?_
      rintro r w ⟨hr, rfl⟩
      exact ⟨rfl, .inl ⟨hr, .token rfl (hstart ▸ hcut) rfl hbehind rfl htotal⟩⟩

theorem meets_advanceToken {cs : List Char} (h : s.CutAt v.pos cs)
    (hts : tokensOf s.chars.length cs = ⟨ts, ending⟩) (htotal : v.taken + ts.length = total) :
    Meets s.advanceToken v (Arrives s ending total v ts) := by
  have hcut : s.CutAt (v.skip (cs.takeWhile Text.isBlank)).pos (cs.dropWhile Text.isBlank) := by
    apply Source.CutAt.skip
    rwa [List.takeWhile_append_dropWhile]
  exact (yields_skipWhile Text.isBlank h).bind ((yields_move _ _).bind
    (meets_next rfl hcut rfl hts htotal))

variable {α : Type} {t : Located} {f : Unit → Procedure α}
  {g : List Located → Except SyntaxError (α × List Located)}

/-- Nothing but the end of the text stands behind all tokens, as faults are raised before. -/
theorem Stands.advance_eq {w : Place} (h : Stands s ending total w ts) (t : Located) :
    Parser.advance ending (t :: ts) = .ok ts := by
  refine Grammar.advance_eq_ok_iff.mpr ⟨rfl, ?_⟩
  cases h with
  | token => exact Grammar.ends_cons _ _
  | endOfText _ _ hending => exact fun _ => ⟨_, hending⟩

theorem meets_consume_bind (h : Stands s ending total v (t :: ts))
    (hf : ∀ {w}, Stands s ending total w ts → w.depth = v.depth → v.taken < w.taken →
      Meets (f ()) w (Finds s ending total w (g ts))) :
    Meets (s.consume >>= f) v
      (Finds s ending total v (Parser.advance ending (t :: ts) >>= g)) := by
  have hnext : Meets s.consume v (Arrives s ending total v ts) := by
    cases h with
    | token _ _ _ hpos hts htotal =>
      exact (yields_move _ v).bind (meets_advanceToken hpos hts (by simpa using by omega))
  refine hnext.bind ?_ ?_
  · rintro a w ⟨hdepth, ⟨-, hw⟩ | ⟨e, he, -⟩⟩
    · have htaken : v.taken < w.taken := by
        have hcount : v.taken + (ts.length + 1) = w.taken + ts.length := h.count.trans hw.count.symm
        omega
      rw [hw.advance_eq t]
      exact (hf hw hdepth htaken).mono (Finds.of_place hdepth (Nat.le_of_lt htaken))
    · cases he
  · rintro e w ⟨hdepth, ⟨he, -⟩ | ⟨e', he, rfl, rfl⟩⟩
    · cases he
    · exact ⟨congrArg Except.error (Except.error.inj he), Nat.le_of_eq hdepth.symm⟩

theorem meets_expect_bind (h : Stands s ending total v ts) {wanted : Token}
    (hf : ∀ {rest w}, Stands s ending total w rest → w.depth = v.depth → v.taken < w.taken →
      Meets (f ()) w (Finds s ending total w (g rest))) :
    Meets (s.expect wanted >>= f) v
      (Finds s ending total v (Parser.expect ending wanted ts >>= g)) := by
  rw [Source.expect, bind_assoc]
  refine (yields_place v).bind ?_
  have hfault : ∀ {back : List Char}, s.CutAt v.start back → Meets (do
      fault (.expected wanted v.token (← s.column v.start)) : Procedure Unit) v fun r w =>
        r = .error (.expected wanted v.token (s.chars.length - back.length)) ∧ w = v :=
    fun hback => (yields_column hback).bind (meets_fault ⟨rfl, rfl⟩)
  cases ts with
  | nil =>
    cases h with
    | endOfText htoken hstart hending htotal =>
      subst hending
      rw [if_neg (by rw [htoken]; exact nofun)]
      refine (hfault hstart).bind_fault ?_
      rintro w rfl
      rw [htoken]
      exact ⟨rfl, Nat.le_refl _⟩
  | cons t ts =>
    by_cases hwanted : t.token = wanted
    · rw [if_pos (h.token_eq.trans (congrArg some hwanted)), Parser.expect, if_pos hwanted]
      exact meets_consume_bind h hf
    · cases h with
      | token htoken hstart hcolumn =>
        rw [if_neg (by rw [htoken]; exact fun heq => hwanted (Option.some.inj heq)),
          Parser.expect, if_neg hwanted]
        refine (hfault hstart).bind_fault ?_
        rintro w rfl
        rw [htoken, ← hcolumn]
        exact ⟨rfl, Nat.le_refl _⟩

end Tokens

end FormLogic.InPlace
