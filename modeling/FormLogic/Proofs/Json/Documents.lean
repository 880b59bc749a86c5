import FormLogic.Json.Reader
import FormLogic.Json.Record
import FormLogic.Proofs.Json.Numerals
import FormLogic.Proofs.Json.Texts

/-! What reads as a JSON document, however it is laid out. Tokens are cut out of the characters, and
the reader puts the document together from them. -/

namespace FormLogic.Json

section Tokens

variable {cs ds : List Char} {ts us : List Token}

/-- Whether characters are cut into tokens, whatever stands apart behind them. -/
def CutsInto (cs : List Char) (ts : List Token) : Prop :=
  ∀ rest, Apart rest → tokensOf (cs ++ rest) = (tokensOf rest).map (ts ++ ·)

theorem tokensOf_cons {c : Char} {t : Token} {rest : List Char} (hc : isBlank c = false)
    (ht : scanToken (c :: cs) = some (t, rest)) :
    tokensOf (c :: cs) = (tokensOf rest).map (t :: ·) := by
  have hdrop : (c :: cs).dropWhile isBlank = c :: cs := List.dropWhile_cons_of_neg (by simp [hc])
  rw [tokensOf]
  split
  · next hnil => cases hdrop.symm.trans hnil
  · next hcons =>
    obtain ⟨rfl, rfl⟩ := List.cons.inj (hcons.symm.trans hdrop)
    split
    · next hnone => cases hnone.symm.trans ht
    · next hsome =>
      obtain ⟨rfl, rfl⟩ := Prod.mk.inj (Option.some.inj (hsome.symm.trans ht))
      rfl

theorem cutsInto_of_scanToken {c : Char} {t : Token} (hc : isBlank c = false)
    (ht : ∀ rest, Apart rest → scanToken (c :: cs ++ rest) = some (t, rest)) :
    CutsInto (c :: cs) [t] :=
  fun rest hrest => tokensOf_cons hc (ht rest hrest)

theorem CutsInto.append (hcs : CutsInto cs ts) (hds : CutsInto ds us)
    (hapart : ∀ rest, Apart (ds ++ rest)) : CutsInto (cs ++ ds) (ts ++ us) := by
  intro rest hrest
  rw [List.append_assoc, hcs _ (hapart rest), hds rest hrest, Option.map_map]
  exact congrArg (Option.map · _) (funext fun vs => (List.append_assoc ts us vs).symm)

theorem CutsInto.cons {c : Char} {t : Token} (hc : isBlank c = false)
    (ht : ∀ rest, scanToken (c :: rest) = some (t, rest)) (hds : CutsInto ds us) :
    CutsInto (c :: ds) (t :: us) := by
  intro rest hrest
  rw [List.cons_append, tokensOf_cons hc (ht _), hds rest hrest, Option.map_map]
  rfl

/-- Blanks in front of tokens. -/
def Gap (gap : List Char) : Prop := ∀ c ∈ gap, isBlank c = true

theorem gap_nil : Gap [] := nofun

theorem dropWhile_gap {gap : List Char} (hgap : Gap gap) :
    (gap ++ cs).dropWhile isBlank = cs.dropWhile isBlank :=
  List.dropWhile_append_of_pos hgap

theorem tokensOf_gap {gap : List Char} (hgap : Gap gap) : tokensOf (gap ++ cs) = tokensOf cs := by
  rw [tokensOf, tokensOf, dropWhile_gap hgap]

theorem CutsInto.behind {gap : List Char} (hgap : Gap gap) (h : CutsInto cs ts) :
    CutsInto (gap ++ cs) ts := by
  intro rest hrest
  rw [List.append_assoc, tokensOf_gap hgap, h rest hrest]

theorem cutsInto_nil : CutsInto [] [] :=
  fun rest _ => by cases htokens : tokensOf rest <;> simp [htokens]

theorem apart_of_punctuation {c : Char} (h : isBlank c = true ∨ c ∈ [',', ':', ']', '\x7d'])
    (cs : List Char) : Apart (c :: cs) := by
  intro d hd
  obtain rfl := Option.some.inj hd
  simp only [isBlank, decide_eq_true_eq, List.mem_cons, List.not_mem_nil, or_false] at h
  rcases h with (rfl | rfl | rfl | rfl) | (rfl | rfl | rfl | rfl) <;> decide

theorem apart_gap {gap : List Char} (hgap : Gap gap) {c : Char} (h : c ∈ [',', ':', ']', '\x7d'])
    (cs : List Char) : Apart (gap ++ c :: cs) := by
  cases gap with
  | nil => exact apart_of_punctuation (.inr h) cs
  | cons d gap => exact apart_of_punctuation (.inl (hgap d List.mem_cons_self)) _

theorem cutsInto_text (s : String) : CutsInto (quotedText s) [.text (pieces s)] := by
  refine cutsInto_of_scanToken rfl fun rest _ => ?_
  have hscan : scanText (s.toList.flatMap escaped ++ ['"'] ++ rest) = some (pieces s, rest) := by
    rw [List.append_assoc, List.singleton_append, scanText_quotedText]
  simp only [List.cons_append, List.append_eq, scanToken, hscan]

theorem head_of_scanNumeral {c : Char} {n : Numeral} {rest : List Char}
    (h : scanNumeral (c :: cs) = some (n, rest)) : c = '-' ∨ c.isDigit = true := by
  by_contra hc
  obtain ⟨hminus, hdigit⟩ := not_or.mp hc
  rw [scanNumeral] at h
  · simp [scanMagnitude, scanDigits, List.takeWhile_cons_of_neg hdigit] at h
  · rintro _ heq
    exact hminus (List.cons.inj heq).1

/-- What a number starts with starts no other token. -/
theorem scanToken_of_scanNumeral {n : Numeral} {rest : List Char}
    (h : scanNumeral cs = some (n, rest)) : scanToken cs = some (.number n, rest) := by
  unfold scanToken
  split
  case h_11 => rw [h]
  all_goals exact absurd (head_of_scanNumeral h) (by decide)

theorem cutsInto_number {n : Numeral}
    (hn : ∀ rest, Apart rest → scanNumeral (cs ++ rest) = some (n, rest)) :
    CutsInto cs [.number n] := by
  have halone := hn [] apart_nil
  cases cs with
  | nil => cases halone
  | cons c cs =>
    have hc : isBlank c = false := by
      by_contra hblank
      have hhead := head_of_scanNumeral halone
      simp only [isBlank, Bool.not_eq_false, decide_eq_true_eq] at hblank
      rcases hblank with rfl | rfl | rfl | rfl <;> exact absurd hhead (by decide)
    exact cutsInto_of_scanToken hc fun rest hrest => scanToken_of_scanNumeral (hn rest hrest)

end Tokens

section Reader

attribute [local simp] readStart readEnd

variable {double? : Numeral → Option Float} {j : Json} {ts us : List Token}

/-- Whether the reader takes tokens for a document. -/
def Spells (double? : Numeral → Option Float) (j : Json) (ts : List Token) : Prop :=
  ∀ around us, readStart double? around (ts ++ us) = readEnd double? around j us

def SpellsItems (double? : Numeral → Option Float) (items : List Json) (ts : List Token) : Prop :=
  ∀ before around us, readStart double? (.array before :: around) (ts ++ .closeArray :: us) =
    readEnd double? around (.array (before.reverse ++ items)) us

def nameable (members : List (String × Json)) : List (Option String × Json) :=
  members.map fun m => (some m.1, m.2)

/-- Whether the reader takes tokens for the members that an object goes on with, of which the name
of the first one is read already. -/
def SpellsMembers (double? : Numeral → Option Float) (name : String)
    (members : List (String × Json)) (ts : List Token) : Prop :=
  ∀ before around us,
    readStart double? (.object before (some name) :: around) (ts ++ .closeObject :: us) =
      readEnd double? around (ofMembers (before.reverse ++ nameable members)) us

theorem ofMembers_nameable (members : List (String × Json)) :
    ofMembers (nameable members) = .object members := by
  rw [ofMembers, nameable, mapM_map_eq_some]
  intro m _
  rfl

theorem spells_number (n : Numeral) : Spells double? (n.toJson double?) [.number n] := fun _ _ => by
  rw [List.singleton_append, readStart]

theorem spells_text {s : String} {ps : List TextPiece} (h : textOf? ps = some s) :
    Spells double? (.text s) [.text ps] := fun _ _ => by
  rw [List.singleton_append, readStart, ofPieces, h]

theorem spellsItems_one (h : Spells double? j ts) : SpellsItems double? [j] ts :=
  fun before around us => by rw [h, readEnd, List.reverse_cons]

theorem spellsItems_cons {items : List Json} (h : Spells double? j ts)
    (hitems : SpellsItems double? items us) :
    SpellsItems double? (j :: items) (ts ++ .comma :: us) := fun before around rest => by
  rw [List.append_assoc, h, List.cons_append, readEnd, hitems, List.reverse_cons, List.append_assoc,
    List.singleton_append]

theorem spellsMembers_one {name : String} (h : Spells double? j ts) :
    SpellsMembers double? name [(name, j)] ts := fun before around us => by
  rw [h, readEnd, List.reverse_cons]
  rfl

theorem spellsMembers_cons {name next : String} {members : List (String × Json)}
    {ps : List TextPiece} (h : Spells double? j ts) (hps : textOf? ps = some next)
    (hmembers : SpellsMembers double? next members us) :
    SpellsMembers double? name ((name, j) :: members) (ts ++ .comma :: .text ps :: .colon :: us) :=
  fun before around rest => by
    rw [List.append_assoc, h]
    simp only [List.cons_append, readEnd]
    rw [hps, hmembers, List.reverse_cons, List.append_assoc]
    rfl

theorem spells_emptyArray : Spells double? (.array []) [.openArray, .closeArray] := fun _ _ => by
  simp only [List.cons_append, readStart, List.nil_append]

theorem spells_emptyObject :
    Spells double? (.object []) [.openObject, .closeObject] := fun _ _ => by
  simp only [List.cons_append, readStart, List.nil_append]

theorem spells_array {items : List Json} (h : SpellsItems double? items ts) :
    Spells double? (.array items) (.openArray :: ts ++ [.closeArray]) := by
  intro around us
  have hread := h [] around us
  rw [List.reverse_nil, List.nil_append] at hread
  rw [← hread, List.append_assoc, List.cons_append, List.singleton_append, readStart]
  -- items never start where the array could be closed at once
  rintro back heq
  have halone := h [] [] []
  cases ts with
  | nil => simp [readStart, readEnd] at halone
  | cons t ts =>
    obtain rfl : t = .closeArray := (List.cons.inj heq).1
    simp [readStart, readEnd] at halone

theorem spells_object {name : String} {members : List (String × Json)} {ps : List TextPiece}
    (hps : textOf? ps = some name) (h : SpellsMembers double? name members ts) :
    Spells double? (.object members)
      (.openObject :: .text ps :: .colon :: ts ++ [.closeObject]) := by
  intro around us
  simp only [List.cons_append, readStart]
  rw [List.append_assoc, hps]
  exact (h [] around us).trans (by rw [List.reverse_nil, List.nil_append, ofMembers_nameable])

end Reader

section Documents

/-- Whether characters read as a document, whatever stands apart behind them. -/
def Spelled (double? : Numeral → Option Float) (cs : List Char) (j : Json) : Prop :=
  ∃ ts, CutsInto cs ts ∧ Spells double? j ts

def SpelledItems (double? : Numeral → Option Float) (cs : List Char) (items : List Json) : Prop :=
  ∃ ts, CutsInto cs ts ∧ SpellsItems double? items ts

def SpelledMembers (double? : Numeral → Option Float) (cs : List Char)
    (members : List (String × Json)) : Prop :=
  ∃ name ps ts, CutsInto cs (.text ps :: .colon :: ts) ∧ textOf? ps = some name ∧
    SpellsMembers double? name members ts

variable {double? : Numeral → Option Float} {cs ds gap : List Char}
variable {j : Json} {items : List Json} {members : List (String × Json)}

theorem Spelled.behind (hgap : Gap gap) (h : Spelled double? cs j) :
    Spelled double? (gap ++ cs) j := by
  obtain ⟨ts, hcut, hspell⟩ := h
  exact ⟨ts, hcut.behind hgap, hspell⟩

theorem spelled_number {n : Numeral}
    (hn : ∀ rest, Apart rest → scanNumeral (cs ++ rest) = some (n, rest)) :
    Spelled double? cs (n.toJson double?) :=
  ⟨_, cutsInto_number hn, spells_number n⟩

theorem spelled_text (s : String) : Spelled double? (quotedText s) (.text s) :=
  ⟨_, cutsInto_text s, spells_text (textOf?_pieces s)⟩

theorem SpelledItems.one (h : Spelled double? cs j) : SpelledItems double? cs [j] := by
  obtain ⟨ts, hcut, hspell⟩ := h
  exact ⟨ts, hcut, spellsItems_one hspell⟩

theorem SpelledItems.cons (h : Spelled double? cs j) (hitems : SpelledItems double? ds items) :
    SpelledItems double? (cs ++ ',' :: ds) (j :: items) := by
  obtain ⟨ts, hcut, hspell⟩ := h
  obtain ⟨us, hcuts, hspells⟩ := hitems
  exact ⟨_, hcut.append (.cons rfl (fun _ => rfl) hcuts) fun rest =>
    apart_of_punctuation (.inr (by simp)) _, spellsItems_cons hspell hspells⟩

theorem spelled_emptyArray : Spelled double? ['[', ']'] (.array []) :=
  ⟨_, .cons rfl (fun _ => rfl) (.cons rfl (fun _ => rfl) cutsInto_nil), spells_emptyArray⟩

theorem SpelledItems.array (h : SpelledItems double? cs items) (hgap : Gap gap) :
    Spelled double? ('[' :: cs ++ gap ++ [']']) (.array items) := by
  obtain ⟨ts, hcut, hspell⟩ := h
  have hclose : CutsInto (gap ++ [']']) [.closeArray] :=
    .behind hgap (.cons rfl (fun _ => rfl) cutsInto_nil)
  have happend := hcut.append hclose fun rest => by
    rw [List.append_assoc]
    exact apart_gap hgap (by simp) rest
  rw [List.append_assoc]
  exact ⟨_, .cons rfl (fun _ => rfl) happend, spells_array hspell⟩

/-- A member is a name, a colon, and a document. -/
theorem cutsInto_member (name : String) {ts : List Token} (h : CutsInto cs ts) :
    CutsInto (quotedText name ++ ':' :: cs) (.text (pieces name) :: .colon :: ts) :=
  (cutsInto_text name).append (.cons rfl (fun _ => rfl) h)
    fun rest => apart_of_punctuation (.inr (by simp)) _

theorem SpelledMembers.one (name : String) (h : Spelled double? cs j) :
    SpelledMembers double? (quotedText name ++ ':' :: cs) [(name, j)] := by
  obtain ⟨ts, hcut, hspell⟩ := h
  exact ⟨name, _, ts, cutsInto_member name hcut, textOf?_pieces name, spellsMembers_one hspell⟩

theorem SpelledMembers.cons (name : String) (h : Spelled double? cs j)
    (hmembers : SpelledMembers double? ds members) :
    SpelledMembers double? (quotedText name ++ ':' :: cs ++ ',' :: ds) ((name, j) :: members) := by
  obtain ⟨ts, hcut, hspell⟩ := h
  obtain ⟨next, ps, us, hcuts, hps, hspells⟩ := hmembers
  have hcomma : CutsInto (',' :: ds) (.comma :: .text ps :: .colon :: us) :=
    .cons rfl (fun _ => rfl) hcuts
  have happend := (cutsInto_member name hcut).append hcomma fun rest =>
    apart_of_punctuation (.inr (by simp)) _
  exact ⟨name, _, _, happend, textOf?_pieces name, spellsMembers_cons hspell hps hspells⟩

theorem SpelledMembers.behind (hgap : Gap gap) (h : SpelledMembers double? cs members) :
    SpelledMembers double? (gap ++ cs) members := by
  obtain ⟨name, ps, ts, hcut, hps, hspell⟩ := h
  exact ⟨name, ps, ts, hcut.behind hgap, hps, hspell⟩

theorem spelled_emptyObject : Spelled double? ['\x7b', '\x7d'] (.object []) :=
  ⟨_, .cons rfl (fun _ => rfl) (.cons rfl (fun _ => rfl) cutsInto_nil), spells_emptyObject⟩

theorem SpelledMembers.object (h : SpelledMembers double? cs members) (hgap : Gap gap) :
    Spelled double? ('\x7b' :: cs ++ gap ++ ['\x7d']) (.object members) := by
  obtain ⟨name, ps, ts, hcut, hps, hspell⟩ := h
  have hclose : CutsInto (gap ++ ['\x7d']) [.closeObject] :=
    .behind hgap (.cons rfl (fun _ => rfl) cutsInto_nil)
  have happend := hcut.append hclose fun rest => by
    rw [List.append_assoc]
    exact apart_gap hgap (by simp) rest
  rw [List.append_assoc]
  exact ⟨_, .cons rfl (fun _ => rfl) happend, spells_object hps hspell⟩

theorem tokensOf_nil : tokensOf [] = some [] := by
  rw [tokensOf]
  rfl

theorem Spelled.readWith_ofList (h : Spelled double? cs j) :
    readWith double? (String.ofList cs) = some j := by
  obtain ⟨ts, hcut, hspell⟩ := h
  have htokens : tokensOf cs = some ts := by
    simpa [tokensOf_nil] using hcut [] apart_nil
  have hread : readStart double? [] ts = some j := by simpa [readEnd] using hspell [] []
  rw [readWith, String.toList_ofList, htokens, Option.bind_some, hread]

end Documents

end FormLogic.Json
