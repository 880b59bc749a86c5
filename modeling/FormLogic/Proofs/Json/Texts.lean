import FormLogic.Json.Reader

/-! Texts of JSON. What is written of a text between quotes reads as the text. -/

namespace FormLogic.Json

/-- The piece that a written character is read as: a control character without a short form is
written as its number. -/
def piece (c : Char) : TextPiece :=
  if c ∈ ['\x08', '\x0c', '\n', '\r', '\t'] ∨ 0x20 ≤ c.toNat then .char c else .unit c.toNat

def pieces (s : String) : List TextPiece := s.toList.map piece

theorem joinPieces_piece (c : Char) (ps : List TextPiece) :
    joinPieces (piece c :: ps) = (joinPieces ps).map (c :: ·) := by
  unfold piece
  split
  · rfl
  · next h =>
    have hc : c.toNat < 0x20 := by
      have := (not_or.mp h).2
      omega
    have hhigh : isHighSurrogate c.toNat = false := by simp [isHighSurrogate]; omega
    have hlow : isLowSurrogate c.toNat = false := by simp [isLowSurrogate]; omega
    cases ps with
    | nil => simp [joinPieces, hhigh, hlow]
    | cons p ps => cases p <;> simp [joinPieces, hhigh, hlow]

theorem textOf?_pieces (s : String) : textOf? (pieces s) = some s := by
  have hjoin : ∀ cs : List Char, joinPieces (cs.map piece) = some cs := by
    intro cs
    induction cs with
    | nil => rfl
    | cons c cs ih => rw [List.map_cons, joinPieces_piece, ih, Option.map_some]
  rw [textOf?, pieces, hjoin, Option.map_some, String.ofList_toList]

theorem hexValue?_control : ∀ n < 0x20,
    hexValue? ['0', '0', Nat.digitChar (n / 16), Nat.digitChar (n % 16)] = some n := by
  decide

theorem scanText_unescape {e c : Char} (h : unescape? e = some c) (cs : List Char) :
    scanText ('\\' :: e :: cs) = (scanText cs).map fun r => (.char c :: r.1, r.2) := by
  rw [scanText, h]
  · cases scanText cs <;> rfl
  · rintro _ _ _ _ _ rfl
    cases h

theorem scanText_of_plain {c : Char} (hquote : c ≠ '"') (hbackslash : c ≠ '\\')
    (hc : ¬ c.toNat < 0x20) (cs : List Char) :
    scanText (c :: cs) = (scanText cs).map fun r => (.char c :: r.1, r.2) := by
  rw [scanText, if_neg hc]
  · cases scanText cs <;> rfl
  · exact hquote
  · exact fun _ _ _ _ _ heq => absurd heq hbackslash
  · exact fun _ _ heq => absurd heq hbackslash

theorem scanText_escaped (c : Char) (cs : List Char) :
    scanText (escaped c ++ cs) = (scanText cs).map fun r => (piece c :: r.1, r.2) := by
  unfold escaped
  split
  case h_8 hquote hbackslash hb hf hn hr ht =>
    split
    · next hc =>
      have hpiece : piece c = .unit c.toNat := by
        rw [piece, if_neg]
        simp only [List.mem_cons, List.not_mem_nil, or_false, not_or]
        exact ⟨⟨hb, hf, hn, hr, ht⟩, by omega⟩
      rw [hpiece]
      simp only [List.cons_append, List.nil_append]
      rw [scanText, hexValue?_control _ hc]
      cases scanText cs <;> rfl
    · next hc =>
      have hpiece : piece c = .char c := if_pos (.inr (by omega))
      rw [hpiece]
      exact scanText_of_plain hquote hbackslash hc cs
  all_goals exact scanText_unescape rfl cs

theorem scanText_quotedText (s : String) (rest : List Char) :
    scanText (s.toList.flatMap escaped ++ '"' :: rest) = some (pieces s, rest) := by
  unfold pieces
  induction s.toList with
  | nil => rfl
  | cons c cs ih =>
    rw [List.flatMap_cons, List.append_assoc, scanText_escaped, ih, Option.map_some, List.map_cons]

end FormLogic.Json
