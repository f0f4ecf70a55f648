import LeagueRoster.Proofs.Json.Grammar

/-!
The reader of texts takes a text of the grammar up to the quote that closes it (`pieces?_append`,
`isQuoted_of_pieces?`). What is written in quotes is one, whatever characters it holds
(`isText_quoted`): a control character without a letter of its own is written by its number and
comes back as a unit, every other character as itself.
-/
namespace LeagueRoster.Datum.JsonText

/-- Puts a piece in front of what is read. -/
def withPiece (p : Piece) (found : List Piece × List Char) : List Piece × List Char :=
  (p :: found.1, found.2)

theorem pieces?_letter {e c : Char} (he : escaped? e = some c) (rest : List Char) :
    pieces? ('\\' :: e :: rest) = (pieces? rest).map (withPiece (.char c)) := by
  have hu : e ≠ 'u' := by
    rintro rfl
    have hnone : escaped? 'u' = none := by decide
    exact absurd (he.symm.trans hnone) (by simp)
  rw [pieces?, he]
  · cases pieces? rest <;> rfl
  · intro _ _ _ _ _ heq _
    exact hu heq

theorem pieces?_number {a b c d : Char} {n : Nat} (hn : Text.hexNumber? 4 [a, b, c, d] = some n)
    (rest : List Char) :
    pieces? ('\\' :: 'u' :: a :: b :: c :: d :: rest) =
      (pieces? rest).map (withPiece (.unit n)) := by
  rw [pieces?, hn]
  cases pieces? rest <;> rfl

theorem pieces?_plain {c : Char} (hquote : c ≠ '"') (hslash : c ≠ '\\') (hcode : 0x20 ≤ c.toNat)
    (rest : List Char) : pieces? (c :: rest) = (pieces? rest).map (withPiece (.char c)) := by
  rw [pieces?, if_neg (Nat.not_lt.mpr hcode)]
  · cases pieces? rest <;> rfl
  · exact hquote
  · intro _ _ _ _ _ heq _
    exact hslash heq
  · intro _ _ heq _
    exact hslash heq

/-- A quoted text is read up to its closing quote. -/
theorem pieces?_append {body : List Char} {ps : List Piece} (h : IsQuoted body ps)
    (rest : List Char) : pieces? (body ++ '"' :: rest) = some (ps, rest) := by
  induction h with
  | nil => rfl
  | plain hquote hslash hcode _ ih =>
    rw [List.cons_append, pieces?_plain hquote hslash hcode, ih]
    rfl
  | letter he _ ih =>
    rw [List.cons_append, List.cons_append, pieces?_letter he, ih]
    rfl
  | number hn _ ih =>
    simp only [List.cons_append]
    rw [pieces?_number hn, ih]
    rfl

/-- A piece that is read in front of others, which are read from what is behind it. -/
theorem exists_of_map_withPiece {p : Piece} {found : Option (List Piece × List Char)}
    {ps : List Piece} {rest : List Char} (h : found.map (withPiece p) = some (ps, rest)) :
    ∃ ps', found = some (ps', rest) ∧ ps = p :: ps' := by
  obtain ⟨⟨ps', rest'⟩, hfound, heq⟩ := Option.map_eq_some_iff.mp h
  obtain ⟨rfl, rfl⟩ := Prod.mk.inj heq
  exact ⟨ps', hfound, rfl⟩

/-- What is read up to a quote is a quoted text. -/
theorem isQuoted_of_pieces? {s rest : List Char} {ps : List Piece}
    (h : pieces? s = some (ps, rest)) : ∃ body, IsQuoted body ps ∧ s = body ++ '"' :: rest := by
  induction s using pieces?.induct generalizing ps with
  | case1 => exact absurd h (by simp [pieces?])
  | case2 rest' =>
    rw [pieces?] at h
    obtain ⟨rfl, rfl⟩ := Prod.mk.inj (Option.some.inj h)
    exact ⟨[], .nil, rfl⟩
  | case3 a b c d rest' ih =>
    cases hn : Text.hexNumber? 4 [a, b, c, d] with
    | none => exact absurd h (by simp [pieces?, hn])
    | some n =>
      rw [pieces?_number hn] at h
      obtain ⟨ps', hps', rfl⟩ := exists_of_map_withPiece h
      obtain ⟨body, hbody, rfl⟩ := ih hps'
      exact ⟨_, .number hn hbody, rfl⟩
  | case4 e rest' hu ih =>
    cases he : escaped? e with
    | none =>
      rw [pieces?, he] at h
      · exact absurd h (by simp)
      · exact hu
    | some c =>
      rw [pieces?_letter he] at h
      obtain ⟨ps', hps', rfl⟩ := exists_of_map_withPiece h
      obtain ⟨body, hbody, rfl⟩ := ih hps'
      exact ⟨_, .letter he hbody, rfl⟩
  | case5 c rest' hquote hu hslash hcode =>
    rw [pieces?, if_pos hcode] at h
    · exact absurd h (by simp)
    · exact hquote
    · exact hu
    · exact hslash
  | case6 c rest' hquote hu hslash hcode ih =>
    have hc : c ≠ '\\' := by
      rintro rfl
      -- a backslash that ends the text escapes nothing
      cases rest' with
      | nil => exact absurd h (by simp [pieces?])
      | cons e rest' => exact hslash e rest' rfl rfl
    rw [pieces?_plain hquote hc (Nat.not_lt.mp hcode)] at h
    obtain ⟨ps', hps', rfl⟩ := exists_of_map_withPiece h
    obtain ⟨body, hbody, rfl⟩ := ih hps'
    exact ⟨_, .plain hquote hc (Nat.not_lt.mp hcode) hbody, rfl⟩

section Written

/-- The control characters that have no escape of one letter. -/
def IsNumbered (c : Char) : Prop :=
  c.toNat < 0x20 ∧ c ≠ '\x08' ∧ c ≠ '\x0c' ∧ c ≠ '\n' ∧ c ≠ '\x0d' ∧ c ≠ '\t'

instance : DecidablePred IsNumbered := fun c =>
  inferInstanceAs (Decidable (c.toNat < 0x20 ∧ c ≠ '\x08' ∧ c ≠ '\x0c' ∧ c ≠ '\n' ∧ c ≠ '\x0d' ∧
    c ≠ '\t'))

/-- What a written character is read as. -/
def pieceOf (c : Char) : Piece := if IsNumbered c then .unit c.toNat else .char c

theorem hexNumber?_of_lt {n : Nat} (h : n < 0x20) :
    Text.hexNumber? 4 ['0', '0', Json.hexDigit (n / 16), Json.hexDigit n] = some n := by
  revert n
  decide

theorem isQuoted_escapeChar (c : Char) {s : List Char} {ps : List Piece} (h : IsQuoted s ps) :
    IsQuoted (Json.escapeChar c ++ s) (pieceOf c :: ps) := by
  unfold Json.escapeChar
  iterate 7
    split
    · next heq =>
      subst heq
      exact .letter rfl h
  split
  · next hb hf hn hr ht hcode =>
    rw [pieceOf, if_pos ⟨hcode, hb, hf, hn, hr, ht⟩]
    exact .number (hexNumber?_of_lt hcode) h
  · next hquote hslash _ _ _ _ _ hcode =>
    rw [pieceOf, if_neg fun hnumbered => hcode hnumbered.1]
    exact .plain hquote hslash (Nat.not_lt.mp hcode) h

theorem isQuoted_flatMap_escapeChar (s : List Char) :
    IsQuoted (s.flatMap Json.escapeChar) (s.map pieceOf) := by
  induction s with
  | nil => exact .nil
  | cons c s ih =>
    rw [List.flatMap_cons, List.map_cons]
    exact isQuoted_escapeChar c ih

/-- A written text is one of the grammar. -/
theorem isText_quoted (s : String) : IsText (s.toList.map pieceOf) (Json.quoted s) :=
  ⟨_, isQuoted_flatMap_escapeChar s.toList, rfl⟩

theorem join?_unit {n : Nat} (h : n < 0x20) (rest : List Piece) :
    join? (.unit n :: rest) = (join? rest).map (Char.ofNat n :: ·) := by
  have hhigh : isHighSurrogate n = false := by
    simp only [isHighSurrogate, Bool.and_eq_false_iff, decide_eq_false_iff_not]
    omega
  have hlow : isLowSurrogate n = false := by
    simp only [isLowSurrogate, Bool.and_eq_false_iff, decide_eq_false_iff_not]
    omega
  rw [join?.eq_def]
  simp only [hhigh, hlow]
  rfl

theorem join?_map_pieceOf (s : List Char) : join? (s.map pieceOf) = some s := by
  induction s with
  | nil => rfl
  | cons c s ih =>
    rw [List.map_cons, pieceOf]
    split
    · next h => rw [join?_unit h.1, ih, Option.map_some, Char.ofNat_toNat]
    · rw [join?, ih, Option.map_some]

theorem textOf_map_pieceOf (s : String) : textOf (s.toList.map pieceOf) = .str s := by
  have htext : textOf (s.toList.map pieceOf) = .str (String.ofList s.toList) := by
    simp only [textOf, join?_map_pieceOf]
  rw [htext, String.ofList_toList]

end Written

end LeagueRoster.Datum.JsonText
