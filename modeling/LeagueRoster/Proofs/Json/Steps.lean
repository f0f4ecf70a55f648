import LeagueRoster.Proofs.Json.Numeral
import LeagueRoster.Proofs.Json.Quoted

/-!
What one call of the reader does with a text, given what the calls below it give: one lemma for
each way on, and for the two loops one that says there is no other way. A text of a value starts
with a character that tells the ways apart (`Opens`).
-/
namespace LeagueRoster.Datum.JsonText

open Json

section Blanks

theorem allBlank_append {w w' : List Char} (hw : AllBlank w) (hw' : AllBlank w') :
    AllBlank (w ++ w') := by
  intro c hc
  rcases List.mem_append.mp hc with hc | hc
  · exact hw c hc
  · exact hw' c hc

theorem skipBlanks_append {w : List Char} (hw : AllBlank w) (s : List Char) :
    skipBlanks (w ++ s) = skipBlanks s :=
  List.dropWhile_append_of_pos hw

theorem skipBlanks_of_allBlank {w : List Char} (hw : AllBlank w) : skipBlanks w = [] := by
  have hskip := skipBlanks_append hw []
  rwa [List.append_nil] at hskip

theorem skipBlanks_cons {c : Char} (hc : isJsonBlank c = false) (s : List Char) :
    skipBlanks (c :: s) = c :: s := by
  simp [skipBlanks, hc]

theorem skipBlanks_append_cons {w : List Char} (hw : AllBlank w) {c : Char}
    (hc : isJsonBlank c = false) (s : List Char) : skipBlanks (w ++ c :: s) = c :: s := by
  rw [skipBlanks_append hw, skipBlanks_cons hc]

theorem skipBlanks_skipBlanks (s : List Char) : skipBlanks (skipBlanks s) = skipBlanks s := by
  induction s with
  | nil => rfl
  | cons c s ih =>
    cases hc : isJsonBlank c with
    | true => simpa [skipBlanks, hc] using ih
    | false => rw [skipBlanks_cons hc, skipBlanks_cons hc]

/-- What is skipped are blanks. -/
theorem exists_of_skipBlanks {s t : List Char} (h : skipBlanks s = t) :
    ∃ w, AllBlank w ∧ s = w ++ t := by
  refine ⟨s.takeWhile isJsonBlank, List.all_eq_true.mp List.all_takeWhile, ?_⟩
  rw [← h]
  exact List.takeWhile_append_dropWhile.symm

theorem delimited_cons {c : Char} (h : c.isDigit = false ∧ c ≠ '.' ∧ c ≠ 'e' ∧ c ≠ 'E')
    (s : List Char) : Delimited (c :: s) := by
  intro c' hc'
  obtain rfl : c = c' := Option.some.inj hc'
  exact h

theorem delimited_append {w rest : List Char} (hw : AllBlank w) (h : Delimited rest) :
    Delimited (w ++ rest) := by
  cases w with
  | nil => exact h
  | cons c w =>
    apply delimited_cons
    have hc : isJsonBlank c := hw c List.mem_cons_self
    simp only [isJsonBlank, Bool.or_eq_true, decide_eq_true_eq] at hc
    rcases hc with ((rfl | rfl) | rfl) | rfl <;> decide

end Blanks

theorem ne_of_isNumberStart {c d : Char} (h : c = '-' ∨ c.isDigit)
    (hd : d ≠ '-' ∧ d.isDigit = false) : c ≠ d := by
  rintro rfl
  rcases h with h | h
  · exact hd.1 h
  · exact absurd (h.symm.trans hd.2) (by decide)

/-- A text of a value starts with a character that is neither blank nor a closing bracket. -/
def Opens (s : List Char) : Prop :=
  ∃ c rest, s = c :: rest ∧ isJsonBlank c = false ∧ c ≠ ']' ∧ c ≠ '}'

theorem opens_of_isNumber {s : List Char} {d : Datum} (h : IsNumber s d) : Opens s := by
  obtain ⟨c, rest, rfl, hc⟩ := exists_cons_of_isNumber h
  have hne : ∀ d, d ≠ '-' ∧ d.isDigit = false → c ≠ d := fun d hd => ne_of_isNumberStart hc hd
  have hblank : isJsonBlank c = false := by
    simp [isJsonBlank, hne ' ' (by decide), hne '\n' (by decide), hne '\t' (by decide),
      hne '\x0d' (by decide)]
  exact ⟨c, rest, rfl, hblank, hne ']' (by decide), hne '}' (by decide)⟩

theorem opens_of_isText {s : List Char} {ps : List Piece} (h : IsText ps s) : Opens s := by
  obtain ⟨body, -, rfl⟩ := h
  exact ⟨_, _, rfl, by decide⟩

theorem opens_of_isValue {levels : Nat} {s : List Char} {d : Datum} (h : IsValue levels s d) :
    Opens s := by
  cases h with
  | null | yes | no | seq _ | map _ => exact ⟨_, _, rfl, by decide⟩
  | text h => exact opens_of_isText h
  | number h => exact opens_of_isNumber h

theorem opens_append {s : List Char} (h : Opens s) (rest : List Char) : Opens (s ++ rest) := by
  obtain ⟨c, t, rfl, hc⟩ := h
  exact ⟨c, t ++ rest, rfl, hc⟩

theorem skipBlanks_opens {s : List Char} (h : Opens s) : skipBlanks s = s := by
  obtain ⟨c, t, rfl, hc, -⟩ := h
  exact skipBlanks_cons hc t

section Padded

variable {w t : List Char}

/-- The blanks in front of what is spelled are skipped, those behind it are left. -/
theorem skipBlanks_padded (hw : AllBlank w) (ht : Opens t) (w' more : List Char) :
    skipBlanks (w ++ t ++ w' ++ more) = t ++ (w' ++ more) := by
  simp only [List.append_assoc]
  rw [skipBlanks_append hw, skipBlanks_opens (opens_append ht _)]

theorem opens_padded (hw : AllBlank w) (ht : Opens t) (w' more : List Char) :
    Opens (skipBlanks (w ++ t ++ w' ++ more)) := by
  rw [skipBlanks_padded hw ht]
  exact opens_append ht _

end Padded

section Steps

variable {fuel levels : Nat} {s rest : List Char}

theorem value?_number {c : Char} (h : skipBlanks s = c :: rest) (hc : c = '-' ∨ c.isDigit) :
    value? (fuel + 1) levels s = number? (c :: rest) := by
  have hne : ∀ d, d ≠ '-' ∧ d.isDigit = false → c ≠ d := fun d hd => ne_of_isNumberStart hc hd
  rw [value?, h]
  split
  iterate 6
    next heq => exact absurd (List.cons.inj heq).1 (hne _ (by decide))
  rfl

theorem value?_text {t : List Char} {ps : List Piece} (ht : IsText ps t)
    (h : skipBlanks s = t ++ rest) :
    value? (fuel + 1) levels s = some (textOf ps, rest) := by
  obtain ⟨body, hbody, rfl⟩ := ht
  rw [value?, h]
  simp only [List.cons_append, List.append_assoc, List.nil_append, pieces?_append hbody,
    Option.bind_eq_bind, Option.bind_some, Option.pure_def]

theorem value?_seq {body : List Char} {ds : List Datum}
    (h : skipBlanks s = '[' :: body) (hitems : items? fuel (levels - 1) body = some (ds, rest)) :
    value? (fuel + 1) levels s = some (if levels = 0 then .unreadable else .seq ds, rest) := by
  rw [value?, h]
  simp only [hitems, Option.bind_eq_bind, Option.bind_some, Option.pure_def]

theorem value?_map {body : List Char} {es : List (Datum × Datum)}
    (h : skipBlanks s = '{' :: body)
    (hentries : entries? fuel (levels - 1) body = some (es, rest)) :
    value? (fuel + 1) levels s = some (if levels = 0 then .unreadable else .map es, rest) := by
  rw [value?, h]
  simp only [hentries, Option.bind_eq_bind, Option.bind_some, Option.pure_def]

theorem items?_nil (h : skipBlanks s = ']' :: rest) :
    items? (fuel + 1) levels s = some ([], rest) := by
  rw [items?, h]
  rfl

theorem items?_of_opens (h : Opens (skipBlanks s)) :
    items? (fuel + 1) levels s = moreItems? fuel levels (skipBlanks s) := by
  obtain ⟨c, t, heq, -, hc, -⟩ := h
  rw [items?, heq]
  split
  · next hclosed => exact absurd (List.cons.inj hclosed).1 hc
  · rfl

theorem moreItems?_last {behind : List Char} {d : Datum}
    (hvalue : value? fuel levels s = some (d, behind)) (h : skipBlanks behind = ']' :: rest) :
    moreItems? (fuel + 1) levels s = some ([d], rest) := by
  rw [moreItems?, hvalue]
  simp only [Option.bind_eq_bind, Option.bind_some, h]

theorem moreItems?_more {behind next : List Char} {d : Datum} {ds : List Datum}
    (hvalue : value? fuel levels s = some (d, behind)) (h : skipBlanks behind = ',' :: next)
    (hmore : moreItems? fuel levels next = some (ds, rest)) :
    moreItems? (fuel + 1) levels s = some (d :: ds, rest) := by
  rw [moreItems?, hvalue]
  simp only [Option.bind_eq_bind, Option.bind_some, h, hmore, Option.pure_def]

theorem entries?_nil (h : skipBlanks s = '}' :: rest) :
    entries? (fuel + 1) levels s = some ([], rest) := by
  rw [entries?, h]
  rfl

theorem entries?_of_opens (h : Opens (skipBlanks s)) :
    entries? (fuel + 1) levels s = moreEntries? fuel levels (skipBlanks s) := by
  obtain ⟨c, t, heq, -, -, hc⟩ := h
  rw [entries?, heq]
  split
  · next hclosed => exact absurd (List.cons.inj hclosed).1 hc
  · rfl

theorem moreEntries?_last {t colon body behind : List Char} {ps : List Piece} {d : Datum}
    (ht : IsText ps t) (hkey : skipBlanks s = t ++ colon) (hcolon : skipBlanks colon = ':' :: body)
    (hvalue : value? fuel levels body = some (d, behind)) (h : skipBlanks behind = '}' :: rest) :
    moreEntries? (fuel + 1) levels s = some ([(textOf ps, d)], rest) := by
  obtain ⟨quotedBody, hquoted, rfl⟩ := ht
  rw [moreEntries?, hkey]
  simp only [List.cons_append, List.append_assoc, List.nil_append, pieces?_append hquoted,
    Option.bind_eq_bind, Option.bind_some, hcolon, hvalue, h]

theorem moreEntries?_more {t colon body behind next : List Char} {ps : List Piece} {d : Datum}
    {es : List (Datum × Datum)} (ht : IsText ps t) (hkey : skipBlanks s = t ++ colon)
    (hcolon : skipBlanks colon = ':' :: body)
    (hvalue : value? fuel levels body = some (d, behind)) (h : skipBlanks behind = ',' :: next)
    (hmore : moreEntries? fuel levels next = some (es, rest)) :
    moreEntries? (fuel + 1) levels s = some ((textOf ps, d) :: es, rest) := by
  obtain ⟨quotedBody, hquoted, rfl⟩ := ht
  rw [moreEntries?, hkey]
  simp only [List.cons_append, List.append_assoc, List.nil_append, pieces?_append hquoted,
    Option.bind_eq_bind, Option.bind_some, hcolon, hvalue, h, hmore, Option.pure_def]

/-- A row of items is read only behind its first one, which is the last or followed by more. -/
theorem exists_of_moreItems? {ds : List Datum}
    (h : moreItems? (fuel + 1) levels s = some (ds, rest)) :
    ∃ d behind, value? fuel levels s = some (d, behind) ∧
      (skipBlanks behind = ']' :: rest ∧ ds = [d] ∨
        ∃ next ds', skipBlanks behind = ',' :: next ∧
          moreItems? fuel levels next = some (ds', rest) ∧ ds = d :: ds') := by
  obtain ⟨⟨d, behind⟩, hd, hmore⟩ := Option.bind_eq_some_iff.mp h
  refine ⟨d, behind, hd, ?_⟩
  dsimp only at hmore
  split at hmore
  · next heq =>
    obtain ⟨rfl, rfl⟩ := Prod.mk.inj (Option.some.inj hmore)
    exact Or.inl ⟨heq, rfl⟩
  · next next heq =>
    obtain ⟨⟨ds', rest'⟩, hds', hds⟩ := Option.bind_eq_some_iff.mp hmore
    obtain ⟨rfl, rfl⟩ := Prod.mk.inj (Option.some.inj hds)
    exact Or.inr ⟨next, ds', heq, hds', rfl⟩
  · exact absurd hmore (by simp)

/-- A row of entries is read only behind the name of its first one, a colon and a value. -/
theorem exists_of_moreEntries? {es : List (Datum × Datum)}
    (h : moreEntries? (fuel + 1) levels s = some (es, rest)) :
    ∃ t ps colon body d behind, IsText ps t ∧ skipBlanks s = t ++ colon ∧
      skipBlanks colon = ':' :: body ∧ value? fuel levels body = some (d, behind) ∧
      (skipBlanks behind = '}' :: rest ∧ es = [(textOf ps, d)] ∨
        ∃ next es', skipBlanks behind = ',' :: next ∧
          moreEntries? fuel levels next = some (es', rest) ∧ es = (textOf ps, d) :: es') := by
  rw [moreEntries?] at h
  split at h
  · next hkey =>
    obtain ⟨⟨ps, colon⟩, hps, hcolon⟩ := Option.bind_eq_some_iff.mp h
    obtain ⟨quotedBody, hquoted, rfl⟩ := isQuoted_of_pieces? hps
    dsimp only at hcolon
    split at hcolon
    · next body hbody =>
      obtain ⟨⟨d, behind⟩, hd, hmore⟩ := Option.bind_eq_some_iff.mp hcolon
      refine ⟨_, ps, colon, body, d, behind, ⟨quotedBody, hquoted, rfl⟩, ?_, hbody, hd, ?_⟩
      · rw [hkey, List.append_assoc, List.cons_append, List.singleton_append]
      dsimp only at hmore
      split at hmore
      · next heq =>
        obtain ⟨rfl, rfl⟩ := Prod.mk.inj (Option.some.inj hmore)
        exact Or.inl ⟨heq, rfl⟩
      · next next heq =>
        obtain ⟨⟨es', rest'⟩, hes', hes⟩ := Option.bind_eq_some_iff.mp hmore
        obtain ⟨rfl, rfl⟩ := Prod.mk.inj (Option.some.inj hes)
        exact Or.inr ⟨next, es', heq, hes', rfl⟩
      · exact absurd hmore (by simp)
    · exact absurd hcolon (by simp)
  · exact absurd h (by simp)

end Steps

end LeagueRoster.Datum.JsonText
