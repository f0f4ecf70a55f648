import LeagueRoster.Proofs.Json.Steps

/-!
The reader takes what is in the grammar and nothing else (`ofJson?_eq_some_iff`): it reads every
text of a value to its end (`value?_append`), and what it has read is a text of a value
(`isValue_of_value?`). The first is by induction on how the text is built, the second on the fuel.
The fuel that a text needs is three times its length at most: a value, the list in it and the first
item of that list are three calls in a row before the next character is consumed.
-/
namespace LeagueRoster.Datum.JsonText

open Json

/-- A call for a text of a value has fuel for one step at least. -/
theorem exists_fuel {s : List Char} {fuel : Nat} (hs : Opens s) (hfuel : 3 * s.length ≤ fuel) :
    ∃ f, fuel = f + 1 := by
  obtain ⟨c, rest, rfl, -⟩ := hs
  rw [List.length_cons] at hfuel
  exact ⟨fuel - 1, by omega⟩

theorem opens_of_isItems {levels : Nat} {u : List Char} {d : Datum} {ds : List Datum}
    (h : IsItems levels u (d :: ds)) (more : List Char) : Opens (skipBlanks (u ++ more)) := by
  cases h with
  | last hw ht _ => exact opens_padded hw (opens_of_isValue ht) _ _
  | more hw ht _ _ =>
    rw [List.append_assoc]
    exact opens_padded hw (opens_of_isValue ht) _ _

theorem opens_of_isEntries {levels : Nat} {u : List Char} {e : Datum × Datum}
    {es : List (Datum × Datum)} (h : IsEntries levels u (e :: es)) (more : List Char) :
    Opens (skipBlanks (u ++ more)) := by
  have hopens : ∀ {name : List Char} {ps : List Piece} (t : List Char),
      Padded (IsText ps) name → Opens (skipBlanks (name ++ t)) := by
    rintro _ _ t ⟨v, _, _, hv, htext, -, rfl⟩
    exact opens_padded hv (opens_of_isText htext) _ _
  cases h with
  | last hname _ _ _ =>
    rw [List.append_assoc]
    exact hopens _ hname
  | more hname _ _ _ _ =>
    rw [List.append_assoc]
    exact hopens _ hname

/-- A row of items is looked into for its first one unless it ends at once. -/
theorem items?_of_isItems {fuel levels : Nat} {u rest : List Char} {ds : List Datum}
    (h : IsItems levels u ds)
    (hmore : ds ≠ [] → moreItems? fuel levels (skipBlanks (u ++ ']' :: rest)) = some (ds, rest)) :
    items? (fuel + 1) levels (u ++ ']' :: rest) = some (ds, rest) := by
  cases ds with
  | nil =>
    cases h with
    | none hw => exact items?_nil (skipBlanks_append_cons hw rfl rest)
  | cons d ds => rw [items?_of_opens (opens_of_isItems h _), hmore (List.cons_ne_nil d ds)]

theorem entries?_of_isEntries {fuel levels : Nat} {u rest : List Char}
    {es : List (Datum × Datum)} (h : IsEntries levels u es)
    (hmore : es ≠ [] → moreEntries? fuel levels (skipBlanks (u ++ '}' :: rest)) = some (es, rest)) :
    entries? (fuel + 1) levels (u ++ '}' :: rest) = some (es, rest) := by
  cases es with
  | nil =>
    cases h with
    | none hw => exact entries?_nil (skipBlanks_append_cons hw rfl rest)
  | cons e es => rw [entries?_of_opens (opens_of_isEntries h _), hmore (List.cons_ne_nil e es)]

mutual

/-- A text of a value is read up to its last character. -/
theorem value?_append {levels : Nat} {s : List Char} {d : Datum} : IsValue levels s d →
    ∀ {fuel : Nat} {text rest : List Char}, 3 * s.length ≤ fuel → Delimited rest →
      skipBlanks text = s ++ rest → value? fuel levels text = some (d, rest)
  | .null, fuel, text, rest, hfuel, _, htext => by
    obtain ⟨fuel, rfl⟩ := exists_fuel ⟨'n', _, rfl, by decide⟩ hfuel
    rw [value?, htext]
    rfl
  | .yes, fuel, text, rest, hfuel, _, htext => by
    obtain ⟨fuel, rfl⟩ := exists_fuel ⟨'t', _, rfl, by decide⟩ hfuel
    rw [value?, htext]
    rfl
  | .no, fuel, text, rest, hfuel, _, htext => by
    obtain ⟨fuel, rfl⟩ := exists_fuel ⟨'f', _, rfl, by decide⟩ hfuel
    rw [value?, htext]
    rfl
  | .text h, fuel, text, rest, hfuel, _, htext => by
    obtain ⟨fuel, rfl⟩ := exists_fuel (opens_of_isText h) hfuel
    exact value?_text h htext
  | .number h, fuel, text, rest, hfuel, hrest, htext => by
    obtain ⟨fuel, rfl⟩ := exists_fuel (opens_of_isNumber h) hfuel
    have hread := number?_append h hrest
    obtain ⟨c, t, rfl, hc⟩ := exists_cons_of_isNumber h
    rw [List.cons_append] at htext hread
    rw [value?_number htext hc, hread]
  | .seq h, fuel, text, rest, hfuel, _, htext => by
    simp only [List.length_append, List.length_cons, List.length_nil] at hfuel
    -- one step opens the list, one looks for its end; the items get what is left
    obtain ⟨fuel, rfl⟩ : ∃ f, fuel = f + 2 := ⟨fuel - 2, by omega⟩
    rw [List.append_assoc, List.cons_append, List.singleton_append] at htext
    exact value?_seq htext (items?_of_isItems h fun hne =>
      moreItems?_append h hne (by omega) (skipBlanks_skipBlanks _))
  | .map h, fuel, text, rest, hfuel, _, htext => by
    simp only [List.length_append, List.length_cons, List.length_nil] at hfuel
    obtain ⟨fuel, rfl⟩ : ∃ f, fuel = f + 2 := ⟨fuel - 2, by omega⟩
    rw [List.append_assoc, List.cons_append, List.singleton_append] at htext
    exact value?_map htext (entries?_of_isEntries h fun hne =>
      moreEntries?_append h hne (by omega) (skipBlanks_skipBlanks _))

theorem moreItems?_append {levels : Nat} {u : List Char} {ds : List Datum} :
    IsItems levels u ds → ds ≠ [] → ∀ {fuel : Nat} {text rest : List Char},
      3 * u.length + 1 ≤ fuel → skipBlanks text = skipBlanks (u ++ ']' :: rest) →
        moreItems? fuel levels text = some (ds, rest)
  | .none _, hne, _, _, _, _, _ => absurd rfl hne
  | .last hw ht hw', _, fuel, text, rest, hfuel, htext => by
    obtain ⟨fuel, rfl⟩ : ∃ f, fuel = f + 1 := ⟨fuel - 1, by omega⟩
    simp only [List.length_append] at hfuel
    rw [skipBlanks_padded hw (opens_of_isValue ht)] at htext
    exact moreItems?_last
      (value?_append ht (by omega) (delimited_append hw' (delimited_cons (by decide) rest)) htext)
      (skipBlanks_append_cons hw' rfl rest)
  | .more hw ht hw' hu, _, fuel, text, rest, hfuel, htext => by
    obtain ⟨fuel, rfl⟩ : ∃ f, fuel = f + 1 := ⟨fuel - 1, by omega⟩
    simp only [List.length_append, List.length_cons] at hfuel
    rw [List.append_assoc, skipBlanks_padded hw (opens_of_isValue ht)] at htext
    exact moreItems?_more
      (value?_append ht (by omega) (delimited_append hw' (delimited_cons (by decide) _)) htext)
      (skipBlanks_append_cons hw' rfl _)
      (moreItems?_append hu (List.cons_ne_nil _ _) (by omega) rfl)

theorem moreEntries?_append {levels : Nat} {u : List Char} {es : List (Datum × Datum)} :
    IsEntries levels u es → es ≠ [] → ∀ {fuel : Nat} {text rest : List Char},
      3 * u.length + 1 ≤ fuel → skipBlanks text = skipBlanks (u ++ '}' :: rest) →
        moreEntries? fuel levels text = some (es, rest)
  | .none _, hne, _, _, _, _, _ => absurd rfl hne
  | .last ⟨_, _, _, hv, hkey, hv', hname⟩ hw ht hw', _, fuel, text, rest, hfuel, htext => by
    obtain ⟨fuel, rfl⟩ : ∃ f, fuel = f + 1 := ⟨fuel - 1, by omega⟩
    subst hname
    simp only [List.length_append, List.length_cons] at hfuel
    rw [List.append_assoc, skipBlanks_padded hv (opens_of_isText hkey)] at htext
    exact moreEntries?_last hkey htext (skipBlanks_append_cons hv' rfl _)
      (value?_append ht (by omega) (delimited_append hw' (delimited_cons (by decide) rest))
        (skipBlanks_padded hw (opens_of_isValue ht) _ _))
      (skipBlanks_append_cons hw' rfl rest)
  | .more ⟨_, _, _, hv, hkey, hv', hname⟩ hw ht hw' hu, _, fuel, text, rest, hfuel, htext => by
    obtain ⟨fuel, rfl⟩ : ∃ f, fuel = f + 1 := ⟨fuel - 1, by omega⟩
    subst hname
    simp only [List.length_append, List.length_cons] at hfuel
    rw [List.append_assoc, skipBlanks_padded hv (opens_of_isText hkey), List.cons_append,
      List.append_assoc (_ ++ _ ++ _), List.cons_append] at htext
    exact moreEntries?_more hkey htext (skipBlanks_append_cons hv' rfl _)
      (value?_append ht (by omega) (delimited_append hw' (delimited_cons (by decide) _))
        (skipBlanks_padded hw (opens_of_isValue ht) _ _))
      (skipBlanks_append_cons hw' rfl _)
      (moreEntries?_append hu (List.cons_ne_nil _ _) (by omega) rfl)

end

/-- Blanks in front of a row of items belong to it. -/
theorem isItems_blank_append {levels : Nat} {w u : List Char} {ds : List Datum} (hw : AllBlank w)
    (h : IsItems levels u ds) : IsItems levels (w ++ u) ds := by
  cases h with
  | none hv => exact .none (allBlank_append hw hv)
  | last hv ht hv' =>
    rw [← List.append_assoc, ← List.append_assoc]
    exact .last (allBlank_append hw hv) ht hv'
  | more hv ht hv' hu =>
    rw [← List.append_assoc, ← List.append_assoc, ← List.append_assoc]
    exact .more (allBlank_append hw hv) ht hv' hu

theorem isEntries_blank_append {levels : Nat} {w u : List Char} {es : List (Datum × Datum)}
    (hw : AllBlank w) (h : IsEntries levels u es) : IsEntries levels (w ++ u) es := by
  have hpadded : ∀ {name : List Char} {ps : List Piece}, Padded (IsText ps) name →
      Padded (IsText ps) (w ++ name) := by
    rintro _ _ ⟨v, t, v', hv, ht, hv', rfl⟩
    exact ⟨w ++ v, t, v', allBlank_append hw hv, ht, hv', by simp only [List.append_assoc]⟩
  cases h with
  | none hv => exact .none (allBlank_append hw hv)
  | last hname hv ht hv' =>
    rw [← List.append_assoc]
    exact .last (hpadded hname) hv ht hv'
  | more hname hv ht hv' hu =>
    rw [← List.append_assoc]
    exact .more (hpadded hname) hv ht hv' hu

mutual

/-- What is read as a value is a text of it, with blanks in front. -/
theorem isValue_of_value? : (fuel : Nat) → ∀ {levels : Nat} {s rest : List Char} {d : Datum},
    value? fuel levels s = some (d, rest) →
      ∃ w t, AllBlank w ∧ IsValue levels t d ∧ s = w ++ (t ++ rest)
  | 0, levels, s, rest, d, h => absurd h (by simp [value?])
  | fuel + 1, levels, s, rest, d, h => by
    obtain ⟨w, hw, hs⟩ := exists_of_skipBlanks (rfl : skipBlanks s = skipBlanks s)
    suffices htext : ∃ t, IsValue levels t d ∧ skipBlanks s = t ++ rest by
      obtain ⟨t, ht, hskip⟩ := htext
      exact ⟨w, t, hw, ht, hs.trans (hskip ▸ rfl)⟩
    rw [value?] at h
    split at h
    · next body heq =>
      obtain ⟨⟨ps, behind⟩, hps, hd⟩ := Option.bind_eq_some_iff.mp h
      obtain ⟨rfl, rfl⟩ := Prod.mk.inj (Option.some.inj hd)
      obtain ⟨quotedBody, hquoted, rfl⟩ := isQuoted_of_pieces? hps
      exact ⟨_, .text ⟨_, hquoted, rfl⟩, by simp [heq]⟩
    · next body heq =>
      obtain ⟨⟨ds, behind⟩, hds, hd⟩ := Option.bind_eq_some_iff.mp h
      obtain ⟨rfl, rfl⟩ := Prod.mk.inj (Option.some.inj hd)
      obtain ⟨u, hu, rfl⟩ := isItems_of_items? fuel hds
      exact ⟨_, .seq hu, by simp [heq]⟩
    · next body heq =>
      obtain ⟨⟨es, behind⟩, hes, hd⟩ := Option.bind_eq_some_iff.mp h
      obtain ⟨rfl, rfl⟩ := Prod.mk.inj (Option.some.inj hd)
      obtain ⟨u, hu, rfl⟩ := isEntries_of_entries? fuel hes
      exact ⟨_, .map hu, by simp [heq]⟩
    · next heq =>
      obtain ⟨rfl, rfl⟩ := Prod.mk.inj (Option.some.inj h)
      exact ⟨_, .null, heq⟩
    · next heq =>
      obtain ⟨rfl, rfl⟩ := Prod.mk.inj (Option.some.inj h)
      exact ⟨_, .yes, heq⟩
    · next heq =>
      obtain ⟨rfl, rfl⟩ := Prod.mk.inj (Option.some.inj h)
      exact ⟨_, .no, heq⟩
    · obtain ⟨t, ht, hskip⟩ := isNumber_of_number? h
      exact ⟨t, .number ht, hskip⟩

theorem isItems_of_items? : (fuel : Nat) → ∀ {levels : Nat} {s rest : List Char} {ds : List Datum},
    items? fuel levels s = some (ds, rest) → ∃ u, IsItems levels u ds ∧ s = u ++ ']' :: rest
  | 0, levels, s, rest, ds, h => absurd h (by simp [items?])
  | fuel + 1, levels, s, rest, ds, h => by
    rw [items?] at h
    split at h
    · next heq =>
      obtain ⟨rfl, rfl⟩ := Prod.mk.inj (Option.some.inj h)
      obtain ⟨w, hw, rfl⟩ := exists_of_skipBlanks heq
      exact ⟨w, .none hw, rfl⟩
    · obtain ⟨w, hw, hs⟩ := exists_of_skipBlanks (rfl : skipBlanks s = skipBlanks s)
      obtain ⟨u, hu, -, hskip⟩ := isItems_of_moreItems? fuel h
      exact ⟨w ++ u, isItems_blank_append hw hu, by rw [hs, hskip, List.append_assoc]⟩

theorem isItems_of_moreItems? : (fuel : Nat) → ∀ {levels : Nat} {s rest : List Char}
    {ds : List Datum}, moreItems? fuel levels s = some (ds, rest) →
      ∃ u, IsItems levels u ds ∧ ds ≠ [] ∧ s = u ++ ']' :: rest
  | 0, levels, s, rest, ds, h => absurd h (by simp [moreItems?])
  | fuel + 1, levels, s, rest, ds, h => by
    obtain ⟨d, behind, hd, hbehind⟩ := exists_of_moreItems? h
    obtain ⟨w, t, hw, ht, rfl⟩ := isValue_of_value? fuel hd
    obtain ⟨hend, rfl⟩ | ⟨next, ds', hnext, hmore, rfl⟩ := hbehind
    · obtain ⟨w', hw', rfl⟩ := exists_of_skipBlanks hend
      exact ⟨_, .last hw ht hw', List.cons_ne_nil _ _, by simp⟩
    · obtain ⟨w', hw', rfl⟩ := exists_of_skipBlanks hnext
      obtain ⟨u, hu, hne, rfl⟩ := isItems_of_moreItems? fuel hmore
      obtain ⟨d', ds', rfl⟩ := List.exists_cons_of_ne_nil hne
      exact ⟨_, .more hw ht hw' hu, List.cons_ne_nil _ _, by simp⟩

theorem isEntries_of_entries? : (fuel : Nat) → ∀ {levels : Nat} {s rest : List Char}
    {es : List (Datum × Datum)}, entries? fuel levels s = some (es, rest) →
      ∃ u, IsEntries levels u es ∧ s = u ++ '}' :: rest
  | 0, levels, s, rest, es, h => absurd h (by simp [entries?])
  | fuel + 1, levels, s, rest, es, h => by
    rw [entries?] at h
    split at h
    · next heq =>
      obtain ⟨rfl, rfl⟩ := Prod.mk.inj (Option.some.inj h)
      obtain ⟨w, hw, rfl⟩ := exists_of_skipBlanks heq
      exact ⟨w, .none hw, rfl⟩
    · obtain ⟨w, hw, hs⟩ := exists_of_skipBlanks (rfl : skipBlanks s = skipBlanks s)
      obtain ⟨u, hu, -, hskip⟩ := isEntries_of_moreEntries? fuel h
      exact ⟨w ++ u, isEntries_blank_append hw hu, by rw [hs, hskip, List.append_assoc]⟩

theorem isEntries_of_moreEntries? : (fuel : Nat) → ∀ {levels : Nat} {s rest : List Char}
    {es : List (Datum × Datum)}, moreEntries? fuel levels s = some (es, rest) →
      ∃ u, IsEntries levels u es ∧ es ≠ [] ∧ s = u ++ '}' :: rest
  | 0, levels, s, rest, es, h => absurd h (by simp [moreEntries?])
  | fuel + 1, levels, s, rest, es, h => by
    obtain ⟨key, ps, colon, body, d, behind, hkey, hs, hcolon, hd, hbehind⟩ :=
      exists_of_moreEntries? h
    obtain ⟨v, hv, rfl⟩ := exists_of_skipBlanks hs
    obtain ⟨v', hv', rfl⟩ := exists_of_skipBlanks hcolon
    obtain ⟨w, t, hw, ht, rfl⟩ := isValue_of_value? fuel hd
    have hname : Padded (IsText ps) (v ++ key ++ v') := ⟨v, key, v', hv, hkey, hv', rfl⟩
    obtain ⟨hend, rfl⟩ | ⟨next, es', hnext, hmore, rfl⟩ := hbehind
    · obtain ⟨w', hw', rfl⟩ := exists_of_skipBlanks hend
      exact ⟨_, .last hname hw ht hw', List.cons_ne_nil _ _, by simp⟩
    · obtain ⟨w', hw', rfl⟩ := exists_of_skipBlanks hnext
      obtain ⟨u, hu, hne, rfl⟩ := isEntries_of_moreEntries? fuel hmore
      obtain ⟨e', es', rfl⟩ := List.exists_cons_of_ne_nil hne
      exact ⟨_, .more hname hw ht hw' hu, List.cons_ne_nil _ _, by simp⟩

end

theorem isEmpty_skipBlanks_iff {w : List Char} : (skipBlanks w).isEmpty ↔ AllBlank w := by
  rw [List.isEmpty_iff]
  constructor
  · intro h
    obtain ⟨v, hv, rfl⟩ := exists_of_skipBlanks h
    rwa [List.append_nil]
  · exact skipBlanks_of_allBlank

end LeagueRoster.Datum.JsonText

namespace LeagueRoster

open Datum.JsonText

/-- The datum of a document is read, and only blanks are left. -/
theorem Datum.readJson?_of_isDocument {d : Datum} {text : String} (h : d.IsDocument text) :
    ∃ w, Json.AllBlank w ∧ readJson? text.toList = some (d, w) := by
  obtain ⟨v, t, w, hv, ht, hw, htext⟩ := h
  have hend : Delimited w := by
    have hnil : Delimited [] := fun c hc => absurd hc (by simp)
    simpa using delimited_append hw hnil
  have hskip : skipBlanks text.toList = t ++ w := by
    have hpadded := skipBlanks_padded hv (opens_of_isValue ht) w []
    rwa [List.append_nil, List.append_nil, ← htext] at hpadded
  refine ⟨w, hw, value?_append ht ?_ hend hskip⟩
  rw [htext, List.length_append, List.length_append]
  omega

theorem Datum.isDocument_of_readJson? {d : Datum} {text : String} {w : List Char}
    (h : readJson? text.toList = some (d, w)) (hw : Json.AllBlank w) : d.IsDocument text := by
  obtain ⟨v, t, hv, ht, htext⟩ := isValue_of_value? _ h
  exact ⟨v, t, w, hv, ht, hw, by rw [htext, List.append_assoc]⟩

/-- The reader accepts a text just if it is a document, and gives the datum of it. -/
theorem Datum.ofJson?_eq_some_iff {d : Datum} {text : String} :
    ofJson? text = some d ↔ d.IsDocument text := by
  constructor
  · intro h
    unfold ofJson? at h
    split at h
    · next d' rest hread =>
      obtain ⟨hblank, hd⟩ := Option.ite_none_right_eq_some.mp h
      rw [Option.some.inj hd] at hread
      exact isDocument_of_readJson? hread (isEmpty_skipBlanks_iff.mp hblank)
    · exact absurd h (by simp)
  · intro h
    obtain ⟨w, hw, hread⟩ := readJson?_of_isDocument h
    have hblank : (skipBlanks w).isEmpty := isEmpty_skipBlanks_iff.mpr hw
    simp only [ofJson?, hread, hblank, if_true]

end LeagueRoster
