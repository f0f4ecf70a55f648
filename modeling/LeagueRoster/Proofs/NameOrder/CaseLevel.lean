import LeagueRoster.Proofs.NameOrder.Equivalence

/-!
What the third level sees. It goes through two decomposed names place by place and stops where the
shorter one ends (`compareRanks_eq_firstDifference`). Its answer can only matter to names that tie
by base letters and accents (`caseMatters_iff`), and these have decompositions of one length, so
that no name that the level decides about has a tail without a place (`places_whole`).
-/
namespace LeagueRoster.NameOrder

open Text

/-- The characters that the third level compares with each other. -/
def places (a b : String) : List (Char × Char) := (nfd a.toList).zip (nfd b.toList)

/-- The first place where one letter is uppercase and the other is not. -/
def firstDifference (places : List (Char × Char)) : Ordering :=
  ((places.map fun p => compare (caseRank p.1) (caseRank p.2)).find? fun o => o ≠ .eq).getD .eq

/-- The order of names with the answer of the third level left open. -/
def compareGiven (third : Ordering) (a b : String) : Ordering :=
  (compare (baseKey a) (baseKey b)).then <|
    (compare (accentKey a) (accentKey b)).then (third.then (compare a.toList b.toList))

/-- There are answers of the third level that make a difference to the order of the two names. -/
def CaseMatters (a b : String) : Prop := ∃ o o', compareGiven o a b ≠ compareGiven o' a b

theorem compareRanks_eq_firstDifference (s t : List Char) :
    compareRanks s t = firstDifference (s.zip t) := by
  induction s generalizing t with
  | nil => rfl
  | cons c s ih =>
    cases t with
    | nil => rfl
    | cons d t =>
      rw [compareRanks, ih, firstDifference, firstDifference, List.zip_cons_cons, List.map_cons]
      by_cases htie : compare (caseRank c) (caseRank d) = .eq
      · rw [htie, Ordering.eq_then, List.find?_cons_of_neg (by simp)]
      · rw [then_of_ne_eq htie, List.find?_cons_of_pos (by simpa using htie), Option.getD_some]

theorem compareNames_eq_compareGiven (a b : String) :
    compareNames a b = compareGiven (firstDifference (places a b)) a b := by
  rw [places, ← compareRanks_eq_firstDifference]
  rfl

/-- The third level is asked where the second one ties, and nowhere else. -/
theorem caseMatters_iff (a b : String) : CaseMatters a b ↔ accentKey a = accentKey b := by
  constructor
  · rintro ⟨o, o', hne⟩
    by_contra hkeys
    have haccent : compare (accentKey a) (accentKey b) ≠ .eq := fun heq =>
      hkeys (Std.LawfulEqOrd.eq_of_compare heq)
    simp only [compareGiven, then_of_ne_eq haccent, ne_eq, not_true] at hne
  · intro hkeys
    have hlevels : ∀ o, compareGiven o a b = o.then (compare a.toList b.toList) := by
      intro o
      rw [compareGiven, baseKey_of_accentKey hkeys, hkeys]
      simp only [Std.ReflOrd.compare_self, Ordering.eq_then]
    refine ⟨.lt, .gt, ?_⟩
    rw [hlevels, hlevels]
    exact Ordering.noConfusion

/-- Names with one accent key have decompositions of one length and one base key. The third level
goes by the places of two names, and wherever its answer matters these hold both decompositions from
end to end. -/
theorem places_whole (a b : String) :
    (accentKey a = accentKey b →
        (nfd a.toList).length = (nfd b.toList).length ∧ baseKey a = baseKey b) ∧
      compareNames a b = compareGiven (firstDifference (places a b)) a b ∧
        (CaseMatters a b → (places a b).unzip = (nfd a.toList, nfd b.toList)) := by
  refine ⟨?_, compareNames_eq_compareGiven a b, ?_⟩
  · intro hkeys
    exact ⟨length_nfd_of_accentKey hkeys, baseKey_of_accentKey hkeys⟩
  · intro hcase
    exact List.unzip_zip (length_nfd_of_accentKey ((caseMatters_iff a b).mp hcase))

/-- A composed and a decomposed spelling of different lengths, told apart by case alone. -/
theorem places_whole_dotted_capital_I :
    let a := "\u0130nan"
    let b := "i\u0307NaN"
    a.toList.length ≠ b.toList.length ∧ accentKey a = accentKey b ∧ CaseMatters a b ∧
      (nfd a.toList).length = (nfd b.toList).length ∧ baseKey a = baseKey b ∧
        (places a b).unzip = (nfd a.toList, nfd b.toList) := by
  intro a b
  have hkeys : accentKey a = accentKey b := by decide +kernel
  have hcase : CaseMatters a b := (caseMatters_iff a b).mpr hkeys
  obtain ⟨hsame, -, hwhole⟩ := places_whole a b
  exact ⟨by decide, hkeys, hcase, (hsame hkeys).1, (hsame hkeys).2, hwhole hcase⟩

end LeagueRoster.NameOrder
