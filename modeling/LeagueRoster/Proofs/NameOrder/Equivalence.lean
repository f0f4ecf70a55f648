import LeagueRoster.Proofs.NameOrder.Accents

/-!
Canonically equivalent spellings of a name, such as the composed and the decomposed one. The
first three levels see decomposed names only, so they do not tell such spellings apart, and they
tie only for names that are equal once one letter of each pair of twins stands for both
(`compareLevels_eq_eq_iff`). Any other name compares alike with all spellings of a name
(`compareNames_congr`). A name that differs in twins alone is told apart by code points, and may
come between two spellings (`not_interchangeable_theta`).
-/
namespace LeagueRoster.NameOrder

open Text

/-- The comparison by base letters, accents and case. -/
def compareLevels (a b : String) : Ordering :=
  (compare (baseKey a) (baseKey b)).then <|
    (compare (accentKey a) (accentKey b)).then (compareCase a b)

/-- A decomposed name in which one letter of each pair of twins stands for both. -/
def twinForm (name : String) : List Char := (nfd name.toList).map twin

theorem compareNames_eq_then (a b : String) :
    compareNames a b = (compareLevels a b).then (compare a.toList b.toList) := by
  rw [compareNames, compareLevels, Ordering.then_assoc, Ordering.then_assoc]

theorem compareLevels_congr {a a' : String} (h : nfd a.toList = nfd a'.toList) (c : String) :
    compareLevels a c = compareLevels a' c := by
  simp only [compareLevels, compareCase, baseKey, accentKey, h]

theorem caseRank_eq_iff (c d : Char) : caseRank c = caseRank d ↔ isUpper c = isUpper d := by
  unfold caseRank
  cases isUpper c <;> cases isUpper d <;> decide

theorem map_twin_eq_iff {s t : List Char} (hs : ∀ c ∈ s, decompose c = [c])
    (ht : ∀ c ∈ t, decompose c = [c]) :
    s.map twin = t.map twin ↔
      s.map simpleLower = t.map simpleLower ∧ s.map caseRank = t.map caseRank := by
  induction s generalizing t with
  | nil =>
    cases t with
    | nil => simp
    | cons d t => simp
  | cons c s ih =>
    cases t with
    | nil => simp
    | cons d t =>
      rw [List.forall_mem_cons] at hs ht
      simp only [List.map_cons, List.cons.injEq, twin_eq_iff hs.1 ht.1, ih hs.2 ht.2,
        caseRank_eq_iff]
      tauto

theorem baseKey_of_accentKey {a b : String} (h : accentKey a = accentKey b) :
    baseKey a = baseKey b := by
  rw [baseKey_eq_filter, baseKey_eq_filter, h]

/-- Names tie in all three levels only if they differ in twins alone. -/
theorem compareLevels_eq_eq_iff (a b : String) :
    compareLevels a b = .eq ↔ twinForm a = twinForm b := by
  have htwin : twinForm a = twinForm b ↔ accentKey a = accentKey b ∧ caseKey a = caseKey b := by
    rw [accentKey_eq_map, accentKey_eq_map]
    exact map_twin_eq_iff (fun c hc => decompose_of_mem_nfd hc) fun c hc => decompose_of_mem_nfd hc
  rw [htwin, compareLevels, Ordering.then_eq_eq, Ordering.then_eq_eq,
    Std.LawfulEqOrd.compare_eq_iff_eq, Std.LawfulEqOrd.compare_eq_iff_eq]
  constructor
  · rintro ⟨-, haccent, hcase⟩
    rw [compareCase_eq_compare haccent] at hcase
    exact ⟨haccent, Std.LawfulEqOrd.eq_of_compare hcase⟩
  · rintro ⟨haccent, hcase⟩
    rw [compareCase_eq_compare haccent, hcase]
    exact ⟨baseKey_of_accentKey haccent, haccent, Std.ReflOrd.compare_self⟩

/-- Spellings that decompose alike compare alike with every name that differs from them in more than
twins, so no such name comes between two of them. -/
theorem compareNames_congr {a a' c : String} (h : nfd a.toList = nfd a'.toList)
    (hc : twinForm c ≠ twinForm a) :
    compareNames a c = compareNames a' c ∧ ¬(compareNames a c = .lt ∧ compareNames c a' = .lt) := by
  have hne : compareLevels a c ≠ .eq := fun htie => hc ((compareLevels_eq_eq_iff a c).mp htie).symm
  have hlevels : ∀ b, compareLevels b c = compareLevels a c →
      compareNames b c = compareLevels a c := by
    intro b hb
    rw [compareNames_eq_then, hb, then_of_ne_eq hne]
  have hsame : compareNames a c = compareNames a' c :=
    (hlevels a rfl).trans (hlevels a' (compareLevels_congr h c).symm).symm
  refine ⟨hsame, ?_⟩
  rintro ⟨hlt, hlt'⟩
  have hgt : compareNames a' c = .gt := Std.OrientedCmp.gt_of_lt hlt'
  rw [← hsame, hlt] at hgt
  exact Ordering.noConfusion hgt

/-- The plain spelling stands before both spellings of the accented name. -/
theorem compareNames_congr_jokic :
    compareNames "Joki\u0107" "Jokic" = compareNames "Jokic\u0301" "Jokic" ∧
      ¬(compareNames "Joki\u0107" "Jokic" = .lt ∧ compareNames "Jokic" "Jokic\u0301" = .lt) := by
  have hsame : nfd "Joki\u0107".toList = nfd "Jokic\u0301".toList := by decide +kernel
  have hother : twinForm "Jokic" ≠ twinForm "Joki\u0107" := by decide +kernel
  exact compareNames_congr hsame hother

/-- With the theta symbol for the capital theta a name ties in all three levels, and comes between
the composed and the decomposed spelling by code points. -/
theorem not_interchangeable_theta :
    ¬∀ a a' c : String, nfd a.toList = nfd a'.toList → nfd c.toList ≠ nfd a.toList →
      compareNames a c = compareNames a' c := by
  intro h
  have hsame : nfd "\u0386\u0398".toList = nfd "\u0391\u0301\u0398".toList := by decide +kernel
  have hother : nfd "\u0386\u03F4".toList ≠ nfd "\u0386\u0398".toList := by decide +kernel
  have hlt : compareNames "\u0386\u0398" "\u0386\u03F4" = .lt := by decide +kernel
  have hgt : compareNames "\u0391\u0301\u0398" "\u0386\u03F4" = .gt := by decide +kernel
  have heq := h _ _ _ hsame hother
  rw [hlt, hgt] at heq
  exact Ordering.noConfusion heq

end LeagueRoster.NameOrder
