import LeagueRoster.NameOrder
import LeagueRoster.Proofs.Text.Lowercase

/-!
The order of names is a total order on all texts. The third level compares case ranks place
by place and forgets the longer tail, which is no order by itself. It is asked only when the
second level ties, and then both decompositions have one length (`length_nfd_of_accentKey`),
so that nothing is forgotten: names compare as four keys do, one after the other.
-/
namespace LeagueRoster.NameOrder

open Text

/-- The case ranks of a name, one for each character of its decomposition. -/
def caseKey (name : String) : List Nat := (nfd name.toList).map caseRank

/-- Base letters, then accents, then case, then code points, each as a key of its own. -/
def compareKeys : String → String → Ordering :=
  compareLex (compareOn baseKey) <|
    compareLex (compareOn accentKey) (compareLex (compareOn caseKey) (compareOn String.toList))

theorem accentKey_eq_map (name : String) :
    accentKey name = (nfd name.toList).map simpleLower :=
  flatMap_lower_nfd name.toList

theorem length_nfd_of_accentKey {a b : String} (h : accentKey a = accentKey b) :
    (nfd a.toList).length = (nfd b.toList).length := by
  have hlength := congrArg List.length h
  simpa only [accentKey_eq_map, List.length_map] using hlength

/-- Where neither text outlasts the other, the places decide like a dictionary. -/
theorem compareRanks_eq_compare {a b : List Char} (h : a.length = b.length) :
    compareRanks a b = compare (a.map caseRank) (b.map caseRank) := by
  induction a generalizing b with
  | nil =>
    cases b with
    | nil => rfl
    | cons d b => simp at h
  | cons c a ih =>
    cases b with
    | nil => simp at h
    | cons d b =>
      have hlength : a.length = b.length := by simpa using h
      simp only [compareRanks, List.map_cons, List.compare_cons_cons, ih hlength]

theorem compareCase_eq_compare {a b : String} (h : accentKey a = accentKey b) :
    compareCase a b = compare (caseKey a) (caseKey b) :=
  compareRanks_eq_compare (length_nfd_of_accentKey h)

theorem compareNames_eq_compareKeys (a b : String) : compareNames a b = compareKeys a b := by
  unfold compareNames compareKeys compareLex compareOn
  cases hbase : compare (baseKey a) (baseKey b) with
  | lt => rfl
  | gt => rfl
  | eq =>
    cases haccent : compare (accentKey a) (accentKey b) with
    | lt => rfl
    | gt => rfl
    | eq =>
      have hkeys : accentKey a = accentKey b := Std.LawfulEqOrd.eq_of_compare haccent
      rw [compareCase_eq_compare hkeys]

instance : Std.TransCmp compareKeys := by
  unfold compareKeys
  infer_instance

instance : Std.LawfulEqCmp compareKeys where
  eq_of_compare {a b} h := by
    simp only [compareKeys, compareLex_eq_eq] at h
    exact String.toList_injective (Std.LawfulEqOrd.eq_of_compare h.2.2.2)

theorem compareNames_eq : compareNames = compareKeys := by
  funext a b
  exact compareNames_eq_compareKeys a b

instance : Std.TransCmp compareNames := by
  rw [compareNames_eq]
  infer_instance

instance : Std.LawfulEqCmp compareNames := by
  rw [compareNames_eq]
  infer_instance

/-- Names are totally ordered, whatever characters they hold: the two directions of a
comparison agree, only a name and itself compare as equal, and the order is transitive. -/
theorem compareNames_totalOrder (a b c : String) :
    compareNames a b = (compareNames b a).swap ∧
      (compareNames a b = .eq ↔ a = b) ∧
      ((compareNames a b).isLE → (compareNames b c).isLE → (compareNames a c).isLE) := by
  refine ⟨Std.OrientedCmp.eq_swap, Std.LawfulEqCmp.compare_eq_iff_eq, ?_⟩
  intro hab hbc
  exact Std.TransCmp.isLE_trans hab hbc

/-- U+0130 and its decomposition differ in length and still tie in the first three levels. -/
theorem compareNames_dotted_capital_I :
    (compareNames "Inan" "I\u0307nan").isLE ∧ (compareNames "I\u0307nan" "\u0130nan").isLE ∧
      (compareNames "Inan" "\u0130nan").isLE := by
  have hab : (compareNames "Inan" "I\u0307nan").isLE := by decide +kernel
  have hbc : (compareNames "I\u0307nan" "\u0130nan").isLE := by decide +kernel
  exact ⟨hab, hbc, (compareNames_totalOrder "Inan" "I\u0307nan" "\u0130nan").2.2 hab hbc⟩

end LeagueRoster.NameOrder
