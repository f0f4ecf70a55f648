import LeagueRoster.Proofs.Text.Truncation
import LeagueRoster.Report.Partition

/-!
The name column of the partition report for a terminal. Each contract on a page has a line of its
own in the report, group by group, and what stands behind the name on it does not depend on the
name. A name is cut to the width of its column and then brought to it, so from a width of three on,
which the ellipsis fits, the column is as wide as it should be in every line
(`names_fill_column`).
-/
namespace LeagueRoster

open Text (truncate padRight)

/-- The pieces stand in the text one behind the other, with other text around them. -/
inductive Holds : List String → String → Prop
  | nothing (text : String) : Holds [] text
  | next (before piece : String) {pieces : List String} {rest : String} :
    Holds pieces rest → Holds (piece :: pieces) (before ++ (piece ++ rest))

namespace Holds

variable {pieces pieces' : List String} {s t : String}

theorem self (piece : String) : Holds [piece] piece := by
  have h := Holds.next "" piece (.nothing "")
  rwa [String.append_empty, String.empty_append] at h

theorem append_left (before : String) (h : Holds pieces s) : Holds pieces (before ++ s) := by
  cases h with
  | nothing => exact .nothing _
  | next before' piece h =>
    rw [← String.append_assoc]
    exact .next (before ++ before') piece h

theorem append (h : Holds pieces s) (h' : Holds pieces' t) :
    Holds (pieces ++ pieces') (s ++ t) := by
  induction h with
  | nothing text => exact h'.append_left text
  | next before piece _ ih =>
    rw [List.cons_append, String.append_assoc, String.append_assoc]
    exact .next before piece ih

theorem append_right (h : Holds pieces s) (behind : String) : Holds pieces (s ++ behind) := by
  have happend := h.append (.nothing behind)
  rwa [List.append_nil] at happend

theorem join {α : Type} {f : α → String} {pieces : α → List String} {items : List α}
    (h : ∀ a ∈ items, Holds (pieces a) (f a)) :
    Holds (items.flatMap pieces) (String.join (items.map f)) := by
  induction items with
  | nil => exact .nothing _
  | cons a items ih =>
    rw [List.forall_mem_cons] at h
    rw [List.flatMap_cons, List.map_cons, String.join_cons]
    exact h.1.append (ih h.2)

end Holds

namespace PartitionReport

variable (r : PartitionReport)

/-- The contracts on the pages of the report, group by group. -/
def listed : List Contract := r.pages.flatMap fun page => page.roster.groups.flatMap Prod.snd

/-- The name of a player as it stands in its column. -/
def nameCell (c : Contract) : String := padRight r.nameWidth (truncate c.displayName r.nameWidth)

/-- What stands behind the name. -/
def lineEnd (c : Contract) : String :=
  (if r.showPositions then " " ++ padRight 16 c.profile.positionTeam else "") ++
    (" " ++ c.termsLabel ++ "\n")

/-- The text has a line for each contract of the report, with a name column of one width. -/
structure NameColumn (text : String) : Prop where
  lines : Holds (r.listed.map fun c => "  " ++ r.nameCell c ++ r.lineEnd c) text
  width : ∀ c, (r.nameCell c).toList.length = r.nameWidth

theorem humanContract_off (c : Contract) :
    r.humanContract .off c = "  " ++ r.nameCell c ++ r.lineEnd c := by
  simp only [humanContract, nameCell, lineEnd, Text.paint, String.append_assoc]

theorem holds_humanSection (s : RosterGroup × List Contract) :
    Holds (s.2.map (r.humanContract .off)) (r.humanSection .off s) := by
  have hlines := Holds.join fun c (_ : c ∈ s.2) => Holds.self (r.humanContract .off c)
  rw [← List.map_eq_flatMap] at hlines
  exact hlines.append_left _

/-- Groups without contracts have no section, and no lines either. -/
theorem flatMap_sections {α : Type} (page : RosterPage) (f : Contract → α) :
    (page.sections.flatMap fun s => s.2.map f) =
      (page.roster.groups.flatMap Prod.snd).map f := by
  rw [RosterPage.sections, List.map_flatMap]
  induction page.roster.groups with
  | nil => rfl
  | cons s groups ih =>
    rw [List.flatMap_cons, ← ih]
    cases hs : s.2 with
    | nil => rw [List.filter_cons_of_neg (by simp [hs]), List.map_nil, List.nil_append]
    | cons c contracts => rw [List.filter_cons_of_pos (by simp [hs]), List.flatMap_cons, hs]

theorem holds_humanPage (page : RosterPage) :
    Holds ((page.roster.groups.flatMap Prod.snd).map (r.humanContract .off))
      (r.humanPage .off page) := by
  have hsections := Holds.join fun s (_ : s ∈ page.sections) => r.holds_humanSection s
  rw [flatMap_sections] at hsections
  exact ((hsections.append_left _).append_right _).append_right _

theorem holds_human : Holds (r.listed.map (r.humanContract .off)) (r.human .off) := by
  unfold human
  split
  · next hempty =>
    rw [listed, List.isEmpty_iff.mp hempty]
    exact .nothing _
  · have hpages := Holds.join fun page (_ : page ∈ r.pages) => r.holds_humanPage page
    rwa [← List.map_flatMap] at hpages

theorem length_nameCell (hwidth : 3 ≤ r.nameWidth) (c : Contract) :
    (r.nameCell c).toList.length = r.nameWidth := by
  apply Text.length_padRight
  rw [Text.length_truncate _ hwidth]
  exact Nat.min_le_right _ _

/-- Of two cuts the narrower one decides. From a width of three on a cut text has as many characters
as it had before or as the width says, whichever is less, and the names in an unpainted report for a
terminal fill their column and leave it nowhere, whatever they are. -/
theorem names_fill_column :
    (∀ (s : String) (n m : Nat), n ≤ m → truncate (truncate s m) n = truncate s n) ∧
      (∀ (s : String) (m : Nat), 3 ≤ m →
        (truncate s m).toList.length = min s.toList.length m) ∧
      ∀ (r : PartitionReport) (time : String), 3 ≤ r.nameWidth →
        r.NameColumn (r.render time .off .human) := by
  refine ⟨fun s n m => Text.truncate_truncate s, fun s m => Text.length_truncate s, ?_⟩
  intro r time hwidth
  constructor
  case lines =>
    have hlines := r.holds_human
    rwa [funext r.humanContract_off] at hlines
  case width => exact r.length_nameCell hwidth

/-- A name that ends in dots is cut in front of them, and at the width of the ellipsis to nothing
else. -/
theorem names_fill_column_nene :
    let nene : Contract :=
      { id := 7, kind := .veteran, salary := 15, year := 2,
        player := .real { id := 7, name := "Nenê Hilário..." } }
    let bo : Contract :=
      { id := 8, kind := .rookie, salary := 9, year := 1,
        player := .league { id := 8, name := "Bo" } }
    let kai : Team := { id := 1, name := "Kai", contracts := [bo, nene] }
    let pages := [RosterPage.ofTeam kai .regularSeason {} {}]
    let report : PartitionReport := { pages, nameWidth := 7 }
    truncate (truncate nene.displayName 12) 3 = truncate nene.displayName 3 ∧
      truncate nene.displayName 3 = "..." ∧
      (truncate nene.displayName 7).toList.length = min nene.displayName.toList.length 7 ∧
      report.nameCell nene = "Nenê..." ∧ report.nameCell bo = "Bo     " ∧
      report.NameColumn (report.render "" .off .human) := by
  intro nene bo kai pages report
  obtain ⟨htwice, hlength, hcolumn⟩ := names_fill_column
  exact ⟨htwice nene.displayName 3 12 (by decide), by decide +kernel,
    hlength nene.displayName 7 (by decide), by decide +kernel, by decide +kernel,
    hcolumn report "" (by decide)⟩

end PartitionReport

end LeagueRoster
