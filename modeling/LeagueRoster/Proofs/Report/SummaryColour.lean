import LeagueRoster.Proofs.Report.Colour
import LeagueRoster.Report.Summary
import Mathlib.Data.List.Forall2

/-!
Colour breaks the last column of the summary table. The cap space is painted before it is brought
to its width, and its escape sequences alone are wider than the column, so a painted line has no
blanks in front of it (`padLeft_paint`). All else keeps its place: without its escape sequences the
painted table is the unpainted one exactly if every figure fills the column by itself
(`unpaint_human_iff`).
-/
namespace LeagueRoster.SummaryReport

open Text (EscapeFree Displays displays_self displays_paint displays_join displays_ite
  displays_empty displays_blank displays_break escapeFree_append unpaint paint padLeft padRight
  truncate decimal money Style)

/-- The columns of a team in front of its cap space. -/
def leadingColumns (s : Summary) : String :=
  " ".intercalate [padRight 24 (truncate s.teamName 24), padLeft 7 (decimal s.activeCount),
    padLeft 4 (decimal s.injuredReserveCount), padLeft 4 (decimal s.rookieDevelopmentCount),
    padLeft 12 s.salaryOfCap] ++ " "

def spaceStyle (s : Summary) : Style := if s.overCap then .red else .green

theorem humanLine_eq (styling : Text.Styling) (s : Summary) :
    humanLine styling s =
      leadingColumns s ++ padLeft 7 (paint styling [spaceStyle s] (money s.capSpace)) ++ "\n" := by
  simp [humanLine, columns, leadingColumns, spaceStyle, String.append_assoc]

/-- The line of a team with its cap space as wide as the figure. -/
def unalignedLine (s : Summary) : String := leadingColumns s ++ money s.capSpace ++ "\n"

/-- The unpainted table with cap spaces as wide as their figures. -/
def unaligned (r : SummaryReport) : String :=
  if r.summaries.isEmpty then "! No teams in snapshot"
  else humanHeader .off ++ rule ++ "\n" ++ String.join (r.summaries.map unalignedLine)

section Padding

variable {width : Nat} {s : String}

theorem padLeft_eq_self_iff : padLeft width s = s ↔ width ≤ s.toList.length := by
  rw [← String.toList_inj, padLeft, String.toList_append, List.append_left_eq_self, Text.blanks,
    String.toList_ofList, List.replicate_eq_nil_iff]
  omega

theorem length_le_length_padLeft : s.length ≤ (padLeft width s).length := by
  rw [padLeft, String.length_append]
  exact Nat.le_add_left _ _

/-- The escape sequences of a painted text fill a column of seven characters. -/
theorem padLeft_paint (style : Style) (s : String) :
    padLeft 7 (paint .on [style] s) = paint .on [style] s := by
  have hreset : Text.ansiReset.length = 4 := by decide
  rw [padLeft_eq_self_iff, paint, String.toList_ofList]
  simp only [List.flatMap_singleton, List.length_append, hreset, Text.ansiSequence,
    List.length_cons, List.length_nil]
  omega

end Padding

section Lines

variable {α : Type} {f g : α → String} {items : List α}

theorem length_join_le (h : ∀ a ∈ items, (f a).length ≤ (g a).length) :
    (String.join (items.map f)).length ≤ (String.join (items.map g)).length := by
  induction items with
  | nil => exact Nat.le_refl _
  | cons a items ih =>
    rw [List.forall_mem_cons] at h
    simp only [List.map_cons, String.join_cons, String.length_append]
    exact Nat.add_le_add h.1 (ih h.2)

/-- Lines of which none is longer than its counterpart make up the same text only if each of them
is that counterpart. -/
theorem join_map_eq_iff (h : ∀ a ∈ items, (f a).length ≤ (g a).length) :
    String.join (items.map f) = String.join (items.map g) ↔ ∀ a ∈ items, f a = g a := by
  induction items with
  | nil => simp
  | cons a items ih =>
    rw [List.forall_mem_cons] at h
    rw [List.forall_mem_cons, ← ih h.2, List.map_cons, List.map_cons, String.join_cons,
      String.join_cons]
    constructor
    · intro heq
      -- what one line lacks no other one makes up for, so the first two are equally long
      have hrest := length_join_le h.2
      have hlengths := congrArg String.length heq
      rw [String.length_append, String.length_append] at hlengths
      have hfirst : (f a).toList.length = (g a).toList.length := by
        rw [String.length_toList, String.length_toList]
        omega
      have hchars := congrArg String.toList heq
      rw [String.toList_append, String.toList_append] at hchars
      obtain ⟨hline, hlines⟩ := List.append_inj hchars hfirst
      exact ⟨String.toList_inj.mp hline, String.toList_inj.mp hlines⟩
    · rintro ⟨hline, hlines⟩
      rw [hline, hlines]

end Lines

section Table

variable {s : Summary}

theorem escapeFree_leadingColumns (h : EscapeFree s.teamName) : EscapeFree (leadingColumns s) := by
  have hblank : EscapeFree " " := by decide
  have hcells : ∀ cell ∈ [padRight 24 (truncate s.teamName 24), padLeft 7 (decimal s.activeCount),
      padLeft 4 (decimal s.injuredReserveCount), padLeft 4 (decimal s.rookieDevelopmentCount),
      padLeft 12 s.salaryOfCap], EscapeFree cell := by
    simp only [List.forall_mem_cons]
    have hnone : ∀ cell ∈ ([] : List String), EscapeFree cell :=
      fun _ h => absurd h List.not_mem_nil
    exact ⟨(h.truncate 24).padRight 24, (Text.escapeFree_decimal _).padLeft 7,
      (Text.escapeFree_decimal _).padLeft 4, (Text.escapeFree_decimal _).padLeft 4,
      (escapeFree_salaryOfCap s).padLeft 12, hnone⟩
  exact (escapeFree_append _ _).mpr ⟨not_mem_intercalate hblank hcells, hblank⟩

theorem displays_humanLine (h : EscapeFree s.teamName) :
    Displays (humanLine .on s) (unalignedLine s) := by
  rw [humanLine_eq, padLeft_paint]
  exact ((displays_self (escapeFree_leadingColumns h)).append
    (displays_paint .on [spaceStyle s] (Text.escapeFree_money s.capSpace))).append displays_break

theorem displays_columns {painted shown : List String} (h : List.Forall₂ Displays painted shown) :
    Displays (columns painted) (columns shown) := by
  refine Displays.append ?_ displays_break
  induction h with
  | nil => exact displays_empty
  | @cons cell cell' rest rest' hcell hrest ih =>
    by_cases hne : rest = []
    · obtain rfl := hne
      rw [List.forall₂_nil_left_iff.mp hrest, String.intercalate_singleton,
        String.intercalate_singleton]
      exact hcell
    · have hne' : rest' ≠ [] := fun hnil => hne (List.forall₂_nil_right_iff.mp (hnil ▸ hrest))
      rw [String.intercalate_cons_of_ne_nil hne, String.intercalate_cons_of_ne_nil hne']
      exact (hcell.append displays_blank).append ih

theorem displays_humanHeader : Displays (humanHeader .on) (humanHeader .off) := by
  have hwords : EscapeFree "TEAM" ∧ EscapeFree "ROSTER" ∧ EscapeFree "IR" ∧ EscapeFree "RD" ∧
      EscapeFree "SALARY/CAP" ∧ EscapeFree "SPACE" := by decide
  obtain ⟨hteam, hroster, hinjured, hdevelopment, hsalary, hspace⟩ := hwords
  have hbold := fun {cell : String} => displays_paint .on [.bold] (s := cell)
  exact displays_columns <| .cons (hbold (hteam.padRight 24)) <|
    .cons (hbold (hroster.padLeft 7)) <| .cons (hbold (hinjured.padLeft 4)) <|
    .cons (hbold (hdevelopment.padLeft 4)) <| .cons (hbold (hsalary.padLeft 12)) <|
    .cons (hbold (hspace.padLeft 7)) .nil

theorem unalignedLine_eq_iff : unalignedLine s = humanLine .off s ↔
    7 ≤ (money s.capSpace).toList.length := by
  have hline : humanLine .off s = leadingColumns s ++ padLeft 7 (money s.capSpace) ++ "\n" :=
    humanLine_eq .off s
  rw [hline, unalignedLine, ← padLeft_eq_self_iff, ← String.toList_inj]
  simp only [String.toList_append, List.append_cancel_right_eq, List.append_cancel_left_eq,
    String.toList_inj]
  exact eq_comm

theorem length_unalignedLine_le : (unalignedLine s).length ≤ (humanLine .off s).length := by
  have hspace : (money s.capSpace).length ≤ (padLeft 7 (money s.capSpace)).length :=
    length_le_length_padLeft
  rw [humanLine_eq, unalignedLine, paint]
  simp only [String.length_append]
  omega

end Table

section Report

variable (r : SummaryReport)

theorem displays_human (hnames : ∀ s ∈ r.summaries, EscapeFree s.teamName) :
    Displays (r.human .on) r.unaligned := by
  have hsign : EscapeFree "!" := by decide
  have hnone : Displays " No teams in snapshot" " No teams in snapshot" :=
    displays_self (by decide)
  have hrule : EscapeFree rule := Text.escapeFree_replicate (by decide) 63
  have hlines := displays_join fun s hs => displays_humanLine (hnames s hs)
  have htop := (displays_humanHeader.append (displays_paint .on [.dim] hrule)).append displays_break
  exact displays_ite ((displays_paint .on [.yellow] hsign).append hnone) (htop.append hlines)

theorem unaligned_eq_human_iff :
    r.unaligned = r.human .off ↔ ∀ s ∈ r.summaries, 7 ≤ (money s.capSpace).toList.length := by
  have htable : r.human .off = if r.summaries.isEmpty then "! No teams in snapshot"
      else humanHeader .off ++ rule ++ "\n" ++ String.join (r.summaries.map (humanLine .off)) := rfl
  rw [htable, unaligned]
  cases hsummaries : r.summaries with
  | nil => simp
  | cons s rest =>
    have hlines := join_map_eq_iff (f := unalignedLine) (g := humanLine .off)
      fun t (_ : t ∈ s :: rest) => length_unalignedLine_le
    have hcancel : ∀ top below below' : String, top ++ below = top ++ below' ↔ below = below' := by
      intro top below below'
      rw [← String.toList_inj, String.toList_append, String.toList_append,
        List.append_cancel_left_eq, String.toList_inj]
    rw [if_neg (by simp), if_neg (by simp), hcancel, hlines]
    simp only [unalignedLine_eq_iff]

/-- Without its escape sequences the painted table is the unpainted one with the cap spaces out of
line. It is the unpainted table itself exactly if each of them fills its column. -/
theorem unpaint_human_iff (hnames : ∀ s ∈ r.summaries, EscapeFree s.teamName) :
    unpaint (r.human .on) = r.unaligned ∧
      (unpaint (r.human .on) = r.human .off ↔
        ∀ s ∈ r.summaries, 7 ≤ (money s.capSpace).toList.length) := by
  have hshown := (r.displays_human hnames).unpaint_eq
  rw [hshown]
  exact ⟨rfl, r.unaligned_eq_human_iff⟩

end Report

/-- A team with room for a million keeps its line in place. -/
theorem unpaint_human_wealthy :
    let config : Config := { caps := { regularSeason := 1000000 } }
    let page := RosterPage.ofTeam { id := 1, name := "Kai" } .regularSeason config {}
    let r : SummaryReport := ⟨[page.summary]⟩
    (∀ s ∈ r.summaries, EscapeFree s.teamName) ∧ r.human .on ≠ r.human .off ∧
      unpaint (r.human .on) = r.human .off := by
  intro config page r
  have hnames : ∀ s ∈ r.summaries, EscapeFree s.teamName := by decide +kernel
  have hspaces : ∀ s ∈ r.summaries, 7 ≤ (money s.capSpace).toList.length := by decide +kernel
  exact ⟨hnames, by decide +kernel, (unpaint_human_iff r hnames).2.mpr hspaces⟩

/-- A team with all of the usual cap left shows it three blanks further to the left in colour. -/
theorem not_unpaint_human_kai :
    let page := RosterPage.ofTeam { id := 1, name := "Kai" } .regularSeason {} {}
    let r : SummaryReport := ⟨[page.summary]⟩
    (∀ s ∈ r.summaries, EscapeFree s.teamName) ∧ unpaint (r.human .on) ≠ r.human .off := by
  intro page r
  have hnames : ∀ s ∈ r.summaries, EscapeFree s.teamName := by decide +kernel
  have hspace : ¬ ∀ s ∈ r.summaries, 7 ≤ (money s.capSpace).toList.length := by decide +kernel
  refine ⟨hnames, ?_⟩
  rw [(r.displays_human hnames).unpaint_eq, Ne, r.unaligned_eq_human_iff]
  exact hspace

end LeagueRoster.SummaryReport
