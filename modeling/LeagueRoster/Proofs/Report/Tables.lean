import LeagueRoster.Proofs.Report.Lines
import LeagueRoster.Report.Partition
import LeagueRoster.Report.Summary
import LeagueRoster.Report.Validation
import Mathlib.Data.List.Forall2

/-!
No table is broken by what it shows (`tables_unbroken`). A name or a message may hold tabs and line
breaks in any number; its cell shows it character by character with blanks in their place, and
every other cell holds neither. Each report is laid out as its values, row by row, of which every
one goes through the same cell (`cells_eq_map`), so that what holds of a table of cells holds of all
three reports.
-/
namespace LeagueRoster

open Text (decimal)

/-- The cell shows the text, with a blank for every tab and every line break. -/
def Shows (value cell : String) : Prop :=
  List.Forall₂ (fun v c => c = if v = '\t' ∨ v = '\n' then ' ' else v) value.toList cell.toList

/-- A line of a table: as many cells as the table has columns, each with its value. -/
structure ShowsRow (columns : Nat) (values : List String) (line : String) : Prop where
  width : (splitAt '\t' line).length = columns
  cells : List.Forall₂ Shows values (splitAt '\t' line)

/-- The text is the table of the rows: split at line breaks it gives the header, one line for each
row, in order, and nothing behind the last break. -/
structure Tabulates (columns : Nat) (header : List String) (rows : List (List String))
    (text : String) : Prop where
  columns_eq : header.length = columns
  lines : ∃ top shown, splitAt '\n' text = top :: shown ++ [""] ∧ splitAt '\t' top = header ∧
    List.Forall₂ (ShowsRow columns) rows shown

theorem shows_cell (s : String) : Shows s (Tsv.cell s) := by
  rw [Shows, Tsv.cell, String.toList_ofList, List.forall₂_map_right_iff, List.forall₂_same]
  intro c _
  simp only [Bool.or_eq_true, decide_eq_true_eq]

theorem cell_of_cellText {s : String} (h : CellText s) : Tsv.cell s = s := by
  have hkeep : ∀ c ∈ s.toList, (if c = '\t' || c = '\n' then ' ' else c) = c := by
    intro c hc
    have htab : c ≠ '\t' := fun heq => h.1 (heq ▸ hc)
    have hbreak : c ≠ '\n' := fun heq => h.2 (heq ▸ hc)
    simp [htab, hbreak]
  rw [Tsv.cell, List.map_congr_left hkeep, List.map_id', String.ofList_toList]

@[simp] theorem cell_decimal (n : Int) : Tsv.cell (decimal n) = decimal n :=
  cell_of_cellText (cellText_decimal n)

@[simp] theorem cell_money (n : Nat) : Tsv.cell (Text.money n) = Text.money n :=
  cell_of_cellText (cellText_money n)

theorem cellText_of_mem_map_cell {values : List String} :
    ∀ s ∈ values.map Tsv.cell, CellText s := by
  intro s hs
  obtain ⟨value, -, rfl⟩ := List.mem_map.mp hs
  exact cellText_cell value

theorem showsRow_lineOf {columns : Nat} {values : List String} (hwidth : values.length = columns)
    (hcolumns : columns ≠ 0) : ShowsRow columns values (lineOf (values.map Tsv.cell)) := by
  have hne : values.map Tsv.cell ≠ [] := by
    intro hempty
    rw [List.map_eq_nil_iff.mp hempty] at hwidth
    exact hcolumns hwidth.symm
  have hsplit := splitAt_lineOf cellText_of_mem_map_cell hne
  constructor
  · rw [hsplit, List.length_map, hwidth]
  · rw [hsplit, List.forall₂_map_right_iff, List.forall₂_same]
    intro value _
    exact shows_cell value

/-- A table in which every value goes through its cell cannot be broken. -/
theorem tabulates_table {columns : Nat} {header : List String} {rows : List (List String)}
    (hheader : ∀ s ∈ header, CellText s) (hlength : header.length = columns)
    (hcolumns : columns ≠ 0) (hwidth : ∀ values ∈ rows, values.length = columns) :
    Tabulates columns header rows (Tsv.table header (rows.map (List.map Tsv.cell))) where
  columns_eq := hlength
  lines := by
    have hcells : ∀ cells ∈ rows.map (List.map Tsv.cell), ∀ s ∈ cells, CellText s := by
      intro cells hmem
      obtain ⟨values, -, rfl⟩ := List.mem_map.mp hmem
      exact cellText_of_mem_map_cell
    have hne : header ≠ [] := by
      intro hempty
      rw [hempty] at hlength
      exact hcolumns hlength.symm
    refine ⟨_, _, splitAt_table hheader hcells, splitAt_lineOf hheader hne, ?_⟩
    rw [List.map_map, List.forall₂_map_right_iff, List.forall₂_same]
    intro values hvalues
    exact showsRow_lineOf (hwidth values hvalues) hcolumns

namespace PartitionReport

/-- What the table says of a contract that a page shows in a group. -/
def rowValues (page : RosterPage) (group : RosterGroup) (c : Contract) : List String :=
  [decimal page.summary.teamId.toInt, group.key, decimal c.id.toInt, c.profile.name,
    c.profile.position.getD "", c.profile.team.getD "", Text.money c.salary.toNat,
    decimal c.year.toNat, c.kind.abbreviation]

/-- The rows of the table, page by page and group by group. -/
def tableValues (r : PartitionReport) : List (List String) :=
  r.pages.flatMap fun page => page.roster.groups.flatMap fun g => g.2.map (rowValues page g.1)

theorem cells_eq_map (page : RosterPage) (group : RosterGroup) (c : Contract) :
    (ContractRow.ofContract page.summary.teamId group c).cells =
      (rowValues page group c).map Tsv.cell := by
  have hgroup : Tsv.cell group.key = group.key := by
    cases group <;> exact cell_of_cellText (by decide)
  have hkind : Tsv.cell c.kind.abbreviation = c.kind.abbreviation := by
    cases c.kind <;> exact cell_of_cellText (by decide)
  simp only [rowValues, List.map_cons, List.map_nil, cell_decimal, cell_money, hgroup, hkind]
  rfl

theorem tabulates_tsv (r : PartitionReport) : Tabulates 9 tsvHeader r.tableValues r.tsv := by
  have hrows : r.rows.map ContractRow.cells = r.tableValues.map (List.map Tsv.cell) := by
    simp only [rows, rowsOf, tableValues, Roster.groups, List.map_flatMap, List.flatMap_map,
      List.map_map]
    apply List.flatMap_congr
    intro page _
    apply List.flatMap_congr
    intro group _
    exact List.map_congr_left fun c _ => cells_eq_map page group c
  rw [tsv, hrows]
  refine tabulates_table (by decide) rfl (by decide) ?_
  intro values hvalues
  obtain ⟨page, -, hpage⟩ := List.mem_flatMap.mp hvalues
  obtain ⟨g, -, hg⟩ := List.mem_flatMap.mp hpage
  obtain ⟨c, -, rfl⟩ := List.mem_map.mp hg
  rfl

end PartitionReport

namespace SummaryReport

/-- What the table says of a team. -/
def rowValues (s : Summary) : List String :=
  [decimal s.teamId.toInt, s.teamName, s.phase.name, decimal s.activeCount,
    decimal s.injuredReserveCount, decimal s.rookieDevelopmentCount, decimal s.salaryUsed.toNat,
    decimal s.cap.effective.toNat, decimal s.capSpace, if s.overCap then "true" else "false"]

def tableValues (r : SummaryReport) : List (List String) := r.summaries.map rowValues

theorem cells_eq_map (s : Summary) : cells s = (rowValues s).map Tsv.cell := by
  have hphase : Tsv.cell s.phase.name = s.phase.name := by
    cases s.phase <;> exact cell_of_cellText (by decide)
  have hover : Tsv.cell (if s.overCap then "true" else "false") =
      if s.overCap then "true" else "false" := by
    cases s.overCap <;> exact cell_of_cellText (by decide)
  simp only [rowValues, List.map_cons, List.map_nil, cell_decimal, hphase, hover]
  rfl

theorem map_cells_summaries (r : SummaryReport) :
    r.summaries.map cells = r.tableValues.map (List.map Tsv.cell) := by
  rw [tableValues, List.map_map]
  exact List.map_congr_left fun s _ => cells_eq_map s

theorem tabulates_tsv (r : SummaryReport) : Tabulates 10 tsvHeader r.tableValues r.tsv := by
  rw [tsv, map_cells_summaries]
  refine tabulates_table (by decide) rfl (by decide) ?_
  intro values hvalues
  obtain ⟨s, -, rfl⟩ := List.mem_map.mp hvalues
  rfl

end SummaryReport

namespace ValidationReport

/-- What the table says of a violation. -/
def rowValues (team : TeamVerdict) (v : Violation) : List String :=
  [decimal team.teamId.toInt, team.teamName, v.rule.name, decimal v.limit.toNat,
    decimal v.actual.toNat, v.message]

/-- The rows of the table, team by team. -/
def tableValues (r : ValidationReport) : List (List String) :=
  r.teams.flatMap fun team => team.violations.map (rowValues team)

theorem cells_eq_map (team : TeamVerdict) (v : Violation) :
    cells (team, v) = (rowValues team v).map Tsv.cell := by
  have hrule : Tsv.cell v.rule.name = v.rule.name := by
    cases v.rule <;> exact cell_of_cellText (by decide)
  simp only [rowValues, List.map_cons, List.map_nil, cell_decimal, hrule]
  rfl

theorem map_cells_lines (r : ValidationReport) :
    r.lines.map cells = r.tableValues.map (List.map Tsv.cell) := by
  simp only [lines, tableValues, List.map_flatMap, List.map_map]
  apply List.flatMap_congr
  intro team _
  exact List.map_congr_left fun v _ => cells_eq_map team v

theorem length_of_mem_tableValues {r : ValidationReport} :
    ∀ values ∈ r.tableValues, values.length = 6 := by
  intro values hvalues
  obtain ⟨team, -, hteam⟩ := List.mem_flatMap.mp hvalues
  obtain ⟨v, -, rfl⟩ := List.mem_map.mp hteam
  rfl

theorem tabulates_tsv (r : ValidationReport) : Tabulates 6 tsvHeader r.tableValues r.tsv := by
  rw [tsv, map_cells_lines]
  exact tabulates_table (by decide) rfl (by decide) length_of_mem_tableValues

end ValidationReport

/-- Whatever the names and messages in them hold, the tables of all three reports keep their rows
and columns. -/
theorem tables_unbroken (partition : PartitionReport) (summary : SummaryReport)
    (validation : ValidationReport) (time : String) (styling : Text.Styling) :
    Tabulates 9 PartitionReport.tsvHeader partition.tableValues
        (partition.render time styling .tsv) ∧
      Tabulates 10 SummaryReport.tsvHeader summary.tableValues (summary.render time styling .tsv) ∧
      Tabulates 6 ValidationReport.tsvHeader validation.tableValues
        (validation.render time styling .tsv) :=
  ⟨partition.tabulates_tsv, summary.tabulates_tsv, validation.tabulates_tsv⟩

end LeagueRoster
