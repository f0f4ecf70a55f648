import LeagueRoster.Proofs.Json.OneLine
import LeagueRoster.Report.Envelope
import LeagueRoster.Report.Format
import LeagueRoster.Text.Display

/-!
The lines of a written text and the cells of a line. JSON lines split at line breaks into the
compact forms that were written (`textLines_jsonLines`). A table splits into its header, one
line for each row, and nothing behind the last break (`splitAt_table`); each line splits at
tabs into its cells (`splitAt_lineOf`), if no cell holds either separator. The cells of reports
hold none.
-/
namespace LeagueRoster

/-- The parts of a text between the separators in it. -/
def splitAt (separator : Char) (s : String) : List String :=
  (s.toList.splitOn separator).map String.ofList

/-- The lines of a text; the empty text has none. -/
def textLines (s : String) : List String := if s = "" then [] else splitAt '\n' s

theorem splitAt_intercalate {separator : Char} {parts : List String}
    (h : ∀ part ∈ parts, separator ∉ part.toList) (hne : parts ≠ []) :
    splitAt separator ((String.singleton separator).intercalate parts) = parts := by
  have hchars : ∀ chars ∈ parts.map String.toList, separator ∉ chars := by
    intro chars hmem
    obtain ⟨part, hpart, rfl⟩ := List.mem_map.mp hmem
    exact h part hpart
  rw [splitAt, String.toList_intercalate, String.toList_singleton,
    List.splitOn_intercalate separator hchars (by simpa using hne), List.map_map]
  simp

theorem not_mem_intercalate {c : Char} {separator : String} {parts : List String}
    (hseparator : c ∉ separator.toList) (h : ∀ part ∈ parts, c ∉ part.toList) :
    c ∉ (separator.intercalate parts).toList := by
  induction parts with
  | nil => exact List.not_mem_nil
  | cons part rest ih =>
    rw [List.forall_mem_cons] at h
    by_cases hrest : rest = []
    · subst hrest
      exact h.1
    · rw [String.intercalate_cons_of_ne_nil hrest, String.toList_append, String.toList_append,
        List.mem_append, List.mem_append]
      rintro ((hc | hc) | hc)
      · exact h.1 hc
      · exact hseparator hc
      · exact ih h.2 hc

theorem textLines_jsonLines (items : List Json) :
    textLines (jsonLines items) = items.map Json.compact := by
  cases items with
  | nil => rfl
  | cons j rest =>
    have hsplit : splitAt '\n' (jsonLines (j :: rest)) = (j :: rest).map Json.compact := by
      apply splitAt_intercalate
      · intro line hline
        obtain ⟨item, -, rfl⟩ := List.mem_map.mp hline
        exact item.newline_not_mem_compact
      · exact List.cons_ne_nil _ _
    have hne : jsonLines (j :: rest) ≠ "" := by
      intro hempty
      rw [hempty] at hsplit
      exact j.compact_ne_empty (List.cons.inj hsplit).1.symm
    rw [textLines, if_neg hne, hsplit]

theorem jsonLines_eq_empty_iff (items : List Json) : jsonLines items = "" ↔ items = [] := by
  constructor
  · intro h
    have hlines := textLines_jsonLines items
    rw [h] at hlines
    exact List.map_eq_nil_iff.mp hlines.symm
  · rintro rfl
    rfl

section ClosedLines

/-- The text of these lines with a break behind each, the last one too. -/
def closedLines (lines : List String) : String := "\n".intercalate (lines ++ [""])

theorem closedLines_of_ne_nil {lines : List String} (hne : lines ≠ []) :
    closedLines lines = "\n".intercalate lines ++ "\n" := by
  rw [closedLines, String.intercalate_append_of_ne_nil hne (List.cons_ne_nil _ _),
    String.intercalate_singleton, String.append_empty]

theorem closedLines_eq_empty_iff (lines : List String) : closedLines lines = "" ↔ lines = [] := by
  constructor
  · intro h
    cases lines with
    | nil => rfl
    | cons line rest =>
      rw [closedLines_of_ne_nil (List.cons_ne_nil _ _)] at h
      simp at h
  · rintro rfl
    rfl

theorem splitAt_closedLines {lines : List String} (h : ∀ line ∈ lines, '\n' ∉ line.toList) :
    splitAt '\n' (closedLines lines) = lines ++ [""] := by
  apply splitAt_intercalate
  · intro line hline
    rcases List.mem_append.mp hline with hline | hline
    · exact h line hline
    · rw [List.mem_singleton.mp hline]
      exact List.not_mem_nil
  · simp

end ClosedLines

section Tables

open Tsv

/-- A cell that can stand in a table. -/
def CellText (s : String) : Prop := '\t' ∉ s.toList ∧ '\n' ∉ s.toList

instance : DecidablePred CellText := fun s =>
  inferInstanceAs (Decidable ('\t' ∉ s.toList ∧ '\n' ∉ s.toList))

theorem cellText_decimal (n : Int) : CellText (Text.decimal n) := by
  unfold CellText Text.decimal
  rw [String.toList_ofList]
  exact ⟨Text.not_mem_decimalChars (by decide) n, Text.not_mem_decimalChars (by decide) n⟩

theorem money_natCast (n : Nat) : Text.money n = "$" ++ Text.decimal n := if_neg (by omega)

theorem cellText_money (n : Nat) : CellText (Text.money n) := by
  have hdecimal := cellText_decimal n
  unfold CellText at hdecimal ⊢
  rw [money_natCast, String.toList_append]
  simp [hdecimal.1, hdecimal.2]

/-- Whatever a text holds, its cell can stand in a table. -/
theorem cellText_cell (s : String) : CellText (cell s) := by
  have hblank : ∀ c ∈ (cell s).toList, c ≠ '\t' ∧ c ≠ '\n' := by
    intro c hc
    rw [cell, String.toList_ofList] at hc
    obtain ⟨d, -, rfl⟩ := List.mem_map.mp hc
    split
    · decide
    · next h => exact not_or.mp (by simpa using h)
  exact ⟨fun h => (hblank _ h).1 rfl, fun h => (hblank _ h).2 rfl⟩

/-- What stands on the line of a row. -/
def lineOf (cells : List String) : String := "\t".intercalate cells

theorem splitAt_lineOf {cells : List String} (h : ∀ s ∈ cells, CellText s) (hne : cells ≠ []) :
    splitAt '\t' (lineOf cells) = cells :=
  splitAt_intercalate (fun s hs => (h s hs).1) hne

theorem newline_not_mem_lineOf {cells : List String} (h : ∀ s ∈ cells, CellText s) :
    '\n' ∉ (lineOf cells).toList :=
  not_mem_intercalate (by decide) fun s hs => (h s hs).2

/-- A table is the lines of its header and its rows. -/
theorem table_eq_closedLines (header : List String) (rows : List (List String)) :
    table header rows = closedLines ((header :: rows).map lineOf) := by
  have hjoin : ∀ rows : List (List String),
      String.join (rows.map row) = closedLines (rows.map lineOf) := by
    intro rows
    induction rows with
    | nil => rfl
    | cons cells rest ih =>
      have hne : rest.map lineOf ++ [""] ≠ [] := by simp
      rw [List.map_cons, String.join_cons, ih, closedLines, closedLines, List.map_cons,
        List.cons_append, String.intercalate_cons_of_ne_nil hne]
      rfl
  rw [← hjoin, List.map_cons, String.join_cons]
  rfl

theorem table_eq_row_iff (header : List String) (rows : List (List String)) :
    table header rows = row header ↔ rows = [] := by
  constructor
  · intro h
    have hjoin : String.join (rows.map row) = "" := by simpa [table] using h
    cases rows with
    | nil => rfl
    | cons cells rest =>
      rw [List.map_cons, String.join_cons] at hjoin
      simp [row] at hjoin
  · rintro rfl
    simp [table]

theorem splitAt_table {header : List String} {rows : List (List String)}
    (hheader : ∀ s ∈ header, CellText s) (hrows : ∀ cells ∈ rows, ∀ s ∈ cells, CellText s) :
    splitAt '\n' (table header rows) = (header :: rows).map lineOf ++ [""] := by
  rw [table_eq_closedLines]
  apply splitAt_closedLines
  intro line hline
  obtain ⟨cells, hcells, rfl⟩ := List.mem_map.mp hline
  rcases List.mem_cons.mp hcells with rfl | hcells
  · exact newline_not_mem_lineOf hheader
  · exact newline_not_mem_lineOf (hrows cells hcells)

theorem textLines_table {header : List String} {rows : List (List String)}
    (hheader : ∀ s ∈ header, CellText s) (hrows : ∀ cells ∈ rows, ∀ s ∈ cells, CellText s) :
    textLines (table header rows) = (header :: rows).map lineOf ++ [""] := by
  have hsplit := splitAt_table hheader hrows
  have hne : table header rows ≠ "" := by
    intro hempty
    rw [hempty] at hsplit
    have hlength := congrArg List.length hsplit
    simp [splitAt] at hlength
  rw [textLines, if_neg hne, hsplit]

end Tables

end LeagueRoster
