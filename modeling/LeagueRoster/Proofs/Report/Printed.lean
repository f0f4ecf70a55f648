import LeagueRoster.Proofs.Report.Lines
import LeagueRoster.Run
import Mathlib.Data.List.Basic

/-!
What a run prints of a report. Printing closes the last line of a text and drops the breaks behind
it, so lines are printed with one break each, whether the text of the report has a break behind the
last one (`printed_closedLines`) or not (`printed_intercalate`). No lines print nothing.
-/
namespace LeagueRoster.Run

section LastLine

variable {s : String} {c : Char} (hlast : s.toList.getLast? = some c) (hc : c ≠ '\n')
include hlast hc

theorem dropWhile_break_reverse :
    s.toList.reverse.dropWhile (· = '\n') = s.toList.reverse := by
  rw [← List.head?_reverse] at hlast
  obtain ⟨rest, hrest⟩ := List.head?_eq_some_iff.mp hlast
  rw [hrest, List.dropWhile_cons_of_neg (by simpa using hc)]

theorem printed_open : printed s = s ++ "\n" := by
  have hne : s ≠ "" := by
    rintro rfl
    simp at hlast
  rw [printed, if_neg hne, dropWhile_break_reverse hlast hc, List.reverse_reverse,
    String.ofList_toList]

theorem printed_closed : printed (s ++ "\n") = s ++ "\n" := by
  have hreverse : (s ++ "\n").toList.reverse = '\n' :: s.toList.reverse := by simp
  rw [printed, if_neg (by simp), hreverse, List.dropWhile_cons_of_pos (by simp),
    dropWhile_break_reverse hlast hc, List.reverse_reverse, String.ofList_toList]

end LastLine

section Lines

variable {lines : List String} (h : ∀ line ∈ lines, line ≠ "" ∧ '\n' ∉ line.toList)
include h

theorem exists_getLast?_intercalate (hne : lines ≠ []) :
    ∃ c, ("\n".intercalate lines).toList.getLast? = some c ∧ c ≠ '\n' := by
  obtain ⟨init, last, rfl⟩ := (List.eq_nil_or_concat' lines).resolve_left hne
  obtain ⟨hempty, hbreak⟩ := h last (by simp)
  have hchars : last.toList ≠ [] := by simpa using hempty
  have hlast : ("\n".intercalate (init ++ [last])).toList.getLast? = last.toList.getLast? := by
    by_cases hinit : init = []
    · rw [hinit, List.nil_append, String.intercalate_singleton]
    · rw [String.intercalate_append_of_ne_nil hinit (List.cons_ne_nil _ _),
        String.intercalate_singleton, String.toList_append,
        List.getLast?_append_of_ne_nil _ hchars]
  refine ⟨last.toList.getLast hchars, ?_, ?_⟩
  · rw [hlast, List.getLast?_eq_some_getLast hchars]
  · intro heq
    exact hbreak (heq ▸ List.getLast_mem hchars)

theorem printed_intercalate : printed ("\n".intercalate lines) = closedLines lines := by
  by_cases hne : lines = []
  · subst hne
    rfl
  · obtain ⟨c, hlast, hc⟩ := exists_getLast?_intercalate h hne
    rw [printed_open hlast hc, closedLines_of_ne_nil hne]

theorem printed_closedLines : printed (closedLines lines) = closedLines lines := by
  by_cases hne : lines = []
  · subst hne
    rfl
  · obtain ⟨c, hlast, hc⟩ := exists_getLast?_intercalate h hne
    rw [closedLines_of_ne_nil hne, printed_closed hlast hc]

end Lines

theorem printed_jsonLines (items : List Json) :
    printed (jsonLines items) = closedLines (items.map Json.compact) := by
  apply printed_intercalate
  intro line hline
  obtain ⟨j, -, rfl⟩ := List.mem_map.mp hline
  exact ⟨j.compact_ne_empty, j.newline_not_mem_compact⟩

/-- A line of two columns or more is not empty. -/
theorem lineOf_ne_empty {cells : List String} (h : ∀ s ∈ cells, CellText s)
    (hcolumns : 1 < cells.length) : lineOf cells ≠ "" := by
  intro hempty
  have hne : cells ≠ [] := by
    rintro rfl
    simp at hcolumns
  have hsplit := splitAt_lineOf h hne
  rw [hempty] at hsplit
  have hlength : (splitAt '\t' "").length = 1 := by decide
  rw [hsplit] at hlength
  omega

theorem printed_table {header : List String} {rows : List (List String)}
    (h : ∀ cells ∈ header :: rows, (∀ s ∈ cells, CellText s) ∧ 1 < cells.length) :
    printed (Tsv.table header rows) = Tsv.table header rows := by
  rw [table_eq_closedLines]
  apply printed_closedLines
  intro line hline
  obtain ⟨cells, hcells, rfl⟩ := List.mem_map.mp hline
  obtain ⟨htext, hcolumns⟩ := h cells hcells
  exact ⟨lineOf_ne_empty htext hcolumns, newline_not_mem_lineOf htext⟩

/-- The outcome of a run that comes to a report. -/
def Report.outcome (r : Report) : Outcome where
  exit := if r.success then 0 else 1
  output := printed r.text

variable {w : Workspace} {time : String} {options : Options} {request : ReportRequest}

theorem carryOut_of_report {r : Report} (h : report w time options request = .ok r) :
    carryOut w time ⟨options, .report request⟩ = r.outcome := by
  simp only [carryOut, h]
  rfl

/-- Once configuration, snapshot and teams are found, a run comes to a report. -/
theorem report_of_found {config : Config} {snapshot : Snapshot} {teams : List Team}
    (hconfig : Config.load w options.config = .ok config)
    (hsnapshot : Snapshot.load w request.input = .ok snapshot)
    (hteams : snapshot.select request.team = .ok teams) :
    report w time options request = .ok (render request.kind
      (teams.map fun team => RosterPage.ofTeam team
        (options.phase.getD config.display.defaultPhase) config ⟨options.viewerTeam⟩)
      config time (w.styling request.kind) options.format) := by
  rw [report, hconfig]
  simp only [bind, Except.bind, hsnapshot, hteams]
  rfl

end LeagueRoster.Run
