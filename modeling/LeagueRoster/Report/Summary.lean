import LeagueRoster.Page.Wire
import LeagueRoster.Report.Envelope
import LeagueRoster.Report.Format
import LeagueRoster.Text.Display

/-!
The summary report: one line for each team with its counts and cap figures. The teams over
the cap can be put first, the farthest over it in front.
-/
namespace LeagueRoster

open Text (paint padRight padLeft decimal)

structure SummaryReport where
  summaries : List Summary

namespace SummaryReport

/-- Teams over the cap first, and by cap space ascending. -/
def overCapFirst (summaries : List Summary) : List Summary :=
  summaries.mergeSort fun a b =>
    ((compare (!a.overCap) (!b.overCap)).then (compare a.capSpace b.capSpace)).isLE

def columns (cells : List String) : String := " ".intercalate cells ++ "\n"

def humanHeader (styling : Text.Styling) : String :=
  columns [paint styling [.bold] (padRight 24 "TEAM"), paint styling [.bold] (padLeft 7 "ROSTER"),
    paint styling [.bold] (padLeft 4 "IR"), paint styling [.bold] (padLeft 4 "RD"),
    paint styling [.bold] (padLeft 12 "SALARY/CAP"), paint styling [.bold] (padLeft 7 "SPACE")]

def rule : String := String.ofList (List.replicate 63 '─')

/-- The cap space is painted before it is brought to its width. -/
def humanLine (styling : Text.Styling) (s : Summary) : String :=
  let space := paint styling [if s.overCap then .red else .green] (Text.money s.capSpace)
  columns [padRight 24 (Text.truncate s.teamName 24), padLeft 7 (decimal s.activeCount),
    padLeft 4 (decimal s.injuredReserveCount), padLeft 4 (decimal s.rookieDevelopmentCount),
    padLeft 12 s.salaryOfCap, padLeft 7 space]

def human (r : SummaryReport) (styling : Text.Styling) : String :=
  if r.summaries.isEmpty then paint styling [.yellow] "!" ++ " No teams in snapshot"
  else
    humanHeader styling ++ paint styling [.dim] rule ++ "\n" ++
      String.join (r.summaries.map (humanLine styling))

def plain (r : SummaryReport) : String :=
  "\n".intercalate (r.summaries.map fun s => s.teamName ++ ": " ++ s.headline)

def tsvHeader : List String :=
  ["team_id", "team", "phase", "active", "ir", "rookie_development", "salary_used", "cap",
    "cap_space", "over_cap"]

def cells (s : Summary) : List String :=
  [decimal s.teamId.toInt, Tsv.cell s.teamName, s.phase.name, decimal s.activeCount,
    decimal s.injuredReserveCount, decimal s.rookieDevelopmentCount, decimal s.salaryUsed.toNat,
    decimal s.cap.effective.toNat, decimal s.capSpace, if s.overCap then "true" else "false"]

def tsv (r : SummaryReport) : String := Tsv.table tsvHeader (r.summaries.map cells)

def render (r : SummaryReport) (time : String) (styling : Text.Styling) : ReportFormat → String
  | .human => r.human styling
  | .json => (Envelope.ok time (.arr (r.summaries.map Summary.toJson)) []).pretty
  | .jsonl => jsonLines (r.summaries.map Summary.toJson)
  | .plain => r.plain
  | .tsv => r.tsv

end SummaryReport

end LeagueRoster
