import LeagueRoster.Page.Wire
import LeagueRoster.Report.Envelope
import LeagueRoster.Report.Format
import LeagueRoster.Text.Display

/-!
The validation report: which limits each team breaks. Its machine formats list one row for
each violation, team by team.
-/
namespace LeagueRoster

open Text (paintThrough decimal)

structure TeamVerdict where
  teamId : Int64
  teamName : String
  phase : SeasonPhase
  legal : Bool
  violations : List Violation
  deriving Repr, DecidableEq

namespace TeamVerdict

def ofPage (page : RosterPage) : TeamVerdict where
  teamId := page.summary.teamId
  teamName := page.summary.teamName
  phase := page.summary.phase
  legal := page.isLegal
  violations := page.violations

def toJson (v : TeamVerdict) : Json :=
  .obj [("team_id", Json.ofInt64 v.teamId), ("team_name", .str v.teamName),
    ("phase", .str v.phase.name), ("legal", .bool v.legal),
    ("violations", .arr (v.violations.map Violation.toJson))]

end TeamVerdict

structure ValidationReport where
  teams : List TeamVerdict

namespace ValidationReport

def ofPages (pages : List RosterPage) : ValidationReport := ⟨pages.map TeamVerdict.ofPage⟩

def violationCount (r : ValidationReport) : Nat :=
  (r.teams.flatMap TeamVerdict.violations).length

def allLegal (r : ValidationReport) : Bool := r.teams.all TeamVerdict.legal

/-- Every violation with the team that commits it. -/
def lines (r : ValidationReport) : List (TeamVerdict × Violation) :=
  r.teams.flatMap fun team => team.violations.map fun v => (team, v)

def humanTeam (styling : Text.Styling) (team : TeamVerdict) : String :=
  let sign := if team.legal then paintThrough styling .green "✓" else paintThrough styling .red "✗"
  sign ++ " " ++ paintThrough styling .bold team.teamName ++ " (" ++ team.phase.name ++ ")\n" ++
    (if team.legal then ""
      else String.join (team.violations.map fun v =>
        "    " ++ paintThrough styling .yellow v.rule.name ++ " " ++ v.message ++ "\n"))

def human (r : ValidationReport) (styling : Text.Styling) : String :=
  String.join (r.teams.map (humanTeam styling)) ++
    if r.violationCount = 0 then paintThrough styling .green "All rosters are within limits"
    else paintThrough styling .red (decimal r.violationCount ++ " limit violation(s)")

def plainTeam (team : TeamVerdict) : String :=
  if team.legal then team.teamName ++ ": ok"
  else
    team.teamName ++ ": " ++ decimal team.violations.length ++ " violation(s)\n" ++
      "\n".intercalate (team.violations.map fun v => "  " ++ v.rule.name ++ ": " ++ v.message)

def plain (r : ValidationReport) : String := "\n".intercalate (r.teams.map plainTeam)

def lineToJson (line : TeamVerdict × Violation) : Json :=
  .obj <|
    [("team_id", Json.ofInt64 line.1.teamId), ("team_name", .str line.1.teamName)] ++
    line.2.members

def jsonl (r : ValidationReport) : String := jsonLines (r.lines.map lineToJson)

def tsvHeader : List String := ["team_id", "team", "rule", "limit", "actual", "message"]

def cells (line : TeamVerdict × Violation) : List String :=
  [decimal line.1.teamId.toInt, Tsv.cell line.1.teamName, line.2.rule.name,
    decimal line.2.limit.toNat, decimal line.2.actual.toNat, Tsv.cell line.2.message]

def tsv (r : ValidationReport) : String := Tsv.table tsvHeader (r.lines.map cells)

def render (r : ValidationReport) (time : String) (styling : Text.Styling) :
    ReportFormat → String
  | .human => r.human styling
  | .json => (Envelope.ok time (.arr (r.teams.map TeamVerdict.toJson)) []).pretty
  | .jsonl => r.jsonl
  | .plain => r.plain
  | .tsv => r.tsv

end ValidationReport

end LeagueRoster
