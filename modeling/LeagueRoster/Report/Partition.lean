import LeagueRoster.Page.Wire
import LeagueRoster.Report.Envelope
import LeagueRoster.Report.Format
import LeagueRoster.Text.Display

/-!
The partition report: the roster pages of one or more teams. Its machine formats list one row
for each contract shown, team by team and group by group. The name column of its styled text may be
of any width here; there are formatters that refuse widths above 65535, and no such limit is taken
into account.
-/
namespace LeagueRoster

open Text (paint padRight decimal)

structure ContractRow where
  teamId : Int64
  group : RosterGroup
  contractId : Int64
  profile : Profile
  salary : UInt16
  year : UInt16
  kind : String
  injuredReserve : Bool
  deriving Repr, DecidableEq

namespace ContractRow

def ofContract (teamId : Int64) (group : RosterGroup) (c : Contract) : ContractRow where
  teamId
  group
  contractId := c.id
  profile := c.profile
  salary := c.salary
  year := c.year
  kind := c.kind.abbreviation
  injuredReserve := c.injuredReserve

def toJson (r : ContractRow) : Json :=
  .obj <|
    [("team_id", Json.ofInt64 r.teamId), ("group", .str r.group.key),
      ("contract_id", Json.ofInt64 r.contractId), ("name", .str r.profile.name)] ++
    Json.entry? "position" .str r.profile.position ++
    Json.entry? "real_team" .str r.profile.team ++
    Json.entry? "photo_url" .str r.profile.photoUrl ++
    [("salary", Json.ofUInt16 r.salary), ("year_number", Json.ofUInt16 r.year),
      ("kind", .str r.kind), ("is_ir", .bool r.injuredReserve)]

def cells (r : ContractRow) : List String :=
  [decimal r.teamId.toInt, r.group.key, decimal r.contractId.toInt, Tsv.cell r.profile.name,
    Tsv.cell (r.profile.position.getD ""), Tsv.cell (r.profile.team.getD ""),
    Text.money r.salary.toNat, decimal r.year.toNat, r.kind]

end ContractRow

structure PartitionReport where
  pages : List RosterPage
  /-- Width of the name column for a terminal. -/
  nameWidth : Nat := 28
  showPositions : Bool := true

namespace PartitionReport

def rowsOf (page : RosterPage) (group : RosterGroup) : List ContractRow :=
  (page.roster.group group).map (ContractRow.ofContract page.summary.teamId group)

def rows (r : PartitionReport) : List ContractRow :=
  r.pages.flatMap fun page => RosterGroup.all.flatMap (rowsOf page)

def pageToJson (page : RosterPage) : Json :=
  .obj <|
    ("summary", page.summary.toJson) ::
    (RosterGroup.all.map fun g => (g.key, .arr ((rowsOf page g).map ContractRow.toJson))) ++
    [("violations", .arr (page.violations.map Violation.toJson)),
      ("trade_action", page.tradeAction.toJson)]

def humanContract (r : PartitionReport) (styling : Text.Styling) (c : Contract) : String :=
  "  " ++ padRight r.nameWidth (Text.truncate c.displayName r.nameWidth) ++
    (if r.showPositions then " " ++ paint styling [.dim] (padRight 16 c.profile.positionTeam)
      else "") ++
    " " ++ c.termsLabel ++ "\n"

def humanSection (r : PartitionReport) (styling : Text.Styling)
    (s : RosterGroup × List Contract) : String :=
  "\n" ++ paint styling [.bold] s.1.title ++ " " ++
    paint styling [.dim] ("(" ++ decimal s.2.length ++ ")") ++ "\n" ++
    String.join (s.2.map (r.humanContract styling))

def humanPage (r : PartitionReport) (styling : Text.Styling) (page : RosterPage) : String :=
  let s := page.summary
  paint styling [.cyan, .bold] s.teamName ++ " " ++
    paint styling [.dim] ("#" ++ decimal s.teamId.toInt ++ " · " ++ s.phase.name) ++ "\n" ++
    s.rosterSizeLine ++ "\n" ++
    (if s.overCap then paint styling [.red] s.salaryLine else s.salaryLine) ++ "\n" ++
    (if page.tradeAction.isOffered then paint styling [.green] "→ Propose Trade" ++ "\n" else "") ++
    String.join (page.sections.map (r.humanSection styling)) ++
    String.join (page.violations.map fun v =>
      paint styling [.red, .bold] "!" ++ " " ++ v.message ++ "\n") ++
    "\n"

def human (r : PartitionReport) (styling : Text.Styling) : String :=
  if r.pages.isEmpty then paint styling [.yellow] "!" ++ " No teams in snapshot"
  else String.join (r.pages.map (r.humanPage styling))

def plainContract (r : PartitionReport) (c : Contract) : String :=
  let label := c.profile.positionTeam
  if r.showPositions && label ≠ "" then
    c.displayName ++ " (" ++ label ++ ") " ++ c.termsLabel
  else c.displayName ++ " " ++ c.termsLabel

def plainPage (r : PartitionReport) (page : RosterPage) : String :=
  let s := page.summary
  "\n".intercalate <|
    [s.teamName ++ " (#" ++ decimal s.teamId.toInt ++ ") " ++ s.phase.name, s.rosterSizeLine,
      s.salaryLine] ++
    (if page.tradeAction.isOffered then ["Action: Propose Trade"] else []) ++
    (page.sections.flatMap fun s => ("[" ++ s.1.title ++ "]") :: s.2.map r.plainContract) ++
    (page.violations.map fun v => "violation: " ++ v.message)

def plain (r : PartitionReport) : String := "\n\n".intercalate (r.pages.map r.plainPage)

def tsvHeader : List String :=
  ["team_id", "group", "contract_id", "name", "position", "real_team", "salary", "year", "kind"]

def tsv (r : PartitionReport) : String := Tsv.table tsvHeader (r.rows.map ContractRow.cells)

def jsonl (r : PartitionReport) : String := jsonLines (r.rows.map ContractRow.toJson)

def json (r : PartitionReport) (time : String) : String :=
  (Envelope.ok time (.arr (r.pages.map pageToJson)) []).pretty

def render (r : PartitionReport) (time : String) (styling : Text.Styling) :
    ReportFormat → String
  | .human => r.human styling
  | .json => r.json time
  | .jsonl => r.jsonl
  | .plain => r.plain
  | .tsv => r.tsv

end PartitionReport

end LeagueRoster
