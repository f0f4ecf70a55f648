import LeagueRoster.Config.Source
import LeagueRoster.Help
import LeagueRoster.Report.Partition
import LeagueRoster.Report.Summary
import LeagueRoster.Report.Validation
import LeagueRoster.Snapshot.Source

/-!
A run of the program, from its arguments and its workspace to what it prints and how it exits.
The configuration is looked for first and then the snapshot. A validation fails when a team
breaks a limit; a fault is reported on standard error, or as an envelope where JSON is asked
for.
-/
namespace LeagueRoster

structure Outcome where
  exit : UInt8 := 0
  output : String := ""
  errors : String := ""
  deriving Repr, DecidableEq

/-- Colours are forced by a variable, or shown on a terminal that does not refuse them. All reports
but a validation also want to know the kind of the terminal. -/
def Workspace.styling (w : Workspace) (kind : ReportKind) : Text.Styling :=
  let forced := (w.environment "CLICOLOR_FORCE").any (· ≠ "0")
  let refused := (w.environment "NO_COLOR").isSome || w.environment "CLICOLOR" = some "0"
  let able := kind = .validate || (w.environment "TERM").any (· ≠ "dumb")
  if forced || (w.isTerminal && !refused && able) then .on else .off

namespace Run

/-- A text that is not empty ends in one line break. -/
def printed (s : String) : String :=
  if s = "" then ""
  else String.ofList (s.toList.reverse.dropWhile (· = '\n')).reverse ++ "\n"

structure Report where
  text : String
  success : Bool := true

/-- Renders a report on the pages of the selected teams. -/
def render (kind : ReportKind) (pages : List RosterPage) (config : Config) (time : String)
    (styling : Text.Styling) (format : ReportFormat) : Report :=
  match kind with
  | .partition =>
    let report : PartitionReport :=
      { pages, nameWidth := config.display.nameWidth.toNat,
        showPositions := config.display.showPositions }
    { text := report.render time styling format }
  | .summary overCapFirst =>
    let summaries := pages.map RosterPage.summary
    let summaries := if overCapFirst then SummaryReport.overCapFirst summaries else summaries
    { text := SummaryReport.render ⟨summaries⟩ time styling format }
  | .validate =>
    let report := ValidationReport.ofPages pages
    { text := report.render time styling format, success := report.allLegal }

def report (w : Workspace) (time : String) (options : Options) (request : ReportRequest) :
    Except Fault Report := do
  let config ← Config.load w options.config
  let snapshot ← Snapshot.load w request.input
  let teams ← snapshot.select request.team
  let phase := options.phase.getD config.display.defaultPhase
  let pages := teams.map fun team => RosterPage.ofTeam team phase config ⟨options.viewerTeam⟩
  return render request.kind pages config time (w.styling request.kind) options.format

def failure (time : String) (format : ReportFormat) (fault : Fault) : Outcome :=
  let report := FaultReport.ofFault fault
  if format.isJson then { exit := 1, output := (Envelope.failure time report).pretty ++ "\n" }
  else
    { exit := 1,
      errors := "Error: " ++ fault.message ++ "\n  " ++ report.suggestion ++ "\n" }

def carryOut (w : Workspace) (time : String) (line : CommandLine) : Outcome :=
  match line.command with
  | .completions shell => { output := Help.completionScript shell }
  | .report request =>
    match report w time line.options request with
    | .ok r => { exit := if r.success then 0 else 1, output := printed r.text }
    | .error fault => failure time line.options.format fault

def stopped : Stop → Outcome
  | .usage => { exit := 2, errors := Help.usageText }
  | .help => { output := Help.helpText }
  | .version command => { output := Help.versionText command }

end Run

def run (w : Workspace) (time : String) (args : List String) : Outcome :=
  match CommandLine.parse args with
  | .error stop => Run.stopped stop
  | .ok line => Run.carryOut w time line

end LeagueRoster
