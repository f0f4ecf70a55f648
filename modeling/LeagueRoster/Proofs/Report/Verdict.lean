import LeagueRoster.Proofs.Datum.WireForm
import LeagueRoster.Proofs.Report.Printed
import LeagueRoster.Proofs.Report.Tables
import LeagueRoster.Proofs.Snapshot.RoundTrip

/-!
The verdict of a validation. The exit code follows a flag of each team, the count adds up the
violations, and JSON lines and table list them; all of these come from the limits that the teams
break, team by team (`findings`). So they agree whatever the teams are (`oneVerdict`), and the
machine formats give back these findings, one on each line.
-/
namespace LeagueRoster

open Datum Datum.JsonText
open Text (decimal)

namespace LimitRule

def all : List LimitRule :=
  [keeperContracts, keeperSalary, nonKeepableContract, preseasonContracts, rookieDevelopment,
    rookieDevelopmentInternational, activeContracts, injuredReserve, salaryCap]

theorem wireForm : WireForm (constant? .plain all name) (fun rule => .str rule.name) 0 :=
  wireForm_constant fun rule => by cases rule <;> decide

end LimitRule

/-- A broken limit and the team that breaks it. -/
structure Finding where
  teamId : Int64
  teamName : String
  violation : Violation
  deriving Repr, DecidableEq

namespace Finding

def fields : List String := ["team_id", "team_name", "rule", "limit", "actual", "message"]

def members (f : Finding) : List (String × Json) :=
  [("team_id", Json.ofInt64 f.teamId), ("team_name", .str f.teamName)] ++ f.violation.members

/-- The finding in a JSON line. -/
def ofDatum? (line : Datum) : Option Finding := do
  let field ← line.record? .plain fields
  return {
    teamId := ← (field "team_id").required int64?
    teamName := ← (field "team_name").required str?
    violation := {
      rule := ← (field "rule").required (constant? .plain LimitRule.all LimitRule.name)
      limit := ← (field "limit").required uint32?
      actual := ← (field "actual").required uint32?
      message := ← (field "message").required str?
    }
  }

theorem wireForm : WireForm ofDatum? (fun f => .obj f.members) 1 where
  reads f := by
    have hkeys : (f.members.map Prod.fst).Nodup := by
      show fields.Nodup
      decide
    have hteam : f.members.lookup "team_id" = some (Json.ofInt64 f.teamId) := rfl
    have hname : f.members.lookup "team_name" = some (.str f.teamName) := rfl
    have hrule : f.members.lookup "rule" = some (.str f.violation.rule.name) := rfl
    have hlimit : f.members.lookup "limit" = some (.int f.violation.limit.toNat) := rfl
    have hactual : f.members.lookup "actual" = some (.int f.violation.actual.toNat) := rfl
    have hmessage : f.members.lookup "message" = some (.str f.violation.message) := rfl
    simp only [ofDatum?, record?_toDatum hkeys, Option.bind_eq_bind, Option.bind_some,
      slot_required wireForm_int64 hteam, slot_required wireForm_str hname,
      slot_required LimitRule.wireForm hrule, slot_required wireForm_uint32 hlimit,
      slot_required wireForm_uint32 hactual, slot_required wireForm_str hmessage, Option.pure_def]
  fits f levels hlevels := by
    have hteam := wireForm_int64.fits f.teamId (levels - 1) (Nat.zero_le _)
    have hlimit := wireForm_uint32.fits f.violation.limit (levels - 1) (Nat.zero_le _)
    have hactual := wireForm_uint32.fits f.violation.actual (levels - 1) (Nat.zero_le _)
    exact ⟨hlevels, hteam, trivial, trivial, hlimit, hactual, trivial, trivial⟩

/-- The JSON line of a finding. -/
def line (f : Finding) : String := (Json.obj f.members).compact

theorem ofDatum?_line (f : Finding) : (ofJson? f.line).bind ofDatum? = some f := by
  rw [line, ofJson?_of_writtenAs (Json.writtenAs_compact _),
    readBack_of_fits _ (wireForm.fits f 127 (by decide)), Option.bind_some]
  exact wireForm.reads f

/-- What the table says of a finding. -/
def rowValues (f : Finding) : List String :=
  [decimal f.teamId.toInt, f.teamName, f.violation.rule.name, decimal f.violation.limit.toNat,
    decimal f.violation.actual.toNat, f.violation.message]

end Finding

section Findings

variable (phase : SeasonPhase) (config : Config) (viewer : Viewer) (teams : List Team)

/-- The limits that a team breaks. -/
def brokenLimits (team : Team) : List Violation :=
  violations team.contracts phase config.limits
    (TeamCap.forPhase phase config.caps team.droppedContracts)

/-- All broken limits, in the order of the teams. -/
def findings : List Finding :=
  teams.flatMap fun team => (brokenLimits phase config team).map fun v => ⟨team.id, team.name, v⟩

/-- The report on the teams. -/
def validation : ValidationReport :=
  .ofPages (teams.map fun team => RosterPage.ofTeam team phase config viewer)

theorem findings_eq_nil_iff :
    findings phase config teams = [] ↔ ∀ team ∈ teams, brokenLimits phase config team = [] := by
  simp only [findings, List.flatMap_eq_nil_iff, List.map_eq_nil_iff]

theorem allLegal_iff :
    (validation phase config viewer teams).allLegal ↔ findings phase config teams = [] := by
  rw [findings_eq_nil_iff, ValidationReport.allLegal, List.all_eq_true]
  simp only [validation, ValidationReport.ofPages, List.forall_mem_map, TeamVerdict.ofPage,
    RosterPage.isLegal, RosterPage.ofTeam, List.isEmpty_iff]
  rfl

theorem violationCount_validation :
    (validation phase config viewer teams).violationCount =
      (findings phase config teams).length := by
  simp only [ValidationReport.violationCount, validation, ValidationReport.ofPages, findings,
    List.flatMap_map, List.length_flatMap, List.length_map]
  rfl

theorem map_lineToJson_validation :
    (validation phase config viewer teams).lines.map ValidationReport.lineToJson =
      (findings phase config teams).map fun f => .obj f.members := by
  simp only [ValidationReport.lines, validation, ValidationReport.ofPages, findings,
    List.flatMap_map, List.map_flatMap, List.map_map]
  rfl

theorem tableValues_validation :
    (validation phase config viewer teams).tableValues =
      (findings phase config teams).map Finding.rowValues := by
  simp only [ValidationReport.tableValues, validation, ValidationReport.ofPages, findings,
    List.flatMap_map, List.map_flatMap, List.map_map]
  rfl

end Findings

/-- The runs in all formats tell one verdict: they succeed exactly if no team breaks a limit, if
nothing is counted, if there are no JSON lines, and if the table is its header. JSON lines and table
have one line for each finding, in order, and the count is their number. -/
structure OneVerdict (phase : SeasonPhase) (config : Config) (teams : List Team)
    (report : ValidationReport) (outcome : ReportFormat → Outcome) : Prop where
  legal : ∀ format, (outcome format).exit = 0 ↔
    ∀ team ∈ teams, brokenLimits phase config team = []
  uncounted : ∀ format, (outcome format).exit = 0 ↔ report.violationCount = 0
  silent : ∀ format, (outcome format).exit = 0 ↔ (outcome .jsonl).output = ""
  headerOnly : ∀ format, (outcome format).exit = 0 ↔
    (outcome .tsv).output = Tsv.row ValidationReport.tsvHeader
  count : report.violationCount = (findings phase config teams).length
  lines : ∃ shown, splitAt '\n' (outcome .jsonl).output = shown ++ [""] ∧
    shown.length = report.violationCount ∧
      List.Forall₂ (fun finding line => (ofJson? line).bind Finding.ofDatum? = some finding)
        (findings phase config teams) shown
  table : ∃ top shown, splitAt '\n' (outcome .tsv).output = top :: shown ++ [""] ∧
    splitAt '\t' top = ValidationReport.tsvHeader ∧ shown.length = report.violationCount ∧
      List.Forall₂ (fun finding => ShowsRow 6 finding.rowValues) (findings phase config teams) shown

/-- A table in which every value goes through its cell is printed as it is. -/
theorem Run.printed_cells {header : List String} {rows : List (List String)}
    (hheader : (∀ s ∈ header, CellText s) ∧ 1 < header.length)
    (hrows : ∀ values ∈ rows, 1 < values.length) :
    printed (Tsv.table header (rows.map (List.map Tsv.cell))) =
      Tsv.table header (rows.map (List.map Tsv.cell)) := by
  apply printed_table
  intro cells hcells
  rcases List.mem_cons.mp hcells with rfl | hcells
  · exact hheader
  · obtain ⟨values, hvalues, rfl⟩ := List.mem_map.mp hcells
    rw [List.length_map]
    exact ⟨cellText_of_mem_map_cell, hrows values hvalues⟩

section Outcomes

open Run

variable (phase : SeasonPhase) (config : Config) (viewer : Viewer) (teams : List Team)
  (time : String) (styling : Text.Styling)

/-- How a validation of the teams ends. -/
def validated (format : ReportFormat) : Outcome :=
  (render .validate (teams.map fun team => RosterPage.ofTeam team phase config viewer) config time
    styling format).outcome

theorem validated_exit_eq_zero_iff (format : ReportFormat) :
    (validated phase config viewer teams time styling format).exit = 0 ↔
      findings phase config teams = [] := by
  rw [← allLegal_iff phase config viewer]
  show (if (validation phase config viewer teams).allLegal then (0 : UInt8) else 1) = 0 ↔ _
  cases (validation phase config viewer teams).allLegal <;> decide

theorem validated_jsonl_output :
    (validated phase config viewer teams time styling .jsonl).output =
      closedLines ((findings phase config teams).map Finding.line) := by
  show printed (validation phase config viewer teams).jsonl = _
  rw [ValidationReport.jsonl, printed_jsonLines, map_lineToJson_validation, List.map_map]
  rfl

theorem validated_tsv_output :
    (validated phase config viewer teams time styling .tsv).output =
      (validation phase config viewer teams).tsv := by
  show printed (validation phase config viewer teams).tsv = _
  rw [ValidationReport.tsv, ValidationReport.map_cells_lines]
  apply printed_cells (by decide)
  intro values hvalues
  rw [ValidationReport.length_of_mem_tableValues values hvalues]
  decide

theorem oneVerdict_validated :
    OneVerdict phase config teams (validation phase config viewer teams)
      (validated phase config viewer teams time styling) := by
  have hexit := validated_exit_eq_zero_iff phase config viewer teams time styling
  have hcount := violationCount_validation phase config viewer teams
  constructor
  case legal =>
    intro format
    rw [hexit, findings_eq_nil_iff]
  case uncounted =>
    intro format
    rw [hexit, hcount, List.length_eq_zero_iff]
  case silent =>
    intro format
    rw [hexit, validated_jsonl_output, closedLines_eq_empty_iff, List.map_eq_nil_iff]
  case headerOnly =>
    intro format
    rw [hexit, validated_tsv_output, ValidationReport.tsv, table_eq_row_iff,
      ValidationReport.map_cells_lines, tableValues_validation, List.map_eq_nil_iff,
      List.map_eq_nil_iff]
  case count => exact hcount
  case lines =>
    refine ⟨(findings phase config teams).map Finding.line, ?_, ?_, ?_⟩
    · rw [validated_jsonl_output]
      apply splitAt_closedLines
      intro line hline
      obtain ⟨f, -, rfl⟩ := List.mem_map.mp hline
      exact Json.newline_not_mem_compact _
    · rw [List.length_map, hcount]
    · rw [List.forall₂_map_right_iff, List.forall₂_same]
      intro f _
      exact f.ofDatum?_line
  case table =>
    obtain ⟨-, top, shown, hsplit, htop, hrows⟩ :=
      (validation phase config viewer teams).tabulates_tsv
    rw [tableValues_validation, List.forall₂_map_left_iff] at hrows
    refine ⟨top, shown, ?_, htop, ?_, hrows⟩
    · rw [validated_tsv_output, hsplit]
    · rw [hcount, hrows.length_eq]

end Outcomes

/-- The same options, with a format named. -/
def Options.inFormat (o : Options) (format : ReportFormat) : Options :=
  { o with outputFormat := some format, plain := false }

theorem Options.format_inFormat (o : Options) (format : ReportFormat) :
    (o.inFormat format).format = format := rfl

/-- A validation has one verdict, whichever teams are selected: however the report on them is asked
for, and in every run of the program that finds its configuration, its snapshot and the teams. -/
theorem oneVerdict :
    (∀ (phase : SeasonPhase) (config : Config) (viewer : Viewer) (teams : List Team)
        (time : String) (styling : Text.Styling),
      OneVerdict phase config teams (validation phase config viewer teams)
        (validated phase config viewer teams time styling)) ∧
      ∀ (w : Workspace) (time : String) (options : Options) (request : ReportRequest)
        (config : Config) (snapshot : Snapshot) (teams : List Team),
        request.kind = .validate → Config.load w options.config = .ok config →
          Snapshot.load w request.input = .ok snapshot →
          snapshot.select request.team = .ok teams →
          let phase := options.phase.getD config.display.defaultPhase
          OneVerdict phase config teams (validation phase config ⟨options.viewerTeam⟩ teams)
            fun format => Run.carryOut w time ⟨options.inFormat format, .report request⟩ := by
  refine ⟨oneVerdict_validated, ?_⟩
  intro w time options request config snapshot teams hkind hconfig hsnapshot hteams phase
  have hrun : (fun format => Run.carryOut w time ⟨options.inFormat format, .report request⟩) =
      validated phase config ⟨options.viewerTeam⟩ teams time (w.styling .validate) := by
    funext format
    have hreport : Run.report w time (options.inFormat format) request = .ok _ :=
      Run.report_of_found hconfig hsnapshot hteams
    rw [Run.carryOut_of_report hreport, hkind, Options.format_inFormat]
    rfl
  rw [hrun]
  exact oneVerdict_validated phase config _ teams time (w.styling .validate)

theorem Snapshot.load_hyphen {w : Workspace} {text : String} (h : w.input = .text text) :
    Snapshot.load w "-" = Snapshot.ofJson text := by
  have hsource : Snapshot.Source.ofPath "-" = .ok .input := if_pos (by decide)
  rw [Snapshot.load, hsource]
  simp only [bind, Except.bind, h, Entry.text?]

/-- One veteran who costs more than the cap of the season, on a team given on standard input. -/
theorem oneVerdict_kai :
    let bo : Contract :=
      { id := 7, kind := .veteran, salary := 300, year := 1,
        player := .real { id := 7, name := "Bo" } }
    let kai : Team := { id := 1, name := "Kai", contracts := [bo] }
    let w : Workspace := { entry := fun _ => .missing "", input := .text kai.toJson.compact }
    let request : ReportRequest := { kind := .validate, input := "-" }
    (findings .regularSeason {} [kai]).length = 1 ∧
      OneVerdict .regularSeason {} [kai] (validation .regularSeason {} {} [kai])
        fun format => Run.carryOut w "" ⟨Options.inFormat {} format, .report request⟩ := by
  intro bo kai w request
  have hconfig : Config.load w none = .ok {} := rfl
  have hsnapshot : Snapshot.load w "-" = .ok ⟨[kai]⟩ :=
    (Snapshot.load_hyphen rfl).trans (Snapshot.readsAs_team kai).compact
  exact ⟨by decide +kernel,
    oneVerdict.2 w "" {} request {} ⟨[kai]⟩ [kai] rfl hconfig hsnapshot rfl⟩

end LeagueRoster
