import LeagueRoster.Proofs.Report.Verdict
import LeagueRoster.Proofs.StableSort

/-!
The summary with the teams over the cap in front. The key of this sort has two parts, but the first
follows from the second, since a team is over the cap exactly if its cap space is negative
(`compare_overCap_then`). So the teams are sorted by cap space alone, with ties as in the snapshot,
and those over the cap come first by themselves (`overCapOrder_iff`). Every format shows the teams
in this order, and a run fails with the flag exactly as it fails without it.
-/
namespace LeagueRoster

namespace SummaryReport

/-- The teams of `given`, those over the cap in front and each no farther over it than the one
before; teams with the same space are left as they are given. -/
structure OverCapOrder (given shown : List Summary) : Prop where
  perm : shown.Perm given
  overCapFirst : shown.Pairwise fun a b => b.overCap → a.overCap
  ascending : shown.Pairwise fun a b => a.capSpace ≤ b.capSpace
  ties : ∀ space, (shown.filter fun s => s.capSpace = space) =
    given.filter fun s => s.capSpace = space

section Order

def compareSpace (a b : Summary) : Ordering := compare a.capSpace b.capSpace

instance : Std.TransCmp compareSpace := StableSort.transCmp_comap Summary.capSpace

theorem isLE_compareSpace (a b : Summary) :
    (compareSpace a b).isLE ↔ a.capSpace ≤ b.capSpace := Std.isLE_compare

theorem compareSpace_eq_iff (a b : Summary) :
    compareSpace a b = .eq ↔ b.capSpace = a.capSpace := by
  rw [compareSpace, Std.compare_eq_iff_eq]
  exact eq_comm

/-- Between two teams whose flags say what their cap space says, the flags add nothing. -/
theorem compare_overCap_then {a b : Summary} (ha : a.overCap ↔ a.capSpace < 0)
    (hb : b.overCap ↔ b.capSpace < 0) :
    (compare (!a.overCap) (!b.overCap)).then (compareSpace a b) = compareSpace a b := by
  -- only teams on different sides of the cap have different flags, and then zero is between them
  cases hover : a.overCap with
  | true =>
    have hspace : a.capSpace < 0 := ha.mp hover
    cases hover' : b.overCap with
    | true => rfl
    | false =>
      have hspace' : ¬ b.capSpace < 0 := fun h => by simp [hb.mpr h] at hover'
      have hlt : compareSpace a b = .lt := Std.compare_eq_lt.mpr (by omega)
      rw [hlt]
      rfl
  | false =>
    have hspace : ¬ a.capSpace < 0 := fun h => by simp [ha.mpr h] at hover
    cases hover' : b.overCap with
    | true =>
      have hspace' : b.capSpace < 0 := hb.mp hover'
      have hgt : compareSpace a b = .gt := Std.compare_eq_gt.mpr (by omega)
      rw [hgt]
      rfl
    | false => rfl

variable {given shown : List Summary} (hflags : ∀ s ∈ given, s.overCap ↔ s.capSpace < 0)
include hflags

theorem overCapFirst_eq_mergeSort :
    overCapFirst given = given.mergeSort fun a b => (compareSpace a b).isLE :=
  StableSort.mergeSort_congr fun a ha b hb => compare_overCap_then (hflags a ha) (hflags b hb)

/-- There is one such order of the teams, and it is the one that the summary makes. -/
theorem overCapOrder_iff : OverCapOrder given shown ↔ shown = overCapFirst given := by
  rw [overCapFirst_eq_mergeSort hflags, StableSort.eq_mergeSort_iff,
    StableSort.stableOrder_iff isLE_compareSpace compareSpace_eq_iff]
  constructor
  · intro h
    exact ⟨h.perm, h.ascending, fun a => h.ties a.capSpace⟩
  · rintro ⟨hperm, hascending, hties⟩
    refine ⟨hperm, ?_, hascending, ?_⟩
    · refine hascending.imp_of_mem ?_
      intro a b ha hb hle hover
      rw [hflags b (hperm.mem_iff.mp hb)] at hover
      rw [hflags a (hperm.mem_iff.mp ha)]
      omega
    · intro space
      cases hgiven : given with
      | nil =>
        rw [hgiven] at hperm
        rw [hperm.eq_nil]
      | cons s rest => rw [← hgiven, hties { s with capSpace := space }]

end Order

/-- What the program shows of these summaries: one text for each format, which has a line or a row
for every summary in the machine formats. -/
structure Emits (shown : List Summary) (time : String) (styling : Text.Styling)
    (outcome : ReportFormat → Outcome) : Prop where
  text : ∀ format,
    outcome format = { output := Run.printed (SummaryReport.render ⟨shown⟩ time styling format) }
  lines : splitAt '\n' (outcome .jsonl).output = shown.map (fun s => s.toJson.compact) ++ [""]
  table : Tabulates 10 tsvHeader (shown.map rowValues) (outcome .tsv).output

theorem printed_tsv (r : SummaryReport) : Run.printed r.tsv = r.tsv := by
  rw [tsv, map_cells_summaries]
  apply Run.printed_cells (by decide)
  intro values hvalues
  obtain ⟨s, -, rfl⟩ := List.mem_map.mp hvalues
  exact Nat.one_lt_succ_succ _

theorem emits_of_text {shown : List Summary} {time : String} {styling : Text.Styling}
    {outcome : ReportFormat → Outcome} (htext : ∀ format, outcome format =
      { output := Run.printed (SummaryReport.render ⟨shown⟩ time styling format) }) :
    Emits shown time styling outcome := by
  refine ⟨htext, ?_, ?_⟩
  · have hjsonl : (outcome .jsonl).output =
        closedLines ((shown.map Summary.toJson).map Json.compact) := by
      rw [htext]
      exact Run.printed_jsonLines (shown.map Summary.toJson)
    rw [hjsonl, List.map_map]
    apply splitAt_closedLines
    intro line hline
    obtain ⟨s, -, rfl⟩ := List.mem_map.mp hline
    exact Json.newline_not_mem_compact _
  · have htsv : (outcome .tsv).output = SummaryReport.tsv ⟨shown⟩ := by
      rw [htext]
      exact printed_tsv ⟨shown⟩
    rw [htsv]
    exact tabulates_tsv ⟨shown⟩

/-- Without the flag the summaries are shown as they are given, with it the teams over the cap are
put first. -/
structure Reorders (given : List Summary) (time : String) (styling : Text.Styling)
    (outcome : Bool → ReportFormat → Outcome) : Prop where
  asGiven : Emits given time styling (outcome false)
  inOrder : ∃ shown, OverCapOrder given shown ∧ Emits shown time styling (outcome true)

section Teams

variable (phase : SeasonPhase) (config : Config) (viewer : Viewer) (teams : List Team)

def ofTeams : List Summary :=
  teams.map fun team => (RosterPage.ofTeam team phase config viewer).summary

theorem overCap_iff_of_mem_ofTeams :
    ∀ s ∈ ofTeams phase config viewer teams, s.overCap ↔ s.capSpace < 0 := by
  intro s hs
  obtain ⟨team, -, rfl⟩ := List.mem_map.mp hs
  exact decide_eq_true_iff

variable (time : String) (styling : Text.Styling)

/-- How a summary of the teams ends, with or without the flag. -/
def summarized (overCapFirst : Bool) (format : ReportFormat) : Outcome :=
  (Run.render (.summary overCapFirst)
    (teams.map fun team => RosterPage.ofTeam team phase config viewer) config time styling
    format).outcome

theorem reorders_summarized : Reorders (ofTeams phase config viewer teams) time styling
    (summarized phase config viewer teams time styling) := by
  have hpages : (teams.map fun team => RosterPage.ofTeam team phase config viewer).map
      RosterPage.summary = ofTeams phase config viewer teams := List.map_map
  have hflags := overCap_iff_of_mem_ofTeams phase config viewer teams
  refine ⟨emits_of_text ?_, _, (overCapOrder_iff hflags).mpr rfl, emits_of_text ?_⟩
  · intro format
    rw [← hpages]
    rfl
  · intro format
    rw [← hpages]
    rfl

end Teams

end SummaryReport

namespace Run

variable {w : Workspace} {time : String} {options : Options} {request : ReportRequest}

theorem carryOut_of_fault {fault : Fault} (h : report w time options request = .error fault) :
    carryOut w time ⟨options, .report request⟩ = failure time options.format fault := by
  simp only [carryOut, h]

/-- A run finds its configuration, its snapshot and the teams, or else it ends in one and the same
fault whatever is to be reported of the teams and in whichever format. -/
theorem found_or_failed (w : Workspace) (options : Options) (input : String)
    (team : Option String) :
    (∃ config snapshot teams, Config.load w options.config = .ok config ∧
      Snapshot.load w input = .ok snapshot ∧ snapshot.select team = .ok teams) ∨
    ∃ fault, ∀ time kind format,
      report w time (options.inFormat format) ⟨kind, input, team⟩ = .error fault := by
  have hreport : ∀ time kind format,
      report w time (options.inFormat format) ⟨kind, input, team⟩ =
        (Config.load w options.config).bind fun config =>
          (Snapshot.load w input).bind fun snapshot => (snapshot.select team).bind fun teams =>
            .ok (render kind (teams.map fun team => RosterPage.ofTeam team
              (options.phase.getD config.display.defaultPhase) config ⟨options.viewerTeam⟩)
              config time (w.styling kind) format) := fun _ _ _ => rfl
  cases hconfig : Config.load w options.config with
  | error fault =>
    refine .inr ⟨fault, ?_⟩
    intro time kind format
    simp only [hreport, hconfig, Except.bind]
  | ok config =>
    cases hsnapshot : Snapshot.load w input with
    | error fault =>
      refine .inr ⟨fault, ?_⟩
      intro time kind format
      simp only [hreport, hconfig, hsnapshot, Except.bind]
    | ok snapshot =>
      cases hteams : snapshot.select team with
      | error fault =>
        refine .inr ⟨fault, ?_⟩
        intro time kind format
        simp only [hreport, hconfig, hsnapshot, hteams, Except.bind]
      | ok teams => exact .inl ⟨config, snapshot, teams, rfl, rfl, hteams⟩

end Run

/-- Putting the teams over the cap first is one reordering of the summaries that are shown without
it: for all teams, and in every run of the program, which comes to both reports or to neither. -/
theorem overCapFirst_reorders :
    (∀ (phase : SeasonPhase) (config : Config) (viewer : Viewer) (teams : List Team)
        (time : String) (styling : Text.Styling),
      SummaryReport.Reorders (SummaryReport.ofTeams phase config viewer teams) time styling
        (SummaryReport.summarized phase config viewer teams time styling)) ∧
      ∀ (w : Workspace) (time : String) (options : Options) (input : String)
        (team : Option String),
        let outcome overCapFirst format := Run.carryOut w time
          ⟨options.inFormat format, .report ⟨.summary overCapFirst, input, team⟩⟩
        (∃ config snapshot teams, Config.load w options.config = .ok config ∧
          Snapshot.load w input = .ok snapshot ∧ snapshot.select team = .ok teams ∧
          SummaryReport.Reorders
            (SummaryReport.ofTeams (options.phase.getD config.display.defaultPhase) config
              ⟨options.viewerTeam⟩ teams) time (w.styling (.summary false)) outcome) ∨
        ∃ fault, ∀ overCapFirst format,
          outcome overCapFirst format = Run.failure time format fault := by
  refine ⟨SummaryReport.reorders_summarized, ?_⟩
  intro w time options input team outcome
  obtain ⟨config, snapshot, teams, hconfig, hsnapshot, hteams⟩ | ⟨fault, hfault⟩ :=
    Run.found_or_failed w options input team
  · refine .inl ⟨config, snapshot, teams, hconfig, hsnapshot, hteams, ?_⟩
    have hrun : outcome = SummaryReport.summarized
        (options.phase.getD config.display.defaultPhase) config ⟨options.viewerTeam⟩ teams time
        (w.styling (.summary false)) := by
      funext overCapFirst format
      have hreport : Run.report w time (options.inFormat format)
          ⟨.summary overCapFirst, input, team⟩ = .ok _ :=
        Run.report_of_found hconfig hsnapshot hteams
      exact Run.carryOut_of_report hreport
    rw [hrun]
    exact SummaryReport.reorders_summarized _ config _ teams time (w.styling (.summary false))
  · refine .inr ⟨fault, ?_⟩
    intro overCapFirst format
    exact Run.carryOut_of_fault (hfault time (.summary overCapFirst) format)

end LeagueRoster
