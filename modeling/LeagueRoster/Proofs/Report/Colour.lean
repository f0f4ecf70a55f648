import LeagueRoster.Proofs.Limits.Violations
import LeagueRoster.Proofs.Roster.Groups
import LeagueRoster.Proofs.Report.Lines
import LeagueRoster.Proofs.Text.Ansi
import LeagueRoster.Report.Partition
import LeagueRoster.Report.Validation

/-!
Colour does not change what the partition and the validation report say. Every piece of them is
brought to its width before it is painted, so without its escape sequences the painted report is the
unpainted one, as long as the names in it bring no escapes of their own (`unpaint_human_reports`).
All other words of a report are fixed or are numbers.
-/
namespace LeagueRoster

open Text (EscapeFree Displays displays_self displays_paint displays_paintThrough displays_join
  displays_ite displays_empty displays_blank displays_break escapeFree_append unpaint)

section FixedWords

theorem escapeFree_phase (phase : SeasonPhase) : EscapeFree phase.name := by
  cases phase <;> decide

theorem escapeFree_title (group : RosterGroup) : EscapeFree group.title := by
  cases group <;> decide

theorem escapeFree_rule (rule : LimitRule) : EscapeFree rule.name := by
  cases rule <;> decide

theorem escapeFree_termsLabel (c : Contract) : EscapeFree c.termsLabel := by
  have hkind : EscapeFree c.kind.abbreviation := by
    cases c.kind <;> decide
  have hsigns : EscapeFree "$" ∧ EscapeFree " / " := by decide
  simp [Contract.termsLabel, hkind, hsigns]

theorem escapeFree_rosterSizeLine (s : Summary) : EscapeFree s.rosterSizeLine := by
  have hwords : EscapeFree "Roster size: " ∧ EscapeFree " (+" ∧ EscapeFree " IR)" := by decide
  unfold Summary.rosterSizeLine
  split <;> simp [hwords]

theorem escapeFree_salaryOfCap (s : Summary) : EscapeFree s.salaryOfCap := by
  have hslash : EscapeFree "/" := by decide
  simp [Summary.salaryOfCap, hslash]

theorem escapeFree_salaryLine (s : Summary) : EscapeFree s.salaryLine := by
  have hlabel : EscapeFree "Salary used/cap: " := by decide
  exact (escapeFree_append _ _).mpr ⟨hlabel, escapeFree_salaryOfCap s⟩

end FixedWords

section Messages

variable {v : Violation}

theorem escapeFree_of_mem_ofCount {rule : LimitRule} {limit : UInt64} {actual : Nat}
    {what : String} (hwhat : EscapeFree what) (hv : v ∈ Violation.ofCount rule limit actual what) :
    EscapeFree v.message := by
  have hwords : EscapeFree " " ∧ EscapeFree " exceeds the limit of " := by decide
  unfold Violation.ofCount at hv
  split at hv
  · rw [List.mem_singleton.mp hv]
    simp [hwhat, hwords]
  · exact absurd hv List.not_mem_nil

theorem escapeFree_of_mem_ofSalary {rule : LimitRule} {cap used : UInt32}
    (hv : v ∈ Violation.ofSalary rule cap used) : EscapeFree v.message := by
  have hwords : EscapeFree "salary used " ∧ EscapeFree " exceeds the cap of " := by decide
  unfold Violation.ofSalary at hv
  split at hv
  · rw [List.mem_singleton.mp hv]
    simp [hwords]
  · exact absurd hv List.not_mem_nil

variable {contracts : List Contract}

/-- The only message with names in it lists the contracts that cannot be kept. -/
theorem escapeFree_of_mem_nonKeepableViolation
    (hnames : ∀ c ∈ nonKeepableContracts contracts, EscapeFree c.displayName)
    (hv : v ∈ nonKeepableViolation contracts) : EscapeFree v.message := by
  have hlabel : EscapeFree "contracts that cannot be kept: " := by decide
  have hlist : EscapeFree
      (", ".intercalate ((nonKeepableContracts contracts).map Contract.displayName)) :=
    not_mem_intercalate (by decide) (List.forall_mem_map.mpr hnames)
  unfold nonKeepableViolation at hv
  split at hv
  · exact absurd hv List.not_mem_nil
  · rw [List.mem_singleton.mp hv]
    exact (escapeFree_append _ _).mpr ⟨hlabel, hlist⟩

theorem escapeFree_of_mem_violations
    (hnames : ∀ c ∈ nonKeepableContracts contracts, EscapeFree c.displayName) {phase : SeasonPhase}
    {limits : RosterLimits} {cap : TeamCap} (hv : v ∈ violations contracts phase limits cap) :
    EscapeFree v.message := by
  have hseason : ∀ phase, v ∈ seasonViolations contracts phase limits cap →
      EscapeFree v.message := by
    intro phase hv
    simp only [seasonViolations, List.mem_append] at hv
    rcases hv with (hcounts | hinjured) | hsalary
    · split at hcounts
      · exact escapeFree_of_mem_ofCount (by decide) hcounts
      · rw [List.mem_append, List.mem_append] at hcounts
        rcases hcounts with (hdomestic | hinternational) | hactive
        · exact escapeFree_of_mem_ofCount (by decide) hdomestic
        · exact escapeFree_of_mem_ofCount (by decide) hinternational
        · exact escapeFree_of_mem_ofCount (by decide) hactive
    · exact escapeFree_of_mem_ofCount (by decide) hinjured
    · exact escapeFree_of_mem_ofSalary hsalary
  cases phase with
  | keeper =>
    simp only [violations, keeperViolations, List.mem_append] at hv
    rcases hv with (hcount | hsalary) | hkeepable
    · exact escapeFree_of_mem_ofCount (by decide) hcount
    · exact escapeFree_of_mem_ofSalary hsalary
    · exact escapeFree_of_mem_nonKeepableViolation hnames hkeepable
  | preseason | regularSeason | postSeason => exact hseason _ hv

end Messages

/-- What a page takes over from its team and its players holds no escapes. -/
structure RosterPage.EscapeFree (page : RosterPage) : Prop where
  teamName : Text.EscapeFree page.summary.teamName
  players : ∀ s ∈ page.sections, ∀ c ∈ s.2,
    Text.EscapeFree c.displayName ∧ Text.EscapeFree c.profile.positionTeam
  messages : ∀ v ∈ page.violations, Text.EscapeFree v.message

/-- What a verdict takes over from its team holds no escapes. -/
structure TeamVerdict.EscapeFree (team : TeamVerdict) : Prop where
  teamName : Text.EscapeFree team.teamName
  messages : ∀ v ∈ team.violations, Text.EscapeFree v.message

/-- The names and position labels that reports on the team can show hold no escapes: its own name,
those of the players on its page, and the names of contracts that cannot be kept. -/
structure Team.EscapeFree (team : Team) : Prop where
  name : Text.EscapeFree team.name
  shown : ∀ c ∈ team.contracts, classify c ≠ none →
    Text.EscapeFree c.displayName ∧ Text.EscapeFree c.profile.positionTeam
  named : ∀ c ∈ nonKeepableContracts team.contracts, Text.EscapeFree c.displayName

theorem Team.EscapeFree.ofTeam {team : Team} (h : team.EscapeFree) (phase : SeasonPhase)
    (config : Config) (viewer : Viewer) :
    (RosterPage.ofTeam team phase config viewer).EscapeFree where
  teamName := h.name
  players := by
    intro s hs c hc
    obtain ⟨g, -, rfl⟩ := List.mem_map.mp (List.mem_filter.mp hs).1
    obtain ⟨hmem, hgroup⟩ := Roster.mem_group.mp hc
    exact h.shown c hmem (by simp [hgroup])
  messages _ hv := escapeFree_of_mem_violations h.named hv

theorem RosterPage.EscapeFree.verdict {page : RosterPage} (h : page.EscapeFree) :
    (TeamVerdict.ofPage page).EscapeFree := ⟨h.teamName, h.messages⟩

namespace PartitionReport

variable (r : PartitionReport) (styling : Text.Styling)

theorem displays_humanContract {c : Contract} (hname : EscapeFree c.displayName)
    (hlabel : EscapeFree c.profile.positionTeam) :
    Displays (r.humanContract styling c) (r.humanContract .off c) := by
  have hindent : Displays "  " "  " := displays_self (by decide)
  have hcolumn := displays_self ((hname.truncate r.nameWidth).padRight r.nameWidth)
  have hlabelled := displays_blank.append (displays_paint styling [.dim] (hlabel.padRight 16))
  have hposition := displays_ite (p := r.showPositions) hlabelled displays_empty
  have hterms := displays_self (escapeFree_termsLabel c)
  exact ((((hindent.append hcolumn).append hposition).append displays_blank).append
    hterms).append displays_break

theorem displays_humanSection {s : RosterGroup × List Contract}
    (hplayers : ∀ c ∈ s.2, EscapeFree c.displayName ∧ EscapeFree c.profile.positionTeam) :
    Displays (r.humanSection styling s) (r.humanSection .off s) := by
  have htitle := displays_paint styling [.bold] (escapeFree_title s.1)
  have hcount : EscapeFree ("(" ++ Text.decimal s.2.length ++ ")") := by
    have hbrackets : EscapeFree "(" ∧ EscapeFree ")" := by decide
    simp [hbrackets]
  have hheading := ((displays_break.append htitle).append displays_blank).append
    (displays_paint styling [.dim] hcount)
  have hrows := displays_join fun c hc =>
    r.displays_humanContract styling (hplayers c hc).1 (hplayers c hc).2
  exact (hheading.append displays_break).append hrows

theorem displays_humanPage {page : RosterPage} (h : page.EscapeFree) :
    Displays (r.humanPage styling page) (r.humanPage .off page) := by
  have hphase : EscapeFree ("#" ++ Text.decimal page.summary.teamId.toInt ++ " · " ++
      page.summary.phase.name) := by
    have hsigns : EscapeFree "#" ∧ EscapeFree " · " := by decide
    simp [hsigns, escapeFree_phase]
  have hheading := ((displays_paint styling [.cyan, .bold] h.teamName).append
    displays_blank).append (displays_paint styling [.dim] hphase)
  have hsize := displays_self (escapeFree_rosterSizeLine page.summary)
  have hline := escapeFree_salaryLine page.summary
  have hsalary := displays_ite (p := page.summary.overCap)
    (displays_paint styling [.red] hline) (displays_self hline)
  have hoffer : EscapeFree "→ Propose Trade" := by decide
  have htrade := displays_ite (p := page.tradeAction.isOffered)
    ((displays_paint styling [.green] hoffer).append displays_break) displays_empty
  have hsections := displays_join fun s hs => r.displays_humanSection styling (h.players s hs)
  have hsign : EscapeFree "!" := by decide
  have hmessages := displays_join fun v (hv : v ∈ page.violations) =>
    (((displays_paint styling [.red, .bold] hsign).append displays_blank).append
      (displays_self (h.messages v hv))).append displays_break
  have htop := ((((hheading.append displays_break).append hsize).append displays_break).append
    hsalary).append displays_break
  exact (((htop.append htrade).append hsections).append hmessages).append displays_break

theorem displays_human (h : ∀ page ∈ r.pages, page.EscapeFree) :
    Displays (r.human styling) (r.human .off) := by
  have hsign : EscapeFree "!" := by decide
  have hnone : Displays " No teams in snapshot" " No teams in snapshot" :=
    displays_self (by decide)
  have hpages := displays_join fun page hpage => r.displays_humanPage styling (h page hpage)
  exact displays_ite ((displays_paint styling [.yellow] hsign).append hnone) hpages

end PartitionReport

namespace ValidationReport

variable (r : ValidationReport) (styling : Text.Styling)

theorem displays_humanTeam {team : TeamVerdict} (h : team.EscapeFree) :
    Displays (humanTeam styling team) (humanTeam .off team) := by
  have hsigns : EscapeFree "✓" ∧ EscapeFree "✗" := by decide
  have hsign := displays_ite (p := team.legal)
    (displays_paintThrough styling .green hsigns.1) (displays_paintThrough styling .red hsigns.2)
  have hteam := displays_paintThrough styling .bold h.teamName
  have hopen : Displays " (" " (" := displays_self (by decide)
  have hclose : Displays ")\n" ")\n" := displays_self (by decide)
  have hphase := displays_self (escapeFree_phase team.phase)
  have hindent : Displays "    " "    " := displays_self (by decide)
  have hlines := displays_join fun v (hv : v ∈ team.violations) =>
    (((hindent.append (displays_paintThrough styling .yellow (escapeFree_rule v.rule))).append
      displays_blank).append (displays_self (h.messages v hv))).append displays_break
  have hheading := ((((hsign.append displays_blank).append hteam).append hopen).append
    hphase).append hclose
  exact hheading.append (displays_ite displays_empty hlines)

theorem displays_human (h : ∀ team ∈ r.teams, team.EscapeFree) :
    Displays (r.human styling) (r.human .off) := by
  have hteams := displays_join fun team hteam => displays_humanTeam styling (h team hteam)
  have hlegal : EscapeFree "All rosters are within limits" := by decide
  have hcount : EscapeFree (Text.decimal r.violationCount ++ " limit violation(s)") := by
    have hwords : EscapeFree " limit violation(s)" := by decide
    simp [hwords]
  exact hteams.append (displays_ite (displays_paintThrough styling .green hlegal)
    (displays_paintThrough styling .red hcount))

end ValidationReport

/-- Without its escape sequences a painted report is the unpainted one: whatever pages or verdicts
it shows and however wide its columns are, as long as these bring no escapes; and whatever teams the
pages are made for, as long as their names and position labels bring none. -/
theorem unpaint_human_reports :
    (∀ r : PartitionReport, (∀ page ∈ r.pages, page.EscapeFree) →
        unpaint (r.human .on) = r.human .off) ∧
      (∀ r : ValidationReport, (∀ team ∈ r.teams, team.EscapeFree) →
        unpaint (r.human .on) = r.human .off) ∧
      ∀ (pages : List RosterPage) (nameWidth : Nat) (showPositions : Bool),
        (∀ page ∈ pages, ∃ team phase config viewer, team.EscapeFree ∧
          page = RosterPage.ofTeam team phase config viewer) →
        let partition : PartitionReport := { pages, nameWidth, showPositions }
        let validation := ValidationReport.ofPages pages
        unpaint (partition.human .on) = partition.human .off ∧
          unpaint (validation.human .on) = validation.human .off := by
  have hpartition : ∀ r : PartitionReport, (∀ page ∈ r.pages, page.EscapeFree) →
      unpaint (r.human .on) = r.human .off := fun r h => (r.displays_human .on h).unpaint_eq
  have hvalidation : ∀ r : ValidationReport, (∀ team ∈ r.teams, team.EscapeFree) →
      unpaint (r.human .on) = r.human .off := fun r h => (r.displays_human .on h).unpaint_eq
  refine ⟨hpartition, hvalidation, ?_⟩
  intro pages nameWidth showPositions hmade partition validation
  have hpages : ∀ page ∈ pages, page.EscapeFree := by
    intro page hpage
    obtain ⟨team, phase, config, viewer, hteam, rfl⟩ := hmade page hpage
    exact hteam.ofTeam phase config viewer
  constructor
  · exact hpartition partition hpages
  · apply hvalidation validation
    exact List.forall_mem_map.mpr fun page hpage => (hpages page hpage).verdict

/-- A team over the cap at the keeper deadline, with a contract that cannot be kept. -/
theorem unpaint_human_kai :
    let luka : Contract :=
      { id := 7, kind := .veteran, salary := 150, year := 2,
        player := .real { id := 7, name := "Luka Dončić", position := some "PG" } }
    let bo : Contract :=
      { id := 8, kind := .freeAgent, salary := 9, year := 1,
        player := .league { id := 8, name := "Bo" } }
    let kai : Team := { id := 1, name := "Kai", contracts := [luka, bo] }
    let page := RosterPage.ofTeam kai .keeper {} { teamId := some 2 }
    let partition : PartitionReport := { pages := [page], nameWidth := 8 }
    let narrow : PartitionReport := { pages := [page], nameWidth := 2, showPositions := false }
    let validation := ValidationReport.ofPages [page]
    kai.EscapeFree ∧ page.EscapeFree ∧ (TeamVerdict.ofPage page).EscapeFree ∧
      partition.human .on ≠ partition.human .off ∧ validation.human .on ≠ validation.human .off ∧
      unpaint (partition.human .on) = partition.human .off ∧
      unpaint (validation.human .on) = validation.human .off ∧
      unpaint (narrow.human .on) = narrow.human .off := by
  intro luka bo kai page partition narrow validation
  have hkai : kai.EscapeFree := ⟨by decide +kernel, by decide +kernel, by decide +kernel⟩
  have hpage : page.EscapeFree := hkai.ofTeam .keeper {} { teamId := some 2 }
  have hpartition := unpaint_human_reports.1 partition (List.forall_mem_singleton.mpr hpage)
  have hvalidation := unpaint_human_reports.2.1 validation
    (List.forall_mem_singleton.mpr hpage.verdict)
  have hnarrow := unpaint_human_reports.2.2 [page] 2 false
    (List.forall_mem_singleton.mpr ⟨kai, _, _, _, hkai, rfl⟩)
  exact ⟨hkai, hpage, hpage.verdict, by decide +kernel, by decide +kernel, hpartition,
    hvalidation, hnarrow.1⟩

end LeagueRoster
