import LeagueRoster.Page
import LeagueRoster.Proofs.Limits.Violations

/-!
A page says the same thing twice: its summary is made from the roster groups, its violations
from a count of their own. Both rest on one census of the contracts, so neither contradicts the
other (`agreement_ofTeam`). Development contracts on injured reserve are where the two count
differently on purpose, and the difference is stated.
-/
namespace LeagueRoster

open Roster

/-- The summary and the violations of a page, shown for some contracts, tell one story. -/
structure RosterPage.Agreement (page : RosterPage) (contracts : List Contract) : Prop where
  overCap_iff_space : page.summary.overCap ↔ page.summary.capSpace < 0
  overCap_iff_salary : page.summary.overCap ↔ page.summary.cap.effective < page.summary.salaryUsed
  overCap_iff_violation : page.summary.phase ≠ .keeper →
    (page.summary.overCap ↔ ∃ v ∈ page.violations, v.rule = .salaryCap)
  salaryCap : ∀ v ∈ page.violations, v.rule = .salaryCap →
    v.limit = page.summary.cap.effective ∧ v.actual = page.summary.salaryUsed
  /-- The keeper deadline also counts the salaries on injured reserve. -/
  keeperSalary : page.summary.phase = .keeper → page.summary.overCap →
    ∃ v ∈ page.violations, v.rule = .keeperSalary ∧
      v.limit = page.summary.cap.effective ∧ page.summary.salaryUsed ≤ v.actual
  activeContracts : ∀ v ∈ page.violations, v.rule = .activeContracts →
    v.actual.toNat = page.summary.activeCount
  preseasonContracts : ∀ v ∈ page.violations, v.rule = .preseasonContracts →
    v.actual.toNat + contracts.countP (fun c => c.kind.isRookieDevelopment ∧ c.injuredReserve) =
      page.summary.activeCount + page.summary.rookieDevelopmentCount
  injuredReserve : ∀ v ∈ page.violations, v.rule = .injuredReserve →
    v.actual.toNat = page.summary.injuredReserveCount + contracts.countP fun c =>
      c.status = .active ∧ c.injuredReserve ∧ c ∉ page.roster.injuredReserve

theorem TeamCap.space_neg_iff (cap : TeamCap) (used : UInt32) :
    cap.space used < 0 ↔ cap.effective < used := by
  rw [TeamCap.space, UInt32.lt_iff_toNat_lt]
  omega

/-- Whoever is on the squad is also on the keeper list. -/
theorem squadSalary_le_keptSalary (contracts : List Contract) :
    (census contracts).squadSalary ≤ (census contracts).keptSalary := by
  apply totalSalary_sublist
  apply List.monotone_filter_right
  intro c hc
  rw [decide_eq_true_eq] at hc ⊢
  exact ⟨hc.1, hc.2.2⟩

/-- The contracts of a group with some property, counted in the input. -/
theorem countP_group (contracts : List Contract) (g : RosterGroup) (p : Contract → Bool) :
    ((ofContracts contracts).group g).countP p =
      contracts.countP fun c => p c && decide (classify c = some g) := by
  rw [(group_perm contracts g).countP_eq, members, List.countP_filter]

/-- A development contract is domestic or international, or else on injured reserve. -/
theorem length_rookieDevelopment (contracts : List Contract) :
    (ofContracts contracts).rookieDevelopment.length =
      (census contracts).domestic + (census contracts).international +
        contracts.countP fun c => c.kind.isRookieDevelopment ∧ c.injuredReserve := by
  have hhealthy := List.length_eq_length_filter_add
    (l := (ofContracts contracts).rookieDevelopment) fun c => c.injuredReserve
  have hkinds := List.length_eq_length_filter_add
    (l := (ofContracts contracts).rookieDevelopment.filter fun c => !c.injuredReserve)
    fun c => c.kind.isInternational
  have hinjured : ((ofContracts contracts).rookieDevelopment.filter fun c =>
      c.injuredReserve).length =
        contracts.countP fun c => c.kind.isRookieDevelopment ∧ c.injuredReserve := by
    rw [← List.countP_eq_length_filter]
    refine (countP_group contracts .rookieDevelopment _).trans (List.countP_congr ?_)
    intro c _
    simp only [classify_eq_rookieDevelopment_iff, Bool.and_eq_true, decide_eq_true_eq]
    exact and_comm
  rw [length_domestic, length_international] at hkinds
  omega

/-- A current contract on injured reserve is in that group unless it is of another kind. -/
theorem injured_eq (contracts : List Contract) :
    (census contracts).injured =
      (ofContracts contracts).injuredReserve.length + contracts.countP fun c =>
        c.status = .active ∧ c.injuredReserve ∧ c ∉ (ofContracts contracts).injuredReserve := by
  have hsplit := List.countP_eq_countP_filter_add contracts
    (fun c => c.status = .active ∧ c.injuredReserve = true)
    fun c => classify c = some .injuredReserve
  have hgroup : (members .injuredReserve contracts).countP
      (fun c => c.status = .active ∧ c.injuredReserve = true) =
        (members .injuredReserve contracts).length := by
    rw [List.countP_eq_length]
    intro c hc
    obtain ⟨hstatus, hinjured, -⟩ := (classify_eq_injuredReserve_iff c).mp (mem_members.mp hc).2
    exact decide_eq_true ⟨hstatus, hinjured⟩
  have hothers : (contracts.filter fun c => !decide (classify c = some .injuredReserve)).countP
      (fun c => c.status = .active ∧ c.injuredReserve = true) = contracts.countP fun c =>
        c.status = .active ∧ c.injuredReserve ∧ c ∉ (ofContracts contracts).injuredReserve := by
    rw [List.countP_filter]
    apply List.countP_congr
    intro c hc
    have hmem : c ∈ (ofContracts contracts).injuredReserve ↔
        c ∈ contracts ∧ classify c = some .injuredReserve := mem_group (g := .injuredReserve)
    simp only [hmem, hc, true_and, Bool.and_eq_true, Bool.not_eq_true', decide_eq_true_eq,
      decide_eq_false_iff_not, and_assoc]
  rw [hothers] at hsplit
  exact hsplit.trans (congrArg (· + _) hgroup)

section Page

variable {team : Team} {phase : SeasonPhase} {config : Config} {viewer : Viewer} {v : Violation}
  {rule : LimitRule}

theorem overCap_ofTeam_iff :
    (RosterPage.ofTeam team phase config viewer).summary.overCap ↔
      (RosterPage.ofTeam team phase config viewer).summary.cap.effective <
        (RosterPage.ofTeam team phase config viewer).summary.salaryUsed :=
  decide_eq_true_iff.trans (TeamCap.space_neg_iff _ _)

variable (hlength : team.contracts.length ≤ 65537)

include hlength

theorem toNat_salaryUsed_ofTeam :
    (RosterPage.ofTeam team phase config viewer).summary.salaryUsed.toNat =
      (census team.contracts).squadSalary :=
  toNat_salaryUsed_active (totalSalary_lt_of_length_le hlength)

/-- The team is over its cap when the census is. -/
theorem overCap_ofTeam_iff_squadSalary :
    (RosterPage.ofTeam team phase config viewer).summary.overCap ↔
      (RosterPage.ofTeam team phase config viewer).summary.cap.effective.toNat <
        (census team.contracts).squadSalary := by
  rw [overCap_ofTeam_iff, UInt32.lt_iff_toNat_lt, toNat_salaryUsed_ofTeam hlength]

theorem reported_ofTeam (hv : v ∈ (RosterPage.ofTeam team phase config viewer).violations)
    (hrule : v.rule = rule) :
    v.limit.toNat =
        rule.limit config.limits (RosterPage.ofTeam team phase config viewer).summary.cap ∧
      v.actual.toNat = rule.actual (census team.contracts) := by
  subst hrule
  exact reported_of_mem_violations (length_lt_of_length_le hlength)
    (totalSalary_lt_of_length_le hlength) hv

theorem violated_ofTeam_iff :
    (∃ v ∈ (RosterPage.ofTeam team phase config viewer).violations, v.rule = rule) ↔
      rule ∈ LimitRule.ofPhase phase ∧
        rule.limit config.limits (RosterPage.ofTeam team phase config viewer).summary.cap <
          rule.actual (census team.contracts) :=
  exists_violation_iff (length_lt_of_length_le hlength) (totalSalary_lt_of_length_le hlength)

theorem overCap_ofTeam_iff_violated (hphase : phase ≠ .keeper) :
    (RosterPage.ofTeam team phase config viewer).summary.overCap ↔
      ∃ v ∈ (RosterPage.ofTeam team phase config viewer).violations, v.rule = .salaryCap := by
  have hchecked : LimitRule.salaryCap ∈ LimitRule.ofPhase phase :=
    LimitRule.salaryCap_mem_ofPhase.mpr hphase
  rw [overCap_ofTeam_iff_squadSalary hlength, violated_ofTeam_iff hlength, and_iff_right hchecked]
  rfl

theorem salaryCap_ofTeam (hv : v ∈ (RosterPage.ofTeam team phase config viewer).violations)
    (hrule : v.rule = .salaryCap) :
    v.limit = (RosterPage.ofTeam team phase config viewer).summary.cap.effective ∧
      v.actual = (RosterPage.ofTeam team phase config viewer).summary.salaryUsed := by
  obtain ⟨hlimit, hactual⟩ := reported_ofTeam hlength hv hrule
  refine ⟨UInt32.toNat_inj.mp hlimit, UInt32.toNat_inj.mp ?_⟩
  rw [hactual, toNat_salaryUsed_ofTeam hlength]
  rfl

/-- At the keeper deadline a team over its cap keeps too much salary. -/
theorem exists_keeperSalary_ofTeam
    (hcap : (RosterPage.ofTeam team .keeper config viewer).summary.overCap) :
    ∃ v ∈ (RosterPage.ofTeam team .keeper config viewer).violations, v.rule = .keeperSalary ∧
      v.limit = (RosterPage.ofTeam team .keeper config viewer).summary.cap.effective ∧
      (RosterPage.ofTeam team .keeper config viewer).summary.salaryUsed ≤ v.actual := by
  have hkept := squadSalary_le_keptSalary team.contracts
  have hover := (overCap_ofTeam_iff_squadSalary hlength).mp hcap
  obtain ⟨v, hv, hrule⟩ : ∃ v ∈ (RosterPage.ofTeam team .keeper config viewer).violations,
      v.rule = .keeperSalary :=
    (violated_ofTeam_iff hlength).mpr ⟨by decide, Nat.lt_of_lt_of_le hover hkept⟩
  obtain ⟨hlimit, hactual⟩ := reported_ofTeam hlength hv hrule
  refine ⟨v, hv, hrule, UInt32.toNat_inj.mp hlimit, UInt32.le_iff_toNat_le.mpr ?_⟩
  rw [hactual, toNat_salaryUsed_ofTeam hlength]
  exact hkept

theorem activeContracts_ofTeam (hv : v ∈ (RosterPage.ofTeam team phase config viewer).violations)
    (hrule : v.rule = .activeContracts) :
    v.actual.toNat = (RosterPage.ofTeam team phase config viewer).summary.activeCount :=
  (reported_ofTeam hlength hv hrule).2.trans (length_active team.contracts).symm

theorem preseasonContracts_ofTeam
    (hv : v ∈ (RosterPage.ofTeam team phase config viewer).violations)
    (hrule : v.rule = .preseasonContracts) :
    v.actual.toNat +
        team.contracts.countP (fun c => c.kind.isRookieDevelopment ∧ c.injuredReserve) =
      (RosterPage.ofTeam team phase config viewer).summary.activeCount +
        (RosterPage.ofTeam team phase config viewer).summary.rookieDevelopmentCount := by
  have hactive : (RosterPage.ofTeam team phase config viewer).summary.activeCount =
      (census team.contracts).squad := length_active team.contracts
  have hdevelopment :
      (RosterPage.ofTeam team phase config viewer).summary.rookieDevelopmentCount = _ :=
    length_rookieDevelopment team.contracts
  rw [(reported_ofTeam hlength hv hrule).2, hactive, hdevelopment, LimitRule.actual]
  omega

theorem injuredReserve_ofTeam (hv : v ∈ (RosterPage.ofTeam team phase config viewer).violations)
    (hrule : v.rule = .injuredReserve) :
    v.actual.toNat =
      (RosterPage.ofTeam team phase config viewer).summary.injuredReserveCount +
        team.contracts.countP fun c => c.status = .active ∧ c.injuredReserve ∧
          c ∉ (RosterPage.ofTeam team phase config viewer).roster.injuredReserve :=
  (reported_ofTeam hlength hv hrule).2.trans (injured_eq team.contracts)

end Page

/-- The summary and the violations of a team with at most 65537 contracts agree, whatever it
dropped and whatever the rules of the league are. -/
theorem agreement_ofTeam (team : Team) (phase : SeasonPhase) (config : Config) (viewer : Viewer)
    (hlength : team.contracts.length ≤ 65537) :
    (RosterPage.ofTeam team phase config viewer).Agreement team.contracts where
  overCap_iff_space := decide_eq_true_iff
  overCap_iff_salary := overCap_ofTeam_iff
  overCap_iff_violation := overCap_ofTeam_iff_violated hlength
  salaryCap _ hv hrule := salaryCap_ofTeam hlength hv hrule
  keeperSalary hphase hcap := by
    obtain rfl : phase = .keeper := hphase
    exact exists_keeperSalary_ofTeam hlength hcap
  activeContracts _ hv hrule := activeContracts_ofTeam hlength hv hrule
  preseasonContracts _ hv hrule := preseasonContracts_ofTeam hlength hv hrule
  injuredReserve _ hv hrule := injuredReserve_ofTeam hlength hv hrule

/-- The crowded roster, with a dropped contract that lowers the cap. -/
def crowdedTeamOverCap : Team where
  id := 4
  name := "Kai"
  contracts := crowdedTeam
  droppedContracts :=
    [{ id := 50, kind := .veteran, salary := 15, year := 1,
       player := .real { id := 50, name := "Player" } }]

theorem agreement_crowdedTeamOverCap :
    crowdedTeamOverCap.contracts.length ≤ 65537 ∧
      (RosterPage.ofTeam crowdedTeamOverCap .regularSeason {} {}).Agreement crowdedTeam ∧
      ∃ v ∈ (RosterPage.ofTeam crowdedTeamOverCap .regularSeason {} {}).violations,
        v.rule = .salaryCap ∧ v.limit = 197 ∧ v.actual.toNat = 210 := by
  have hlength : crowdedTeamOverCap.contracts.length ≤ 65537 := by decide
  have hagree := agreement_ofTeam crowdedTeamOverCap .regularSeason {} {} hlength
  have hused : (ofContracts crowdedTeam).salaryUsed.toNat = 210 := by
    rw [toNat_salaryUsed_active (by decide)]
    decide
  have hcap : (RosterPage.ofTeam crowdedTeamOverCap .regularSeason {} {}).summary.cap.effective =
      197 := by decide
  have hover : (RosterPage.ofTeam crowdedTeamOverCap .regularSeason {} {}).summary.overCap := by
    rw [hagree.overCap_iff_salary, hcap, UInt32.lt_iff_toNat_lt]
    exact Nat.lt_of_lt_of_eq (by decide) hused.symm
  obtain ⟨v, hv, hrule⟩ := (hagree.overCap_iff_violation (by decide)).mp hover
  obtain ⟨hlimit, hactual⟩ := hagree.salaryCap v hv hrule
  refine ⟨hlength, hagree, v, hv, hrule, hlimit.trans hcap, ?_⟩
  rw [hactual]
  exact hused

end LeagueRoster
