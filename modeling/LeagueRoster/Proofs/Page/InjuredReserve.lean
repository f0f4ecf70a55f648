import LeagueRoster.Page
import LeagueRoster.Proofs.Limits.Violations
import LeagueRoster.Proofs.Roster.Order

/-!
A player of the active squad goes on injured reserve. His contract leaves the active group and
enters the other at its place in the input, and no other row moves. He stays on the keeper
list, so the keeper deadline does not see the move; in the other phases it frees what he took
and takes one slot on injured reserve (`movedToReserve_ofTeam`).
-/
namespace LeagueRoster

open Roster StableSort

def Contract.withReserve (c : Contract) (flag : Bool) : Contract :=
  { c with injuredReserve := flag }

/-- What changes on a page when the contract `c`, which stands between `front` and `back` in the
input, goes on injured reserve. -/
structure RosterPage.MovedToReserve (before after : RosterPage) (front back : List Contract)
    (c : Contract) : Prop where
  /-- Where rows are equal, the one that goes is known by the rows before it that have its keys:
  they come from the contracts before it in the input. -/
  active : ∃ l₁ l₂, before.roster.active = l₁ ++ c :: l₂ ∧ after.roster.active = l₁ ++ l₂ ∧
    l₁.filter (fun b => SameActiveKeys c b) =
      (front.filter fun b => OnSquad b).filter fun b => SameActiveKeys c b
  injuredReserve :
    before.roster.injuredReserve =
        front.filter (fun b => classify b = some .injuredReserve) ++
          back.filter (fun b => classify b = some .injuredReserve) ∧
      after.roster.injuredReserve =
        front.filter (fun b => classify b = some .injuredReserve) ++
          c.withReserve true :: back.filter fun b => classify b = some .injuredReserve
  rookieDevelopment : after.roster.rookieDevelopment = before.roster.rookieDevelopment
  salaryUsed : before.summary.salaryUsed.toNat = after.summary.salaryUsed.toNat + c.salary.toNat
  activeCount : before.summary.activeCount = after.summary.activeCount + 1
  injuredReserveCount :
    after.summary.injuredReserveCount = before.summary.injuredReserveCount + 1
  rookieDevelopmentCount :
    after.summary.rookieDevelopmentCount = before.summary.rookieDevelopmentCount
  cap : after.summary.cap = before.summary.cap
  capSpace : after.summary.capSpace = before.summary.capSpace + c.salary.toNat
  tradeAction : after.tradeAction = before.tradeAction
  keeperViolations : before.summary.phase = .keeper → after.violations = before.violations
  onlyNewRule : before.summary.phase ≠ .keeper → ∀ v ∈ after.violations,
    (∀ v' ∈ before.violations, v'.rule ≠ v.rule) → v.rule = .injuredReserve
  slotsBefore : ∀ v ∈ before.violations, v.rule = .injuredReserve →
    v.actual.toNat =
        (front ++ c :: back).countP (fun b => b.status = .active ∧ b.injuredReserve = true) ∧
      ∃ v' ∈ after.violations, v'.rule = .injuredReserve ∧ v'.limit = v.limit
  slotsAfter : ∀ v ∈ after.violations, v.rule = .injuredReserve →
    v.actual.toNat =
      (front ++ c :: back).countP (fun b => b.status = .active ∧ b.injuredReserve = true) + 1

/-- The keeper deadline does not look at injured reserve. -/
theorem keeperViolations_map_withReserve (contracts : List Contract) (flag : Bool)
    (limits : RosterLimits) (cap : TeamCap) :
    keeperViolations (contracts.map fun c => c.withReserve flag) limits cap =
      keeperViolations contracts limits cap := by
  have hkept : keptContracts (contracts.map fun c => c.withReserve flag) =
      (keptContracts contracts).map fun c => c.withReserve flag := by
    rw [keptContracts, List.filter_map]
    rfl
  have hsalary : ∀ l : List Contract,
      salaryUsed (l.map fun c => c.withReserve flag) = salaryUsed l := by
    intro l
    rw [salaryUsed, List.foldl_map]
    rfl
  have hfound : nonKeepableContracts (contracts.map fun c => c.withReserve flag) =
      (nonKeepableContracts contracts).map fun c => c.withReserve flag := by
    rw [nonKeepableContracts, List.filter_map]
    rfl
  have hviolation : nonKeepableViolation (contracts.map fun c => c.withReserve flag) =
      nonKeepableViolation contracts := by
    unfold nonKeepableViolation
    rw [hfound]
    cases nonKeepableContracts contracts with
    | nil => rfl
    | cons c rest =>
      simp only [List.map_cons, List.length_cons, List.length_map, List.map_map]
      rfl
  simp only [keeperViolations, hkept, hsalary, hviolation, List.length_map]

theorem keeperViolations_middle_withReserve (front back : List Contract) (c : Contract)
    (flag : Bool) (limits : RosterLimits) (cap : TeamCap) :
    keeperViolations (front ++ c.withReserve flag :: back) limits cap =
      keeperViolations (front ++ c :: back) limits cap := by
  rw [← keeperViolations_map_withReserve _ false,
    ← keeperViolations_map_withReserve (front ++ c :: back) false, List.map_append,
    List.map_append, List.map_cons, List.map_cons]
  rfl

theorem totalSalary_filter_singleton (p : Contract → Bool) (c : Contract) :
    totalSalary ([c].filter p) = if p c then c.salary.toNat else 0 := by
  by_cases hc : p c
  · simp [totalSalary, hc]
  · simp [totalSalary, hc]

/-- Going on injured reserve raises one number of the census only. -/
theorem LimitRule.actual_withReserve_le (c : Contract) {rule : LimitRule}
    (hrule : rule ≠ .injuredReserve) :
    rule.actual (census [c.withReserve true]) ≤ rule.actual (census [c]) := by
  cases rule with
  | keeperContracts | nonKeepableContract => exact Nat.le_refl _
  | keeperSalary =>
    simp only [actual, census, totalSalary_filter_singleton]
    exact Nat.le_refl _
  | preseasonContracts | rookieDevelopment | rookieDevelopmentInternational | activeContracts
  | salaryCap => simp [actual, census, Contract.withReserve, OnSquad, totalSalary]
  | injuredReserve => exact absurd rfl hrule

section Move

variable {c : Contract} (hactive : OnSquad c) (front back : List Contract)
include hactive

theorem classify_withReserve : classify (c.withReserve true) = some .injuredReserve :=
  (classify_eq_injuredReserve_iff _).mpr ⟨hactive.1, rfl, hactive.2.2⟩

theorem members_active_withReserve :
    members .active (front ++ c.withReserve true :: back) =
      members .active front ++ members .active back := by
  apply members_middle_of_ne
  simp [classify_withReserve hactive]

theorem rookieDevelopment_withReserve :
    (ofContracts (front ++ c.withReserve true :: back)).rookieDevelopment =
      (ofContracts (front ++ c :: back)).rookieDevelopment := by
  have hbefore : classify c ≠ some .rookieDevelopment := by
    simp [(classify_eq_active_iff c).mpr hactive]
  have hafter : classify (c.withReserve true) ≠ some .rookieDevelopment := by
    simp [classify_withReserve hactive]
  simp only [ofContracts, members_middle_of_ne hbefore, members_middle_of_ne hafter]

theorem injuredReserve_withReserve :
    (ofContracts (front ++ c :: back)).injuredReserve =
        members .injuredReserve front ++ members .injuredReserve back ∧
      (ofContracts (front ++ c.withReserve true :: back)).injuredReserve =
        members .injuredReserve front ++ c.withReserve true :: members .injuredReserve back := by
  have hbefore : classify c ≠ some .injuredReserve := by
    simp [(classify_eq_active_iff c).mpr hactive]
  exact ⟨members_middle_of_ne hbefore front back,
    members_middle_of_eq (classify_withReserve hactive) front back⟩

theorem exists_active_withReserve :
    ∃ l₁ l₂, (ofContracts (front ++ c :: back)).active = l₁ ++ c :: l₂ ∧
      (ofContracts (front ++ c.withReserve true :: back)).active = l₁ ++ l₂ ∧
      l₁.filter (fun b => SameActiveKeys c b) =
        (front.filter fun b => OnSquad b).filter fun b => SameActiveKeys c b := by
  obtain ⟨l₁, l₂, hbefore, hafter, hplace⟩ := @exists_mergeSort_middle _ compareActive _
    (members .active front) (members .active back) c
  have hclass : classify c = some .active := (classify_eq_active_iff c).mpr hactive
  refine ⟨l₁, l₂, ?_, ?_, ?_⟩
  · rw [← hbefore, ← members_middle_of_eq hclass]
    rfl
  · rw [← hafter, ← members_active_withReserve hactive]
    rfl
  · rw [← tied_compareActive, hplace, tied_compareActive, members_active_eq]

theorem length_active_withReserve :
    (ofContracts (front ++ c :: back)).active.length =
      (ofContracts (front ++ c.withReserve true :: back)).active.length + 1 := by
  obtain ⟨l₁, l₂, hbefore, hafter, -⟩ := exists_active_withReserve hactive front back
  rw [hbefore, hafter]
  simp only [List.length_append, List.length_cons]
  omega

theorem length_injuredReserve_withReserve :
    (ofContracts (front ++ c.withReserve true :: back)).injuredReserve.length =
      (ofContracts (front ++ c :: back)).injuredReserve.length + 1 := by
  obtain ⟨hbefore, hafter⟩ := injuredReserve_withReserve hactive front back
  rw [hbefore, hafter]
  simp only [List.length_append, List.length_cons]
  omega

/-- A slot on injured reserve is taken. -/
theorem injured_withReserve :
    (census (front ++ c.withReserve true :: back)).injured =
      (census (front ++ c :: back)).injured + 1 := by
  have hbefore := LimitRule.actual_middle front back c .injuredReserve
  have hafter := LimitRule.actual_middle front back (c.withReserve true) .injuredReserve
  have hfree : LimitRule.injuredReserve.actual (census [c]) = 0 := by
    simp [LimitRule.actual, census, hactive.2.1]
  have htaken : LimitRule.injuredReserve.actual (census [c.withReserve true]) = 1 := by
    simp [LimitRule.actual, census, Contract.withReserve, hactive.1]
  rw [hfree] at hbefore
  rw [htaken] at hafter
  exact hafter.trans (congrArg (· + 1) hbefore.symm)

/-- The salary is no longer charged to the cap. -/
theorem squadSalary_withReserve :
    (census (front ++ c :: back)).squadSalary =
      (census (front ++ c.withReserve true :: back)).squadSalary + c.salary.toNat := by
  have hbefore := LimitRule.actual_middle front back c .salaryCap
  have hafter := LimitRule.actual_middle front back (c.withReserve true) .salaryCap
  have hcharged : LimitRule.salaryCap.actual (census [c]) = c.salary.toNat := by
    simp [LimitRule.actual, census, totalSalary, hactive]
  have hfree : LimitRule.salaryCap.actual (census [c.withReserve true]) = 0 := by
    simp [LimitRule.actual, census, totalSalary, Contract.withReserve, OnSquad]
  rw [hcharged] at hbefore
  rw [hfree] at hafter
  exact hbefore.trans (congrArg (· + c.salary.toNat) hafter.symm)

/-- The limit of injured reserve stays broken. -/
theorem exists_injuredReserve_of_withReserve {phase : SeasonPhase} {limits : RosterLimits}
    {cap : TeamCap} {v : Violation} (hv : v ∈ violations (front ++ c :: back) phase limits cap)
    (hrule : v.rule = .injuredReserve) :
    ∃ v' ∈ violations (front ++ c.withReserve true :: back) phase limits cap,
      v'.rule = .injuredReserve ∧ v'.limit = v.limit := by
  obtain ⟨hchecked, hbroken, hlimit, -⟩ := measured_of_mem_violations hv
  rw [hrule] at hchecked hbroken hlimit
  have hmore : LimitRule.injuredReserve.measured (front ++ c.withReserve true :: back) =
      LimitRule.injuredReserve.measured (front ++ c :: back) + 1 :=
    injured_withReserve hactive front back
  obtain ⟨v', hv', hrule'⟩ : ∃ v' ∈ violations (front ++ c.withReserve true :: back) phase limits
      cap, v'.rule = .injuredReserve := exists_violation_of_measured hchecked (by omega)
  obtain ⟨-, -, hlimit', -⟩ := measured_of_mem_violations hv'
  rw [hrule'] at hlimit'
  exact ⟨v', hv', hrule', hlimit'.trans hlimit.symm⟩

end Move

theorem length_withReserve_le {front back : List Contract} {c : Contract}
    (hlength : (front ++ c :: back).length ≤ 65537) :
    (front ++ c.withReserve true :: back).length ≤ 65537 := by
  simpa only [List.length_append, List.length_cons] using hlength

/-- Any other rule that is broken after the move was broken before it. -/
theorem exists_violation_of_withReserve {front back : List Contract} {c : Contract}
    (hlength : (front ++ c :: back).length ≤ 65537) {phase : SeasonPhase} {limits : RosterLimits}
    {cap : TeamCap} {rule : LimitRule} (hrule : rule ≠ .injuredReserve)
    (hviolated : ∃ v ∈ violations (front ++ c.withReserve true :: back) phase limits cap,
      v.rule = rule) :
    ∃ v ∈ violations (front ++ c :: back) phase limits cap, v.rule = rule := by
  have hlength' := length_withReserve_le hlength
  obtain ⟨hchecked, hbroken⟩ := (exists_violation_iff (length_lt_of_length_le hlength')
    (totalSalary_lt_of_length_le hlength')).mp hviolated
  have hless := LimitRule.actual_withReserve_le c hrule
  rw [LimitRule.actual_middle] at hbroken
  refine (exists_violation_iff (length_lt_of_length_le hlength)
    (totalSalary_lt_of_length_le hlength)).mpr ⟨hchecked, ?_⟩
  rw [LimitRule.actual_middle]
  omega

theorem toNat_salaryUsed_withReserve {front back : List Contract} {c : Contract}
    (hactive : OnSquad c) (hlength : (front ++ c :: back).length ≤ 65537) :
    (ofContracts (front ++ c :: back)).salaryUsed.toNat =
      (ofContracts (front ++ c.withReserve true :: back)).salaryUsed.toNat + c.salary.toNat := by
  rw [toNat_salaryUsed_active (totalSalary_lt_of_length_le hlength),
    toNat_salaryUsed_active (totalSalary_lt_of_length_le (length_withReserve_le hlength))]
  exact squadSalary_withReserve hactive front back

theorem injured_of_mem_violations {contracts : List Contract}
    (hlength : contracts.length ≤ 65537) {phase : SeasonPhase} {limits : RosterLimits}
    {cap : TeamCap} {v : Violation} (hv : v ∈ violations contracts phase limits cap)
    (hrule : v.rule = .injuredReserve) : v.actual.toNat = (census contracts).injured := by
  have hactual := (reported_of_mem_violations (length_lt_of_length_le hlength)
    (totalSalary_lt_of_length_le hlength) hv).2
  rw [hrule] at hactual
  exact hactual

/-- Putting a contract of the active squad on injured reserve, at any place of a roster of at most
65537 contracts, in any phase and under any rules of the league, moves one row of the page,
frees one salary, and breaks no limit but that of injured reserve. -/
theorem movedToReserve_ofTeam (team : Team) (phase : SeasonPhase) (config : Config)
    (viewer : Viewer) {front back : List Contract} {c : Contract}
    (hcontracts : team.contracts = front ++ c :: back) (hactive : OnSquad c)
    (hlength : team.contracts.length ≤ 65537) :
    let moved : Team := { team with contracts := front ++ c.withReserve true :: back }
    RosterPage.MovedToReserve (RosterPage.ofTeam team phase config viewer)
      (RosterPage.ofTeam moved phase config viewer) front back c := by
  obtain ⟨id, name, contracts, dropped⟩ := team
  obtain rfl : contracts = front ++ c :: back := hcontracts
  intro moved
  have hused := toNat_salaryUsed_withReserve hactive hlength
  have hdevelopment := rookieDevelopment_withReserve hactive front back
  exact {
    active := exists_active_withReserve hactive front back
    injuredReserve := injuredReserve_withReserve hactive front back
    rookieDevelopment := hdevelopment
    salaryUsed := hused
    activeCount := length_active_withReserve hactive front back
    injuredReserveCount := length_injuredReserve_withReserve hactive front back
    rookieDevelopmentCount := congrArg List.length hdevelopment
    cap := rfl
    capSpace := by
      simp only [RosterPage.ofTeam, Summary.ofRoster, TeamCap.space, hused, moved]
      omega
    tradeAction := rfl
    keeperViolations := by
      intro hphase
      obtain rfl : phase = .keeper := hphase
      exact keeperViolations_middle_withReserve front back c true config.limits _
    onlyNewRule := by
      intro _ v hv hnew
      by_contra hrule
      obtain ⟨v', hv', heq⟩ := exists_violation_of_withReserve hlength hrule ⟨v, hv, rfl⟩
      exact hnew v' hv' heq
    slotsBefore := by
      intro v hv hrule
      exact ⟨injured_of_mem_violations hlength hv hrule,
        exists_injuredReserve_of_withReserve hactive front back hv hrule⟩
    slotsAfter := by
      intro v hv hrule
      have hslots := injured_of_mem_violations (length_withReserve_le hlength) hv hrule
      exact hslots.trans (injured_withReserve hactive front back) }

/-- The second contract of the crowded team, a rookie, goes on injured reserve, where the team
has too many already. -/
theorem movedToReserve_rookie_of_crowdedTeam :
    let team : Team := { id := 4, name := "Kai", contracts := crowdedTeam }
    let rookie := crowdedTeam[1]
    let moved : Team :=
      { team with
        contracts := crowdedTeam.take 1 ++ rookie.withReserve true :: crowdedTeam.drop 2 }
    let before := RosterPage.ofTeam team .regularSeason {} {}
    let after := RosterPage.ofTeam moved .regularSeason {} {}
    OnSquad rookie ∧ team.contracts.length ≤ 65537 ∧
      before.MovedToReserve after (crowdedTeam.take 1) (crowdedTeam.drop 2) rookie ∧
      ∃ v ∈ after.violations, v.rule = .injuredReserve ∧ v.actual.toNat = 3 := by
  intro team rookie moved before after
  have hactive : OnSquad rookie := by decide
  have hlength : team.contracts.length ≤ 65537 := by decide
  have hmoved : before.MovedToReserve after (crowdedTeam.take 1) (crowdedTeam.drop 2) rookie :=
    movedToReserve_ofTeam team .regularSeason {} {} rfl hactive hlength
  obtain ⟨v, hv, hrule⟩ :
      ∃ v ∈ violations crowdedTeam .regularSeason {} before.summary.cap, v.rule = .injuredReserve :=
    exists_violation_of_measured (by decide) (by decide)
  obtain ⟨v', hv', hrule', -⟩ := (hmoved.slotsBefore v hv hrule).2
  exact ⟨hactive, hlength, hmoved, v', hv', hrule', hmoved.slotsAfter v' hv' hrule'⟩

end LeagueRoster
