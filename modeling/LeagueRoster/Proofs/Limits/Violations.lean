import LeagueRoster.Proofs.Limits.Measured

/-!
The violations of a roster against its census. Each phase has a fixed list of limits, and the
violations are the broken ones among them, in the order of that list, with the limit and the
count or sum that breaks it (`map_toCheck_violations`): a list that fits 32 bits is reported
exactly, even against a limit of 64 bits. A rule is therefore reported exactly when the phase
checks it and its number is above its limit (`exists_violation_iff`), and the report gives that
number and that limit (`reported_of_mem_violations`).
-/
namespace LeagueRoster

open Roster

/-- The limits of a phase, in the order in which they are checked. -/
def limitChecks (n : Census) (phase : SeasonPhase) (limits : RosterLimits) (cap : TeamCap) :
    List LimitCheck :=
  match phase with
  | .keeper =>
    [⟨.keeperContracts, limits.keeperContracts.toNat, n.kept⟩,
      ⟨.keeperSalary, cap.effective.toNat, n.keptSalary⟩,
      ⟨.nonKeepableContract, 0, n.freeAgents⟩]
  | .preseason =>
    [⟨.preseasonContracts, limits.preseasonContracts.toNat,
        n.squad + n.domestic + n.international⟩,
      ⟨.injuredReserve, limits.injuredReserve.toNat, n.injured⟩,
      ⟨.salaryCap, cap.effective.toNat, n.squadSalary⟩]
  | .regularSeason | .postSeason =>
    [⟨.rookieDevelopment, limits.rookieDevelopment.toNat, n.domestic⟩,
      ⟨.rookieDevelopmentInternational, limits.rookieDevelopmentInternational.toNat,
        n.international⟩,
      ⟨.activeContracts, limits.activeContracts.toNat, n.squad⟩,
      ⟨.injuredReserve, limits.injuredReserve.toNat, n.injured⟩,
      ⟨.salaryCap, cap.effective.toNat, n.squadSalary⟩]

theorem limitChecks_eq_map (n : Census) (phase : SeasonPhase) (limits : RosterLimits)
    (cap : TeamCap) :
    limitChecks n phase limits cap =
      (LimitRule.ofPhase phase).map fun rule => ⟨rule, rule.limit limits cap, rule.actual n⟩ := by
  cases phase <;> rfl

theorem nodup_limitChecks (n : Census) (phase : SeasonPhase) (limits : RosterLimits)
    (cap : TeamCap) : ((limitChecks n phase limits cap).map LimitCheck.rule).Nodup := by
  cases phase <;> simp [limitChecks]

/-- The squad and the development contracts off injured reserve are parts of the roster. -/
theorem squad_add_development_le (contracts : List Contract) :
    (census contracts).squad + (census contracts).domestic + (census contracts).international ≤
      contracts.length := by
  rw [← length_active, ← length_domestic, ← length_international]
  have hsize := size_add_countP_none contracts
  have hhealthy := List.length_filter_le (fun c => !c.injuredReserve)
    (ofContracts contracts).rookieDevelopment
  have hkinds := List.length_eq_length_filter_add
    (l := (ofContracts contracts).rookieDevelopment.filter fun c => !c.injuredReserve)
    fun c => c.kind.isInternational
  simp only [size] at hsize
  omega

section Bounded

variable {contracts : List Contract} (hlength : contracts.length < UInt32.size)
  (hsalary : totalSalary contracts < UInt32.size)
include hlength hsalary

theorem LimitRule.actual_lt_size (rule : LimitRule) :
    rule.actual (census contracts) < UInt32.size := by
  cases rule with
  | keeperSalary | salaryCap =>
    exact Nat.lt_of_le_of_lt (totalSalary_sublist List.filter_sublist) hsalary
  | preseasonContracts => exact Nat.lt_of_le_of_lt (squad_add_development_le contracts) hlength
  | keeperContracts | nonKeepableContract | rookieDevelopment | rookieDevelopmentInternational
  | activeContracts | injuredReserve => exact Nat.lt_of_le_of_lt List.countP_le_length hlength

/-- A number that fits 32 bits is reported as it is, and so is a limit below it. -/
theorem report_of_bounded (rule : LimitRule) (limits : RosterLimits) (cap : TeamCap) :
    rule.report limits cap contracts =
      [⟨rule, rule.limit limits cap, rule.actual (census contracts)⟩].filter LimitCheck.Broken := by
  have hactual := LimitRule.actual_lt_size hlength hsalary rule
  unfold LimitRule.report
  rw [LimitRule.measured_eq_actual hsalary]
  split
  · next hbroken =>
    have hlimit := Nat.lt_trans hbroken hactual
    simp [LimitCheck.Broken, toNat_saturate_of_lt hlimit, toNat_saturate_of_lt hactual, hbroken]
  · next hkept => simp [LimitCheck.Broken, hkept]

theorem map_toCheck_violations (phase : SeasonPhase) (limits : RosterLimits) (cap : TeamCap) :
    (violations contracts phase limits cap).map Violation.toCheck =
      (limitChecks (census contracts) phase limits cap).filter LimitCheck.Broken := by
  rw [map_toCheck_eq_flatMap, limitChecks_eq_map, List.map_eq_flatMap, List.filter_flatMap]
  exact congrArg (LimitRule.ofPhase phase).flatMap
    (funext fun rule => report_of_bounded hlength hsalary rule limits cap)

theorem mem_map_toCheck_violations {phase : SeasonPhase} {limits : RosterLimits} {cap : TeamCap}
    {k : LimitCheck} :
    k ∈ (violations contracts phase limits cap).map Violation.toCheck ↔
      k.rule ∈ LimitRule.ofPhase phase ∧ k.limit = k.rule.limit limits cap ∧
        k.actual = k.rule.actual (census contracts) ∧ k.limit < k.actual := by
  rw [map_toCheck_violations hlength hsalary, limitChecks_eq_map, List.mem_filter, List.mem_map,
    decide_eq_true_eq]
  constructor
  · rintro ⟨⟨rule, hrule, rfl⟩, hbroken⟩
    exact ⟨hrule, rfl, rfl, hbroken⟩
  · rintro ⟨hrule, hlimit, hactual, hbroken⟩
    refine ⟨⟨k.rule, hrule, ?_⟩, hbroken⟩
    rw [← hlimit, ← hactual]

theorem reported_of_mem_violations {phase : SeasonPhase} {limits : RosterLimits} {cap : TeamCap}
    {v : Violation} (hv : v ∈ violations contracts phase limits cap) :
    v.limit.toNat = v.rule.limit limits cap ∧
      v.actual.toNat = v.rule.actual (census contracts) := by
  have hcheck : v.toCheck ∈ (violations contracts phase limits cap).map Violation.toCheck :=
    List.mem_map_of_mem hv
  obtain ⟨-, hlimit, hactual, -⟩ := (mem_map_toCheck_violations hlength hsalary).mp hcheck
  exact ⟨hlimit, hactual⟩

theorem exists_violation_iff {phase : SeasonPhase} {limits : RosterLimits} {cap : TeamCap}
    {rule : LimitRule} :
    (∃ v ∈ violations contracts phase limits cap, v.rule = rule) ↔
      rule ∈ LimitRule.ofPhase phase ∧
        rule.limit limits cap < rule.actual (census contracts) := by
  constructor
  · rintro ⟨v, hv, rfl⟩
    have hcheck : v.toCheck ∈ (violations contracts phase limits cap).map Violation.toCheck :=
      List.mem_map_of_mem hv
    obtain ⟨hrule, hlimit, hactual, hbroken⟩ :=
      (mem_map_toCheck_violations hlength hsalary).mp hcheck
    rw [hlimit, hactual] at hbroken
    exact ⟨hrule, hbroken⟩
  · rintro ⟨hrule, hbroken⟩
    have hcheck : (⟨rule, rule.limit limits cap, rule.actual (census contracts)⟩ : LimitCheck) ∈
        (violations contracts phase limits cap).map Violation.toCheck :=
      (mem_map_toCheck_violations hlength hsalary).mpr ⟨hrule, rfl, rfl, hbroken⟩
    obtain ⟨v, hv, heq⟩ := List.mem_map.mp hcheck
    exact ⟨v, hv, congrArg LimitCheck.rule heq⟩

end Bounded

/-- For contracts and salaries that 32 bits can count, the violations are the limits of the
phase that an independent count of the contracts finds broken: in order, each at most once,
and with a reported number above the reported limit. -/
theorem violations_agree_with_census (contracts : List Contract) (phase : SeasonPhase)
    (limits : RosterLimits) (cap : TeamCap) (hlength : contracts.length < UInt32.size)
    (hsalary : totalSalary contracts < UInt32.size) :
    (violations contracts phase limits cap).map Violation.toCheck =
        (limitChecks (census contracts) phase limits cap).filter LimitCheck.Broken ∧
      ((violations contracts phase limits cap).map Violation.rule).Nodup ∧
      ∀ v ∈ violations contracts phase limits cap, v.limit < v.actual := by
  have hchecks := map_toCheck_violations hlength hsalary phase limits cap
  refine ⟨hchecks, ?_, ?_⟩
  · have hrules : (violations contracts phase limits cap).map Violation.rule =
        ((limitChecks (census contracts) phase limits cap).filter LimitCheck.Broken).map
          LimitCheck.rule := by
      rw [← hchecks, List.map_map]
      rfl
    rw [hrules]
    exact (nodup_limitChecks _ phase limits cap).sublist (List.filter_sublist.map _)
  · intro v hv
    have hmem : v.toCheck ∈ (limitChecks (census contracts) phase limits cap).filter
        LimitCheck.Broken := by
      rw [← hchecks]
      exact List.mem_map_of_mem hv
    have hbroken := (List.mem_filter.mp hmem).2
    rw [decide_eq_true_eq] at hbroken
    exact UInt32.lt_iff_toNat_lt.mpr hbroken

/-- Over the cap, with a second contract on injured reserve that is a development contract. -/
def crowdedTeam : List Contract :=
  let contract (id : Int64) (kind : ContractKind) (salary : UInt16) : Contract :=
    { id, kind, salary, year := 1, player := .real { id, name := "Player" } }
  [contract 1 .veteran 150, contract 2 .rookie 60,
    { contract 3 .rookieExtension 30 with injuredReserve := true },
    { contract 4 .rookieDevelopment 1 with injuredReserve := true },
    { contract 5 .rookieDevelopment 1 with status := .expired },
    contract 6 .rookieDevelopmentInternational 1, contract 7 .rookieDevelopmentInternational 1,
    contract 8 .freeAgent 90]

theorem violations_crowdedTeam :
    crowdedTeam.length < UInt32.size ∧ totalSalary crowdedTeam < UInt32.size ∧
      (violations crowdedTeam .regularSeason {} ⟨.regularSeason, 200, 0, 200⟩).map
          Violation.toCheck =
        [⟨.rookieDevelopmentInternational, 1, 2⟩, ⟨.injuredReserve, 1, 2⟩,
          ⟨.salaryCap, 200, 210⟩] := by
  have hlength : crowdedTeam.length < UInt32.size := by decide
  have hsalary : totalSalary crowdedTeam < UInt32.size := by decide
  refine ⟨hlength, hsalary, ?_⟩
  rw [(violations_agree_with_census crowdedTeam .regularSeason {} ⟨.regularSeason, 200, 0, 200⟩
    hlength hsalary).1]
  decide

end LeagueRoster
