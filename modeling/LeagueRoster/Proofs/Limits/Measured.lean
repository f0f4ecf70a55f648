import LeagueRoster.Proofs.Limits.Rules

/-!
The violations of a roster of any size. The census adds salaries without a bound and the roster
adds them in 32 bits, so the two part where a sum no longer fits. What the roster does set
against a limit (`LimitRule.measured`) depends on the contracts alone, and its violations are
the rules of the phase that it exceeds, each reported with both numbers cut at 32 bits
(`map_toCheck_eq_flatMap`).
-/
namespace LeagueRoster

open Roster

namespace LimitRule

/-- What the roster sets against the limit of the rule. -/
def measured (contracts : List Contract) : LimitRule → Nat
  | keeperSalary => (salaryUsed (keptContracts contracts)).toNat
  | salaryCap => (ofContracts contracts).salaryUsed.toNat
  | rule => rule.actual (census contracts)

/-- The report on one rule, if the roster breaks it. -/
def report (limits : RosterLimits) (cap : TeamCap) (contracts : List Contract)
    (rule : LimitRule) : List LimitCheck :=
  if rule.limit limits cap < rule.measured contracts then
    [⟨rule, (saturate (rule.limit limits cap)).toNat, (saturate (rule.measured contracts)).toNat⟩]
  else []

theorem mem_report {limits : RosterLimits} {cap : TeamCap} {contracts : List Contract}
    {rule : LimitRule} {k : LimitCheck} :
    k ∈ rule.report limits cap contracts ↔
      rule.limit limits cap < rule.measured contracts ∧
        k = ⟨rule, (saturate (rule.limit limits cap)).toNat,
          (saturate (rule.measured contracts)).toNat⟩ := by
  unfold report
  split
  · next hbroken => simp [hbroken]
  · next hkept => simp [hkept]

/-- A sum of salaries that fits 32 bits is the sum of the census. -/
theorem measured_eq_actual {contracts : List Contract}
    (hsalary : totalSalary contracts < UInt32.size) (rule : LimitRule) :
    rule.measured contracts = rule.actual (census contracts) := by
  cases rule with
  | keeperSalary => exact toNat_salaryUsed_kept hsalary
  | salaryCap => exact toNat_salaryUsed_active hsalary
  | keeperContracts | nonKeepableContract | preseasonContracts | rookieDevelopment
  | rookieDevelopmentInternational | activeContracts | injuredReserve => rfl

end LimitRule

theorem toNat_saturate_toNat (n : UInt32) : (saturate n.toNat).toNat = n.toNat :=
  toNat_saturate_of_lt n.toNat_lt

section Reports

variable {limits : RosterLimits} {cap : TeamCap} {contracts : List Contract} {rule : LimitRule}

theorem report_of_count {limit : UInt64} {actual : Nat} (what : String)
    (hlimit : rule.limit limits cap = limit.toNat) (hactual : rule.measured contracts = actual) :
    (Violation.ofCount rule limit actual what).map Violation.toCheck =
      rule.report limits cap contracts := by
  unfold Violation.ofCount LimitRule.report
  rw [hlimit, hactual]
  split
  · rfl
  · rfl

theorem report_of_salary {used : UInt32} (hlimit : rule.limit limits cap = cap.effective.toNat)
    (hactual : rule.measured contracts = used.toNat) :
    (Violation.ofSalary rule cap.effective used).map Violation.toCheck =
      rule.report limits cap contracts := by
  unfold Violation.ofSalary LimitRule.report
  rw [hlimit, hactual, toNat_saturate_toNat, toNat_saturate_toNat]
  simp only [UInt32.lt_iff_toNat_lt]
  split
  · rfl
  · rfl

theorem report_of_nonKeepable (limits : RosterLimits) (cap : TeamCap)
    (contracts : List Contract) :
    (nonKeepableViolation contracts).map Violation.toCheck =
      LimitRule.nonKeepableContract.report limits cap contracts := by
  have hactual : LimitRule.nonKeepableContract.measured contracts =
      (nonKeepableContracts contracts).length := (length_nonKeepableContracts contracts).symm
  unfold nonKeepableViolation LimitRule.report
  rw [hactual]
  cases nonKeepableContracts contracts with
  | nil => rfl
  | cons c rest => rfl

end Reports

section Phases

variable (contracts : List Contract) (limits : RosterLimits) (cap : TeamCap)

theorem map_toCheck_keeperViolations_eq :
    (keeperViolations contracts limits cap).map Violation.toCheck =
      (LimitRule.ofPhase .keeper).flatMap (LimitRule.report limits cap contracts) := by
  have hkept : (Violation.ofCount .keeperContracts limits.keeperContracts
      (census contracts).kept "kept contracts").map Violation.toCheck =
        LimitRule.keeperContracts.report limits cap contracts := report_of_count _ rfl rfl
  have hsalary : (Violation.ofSalary .keeperSalary cap.effective
      (salaryUsed (keptContracts contracts))).map Violation.toCheck =
        LimitRule.keeperSalary.report limits cap contracts := report_of_salary rfl rfl
  simp only [keeperViolations, List.map_append, length_keptContracts, hkept, hsalary,
    report_of_nonKeepable limits cap, LimitRule.ofPhase, List.flatMap_cons,
    List.flatMap_nil, List.append_nil, List.append_assoc]

theorem map_toCheck_seasonViolations_eq {phase : SeasonPhase} (hphase : phase ≠ .keeper) :
    (seasonViolations contracts phase limits cap).map Violation.toCheck =
      (LimitRule.ofPhase phase).flatMap (LimitRule.report limits cap contracts) := by
  have hpreseason : (Violation.ofCount .preseasonContracts limits.preseasonContracts
      ((census contracts).squad + (census contracts).domestic + (census contracts).international)
        "roster contracts").map Violation.toCheck =
          LimitRule.preseasonContracts.report limits cap contracts := report_of_count _ rfl rfl
  have hdomestic : (Violation.ofCount .rookieDevelopment limits.rookieDevelopment
      (census contracts).domestic "rookie development contracts").map Violation.toCheck =
        LimitRule.rookieDevelopment.report limits cap contracts := report_of_count _ rfl rfl
  have hinternational : (Violation.ofCount .rookieDevelopmentInternational
      limits.rookieDevelopmentInternational (census contracts).international
        "international rookie development contracts").map Violation.toCheck =
          LimitRule.rookieDevelopmentInternational.report limits cap contracts :=
    report_of_count _ rfl rfl
  have hactive : (Violation.ofCount .activeContracts limits.activeContracts
      (census contracts).squad "active contracts").map Violation.toCheck =
        LimitRule.activeContracts.report limits cap contracts := report_of_count _ rfl rfl
  have hinjured : (Violation.ofCount .injuredReserve limits.injuredReserve
      (census contracts).injured "injured reserve contracts").map Violation.toCheck =
        LimitRule.injuredReserve.report limits cap contracts := report_of_count _ rfl rfl
  have hsalary : (Violation.ofSalary .salaryCap cap.effective
      (ofContracts contracts).salaryUsed).map Violation.toCheck =
        LimitRule.salaryCap.report limits cap contracts := report_of_salary rfl rfl
  simp only [seasonViolations, List.map_append, length_active, length_domestic,
    length_international, injuredReserveSlots_eq, hinjured, hsalary]
  cases phase with
  | keeper => exact absurd rfl hphase
  | preseason =>
    rw [if_pos rfl, hpreseason]
    simp [LimitRule.ofPhase]
  | regularSeason | postSeason =>
    rw [if_neg (by decide)]
    simp [LimitRule.ofPhase, hdomestic, hinternational, hactive]

/-- The report of a phase is made rule by rule. -/
theorem map_toCheck_eq_flatMap (phase : SeasonPhase) :
    (violations contracts phase limits cap).map Violation.toCheck =
      (LimitRule.ofPhase phase).flatMap (LimitRule.report limits cap contracts) := by
  cases phase with
  | keeper => exact map_toCheck_keeperViolations_eq contracts limits cap
  | preseason | regularSeason | postSeason =>
    exact map_toCheck_seasonViolations_eq contracts limits cap (by decide)

end Phases

section Membership

variable {contracts : List Contract} {phase : SeasonPhase} {limits : RosterLimits} {cap : TeamCap}

theorem mem_map_toCheck_iff {k : LimitCheck} :
    k ∈ (violations contracts phase limits cap).map Violation.toCheck ↔
      k.rule ∈ LimitRule.ofPhase phase ∧
        k.rule.limit limits cap < k.rule.measured contracts ∧
        k.limit = (saturate (k.rule.limit limits cap)).toNat ∧
        k.actual = (saturate (k.rule.measured contracts)).toNat := by
  rw [map_toCheck_eq_flatMap, List.mem_flatMap]
  constructor
  · rintro ⟨rule, hrule, hreport⟩
    obtain ⟨hbroken, rfl⟩ := LimitRule.mem_report.mp hreport
    exact ⟨hrule, hbroken, rfl, rfl⟩
  · rintro ⟨hrule, hbroken, hlimit, hactual⟩
    refine ⟨k.rule, hrule, LimitRule.mem_report.mpr ⟨hbroken, ?_⟩⟩
    rw [← hlimit, ← hactual]

/-- What a violation says: the phase checks its rule, and the roster exceeds the limit. -/
theorem measured_of_mem_violations {v : Violation}
    (hv : v ∈ violations contracts phase limits cap) :
    v.rule ∈ LimitRule.ofPhase phase ∧ v.rule.limit limits cap < v.rule.measured contracts ∧
      v.limit = saturate (v.rule.limit limits cap) ∧
      v.actual = saturate (v.rule.measured contracts) := by
  have hcheck : v.toCheck ∈ (violations contracts phase limits cap).map Violation.toCheck :=
    List.mem_map_of_mem hv
  obtain ⟨hrule, hbroken, hlimit, hactual⟩ := mem_map_toCheck_iff.mp hcheck
  exact ⟨hrule, hbroken, UInt32.toNat_inj.mp hlimit, UInt32.toNat_inj.mp hactual⟩

theorem exists_violation_of_measured {rule : LimitRule} (hrule : rule ∈ LimitRule.ofPhase phase)
    (hbroken : rule.limit limits cap < rule.measured contracts) :
    ∃ v ∈ violations contracts phase limits cap, v.rule = rule := by
  have hcheck : (⟨rule, (saturate (rule.limit limits cap)).toNat,
      (saturate (rule.measured contracts)).toNat⟩ : LimitCheck) ∈
        (violations contracts phase limits cap).map Violation.toCheck :=
    mem_map_toCheck_iff.mpr ⟨hrule, hbroken, rfl, rfl⟩
  obtain ⟨v, hv, heq⟩ := List.mem_map.mp hcheck
  exact ⟨v, hv, congrArg LimitCheck.rule heq⟩

end Membership

end LeagueRoster
