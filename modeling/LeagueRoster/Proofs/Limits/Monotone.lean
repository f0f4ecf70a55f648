import LeagueRoster.Config.Setting
import LeagueRoster.Proofs.Limits.Violations

/-!
More contracts never make a number of the census smaller, so a roster breaks every limit that
a part of it breaks; and a limit that is raised is not broken by a roster that kept it before.
What is reported of a roster against a limit does not depend on the limit. Every part of a
legal roster is therefore legal (`violations_monotone`).
-/
namespace LeagueRoster

theorem totalSalary_filter_sublist {contracts contracts' : List Contract}
    (h : contracts.Sublist contracts') (p : Contract → Bool) :
    totalSalary (contracts.filter p) ≤ totalSalary (contracts'.filter p) :=
  totalSalary_sublist (h.filter p)

namespace LimitRule

theorem actual_le_of_sublist {contracts contracts' : List Contract}
    (h : contracts.Sublist contracts') (rule : LimitRule) :
    rule.actual (census contracts) ≤ rule.actual (census contracts') := by
  cases rule with
  | preseasonContracts => exact Nat.add_le_add (Nat.add_le_add h.countP_le h.countP_le) h.countP_le
  | keeperSalary | salaryCap => exact totalSalary_filter_sublist h _
  | keeperContracts | nonKeepableContract | rookieDevelopment | rookieDevelopmentInternational
  | activeContracts | injuredReserve => exact h.countP_le

/-- The sums of the larger roster must fit 32 bits, since a sum that wraps may fall. -/
theorem measured_le_of_sublist {contracts contracts' : List Contract}
    (h : contracts.Sublist contracts') (hsalary : totalSalary contracts' < UInt32.size)
    (rule : LimitRule) : rule.measured contracts ≤ rule.measured contracts' := by
  have hpart : totalSalary contracts < UInt32.size :=
    Nat.lt_of_le_of_lt (totalSalary_sublist h) hsalary
  rw [measured_eq_actual hpart, measured_eq_actual hsalary]
  exact actual_le_of_sublist h rule

theorem limit_le_of_raised {limits limits' : RosterLimits} {cap cap' : TeamCap}
    (hlimits : ∀ which, limits.get which ≤ limits'.get which)
    (hcap : cap.effective ≤ cap'.effective) (rule : LimitRule) :
    rule.limit limits cap ≤ rule.limit limits' cap' := by
  cases rule with
  | keeperSalary | salaryCap => exact UInt32.le_iff_toNat_le.mp hcap
  | nonKeepableContract => exact Nat.le_refl 0
  | keeperContracts => exact UInt64.le_iff_toNat_le.mp (hlimits .keeperContracts)
  | preseasonContracts => exact UInt64.le_iff_toNat_le.mp (hlimits .preseasonContracts)
  | rookieDevelopment => exact UInt64.le_iff_toNat_le.mp (hlimits .rookieDevelopment)
  | rookieDevelopmentInternational =>
    exact UInt64.le_iff_toNat_le.mp (hlimits .rookieDevelopmentInternational)
  | activeContracts => exact UInt64.le_iff_toNat_le.mp (hlimits .activeContracts)
  | injuredReserve => exact UInt64.le_iff_toNat_le.mp (hlimits .injuredReserve)

end LimitRule

theorem saturate_le_saturate {m n : Nat} (h : m ≤ n) : saturate m ≤ saturate n := by
  rw [UInt32.le_iff_toNat_le, toNat_saturate, toNat_saturate]
  omega

section Part

variable {contracts contracts' : List Contract} {phase : SeasonPhase} {limits : RosterLimits}
  {cap : TeamCap} {v v' : Violation}

theorem exists_violation_of_sublist (h : contracts.Sublist contracts')
    (hsalary : totalSalary contracts' < UInt32.size)
    (hv : v ∈ violations contracts phase limits cap) :
    ∃ v' ∈ violations contracts' phase limits cap, v'.rule = v.rule := by
  obtain ⟨hrule, hbroken, -, -⟩ := measured_of_mem_violations hv
  have hmore := LimitRule.measured_le_of_sublist h hsalary v.rule
  exact exists_violation_of_measured hrule (Nat.lt_of_lt_of_le hbroken hmore)

theorem report_le_of_sublist (h : contracts.Sublist contracts')
    (hsalary : totalSalary contracts' < UInt32.size)
    (hv : v ∈ violations contracts phase limits cap)
    (hv' : v' ∈ violations contracts' phase limits cap) (hrule : v'.rule = v.rule) :
    v'.limit = v.limit ∧ v.actual ≤ v'.actual := by
  obtain ⟨-, -, hlimit, hactual⟩ := measured_of_mem_violations hv
  obtain ⟨-, -, hlimit', hactual'⟩ := measured_of_mem_violations hv'
  rw [hlimit, hactual, hlimit', hactual', hrule]
  exact ⟨rfl, saturate_le_saturate (LimitRule.measured_le_of_sublist h hsalary v.rule)⟩

end Part

section Raised

variable {contracts : List Contract} {phase : SeasonPhase} {limits limits' : RosterLimits}
  {cap cap' : TeamCap} {v v' : Violation}

theorem exists_violation_of_raised (hlimits : ∀ which, limits.get which ≤ limits'.get which)
    (hcap : cap.effective ≤ cap'.effective) (hv' : v' ∈ violations contracts phase limits' cap') :
    ∃ v ∈ violations contracts phase limits cap, v.rule = v'.rule := by
  obtain ⟨hrule, hbroken, -, -⟩ := measured_of_mem_violations hv'
  have hlower := LimitRule.limit_le_of_raised hlimits hcap v'.rule
  exact exists_violation_of_measured hrule (Nat.lt_of_le_of_lt hlower hbroken)

/-- What is reported of a roster is the same under any limits. -/
theorem actual_eq_of_rule_eq (hv : v ∈ violations contracts phase limits cap)
    (hv' : v' ∈ violations contracts phase limits' cap') (hrule : v'.rule = v.rule) :
    v'.actual = v.actual := by
  obtain ⟨-, -, -, hactual⟩ := measured_of_mem_violations hv
  obtain ⟨-, -, -, hactual'⟩ := measured_of_mem_violations hv'
  rw [hactual, hactual', hrule]

end Raised

/-- Validation is monotone in the roster and antitone in the limits. A roster of at most 65537
contracts breaks each rule that a part of it breaks, against the same limit and with no less
set against it, so a part of a legal roster is legal. Raising limits or the cap breaks no rule
that was kept, for rosters of any size, and the rules still broken report what they did. -/
theorem violations_monotone (phase : SeasonPhase) :
    (∀ (limits : RosterLimits) (cap : TeamCap) (contracts contracts' : List Contract),
      contracts.Sublist contracts' → contracts'.length ≤ 65537 →
        (∀ v ∈ violations contracts phase limits cap,
          (∃ v' ∈ violations contracts' phase limits cap, v'.rule = v.rule) ∧
            ∀ v' ∈ violations contracts' phase limits cap, v'.rule = v.rule →
              v'.limit = v.limit ∧ v.actual ≤ v'.actual) ∧
          (violations contracts' phase limits cap = [] →
            violations contracts phase limits cap = [])) ∧
      ∀ (contracts : List Contract) (limits limits' : RosterLimits) (cap cap' : TeamCap),
        (∀ which, limits.get which ≤ limits'.get which) → cap.effective ≤ cap'.effective →
          ∀ v' ∈ violations contracts phase limits' cap',
            (∃ v ∈ violations contracts phase limits cap, v.rule = v'.rule) ∧
              ∀ v ∈ violations contracts phase limits cap, v.rule = v'.rule →
                v'.actual = v.actual := by
  constructor
  · intro limits cap contracts contracts' hsub hlength
    have hsalary := totalSalary_lt_of_length_le hlength
    constructor
    · intro v hv
      refine ⟨exists_violation_of_sublist hsub hsalary hv, ?_⟩
      intro v' hv' hrule
      exact report_le_of_sublist hsub hsalary hv hv' hrule
    · intro hlegal
      apply List.eq_nil_iff_forall_not_mem.mpr
      intro v hv
      obtain ⟨v', hv', -⟩ := exists_violation_of_sublist hsub hsalary hv
      rw [hlegal] at hv'
      exact absurd hv' List.not_mem_nil
  · intro contracts limits limits' cap cap' hlimits hcap v' hv'
    refine ⟨exists_violation_of_raised hlimits hcap hv', ?_⟩
    intro v hv hrule
    exact actual_eq_of_rule_eq hv hv' hrule.symm

/-- The crowded team already has one international too many without its first three contracts,
and with all of them it is over a cap of 205 as it is over one of 200. -/
theorem violations_monotone_crowdedTeam :
    let part := crowdedTeam.drop 3
    let raised : RosterLimits := { rookieDevelopmentInternational := 2 }
    let cap : TeamCap := ⟨.regularSeason, 200, 0, 200⟩
    let cap' : TeamCap := ⟨.regularSeason, 205, 0, 205⟩
    part.Sublist crowdedTeam ∧ crowdedTeam.length ≤ 65537 ∧
      (∀ which, ({} : RosterLimits).get which ≤ raised.get which) ∧
      cap.effective ≤ cap'.effective ∧
      (∃ v ∈ violations part .regularSeason {} cap, v.rule = .rookieDevelopmentInternational ∧
        ∃ v' ∈ violations crowdedTeam .regularSeason {} cap,
          v'.rule = v.rule ∧ v'.limit = v.limit ∧ v.actual ≤ v'.actual) ∧
      ∃ v' ∈ violations crowdedTeam .regularSeason raised cap', v'.rule = .salaryCap ∧
        ∃ v ∈ violations crowdedTeam .regularSeason {} cap,
          v.rule = v'.rule ∧ v'.actual = v.actual := by
  intro part raised cap cap'
  have hsub : part.Sublist crowdedTeam := List.drop_sublist 3 crowdedTeam
  have hlength : crowdedTeam.length ≤ 65537 := by decide
  have hlimits : ∀ which, ({} : RosterLimits).get which ≤ raised.get which := by
    intro which
    cases which <;> decide
  have hcap : cap.effective ≤ cap'.effective := by decide
  refine ⟨hsub, hlength, hlimits, hcap, ?_, ?_⟩
  · obtain ⟨v, hv, hrule⟩ : ∃ v ∈ violations part .regularSeason {} cap,
        v.rule = .rookieDevelopmentInternational :=
      exists_violation_of_measured (by decide) (by decide)
    obtain ⟨⟨v', hv', hrule'⟩, hreport⟩ :=
      ((violations_monotone .regularSeason).1 {} cap part crowdedTeam hsub hlength).1 v hv
    exact ⟨v, hv, hrule, v', hv', hrule', hreport v' hv' hrule'⟩
  · have hsalary : totalSalary crowdedTeam < UInt32.size := by decide
    have hbroken : LimitRule.salaryCap.limit raised cap' <
        LimitRule.salaryCap.measured crowdedTeam := by
      rw [LimitRule.measured_eq_actual hsalary]
      decide
    obtain ⟨v', hv', hrule'⟩ : ∃ v' ∈ violations crowdedTeam .regularSeason raised cap',
        v'.rule = .salaryCap :=
      exists_violation_of_measured (by decide) hbroken
    obtain ⟨⟨v, hv, hrule⟩, hactual⟩ :=
      (violations_monotone .regularSeason).2 crowdedTeam {} raised cap cap' hlimits hcap v' hv'
    exact ⟨v', hv', hrule', v, hv, hrule, hactual v hv hrule⟩

end LeagueRoster
