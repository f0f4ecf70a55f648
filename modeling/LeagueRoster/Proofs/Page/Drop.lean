import LeagueRoster.Page
import LeagueRoster.Proofs.Cap.Penalty
import LeagueRoster.Proofs.Limits.Monotone

/-!
Dropping a contract of the active squad. The roster loses a salary and the cap loses a share of
it, so the room under the cap does not shrink, and no count of contracts grows. The page after
the drop is therefore no worse than the page before it (`drop_never_hurts`).
-/
namespace LeagueRoster

open Roster

theorem totalSalary_filter_middle {c : Contract} {p : Contract → Bool} (hc : p c)
    (front back : List Contract) :
    totalSalary ((front ++ c :: back).filter p) =
      c.salary.toNat + totalSalary ((front ++ back).filter p) := by
  rw [totalSalary_perm (List.perm_middle.filter p), List.filter_cons_of_pos hc, totalSalary_cons]

/-- A limit may fall by the salary of a dropped contract, but only where the salaries that are
counted against it fall by as much. -/
theorem LimitRule.limit_le_of_drop {c : Contract} (hc : OnSquad c) (front back : List Contract)
    (limits : RosterLimits) {cap cap' : TeamCap}
    (hcap : cap.effective.toNat ≤ cap'.effective.toNat + c.salary.toNat) (rule : LimitRule) :
    rule.limit limits cap + rule.actual (census (front ++ back)) ≤
      rule.limit limits cap' + rule.actual (census (front ++ c :: back)) := by
  have hactual : rule.actual (census (front ++ back)) ≤
      rule.actual (census (front ++ c :: back)) :=
    actual_le_of_sublist ((List.sublist_cons_self c back).append_left front) rule
  cases rule with
  | keeperSalary =>
    have hkept : OnKeeperList c := ⟨hc.1, hc.2.2⟩
    have hsalary := totalSalary_filter_middle (p := fun c => OnKeeperList c) (decide_eq_true hkept)
      front back
    simp only [limit, actual, census]
    omega
  | salaryCap =>
    have hsalary := totalSalary_filter_middle (p := fun c => OnSquad c) (decide_eq_true hc)
      front back
    simp only [limit, actual, census]
    omega
  | keeperContracts | nonKeepableContract | preseasonContracts | rookieDevelopment
  | rookieDevelopmentInternational | activeContracts | injuredReserve =>
    exact Nat.add_le_add_left hactual _

/-- Moving a contract of the active group to the dropped contracts, wherever it goes there,
leaves at least as much room under the cap and breaks no rule that was kept before. -/
theorem drop_never_hurts (team : Team) (phase : SeasonPhase) (config : Config) (viewer : Viewer)
    {front back earlier later : List Contract} {c : Contract}
    (hcontracts : team.contracts = front ++ c :: back)
    (hdropped : team.droppedContracts = earlier ++ later) (hactive : classify c = some .active)
    (hlength : team.contracts.length ≤ 65537) (hpercent : config.caps.dropPenaltyPercent ≤ 100) :
    let dropped : Team :=
      { team with contracts := front ++ back, droppedContracts := earlier ++ c :: later }
    let before := RosterPage.ofTeam team phase config viewer
    let after := RosterPage.ofTeam dropped phase config viewer
    before.summary.capSpace ≤ after.summary.capSpace ∧
      ∀ v ∈ after.violations, ∃ v' ∈ before.violations, v'.rule = v.rule := by
  intro dropped before after
  have hlength' : (front ++ back).length ≤ 65537 := by
    rw [hcontracts] at hlength
    simp only [List.length_append, List.length_cons] at hlength ⊢
    omega
  have hsalary := totalSalary_lt_of_length_le hlength
  have hsalary' := totalSalary_lt_of_length_le hlength'
  have hsquad : OnSquad c := (classify_eq_active_iff c).mp hactive
  have hcap : before.summary.cap.effective.toNat ≤
      after.summary.cap.effective.toNat + c.salary.toNat := by
    have heffective := TeamCap.effective_le_effective_drop phase
      (UInt32.le_iff_toNat_le.mp hpercent) earlier later c
    rw [← hdropped] at heffective
    exact heffective
  constructor
  · have hused : before.summary.salaryUsed.toNat =
        c.salary.toNat + after.summary.salaryUsed.toNat := by
      have hbefore : before.summary.salaryUsed.toNat = (census team.contracts).squadSalary :=
        toNat_salaryUsed_active hsalary
      have hafter : after.summary.salaryUsed.toNat = (census (front ++ back)).squadSalary :=
        toNat_salaryUsed_active hsalary'
      rw [hbefore, hafter, hcontracts]
      exact totalSalary_filter_middle (decide_eq_true hsquad) front back
    show (before.summary.cap.effective.toNat : Int) - before.summary.salaryUsed.toNat ≤
      after.summary.cap.effective.toNat - after.summary.salaryUsed.toNat
    omega
  · intro v hv
    have hsize : team.contracts.length < UInt32.size := Nat.lt_of_le_of_lt hlength (by decide)
    have hsize' : (front ++ back).length < UInt32.size := Nat.lt_of_le_of_lt hlength' (by decide)
    obtain ⟨hchecked, hbroken⟩ := (exists_violation_iff hsize' hsalary').mp ⟨v, hv, rfl⟩
    have hlimit := LimitRule.limit_le_of_drop hsquad front back config.limits hcap v.rule
    rw [← hcontracts] at hlimit
    refine (exists_violation_iff hsize hsalary).mpr ⟨hchecked, ?_⟩
    have hbroken : v.rule.limit config.limits after.summary.cap <
        v.rule.actual (census (front ++ back)) := hbroken
    show v.rule.limit config.limits before.summary.cap < v.rule.actual (census team.contracts)
    omega

/-- The crowded team is ten over its cap and drops its second contract, a rookie. -/
theorem drop_rookie_of_crowdedTeam :
    let team : Team :=
      { id := 4, name := "Kai", contracts := crowdedTeam, droppedContracts := crowdedTeam.drop 7 }
    let dropped : Team :=
      { team with
        contracts := crowdedTeam.take 1 ++ crowdedTeam.drop 2
        droppedContracts := [] ++ crowdedTeam[1] :: crowdedTeam.drop 7 }
    let before := RosterPage.ofTeam team .regularSeason {} {}
    let after := RosterPage.ofTeam dropped .regularSeason {} {}
    classify crowdedTeam[1] = some .active ∧ team.contracts.length ≤ 65537 ∧
      ({} : Config).caps.dropPenaltyPercent ≤ 100 ∧
      before.summary.capSpace ≤ after.summary.capSpace ∧
      ∀ v ∈ after.violations, ∃ v' ∈ before.violations, v'.rule = v.rule := by
  intro team dropped before after
  have hactive : classify crowdedTeam[1] = some .active := by decide
  have hlength : team.contracts.length ≤ 65537 := by decide
  have hpercent : ({} : Config).caps.dropPenaltyPercent ≤ 100 := by decide
  exact ⟨hactive, hlength, hpercent,
    drop_never_hurts team .regularSeason {} {} rfl rfl hactive hlength hpercent⟩

end LeagueRoster
