import LeagueRoster.Page
import LeagueRoster.Proofs.Cap.Penalty
import LeagueRoster.Proofs.Limits.Measured
import LeagueRoster.Proofs.Roster.Order
import Mathlib.Data.List.Forall2

/-!
A page does not depend on the order in which the contracts of a team are delivered. Counts and
sums are the same for every order. Contracts that a sort leaves in the order of the input show
the same keys, because only equal names tie, so the sorted groups read the same
(`map_activeKeys_perm`, `map_developmentKeys_perm`). Of the violations only the one message
that lists names may list them in another order (`ofTeam_perm`).
-/
namespace LeagueRoster

open NameOrder StableSort

namespace Roster

/-- What a row of the active group is sorted by, as it is shown. -/
def activeKeys (c : Contract) : UInt16 × UInt16 × String := (c.salary, c.year, c.displayName)

/-- What a row of the development group is sorted by, as it is shown. -/
def developmentKeys (c : Contract) : Bool × UInt16 × String :=
  (c.kind.isInternational, c.year, c.displayName)

theorem compareSeniority_eq_eq_shown (a b : Contract) :
    compareSeniority a b = .eq ↔ a.year = b.year ∧ a.displayName = b.displayName := by
  rw [compareSeniority_eq_eq, ← displayName_eq_shownName, ← displayName_eq_shownName,
    Std.LawfulEqCmp.compare_eq_iff_eq]

theorem compareActive_eq_eq_keys (a b : Contract) :
    compareActive a b = .eq ↔ activeKeys a = activeKeys b := by
  rw [compareActive_eq, Ordering.then_eq_eq, Std.compare_eq_iff_eq, compareSeniority_eq_eq_shown,
    activeKeys, activeKeys, Prod.mk.injEq, Prod.mk.injEq, eq_comm]

theorem compareDevelopment_eq_eq_keys (a b : Contract) :
    compareDevelopment a b = .eq ↔ developmentKeys a = developmentKeys b := by
  rw [compareDevelopment_eq, Ordering.then_eq_eq, Std.compare_eq_iff_eq,
    compareSeniority_eq_eq_shown, developmentKeys, developmentKeys, Prod.mk.injEq, Prod.mk.injEq]

variable {contracts contracts' : List Contract}

theorem members_perm (h : contracts.Perm contracts') (g : RosterGroup) :
    (members g contracts).Perm (members g contracts') :=
  h.filter _

theorem map_activeKeys_perm (h : contracts.Perm contracts') :
    (ofContracts contracts).active.map activeKeys =
      (ofContracts contracts').active.map activeKeys :=
  map_mergeSort_eq_of_perm compareActive_eq_eq_keys (members_perm h .active)

theorem map_developmentKeys_perm (h : contracts.Perm contracts') :
    (ofContracts contracts).rookieDevelopment.map developmentKeys =
      (ofContracts contracts').rookieDevelopment.map developmentKeys :=
  map_mergeSort_eq_of_perm compareDevelopment_eq_eq_keys (members_perm h .rookieDevelopment)

theorem group_ofContracts_perm (h : contracts.Perm contracts') (g : RosterGroup) :
    ((ofContracts contracts).group g).Perm ((ofContracts contracts').group g) :=
  (group_perm contracts g).trans ((members_perm h g).trans (group_perm contracts' g).symm)

end Roster

open Roster

section Violations

variable {contracts contracts' : List Contract}

theorem seasonViolations_perm (h : contracts.Perm contracts') (phase : SeasonPhase)
    (limits : RosterLimits) (cap : TeamCap) :
    seasonViolations contracts phase limits cap = seasonViolations contracts' phase limits cap := by
  have hactive : (ofContracts contracts).active.Perm (ofContracts contracts').active :=
    group_ofContracts_perm h .active
  have hdevelopment : (ofContracts contracts).rookieDevelopment.Perm
      (ofContracts contracts').rookieDevelopment := group_ofContracts_perm h .rookieDevelopment
  have hkinds : ∀ p : Contract → Bool,
      (((ofContracts contracts).rookieDevelopment.filter fun c => !c.injuredReserve).filter
        p).length =
        (((ofContracts contracts').rookieDevelopment.filter fun c => !c.injuredReserve).filter
          p).length := by
    intro p
    exact ((hdevelopment.filter _).filter _).length_eq
  have hslots : injuredReserveSlots contracts = injuredReserveSlots contracts' :=
    (h.filter _).length_eq
  have hsalary : (ofContracts contracts).salaryUsed = (ofContracts contracts').salaryUsed :=
    salaryUsed_perm hactive
  simp only [seasonViolations, hactive.length_eq, hkinds, hslots, hsalary]

/-- The text in front of the names of contracts that cannot be kept. -/
def nonKeepableText : String := "contracts that cannot be kept: "

/-- Two reports that differ at most in the order in which one message lists names. -/
structure Violation.SameUpToNames (v v' : Violation) : Prop where
  rule : v.rule = v'.rule
  limit : v.limit = v'.limit
  actual : v.actual = v'.actual
  message : v.rule ≠ .nonKeepableContract → v.message = v'.message
  names : v.rule = .nonKeepableContract → ∃ names names' : List String, names.Perm names' ∧
    v.message = nonKeepableText ++ ", ".intercalate names ∧
    v'.message = nonKeepableText ++ ", ".intercalate names'

theorem nonKeepableViolation_perm (h : contracts.Perm contracts') :
    List.Forall₂ Violation.SameUpToNames (nonKeepableViolation contracts)
      (nonKeepableViolation contracts') := by
  have hfound : (nonKeepableContracts contracts).Perm (nonKeepableContracts contracts') :=
    h.filter _
  unfold nonKeepableViolation
  cases hc : nonKeepableContracts contracts with
  | nil =>
    rw [hc] at hfound
    have hc' : nonKeepableContracts contracts' = [] := hfound.nil_eq.symm
    rw [hc']
    exact .nil
  | cons c rest =>
    cases hc' : nonKeepableContracts contracts' with
    | nil =>
      rw [hc, hc'] at hfound
      exact absurd hfound.eq_nil (List.cons_ne_nil c rest)
    | cons c' rest' =>
      rw [hc, hc'] at hfound
      refine .cons ⟨rfl, rfl, ?_, ?_, ?_⟩ .nil
      · exact congrArg saturate hfound.length_eq
      · intro hrule
        exact absurd rfl hrule
      · intro _
        exact ⟨_, _, hfound.map Contract.displayName, rfl, rfl⟩

theorem forall₂_sameUpToNames_self {vs : List Violation}
    (h : ∀ v ∈ vs, v.rule ≠ .nonKeepableContract) :
    List.Forall₂ Violation.SameUpToNames vs vs := by
  apply List.forall₂_same.mpr
  intro v hv
  refine ⟨rfl, rfl, rfl, fun _ => rfl, ?_⟩
  intro hrule
  exact absurd hrule (h v hv)

theorem rule_of_mem_ofCount {rule : LimitRule} {limit : UInt64} {actual : Nat} {what : String}
    {v : Violation} (hv : v ∈ Violation.ofCount rule limit actual what) : v.rule = rule := by
  unfold Violation.ofCount at hv
  split at hv
  · rw [List.mem_singleton.mp hv]
  · exact absurd hv List.not_mem_nil

theorem rule_of_mem_ofSalary {rule : LimitRule} {cap used : UInt32} {v : Violation}
    (hv : v ∈ Violation.ofSalary rule cap used) : v.rule = rule := by
  unfold Violation.ofSalary at hv
  split at hv
  · rw [List.mem_singleton.mp hv]
  · exact absurd hv List.not_mem_nil

theorem keeperViolations_perm (h : contracts.Perm contracts') (limits : RosterLimits)
    (cap : TeamCap) :
    List.Forall₂ Violation.SameUpToNames (keeperViolations contracts limits cap)
      (keeperViolations contracts' limits cap) := by
  have hkept : (keptContracts contracts).Perm (keptContracts contracts') := h.filter _
  simp only [keeperViolations, hkept.length_eq, salaryUsed_perm hkept]
  refine List.rel_append (forall₂_sameUpToNames_self ?_) (nonKeepableViolation_perm h)
  intro v hv
  rcases List.mem_append.mp hv with hv | hv
  · rw [rule_of_mem_ofCount hv]
    decide
  · rw [rule_of_mem_ofSalary hv]
    decide

theorem nonKeepableContract_not_mem_ofPhase {phase : SeasonPhase} (hphase : phase ≠ .keeper) :
    .nonKeepableContract ∉ LimitRule.ofPhase phase := by
  cases phase with
  | keeper => exact absurd rfl hphase
  | preseason | regularSeason | postSeason => decide

theorem violations_perm (h : contracts.Perm contracts') (phase : SeasonPhase)
    (limits : RosterLimits) (cap : TeamCap) :
    List.Forall₂ Violation.SameUpToNames (violations contracts phase limits cap)
      (violations contracts' phase limits cap) := by
  by_cases hphase : phase = .keeper
  · subst hphase
    exact keeperViolations_perm h limits cap
  · have heq : violations contracts phase limits cap = violations contracts' phase limits cap := by
      cases phase with
      | keeper => exact absurd rfl hphase
      | preseason | regularSeason | postSeason => exact seasonViolations_perm h _ limits cap
    rw [heq]
    apply forall₂_sameUpToNames_self
    intro v hv hrule
    have hchecked := (measured_of_mem_violations hv).1
    rw [hrule] at hchecked
    exact nonKeepableContract_not_mem_ofPhase hphase hchecked

end Violations

/-- However the contracts of a team and those it dropped are ordered, its page has the same
summary, the same violations up to the order of the names of contracts that cannot be kept,
and sorted groups whose rows show the same keys in the same places. -/
theorem ofTeam_perm (team : Team) {contracts dropped : List Contract}
    (hcontracts : contracts.Perm team.contracts) (hdropped : dropped.Perm team.droppedContracts)
    (phase : SeasonPhase) (config : Config) (viewer : Viewer) :
    let reordered : Team := { team with contracts, droppedContracts := dropped }
    let page := RosterPage.ofTeam team phase config viewer
    let page' := RosterPage.ofTeam reordered phase config viewer
    page'.summary = page.summary ∧
      List.Forall₂ Violation.SameUpToNames page'.violations page.violations ∧
      page'.roster.active.map activeKeys = page.roster.active.map activeKeys ∧
      page'.roster.rookieDevelopment.map developmentKeys =
        page.roster.rookieDevelopment.map developmentKeys := by
  intro reordered page page'
  have hcap : TeamCap.forPhase phase config.caps dropped =
      TeamCap.forPhase phase config.caps team.droppedContracts :=
    TeamCap.forPhase_perm hdropped phase config.caps
  have hactive : (ofContracts contracts).active.Perm (ofContracts team.contracts).active :=
    group_ofContracts_perm hcontracts .active
  have hinjured : (ofContracts contracts).injuredReserve.Perm
      (ofContracts team.contracts).injuredReserve :=
    group_ofContracts_perm hcontracts .injuredReserve
  have hdevelopment : (ofContracts contracts).rookieDevelopment.Perm
      (ofContracts team.contracts).rookieDevelopment :=
    group_ofContracts_perm hcontracts .rookieDevelopment
  have hsalary : (ofContracts contracts).salaryUsed = (ofContracts team.contracts).salaryUsed :=
    salaryUsed_perm hactive
  refine ⟨?_, ?_, map_activeKeys_perm hcontracts, map_developmentKeys_perm hcontracts⟩
  · show Summary.ofRoster reordered (ofContracts contracts)
        (TeamCap.forPhase phase config.caps dropped) =
      Summary.ofRoster team (ofContracts team.contracts)
        (TeamCap.forPhase phase config.caps team.droppedContracts)
    simp only [Summary.ofRoster, hcap, hsalary, hactive.length_eq, hinjured.length_eq,
      hdevelopment.length_eq, reordered]
  · show List.Forall₂ Violation.SameUpToNames
      (violations contracts phase config.limits (TeamCap.forPhase phase config.caps dropped))
      (violations team.contracts phase config.limits
        (TeamCap.forPhase phase config.caps team.droppedContracts))
    rw [hcap]
    exact violations_perm hcontracts phase config.limits _

/-- Two contracts that cannot be kept, with one that can between them. -/
def freeAgentTeam : Team where
  id := 5
  name := "Wild"
  contracts :=
    let contract (id : Int64) (kind : ContractKind) (name : String) : Contract :=
      { id, kind, salary := 7, year := 2, player := .real { id, name } }
    [contract 1 .freeAgent "Ann", contract 2 .veteran "Bo", contract 3 .restrictedFreeAgent "Cal"]
  droppedContracts := []

/-- Delivered back to front, the names change places in the message and nothing else changes. -/
theorem ofTeam_perm_freeAgentTeam :
    let reordered : Team := { freeAgentTeam with contracts := freeAgentTeam.contracts.reverse }
    let page := RosterPage.ofTeam freeAgentTeam .keeper {} {}
    let page' := RosterPage.ofTeam reordered .keeper {} {}
    reordered.contracts.Perm freeAgentTeam.contracts ∧
      reordered.droppedContracts.Perm freeAgentTeam.droppedContracts ∧
      page.violations.map Violation.message = ["contracts that cannot be kept: Ann, Cal"] ∧
      page'.violations.map Violation.message = ["contracts that cannot be kept: Cal, Ann"] ∧
      page'.summary = page.summary ∧
      List.Forall₂ Violation.SameUpToNames page'.violations page.violations ∧
      page'.roster.active.map activeKeys = page.roster.active.map activeKeys := by
  intro reordered page page'
  have hcontracts : reordered.contracts.Perm freeAgentTeam.contracts := List.reverse_perm _
  have hdropped : reordered.droppedContracts.Perm freeAgentTeam.droppedContracts := .refl _
  obtain ⟨hsummary, hviolations, hactive, -⟩ :=
    ofTeam_perm freeAgentTeam hcontracts hdropped .keeper {} {}
  exact ⟨hcontracts, hdropped, by decide, by decide, hsummary, hviolations, hactive⟩

end LeagueRoster
