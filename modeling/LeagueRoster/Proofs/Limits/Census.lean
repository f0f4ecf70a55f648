import LeagueRoster.Limits
import LeagueRoster.Proofs.Roster.Groups
import LeagueRoster.Proofs.Roster.Salary
import Mathlib.Tactic.Tauto

/-!
A census counts contracts one by one, each by its own fields and without putting them into
groups. The limits of a season are checked on the groups of a roster and those of the keeper
deadline on selections of the input; both say what the census says.
-/
namespace LeagueRoster

open Roster

/-- The kinds of contracts that a team has no right to keep. -/
def FreeAgentKind (kind : ContractKind) : Prop :=
  kind = .freeAgent ∨ kind = .restrictedFreeAgent ∨ kind = .unrestrictedFreeAgentOriginalTeam ∨
    kind = .unrestrictedFreeAgentVeteran

instance : DecidablePred FreeAgentKind := fun kind =>
  inferInstanceAs (Decidable (kind = .freeAgent ∨ kind = .restrictedFreeAgent ∨
    kind = .unrestrictedFreeAgentOriginalTeam ∨ kind = .unrestrictedFreeAgentVeteran))

/-- Current contracts of the squad kinds, on injured reserve or not. -/
def OnKeeperList (c : Contract) : Prop := c.status = .active ∧ SquadKind c.kind

instance : DecidablePred OnKeeperList := fun c =>
  inferInstanceAs (Decidable (c.status = .active ∧ SquadKind c.kind))

structure Census where
  squad : Nat
  squadSalary : Nat
  /-- Development contracts off injured reserve, whatever their status. -/
  domestic : Nat
  international : Nat
  /-- Current contracts on injured reserve, of every kind. -/
  injured : Nat
  kept : Nat
  keptSalary : Nat
  /-- Current contracts of the free agent kinds. -/
  freeAgents : Nat
  deriving Repr, DecidableEq

def census (contracts : List Contract) : Census where
  squad := contracts.countP fun c => OnSquad c
  squadSalary := totalSalary (contracts.filter fun c => OnSquad c)
  domestic := contracts.countP fun c => c.kind = .rookieDevelopment ∧ c.injuredReserve = false
  international := contracts.countP fun c =>
    c.kind = .rookieDevelopmentInternational ∧ c.injuredReserve = false
  injured := contracts.countP fun c => c.status = .active ∧ c.injuredReserve = true
  kept := contracts.countP fun c => OnKeeperList c
  keptSalary := totalSalary (contracts.filter fun c => OnKeeperList c)
  freeAgents := contracts.countP fun c => c.status = .active ∧ FreeAgentKind c.kind

theorem squadKind_iff (kind : ContractKind) :
    (kind.isKeepable && !kind.isRookieDevelopment) ↔ SquadKind kind := by
  cases kind <;> decide

theorem not_isKeepable_iff (kind : ContractKind) : (!kind.isKeepable) ↔ FreeAgentKind kind := by
  cases kind <;> decide

theorem length_active (contracts : List Contract) :
    (ofContracts contracts).active.length = (census contracts).squad := by
  have h := length_group contracts .active
  simp only [classify_eq_active_iff] at h
  exact h

theorem totalSalary_active (contracts : List Contract) :
    totalSalary (ofContracts contracts).active = (census contracts).squadSalary := by
  have hperm : (ofContracts contracts).active.Perm (members .active contracts) :=
    group_perm contracts .active
  rw [totalSalary_perm hperm]
  simp only [members, classify_eq_active_iff]
  rfl

/-- Counting in the development group is counting the development contracts of the input. -/
theorem length_healthy_development (contracts : List Contract) (p : ContractKind → Bool) :
    (((ofContracts contracts).rookieDevelopment.filter fun c => !c.injuredReserve).filter
      fun c => p c.kind).length =
      contracts.countP fun c => (c.kind.isRookieDevelopment && p c.kind) && !c.injuredReserve := by
  have hperm : (ofContracts contracts).rookieDevelopment.Perm
      (members .rookieDevelopment contracts) := group_perm contracts .rookieDevelopment
  rw [← List.countP_eq_length_filter, List.countP_filter, hperm.countP_eq, members,
    List.countP_filter]
  apply List.countP_congr
  intro c _
  simp only [classify_eq_rookieDevelopment_iff, Bool.and_eq_true, decide_eq_true_eq]
  tauto

theorem length_domestic (contracts : List Contract) :
    (((ofContracts contracts).rookieDevelopment.filter fun c => !c.injuredReserve).filter
      fun c => !c.kind.isInternational).length = (census contracts).domestic := by
  rw [length_healthy_development contracts fun kind => !kind.isInternational]
  apply List.countP_congr
  intro c _
  rw [Bool.and_eq_true, domestic_iff, Bool.not_eq_true', decide_eq_true_eq]

theorem length_international (contracts : List Contract) :
    (((ofContracts contracts).rookieDevelopment.filter fun c => !c.injuredReserve).filter
      fun c => c.kind.isInternational).length = (census contracts).international := by
  rw [length_healthy_development contracts fun kind => kind.isInternational]
  apply List.countP_congr
  intro c _
  rw [Bool.and_eq_true, international_iff, Bool.not_eq_true', decide_eq_true_eq]

theorem injuredReserveSlots_eq (contracts : List Contract) :
    injuredReserveSlots contracts = (census contracts).injured := by
  rw [injuredReserveSlots, ← List.countP_eq_length_filter]
  apply List.countP_congr
  intro c _
  rw [Bool.and_eq_true, isActive_iff, decide_eq_true_eq]

theorem keptContracts_eq (contracts : List Contract) :
    keptContracts contracts = contracts.filter fun c => OnKeeperList c := by
  apply List.filter_congr
  intro c _
  rw [Bool.eq_iff_iff, Bool.and_assoc, Bool.and_eq_true, isActive_iff, squadKind_iff,
    decide_eq_true_eq, OnKeeperList]

theorem length_keptContracts (contracts : List Contract) :
    (keptContracts contracts).length = (census contracts).kept := by
  rw [keptContracts_eq, ← List.countP_eq_length_filter]
  rfl

theorem length_nonKeepableContracts (contracts : List Contract) :
    (nonKeepableContracts contracts).length = (census contracts).freeAgents := by
  rw [nonKeepableContracts, ← List.countP_eq_length_filter]
  apply List.countP_congr
  intro c _
  rw [Bool.and_eq_true, isActive_iff, not_isKeepable_iff, decide_eq_true_eq]

end LeagueRoster
