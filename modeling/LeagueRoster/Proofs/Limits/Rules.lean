import LeagueRoster.Proofs.Limits.Census

/-!
The limits rule by rule. A rule sets one limit against one number of the census, whatever the
phase; the phase only says which rules are checked, and in which order. Counts and salaries are
reported in 32 bits, and a sum of salaries that fits them is the sum of the census.
-/
namespace LeagueRoster

open Roster

/-- A limit of a phase and what the roster sets against it. -/
structure LimitCheck where
  rule : LimitRule
  limit : Nat
  actual : Nat
  deriving Repr, DecidableEq

def LimitCheck.Broken (k : LimitCheck) : Prop := k.limit < k.actual

instance : DecidablePred LimitCheck.Broken := fun k =>
  inferInstanceAs (Decidable (k.limit < k.actual))

/-- A violation without its message. -/
def Violation.toCheck (v : Violation) : LimitCheck := ⟨v.rule, v.limit.toNat, v.actual.toNat⟩

namespace LimitRule

/-- The rules that a phase checks, in that order. -/
def ofPhase : SeasonPhase → List LimitRule
  | .keeper => [keeperContracts, keeperSalary, nonKeepableContract]
  | .preseason => [preseasonContracts, injuredReserve, salaryCap]
  | .regularSeason | .postSeason =>
    [rookieDevelopment, rookieDevelopmentInternational, activeContracts, injuredReserve, salaryCap]

def limit (limits : RosterLimits) (cap : TeamCap) : LimitRule → Nat
  | keeperContracts => limits.keeperContracts.toNat
  | keeperSalary | salaryCap => cap.effective.toNat
  | nonKeepableContract => 0
  | preseasonContracts => limits.preseasonContracts.toNat
  | rookieDevelopment => limits.rookieDevelopment.toNat
  | rookieDevelopmentInternational => limits.rookieDevelopmentInternational.toNat
  | activeContracts => limits.activeContracts.toNat
  | injuredReserve => limits.injuredReserve.toNat

/-- The number of the census that the limit of the rule is for. -/
def actual (n : Census) : LimitRule → Nat
  | keeperContracts => n.kept
  | keeperSalary => n.keptSalary
  | nonKeepableContract => n.freeAgents
  | preseasonContracts => n.squad + n.domestic + n.international
  | rookieDevelopment => n.domestic
  | rookieDevelopmentInternational => n.international
  | activeContracts => n.squad
  | injuredReserve => n.injured
  | salaryCap => n.squadSalary

/-- Every number of the census is a sum over the contracts. -/
theorem actual_append (l₁ l₂ : List Contract) (rule : LimitRule) :
    rule.actual (census (l₁ ++ l₂)) = rule.actual (census l₁) + rule.actual (census l₂) := by
  cases rule with
  | keeperSalary | salaryCap =>
    simp only [actual, census, List.filter_append, totalSalary_append]
  | preseasonContracts =>
    simp only [actual, census, List.countP_append]
    omega
  | keeperContracts | nonKeepableContract | rookieDevelopment | rookieDevelopmentInternational
  | activeContracts | injuredReserve => simp only [actual, census, List.countP_append]

theorem actual_middle (front back : List Contract) (c : Contract) (rule : LimitRule) :
    rule.actual (census (front ++ c :: back)) =
      rule.actual (census (front ++ back)) + rule.actual (census [c]) := by
  rw [← List.singleton_append, actual_append, actual_append, actual_append]
  omega

theorem salaryCap_mem_ofPhase {phase : SeasonPhase} :
    salaryCap ∈ ofPhase phase ↔ phase ≠ .keeper := by
  cases phase <;> decide

end LimitRule

theorem toNat_salaryUsed_active {contracts : List Contract}
    (hsalary : totalSalary contracts < UInt32.size) :
    (ofContracts contracts).salaryUsed.toNat = (census contracts).squadSalary := by
  have hbound : (census contracts).squadSalary < UInt32.size :=
    Nat.lt_of_le_of_lt (totalSalary_sublist List.filter_sublist) hsalary
  rw [← totalSalary_active] at hbound ⊢
  exact toNat_salaryUsed_of_lt hbound

theorem toNat_salaryUsed_kept {contracts : List Contract}
    (hsalary : totalSalary contracts < UInt32.size) :
    (salaryUsed (keptContracts contracts)).toNat = (census contracts).keptSalary := by
  rw [keptContracts_eq]
  exact toNat_salaryUsed_of_lt
    (Nat.lt_of_le_of_lt (totalSalary_sublist List.filter_sublist) hsalary)

end LeagueRoster
