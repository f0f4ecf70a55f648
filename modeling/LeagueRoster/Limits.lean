import LeagueRoster.Cap
import LeagueRoster.Roster
import LeagueRoster.Text.Display

/-!
Roster limits. A broken limit is reported and not refused: a roster over its limits can still
be shown, but it cannot be locked. The keeper deadline counts the contracts that a team may
keep, every other phase the contracts of the roster groups.
-/
namespace LeagueRoster

inductive LimitRule where
  | keeperContracts
  | keeperSalary
  | nonKeepableContract
  | preseasonContracts
  | rookieDevelopment
  | rookieDevelopmentInternational
  | activeContracts
  | injuredReserve
  | salaryCap
  deriving Repr, DecidableEq

def LimitRule.name : LimitRule → String
  | keeperContracts => "keeper_contracts"
  | keeperSalary => "keeper_salary"
  | nonKeepableContract => "non_keepable_contract"
  | preseasonContracts => "preseason_contracts"
  | rookieDevelopment => "rookie_development"
  | rookieDevelopmentInternational => "rookie_development_international"
  | activeContracts => "active_contracts"
  | injuredReserve => "injured_reserve"
  | salaryCap => "salary_cap"

structure Violation where
  rule : LimitRule
  limit : UInt32
  actual : UInt32
  message : String
  deriving Repr, DecidableEq

namespace Violation

/-- More contracts of a sort than the limit. -/
def ofCount (rule : LimitRule) (limit : UInt64) (actual : Nat) (what : String) : List Violation :=
  if limit.toNat < actual then
    [{ rule, limit := saturate limit.toNat, actual := saturate actual,
       message := Text.decimal actual ++ " " ++ what ++ " exceeds the limit of " ++
         Text.decimal limit.toNat }]
  else []

/-- More salary than the cap. -/
def ofSalary (rule : LimitRule) (cap used : UInt32) : List Violation :=
  if cap < used then
    [{ rule, limit := cap, actual := used,
       message := "salary used " ++ Text.money used.toNat ++ " exceeds the cap of " ++
         Text.money cap.toNat }]
  else []

end Violation

/-- Current contracts that the team may keep and that are no development contracts. -/
def keptContracts (contracts : List Contract) : List Contract :=
  contracts.filter fun c => c.isActive && c.kind.isKeepable && !c.kind.isRookieDevelopment

def nonKeepableContracts (contracts : List Contract) : List Contract :=
  contracts.filter fun c => c.isActive && !c.kind.isKeepable

def nonKeepableViolation (contracts : List Contract) : List Violation :=
  match nonKeepableContracts contracts with
  | [] => []
  | found =>
    [{ rule := .nonKeepableContract, limit := 0, actual := saturate found.length,
       message := "contracts that cannot be kept: " ++
         ", ".intercalate (found.map Contract.displayName) }]

def keeperViolations (contracts : List Contract) (limits : RosterLimits) (cap : TeamCap) :
    List Violation :=
  let kept := keptContracts contracts
  Violation.ofCount .keeperContracts limits.keeperContracts kept.length "kept contracts" ++
    Violation.ofSalary .keeperSalary cap.effective (salaryUsed kept) ++
    nonKeepableViolation contracts

/-- Every current contract on injured reserve takes a slot, development contracts too. -/
def injuredReserveSlots (contracts : List Contract) : Nat :=
  (contracts.filter fun c => c.isActive && c.injuredReserve).length

def seasonViolations (contracts : List Contract) (phase : SeasonPhase) (limits : RosterLimits)
    (cap : TeamCap) : List Violation :=
  let roster := Roster.ofContracts contracts
  let healthy := roster.rookieDevelopment.filter fun c => !c.injuredReserve
  let international := (healthy.filter fun c => c.kind.isInternational).length
  let domestic := (healthy.filter fun c => !c.kind.isInternational).length
  let counts :=
    if phase = .preseason then
      Violation.ofCount .preseasonContracts limits.preseasonContracts
        (roster.active.length + domestic + international) "roster contracts"
    else
      Violation.ofCount .rookieDevelopment limits.rookieDevelopment domestic
          "rookie development contracts" ++
        Violation.ofCount .rookieDevelopmentInternational limits.rookieDevelopmentInternational
          international "international rookie development contracts" ++
        Violation.ofCount .activeContracts limits.activeContracts roster.active.length
          "active contracts"
  counts ++
    Violation.ofCount .injuredReserve limits.injuredReserve (injuredReserveSlots contracts)
      "injured reserve contracts" ++
    Violation.ofSalary .salaryCap cap.effective roster.salaryUsed

/-- The broken limits of a phase, in the order in which they are reported. -/
def violations (contracts : List Contract) (phase : SeasonPhase) (limits : RosterLimits)
    (cap : TeamCap) : List Violation :=
  match phase with
  | .keeper => keeperViolations contracts limits cap
  | _ => seasonViolations contracts phase limits cap

end LeagueRoster
