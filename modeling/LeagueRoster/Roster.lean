import LeagueRoster.Contract
import LeagueRoster.NameOrder

/-!
A roster is the contracts of a team in display groups. Development contracts form one group
whatever their status; current contracts of the kinds that are active on a team form two, by
injured reserve; all others are not shown. The sorts are stable, so contracts that no key
tells apart keep the order they came in.
-/
namespace LeagueRoster

inductive RosterGroup where
  | active
  | injuredReserve
  | rookieDevelopment
  deriving Repr, DecidableEq

namespace RosterGroup

/-- In display order. -/
def all : List RosterGroup := [active, injuredReserve, rookieDevelopment]

def title : RosterGroup → String
  | active => "Active"
  | injuredReserve => "Injured Reserve"
  | rookieDevelopment => "Rookie Development"

def key : RosterGroup → String
  | active => "active"
  | injuredReserve => "active_ir"
  | rookieDevelopment => "rookie_development"

end RosterGroup

/-- The group in which a contract is shown. -/
def classify (c : Contract) : Option RosterGroup :=
  if c.kind.isRookieDevelopment then some .rookieDevelopment
  else if c.isActive && c.kind.isActiveOnTeam then
    some (if c.injuredReserve then .injuredReserve else .active)
  else none

/-- Salary descending, then year descending, then name. -/
def compareActive (a b : Contract) : Ordering :=
  (compare b.salary a.salary).then <|
    (compare b.year a.year).then (NameOrder.compareNames a.displayName b.displayName)

/-- Domestic before international, then year descending, then name. -/
def compareDevelopment (a b : Contract) : Ordering :=
  (compare a.kind.isInternational b.kind.isInternational).then <|
    (compare b.year a.year).then (NameOrder.compareNames a.displayName b.displayName)

structure Roster where
  active : List Contract := []
  injuredReserve : List Contract := []
  rookieDevelopment : List Contract := []
  deriving Repr, DecidableEq

namespace Roster

def members (group : RosterGroup) (contracts : List Contract) : List Contract :=
  contracts.filter fun c => classify c = some group

def ofContracts (contracts : List Contract) : Roster where
  active := (members .active contracts).mergeSort fun a b => (compareActive a b).isLE
  injuredReserve := members .injuredReserve contracts
  rookieDevelopment :=
    (members .rookieDevelopment contracts).mergeSort fun a b => (compareDevelopment a b).isLE

def group (r : Roster) : RosterGroup → List Contract
  | .active => r.active
  | .injuredReserve => r.injuredReserve
  | .rookieDevelopment => r.rookieDevelopment

def groups (r : Roster) : List (RosterGroup × List Contract) :=
  RosterGroup.all.map fun g => (g, r.group g)

def size (r : Roster) : Nat :=
  r.active.length + r.injuredReserve.length + r.rookieDevelopment.length

end Roster

/-- The sum of the salaries, as a number of 32 bits. -/
def salaryUsed (contracts : List Contract) : UInt32 :=
  contracts.foldl (fun sum c => sum + c.salary.toUInt32) 0

def Roster.salaryUsed (r : Roster) : UInt32 := LeagueRoster.salaryUsed r.active

end LeagueRoster
