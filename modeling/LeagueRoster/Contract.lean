import LeagueRoster.Player
import LeagueRoster.Text.Numeral

/-!
Contracts bind players to a team. The kind of a contract says whether it takes up cap space,
sits on the development squad or may be kept; the status says whether it is still current.
-/
namespace LeagueRoster

inductive ContractKind where
  | freeAgent
  | restrictedFreeAgent
  | rookie
  | rookieExtension
  | rookieDevelopment
  | rookieDevelopmentInternational
  | veteran
  | unrestrictedFreeAgentOriginalTeam
  | unrestrictedFreeAgentVeteran
  deriving Repr, DecidableEq

namespace ContractKind

def all : List ContractKind :=
  [freeAgent, restrictedFreeAgent, rookie, rookieExtension, rookieDevelopment,
    rookieDevelopmentInternational, veteran, unrestrictedFreeAgentOriginalTeam,
    unrestrictedFreeAgentVeteran]

def wireName : ContractKind → String
  | freeAgent => "FREE_AGENT"
  | restrictedFreeAgent => "RESTRICTED_FREE_AGENT"
  | rookie => "ROOKIE"
  | rookieExtension => "ROOKIE_EXTENSION"
  | rookieDevelopment => "ROOKIE_DEVELOPMENT"
  | rookieDevelopmentInternational => "ROOKIE_DEVELOPMENT_INTERNATIONAL"
  | veteran => "VETERAN"
  | unrestrictedFreeAgentOriginalTeam => "UNRESTRICTED_FREE_AGENT_ORIGINAL_TEAM"
  | unrestrictedFreeAgentVeteran => "UNRESTRICTED_FREE_AGENT_VETERAN"

def label : ContractKind → String
  | freeAgent => "Free Agent"
  | restrictedFreeAgent => "Restricted Free Agent"
  | rookie => "Rookie"
  | rookieExtension => "Rookie Extension"
  | rookieDevelopment => "Rookie Development"
  | rookieDevelopmentInternational => "Rookie Development International"
  | veteran => "Veteran"
  | unrestrictedFreeAgentOriginalTeam => "Unrestricted Free Agent (Original Team)"
  | unrestrictedFreeAgentVeteran => "Unrestricted Free Agent (Veteran)"

/-- The short form of roster rows. -/
def abbreviation : ContractKind → String
  | freeAgent => "FA"
  | restrictedFreeAgent => "RFA"
  | rookie | rookieExtension => "R"
  | rookieDevelopment => "RD"
  | rookieDevelopmentInternational => "RDI"
  | veteran => "V"
  | unrestrictedFreeAgentOriginalTeam => "UFA-20%"
  | unrestrictedFreeAgentVeteran => "UFA-10%"

/-- Takes a roster spot and cap space on its team. -/
def isActiveOnTeam : ContractKind → Bool
  | rookie | rookieExtension | veteran => true
  | _ => false

def isRookieDevelopment : ContractKind → Bool
  | rookieDevelopment | rookieDevelopmentInternational => true
  | _ => false

def isInternational : ContractKind → Bool
  | rookieDevelopmentInternational => true
  | _ => false

/-- Charged to the cap, whether on the roster or dropped. -/
def countsTowardCap (kind : ContractKind) : Bool := kind.isActiveOnTeam

/-- May be retained at the keeper deadline. -/
def isKeepable (kind : ContractKind) : Bool := kind.isActiveOnTeam || kind.isRookieDevelopment

end ContractKind

inductive ContractStatus where
  | active
  | replaced
  | expired
  deriving Repr, DecidableEq

namespace ContractStatus

def all : List ContractStatus := [active, replaced, expired]

def wireName : ContractStatus → String
  | active => "ACTIVE"
  | replaced => "REPLACED"
  | expired => "EXPIRED"

/-- A contract that does not say otherwise is current. -/
def usual : ContractStatus := active

end ContractStatus

structure Contract where
  id : Int64
  kind : ContractKind
  status : ContractStatus := .usual
  injuredReserve : Bool := false
  salary : UInt16
  year : UInt16
  seasonEnd : Option UInt16 := none
  player : Player
  deriving Repr, DecidableEq

namespace Contract

def profile (c : Contract) : Profile := c.player.profile

def displayName (c : Contract) : String := c.profile.name

def isActive (c : Contract) : Bool := c.status = .active

/-- Salary, year and kind, as shown under the name of the player. -/
def termsLabel (c : Contract) : String :=
  "$" ++ Text.decimal c.salary.toNat ++ " / " ++ Text.decimal c.year.toNat ++ " / " ++
    c.kind.abbreviation

end Contract

end LeagueRoster
