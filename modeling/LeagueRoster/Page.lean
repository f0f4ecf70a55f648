import LeagueRoster.Limits
import LeagueRoster.Team

/-!
The roster page of a team: its groups, the counts and cap figures of its card, the limits it
breaks, and whether the viewer may propose a trade. Who is looking is given by the caller.
-/
namespace LeagueRoster

structure Viewer where
  /-- The team that the viewer manages in this league, if any. -/
  teamId : Option Int64 := none
  deriving Repr, DecidableEq

inductive TradeAction where
  | proposeTrade (fromTeam toTeam : Int64)
  | unavailable
  deriving Repr, DecidableEq

namespace TradeAction

/-- Whoever manages another team of the league can propose a trade. -/
def forViewer (viewer : Viewer) (team : Int64) : TradeAction :=
  match viewer.teamId with
  | some own => if own = team then unavailable else proposeTrade own team
  | none => unavailable

def isOffered : TradeAction → Bool
  | proposeTrade _ _ => true
  | unavailable => false

def toJson : TradeAction → Json
  | proposeTrade fromTeam toTeam =>
    .obj [("kind", .str "propose_trade"), ("from_team_id", Json.ofInt64 fromTeam),
      ("to_team_id", Json.ofInt64 toTeam)]
  | unavailable => .obj [("kind", .str "none")]

end TradeAction

structure Summary where
  teamId : Int64
  teamName : String
  phase : SeasonPhase
  activeCount : Nat
  injuredReserveCount : Nat
  rookieDevelopmentCount : Nat
  salaryUsed : UInt32
  cap : TeamCap
  capSpace : Int
  overCap : Bool
  deriving Repr, DecidableEq

namespace Summary

def ofRoster (team : Team) (roster : Roster) (cap : TeamCap) : Summary where
  teamId := team.id
  teamName := team.name
  phase := cap.phase
  activeCount := roster.active.length
  injuredReserveCount := roster.injuredReserve.length
  rookieDevelopmentCount := roster.rookieDevelopment.length
  salaryUsed := roster.salaryUsed
  cap
  capSpace := cap.space roster.salaryUsed
  overCap := cap.space roster.salaryUsed < 0

def rosterSizeLine (s : Summary) : String :=
  let line := "Roster size: " ++ Text.playerCount s.activeCount
  if s.injuredReserveCount = 0 then line
  else line ++ " (+" ++ Text.decimal s.injuredReserveCount ++ " IR)"

def salaryOfCap (s : Summary) : String :=
  Text.money s.salaryUsed.toNat ++ "/" ++ Text.money s.cap.effective.toNat

def salaryLine (s : Summary) : String := "Salary used/cap: " ++ s.salaryOfCap

def headline (s : Summary) : String := s.rosterSizeLine ++ " | " ++ s.salaryLine

end Summary

structure RosterPage where
  summary : Summary
  roster : Roster
  violations : List Violation
  tradeAction : TradeAction
  deriving Repr, DecidableEq

namespace RosterPage

def ofTeam (team : Team) (phase : SeasonPhase) (config : Config) (viewer : Viewer) : RosterPage :=
  let cap := TeamCap.forPhase phase config.caps team.droppedContracts
  let roster := Roster.ofContracts team.contracts
  { summary := Summary.ofRoster team roster cap
    roster
    violations := LeagueRoster.violations team.contracts phase config.limits cap
    tradeAction := TradeAction.forViewer viewer team.id }

/-- The groups in display order, without the empty ones. -/
def sections (p : RosterPage) : List (RosterGroup × List Contract) :=
  p.roster.groups.filter fun s => !s.2.isEmpty

def isLegal (p : RosterPage) : Bool := p.violations.isEmpty

end RosterPage

end LeagueRoster
