import LeagueRoster.Season

/-!
League rules and display settings, fourteen in all: the salary caps of the phases and the
share of a dropped salary still charged, the limits on contract counts, and how reports look.
-/
namespace LeagueRoster

structure SalaryCaps where
  keeper : UInt32 := 100
  preseason : UInt32 := 210
  regularSeason : UInt32 := 200
  postSeason : UInt32 := 220
  /-- The share of a dropped salary that is still charged to the cap. -/
  dropPenaltyPercent : UInt32 := 20
  deriving Repr, DecidableEq

structure RosterLimits where
  /-- Contracts kept at the keeper deadline, development contracts apart. -/
  keeperContracts : UInt64 := 14
  /-- Contracts not on injured reserve during the preseason. -/
  preseasonContracts : UInt64 := 32
  activeContracts : UInt64 := 22
  rookieDevelopment : UInt64 := 6
  rookieDevelopmentInternational : UInt64 := 1
  injuredReserve : UInt64 := 1
  deriving Repr, DecidableEq

structure DisplaySettings where
  /-- The phase that is meant when none is asked for. -/
  defaultPhase : SeasonPhase := .regularSeason
  nameWidth : UInt64 := 28
  showPositions : Bool := true
  deriving Repr, DecidableEq

structure Config where
  caps : SalaryCaps := {}
  limits : RosterLimits := {}
  display : DisplaySettings := {}
  deriving Repr, DecidableEq

def SalaryCaps.forPhase (caps : SalaryCaps) : SeasonPhase → UInt32
  | .keeper => caps.keeper
  | .preseason => caps.preseason
  | .regularSeason => caps.regularSeason
  | .postSeason => caps.postSeason

def SalaryCaps.setPhase (caps : SalaryCaps) (phase : SeasonPhase) (cap : UInt32) : SalaryCaps :=
  match phase with
  | .keeper => { caps with keeper := cap }
  | .preseason => { caps with preseason := cap }
  | .regularSeason => { caps with regularSeason := cap }
  | .postSeason => { caps with postSeason := cap }

end LeagueRoster
