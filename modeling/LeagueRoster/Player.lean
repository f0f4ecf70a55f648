/-!
Players behind contracts. A league tracks a player either by the real-world record or by a
record of its own, which may be linked to a real-world one; a linked record speaks for it.
-/
namespace LeagueRoster

structure RealPlayer where
  id : Int64
  name : String
  position : Option String := none
  teamName : Option String := none
  photoUrl : Option String := none
  rdiEligible : Bool := false
  deriving Repr, DecidableEq

structure LeaguePlayer where
  id : Int64
  name : String
  realPlayerId : Option Int64 := none
  rdiEligible : Bool := false
  realPlayer : Option RealPlayer := none
  deriving Repr, DecidableEq

inductive Player where
  | league (player : LeaguePlayer)
  | real (player : RealPlayer)
  deriving Repr, DecidableEq

/-- What a roster row shows of a player. -/
structure Profile where
  name : String
  position : Option String := none
  team : Option String := none
  photoUrl : Option String := none
  deriving Repr, DecidableEq

def RealPlayer.profile (p : RealPlayer) : Profile :=
  ⟨p.name, p.position, p.teamName, p.photoUrl⟩

def LeaguePlayer.profile (p : LeaguePlayer) : Profile :=
  match p.realPlayer with
  | some real => real.profile
  | none => { name := p.name }

namespace Player

def profile : Player → Profile
  | league p => p.profile
  | real p => p.profile

def isLeague : Player → Bool
  | league _ => true
  | real _ => false

end Player

/-- Position and team with a dash between them, or whichever of the two is known. -/
def Profile.positionTeam (p : Profile) : String :=
  let position := p.position.getD ""
  let team := p.team.getD ""
  if position = "" then team
  else if team = "" then position
  else position ++ " – " ++ team

end LeagueRoster
