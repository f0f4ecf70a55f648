import LeagueRoster.Contract

/-!
Contracts made step by step, for trying things out: a fresh contract costs a dollar in its
first year and is held by a real player named after its id, and edits change one thing each.
Renaming reaches the name that is displayed, wherever it comes from.
-/
namespace LeagueRoster

def RealPlayer.rename (p : RealPlayer) (name : String) : RealPlayer := { p with name }

def Player.rename (p : Player) (name : String) : Player :=
  match p with
  | real p => real (p.rename name)
  | league p =>
    match p.realPlayer with
    | some linked => league { p with realPlayer := some (linked.rename name) }
    | none => league { p with name }

namespace Player

theorem profile_rename (p : Player) (name : String) :
    (p.rename name).profile = { p.profile with name } := by
  rcases p with ⟨_, _, _, _, _ | _⟩ | _ <;> rfl

@[simp]
theorem isLeague_rename (p : Player) (name : String) : (p.rename name).isLeague = p.isLeague := by
  rcases p with ⟨_, _, _, _, _ | _⟩ | _ <;> rfl

end Player

namespace Contract

def fresh (id : Int64) (kind : ContractKind) : Contract where
  id
  kind
  salary := 1
  year := 1
  player := .real { id, name := "Player " ++ Text.decimal id.toInt }

inductive Edit where
  | salary (amount : UInt16)
  | year (number : UInt16)
  | injuredReserve
  | status (status : ContractStatus)
  | rename (name : String)
  /-- Puts a league player behind the contract, linked to a real one or not. -/
  | leaguePlayer (name : String) (linked : Option RealPlayer)
  deriving Repr, DecidableEq

def edit (c : Contract) : Edit → Contract
  | .salary amount => { c with salary := amount }
  | .year number => { c with year := number }
  | .injuredReserve => { c with injuredReserve := true }
  | .status status => { c with status }
  | .rename name => { c with player := c.player.rename name }
  | .leaguePlayer name linked =>
    let player : LeaguePlayer :=
      { id := c.id, name, realPlayerId := linked.map RealPlayer.id, realPlayer := linked }
    { c with player := .league player }

def edits (c : Contract) (steps : List Edit) : Contract := steps.foldl edit c

end Contract

end LeagueRoster
