import LeagueRoster.Team
import LeagueRoster.Fault
import LeagueRoster.Text.Numeral

/-!
A snapshot is the teams of a league. A team is looked up by its id or by its name, letter case
of ASCII letters apart, and the first team that fits either way is meant.
-/
namespace LeagueRoster

structure Snapshot where
  teams : List Team := []
  deriving Repr, DecidableEq

namespace Snapshot

def sameName (a b : String) : Bool := a.toList.map Char.toLower == b.toList.map Char.toLower

def isMeant (query : String) (team : Team) : Bool :=
  (match Text.parseInt64 query with
    | .ok id => team.id == id
    | .error _ => false) ||
  sameName team.name query

/-- Blanks around a query do not count. -/
def findTeam (s : Snapshot) (query : String) : Except Fault Team :=
  let query := Text.trim query
  match s.teams.find? (isMeant query) with
  | some team => .ok team
  | none => .error (.teamNotFound query (s.teams.map Team.name))

/-- The one team that is asked for, or all of them. -/
def select (s : Snapshot) : Option String → Except Fault (List Team)
  | some query => (s.findTeam query).map fun team => [team]
  | none => .ok s.teams

def toJson (s : Snapshot) : Json := .obj [("teams", .arr (s.teams.map Team.toJson))]

end Snapshot

end LeagueRoster
