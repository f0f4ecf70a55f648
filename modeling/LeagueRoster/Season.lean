import LeagueRoster.Text.Numeral
import LeagueRoster.Text.LetterCase

/-!
The phases of a season. A roster is evaluated for one of them; contracts that a team dropped
cost it cap space in every phase but the keeper deadline.
-/
namespace LeagueRoster

inductive SeasonPhase where
  | keeper
  | preseason
  | regularSeason
  | postSeason
  deriving Repr, DecidableEq

namespace SeasonPhase

def all : List SeasonPhase := [keeper, preseason, regularSeason, postSeason]

def name : SeasonPhase → String
  | keeper => "keeper"
  | preseason => "preseason"
  | regularSeason => "regular_season"
  | postSeason => "post_season"

def appliesDropPenalties : SeasonPhase → Bool
  | keeper => false
  | _ => true

/-- A spelling without surrounding blanks, in lowercase and with underscores for hyphens. -/
def normalSpelling (s : String) : String :=
  String.ofList <| ((Text.trimChars s.toList).flatMap Text.lower).map fun c =>
    if c = '-' then '_' else c

/-- The phase that a person means by a spelling. -/
def parse? (s : String) : Option SeasonPhase :=
  let s := normalSpelling s
  if s = "keeper" then some keeper
  else if s = "preseason" ∨ s = "pre_season" then some preseason
  else if s = "regular_season" ∨ s = "regular" then some regularSeason
  else if s = "post_season" ∨ s = "postseason" ∨ s = "playoffs" then some postSeason
  else none

def invalidMessage (s : String) : String :=
  "invalid season phase " ++ s ++ " (expected keeper|preseason|regular_season|post_season)"

end SeasonPhase

end LeagueRoster
