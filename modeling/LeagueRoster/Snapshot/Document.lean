import LeagueRoster.Snapshot
import LeagueRoster.Datum.Record
import LeagueRoster.Json.Reader
import LeagueRoster.Yaml.Document

/-!
Snapshot documents. A document has one of three shapes, tried in this order: a league in an
envelope, a list of teams in an envelope, or a single team. The whole document has to be
readable before any shape is tried, and a document of no known shape is told apart from a
text that is not well formed.
-/
namespace LeagueRoster.Snapshot

open Datum

/-- Fields and constants of a snapshot may be given by their positions. -/
def leniency : Leniency := { Leniency.plain with positions := true }

def noShapeText : String :=
  "data did not match any variant of untagged enum SnapshotDocument"

def malformedText : String := "the document is not well formed"

def ofLeague? (d : Datum) : Option Snapshot := do
  let field ← d.record? leniency ["teams"]
  return ⟨← (field "teams").orElse (listOf? (Team.ofDatum? leniency)) []⟩

def ofLeagueEnvelope? : Datum → Option Snapshot
  | .map entries => do
    let field ← (Datum.map entries).record? leniency ["league"]
    (field "league").required ofLeague?
  | _ => none

def ofTeamsEnvelope? : Datum → Option Snapshot
  | .map entries => do
    let field ← (Datum.map entries).record? leniency ["teams"]
    return ⟨← (field "teams").required (listOf? (Team.ofDatum? leniency))⟩
  | _ => none

def ofSingleTeam? (d : Datum) : Option Snapshot :=
  (Team.ofDatum? leniency d).map fun team => ⟨[team]⟩

def ofDatum? (d : Datum) : Option Snapshot :=
  ofLeagueEnvelope? d <|> ofTeamsEnvelope? d <|> ofSingleTeam? d

/-- The snapshot in a document, if all of it can be read and nothing that does not belong to
it follows. That it has no shape counts before what follows. -/
def ofDocument (fault : String → Fault) (document : Option (Datum × Bool)) :
    Except Fault Snapshot :=
  match document with
  | none => .error (fault malformedText)
  | some (d, isAlone) =>
    if !d.readable then .error (fault malformedText)
    else
      match ofDatum? d with
      | none => .error (fault noShapeText)
      | some s => if isAlone then .ok s else .error (fault malformedText)

def ofJson (text : String) : Except Fault Snapshot :=
  ofDocument .json <| (Datum.readJson? text.toList).map fun found =>
    (found.1, (JsonText.skipBlanks found.2).isEmpty)

def ofYaml (text : String) : Except Fault Snapshot :=
  ofDocument .yaml (Datum.readYaml? text)

end LeagueRoster.Snapshot
