import LeagueRoster.Contract.Wire

/-!
A team holds contracts, and the contracts it dropped during the season still cost it cap
space. Both lists may be left out of its wire form.
-/
namespace LeagueRoster

open Datum

structure Team where
  id : Int64
  name : String
  contracts : List Contract := []
  droppedContracts : List Contract := []
  deriving Repr, DecidableEq

namespace Team

def fields : List String := ["id", "name", "contracts", "droppedContracts"]

def toJson (t : Team) : Json :=
  .obj [("id", Json.ofInt64 t.id), ("name", .str t.name),
    ("contracts", .arr (t.contracts.map Contract.toJson)),
    ("droppedContracts", .arr (t.droppedContracts.map Contract.toJson))]

def ofDatum? (rules : Leniency) (d : Datum) : Option Team := do
  let field ← d.record? rules fields
  return {
    id := ← (field "id").required int64?
    name := ← (field "name").required str?
    contracts := ← (field "contracts").orElse (listOf? (Contract.ofDatum? rules)) []
    droppedContracts := ← (field "droppedContracts").orElse (listOf? (Contract.ofDatum? rules)) []
  }

end Team

end LeagueRoster
