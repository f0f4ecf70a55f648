import LeagueRoster.Contract
import LeagueRoster.Datum.Record
import LeagueRoster.Json

/-!
The wire form of players and contracts. Absent details of a player are left out when written
and may be left out or null when read; a player carries its type as the entry `__typename`.
-/
namespace LeagueRoster

open Datum

/-- An entry that is written only if there is a value. -/
def Json.entry? {α : Type} (name : String) (write : α → Json) : Option α → List (String × Json)
  | some a => [(name, write a)]
  | none => []

def Json.ofInt64 (n : Int64) : Json := .int n.toInt

def Json.ofUInt16 (n : UInt16) : Json := .int n.toNat

namespace RealPlayer

def fields : List String :=
  ["id", "name", "position", "realTeamName", "photoUrl", "isRdiEligible"]

def members (p : RealPlayer) : List (String × Json) :=
  [("id", Json.ofInt64 p.id), ("name", .str p.name)] ++
    Json.entry? "position" .str p.position ++
    Json.entry? "realTeamName" .str p.teamName ++
    Json.entry? "photoUrl" .str p.photoUrl ++
    [("isRdiEligible", .bool p.rdiEligible)]

def ofDatum? (rules : Leniency) (d : Datum) : Option RealPlayer := do
  let field ← d.record? rules fields
  return {
    id := ← (field "id").required int64?
    name := ← (field "name").required str?
    position := ← (field "position").optional str?
    teamName := ← (field "realTeamName").optional str?
    photoUrl := ← (field "photoUrl").optional str?
    rdiEligible := ← (field "isRdiEligible").orElse bool? false
  }

end RealPlayer

namespace LeaguePlayer

def fields : List String := ["id", "name", "realPlayerId", "isRdiEligible", "realPlayer"]

def members (p : LeaguePlayer) : List (String × Json) :=
  [("id", Json.ofInt64 p.id), ("name", .str p.name)] ++
    Json.entry? "realPlayerId" Json.ofInt64 p.realPlayerId ++
    [("isRdiEligible", .bool p.rdiEligible)] ++
    Json.entry? "realPlayer" (fun real => .obj real.members) p.realPlayer

def ofDatum? (rules : Leniency) (d : Datum) : Option LeaguePlayer := do
  let field ← d.record? rules fields
  return {
    id := ← (field "id").required int64?
    name := ← (field "name").required str?
    realPlayerId := ← (field "realPlayerId").optional int64?
    rdiEligible := ← (field "isRdiEligible").orElse bool? false
    realPlayer := ← (field "realPlayer").optional (RealPlayer.ofDatum? rules)
  }

end LeaguePlayer

namespace Player

def typeName : Player → String
  | league _ => "LeaguePlayer"
  | real _ => "RealPlayer"

def toJson (p : Player) : Json :=
  .obj <| ("__typename", .str p.typeName) ::
    match p with
    | league p => p.members
    | real p => p.members

def isTypeKey (key : Datum) : Bool :=
  match key with
  | .str s => s == "__typename"
  | _ => false

/-- The type entry of a player and the record without it. The type stands under its key, once,
or in front of a sequence. -/
def splitType? : Datum → Option (Datum × Datum)
  | .map entries =>
    match entries.filter (isTypeKey ·.1) with
    | [type] => some (type.2, .map (entries.filter (!isTypeKey ·.1)))
    | _ => none
  | .seq (type :: items) => some (type, .seq items)
  | _ => none

/-- The types by position, as a number may name them. -/
def typePosition? (rules : Leniency) : Datum → Option Nat
  | .str s => if s == "LeaguePlayer" then some 0 else if s == "RealPlayer" then some 1 else none
  | .int n => if rules.positions && 0 ≤ n then some n.toNat else none
  | _ => none

def ofDatum? (rules : Leniency) (d : Datum) : Option Player := do
  guard d.readable
  let (type, record) ← splitType? d
  match ← typePosition? rules type with
  | 0 => return league (← LeaguePlayer.ofDatum? rules record)
  | 1 => return real (← RealPlayer.ofDatum? rules record)
  | _ => none

end Player

def ContractKind.ofDatum? (rules : Leniency) (d : Datum) : Option ContractKind :=
  d.constant? rules all wireName

def ContractStatus.ofDatum? (rules : Leniency) (d : Datum) : Option ContractStatus :=
  d.constant? rules all wireName

namespace Contract

def fields : List String :=
  ["id", "kind", "status", "isIr", "salary", "yearNumber", "endOfSeasonYear",
    "leagueOrRealPlayer"]

def toJson (c : Contract) : Json :=
  .obj <|
    [("id", Json.ofInt64 c.id), ("kind", .str c.kind.wireName), ("status", .str c.status.wireName),
      ("isIr", .bool c.injuredReserve), ("salary", Json.ofUInt16 c.salary),
      ("yearNumber", Json.ofUInt16 c.year)] ++
    Json.entry? "endOfSeasonYear" Json.ofUInt16 c.seasonEnd ++
    [("leagueOrRealPlayer", c.player.toJson)]

def ofDatum? (rules : Leniency) (d : Datum) : Option Contract := do
  let field ← d.record? rules fields
  return {
    id := ← (field "id").required int64?
    kind := ← (field "kind").required (ContractKind.ofDatum? rules)
    status := ← (field "status").orElse (ContractStatus.ofDatum? rules) .usual
    injuredReserve := ← (field "isIr").orElse bool? false
    salary := ← (field "salary").required uint16?
    year := ← (field "yearNumber").required uint16?
    seasonEnd := ← (field "endOfSeasonYear").optional uint16?
    player := ← (field "leagueOrRealPlayer").required (Player.ofDatum? rules)
  }

end Contract

end LeagueRoster
