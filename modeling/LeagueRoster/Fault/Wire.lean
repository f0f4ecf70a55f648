import LeagueRoster.Fault
import LeagueRoster.Json.Value
import LeagueRoster.Datum.Record

/-!
The wire form of a fault report. The details are left out when there are none.
-/
namespace LeagueRoster

open Datum

def FaultCode.ofDatum? (rules : Leniency) (d : Datum) : Option FaultCode :=
  d.constant? rules all wireName

namespace FaultReport

def fields : List String :=
  ["code", "numeric_code", "message", "suggestion", "context", "recoverable", "category"]

def toJson (r : FaultReport) : Json :=
  .obj <|
    [("code", .str r.code.wireName), ("numeric_code", .int r.numericCode.toNat),
      ("message", .str r.message), ("suggestion", .str r.suggestion)] ++
    (match r.context with
      | some context => [("context", context)]
      | none => []) ++
    [("recoverable", .bool r.recoverable), ("category", .str r.category)]

def ofDatum? (rules : Leniency) (d : Datum) : Option FaultReport := do
  let field ← d.record? rules fields
  return {
    code := ← (field "code").required (FaultCode.ofDatum? rules)
    numericCode := ← (field "numeric_code").required uint16?
    message := ← (field "message").required str?
    suggestion := ← (field "suggestion").required str?
    context := ← (field "context").optionalInReach Datum.toJson?
    recoverable := ← (field "recoverable").required bool?
    category := ← (field "category").required str?
  }

end FaultReport

end LeagueRoster
