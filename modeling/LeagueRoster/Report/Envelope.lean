import LeagueRoster.Fault.Wire

/-!
The envelope of every JSON response: its status, when and by which version it was written, the
data, and warnings if there are any. A failure stands in the status and brings no data. The
time is given by the caller.
-/
namespace LeagueRoster

def version : String := "0.1.0"

/-- How a response ends: well, or with what a fault report says. -/
inductive ResponseStatus where
  | ok
  | error (code : FaultCode) (numericCode : UInt16) (message suggestion : String)
      (context : Option Json) (recoverable : Bool) (category : String)
  deriving Repr

namespace ResponseStatus

def ofReport (r : FaultReport) : ResponseStatus :=
  error r.code r.numericCode r.message r.suggestion r.context r.recoverable r.category

/-- The status of a failure is an object of its own, written field by field. -/
def toJson : ResponseStatus → Json
  | ok => .str "ok"
  | error code numericCode message suggestion context recoverable category =>
    .obj [("error", .obj <|
      [("code", .str code.wireName), ("numeric_code", .int numericCode.toNat),
        ("message", .str message), ("suggestion", .str suggestion)] ++
      (match context with
        | some context => [("context", context)]
        | none => []) ++
      [("recoverable", .bool recoverable), ("category", .str category)])]

end ResponseStatus

namespace Envelope

def ok (time : String) (data : Json) (warnings : List String) : Json :=
  .obj <|
    [("status", ResponseStatus.ok.toJson), ("timestamp", .str time), ("version", .str version),
      ("data", data)] ++
    (if warnings.isEmpty then [] else [("warnings", .arr (warnings.map .str))])

def failure (time : String) (report : FaultReport) : Json :=
  .obj [("status", (ResponseStatus.ofReport report).toJson), ("timestamp", .str time),
    ("version", .str version), ("data", .null)]

end Envelope

/-- One compact value per line. -/
def jsonLines (items : List Json) : String := "\n".intercalate (items.map Json.compact)

end LeagueRoster
