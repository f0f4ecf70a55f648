import LeagueRoster.Fault.Code
import LeagueRoster.Json

/-!
Why a command failed, and the report of it: a code, a message, a hint what to do about it and
the details a caller can act on. The hint names the teams there are, or the path that has no
known extension, when the details tell them.
-/
namespace LeagueRoster

inductive Fault where
  | io (text : String)
  | json (text : String)
  | yaml (text : String)
  | invalidInput (text : String)
  | unsupportedFormat (path : String)
  | teamNotFound (query : String) (available : List String)
  | config (text : String)
  | missingConfig (text : String)
  | serialization (text : String)
  deriving Repr, DecidableEq

/-- The member of an object under a key. -/
def Json.member? (key : String) : Json → Option Json
  | .obj members => members.lookup key
  | _ => none

def Json.text? : Json → Option String
  | .str s => some s
  | _ => none

/-- The hint for a code and the details that came with it. -/
def FaultCode.suggest (code : FaultCode) (context : Option Json) : String :=
  match code with
  | teamNotFound =>
    let available :=
      match context.bind (Json.member? "available") with
      | some (.arr items) => items.filterMap Json.text?
      | _ => []
    if available.isEmpty then code.hint
    else
      "Teams in this snapshot: " ++ ", ".intercalate available ++
        ". Pass one of them (name or id) to --team"
  | inputFormatUnsupported =>
    match (context.bind (Json.member? "path")).bind Json.text? with
    | some path =>
      "'" ++ path ++
        "' has no recognised extension. Rename it to .json/.yaml, or pipe it with `-`"
    | none => code.hint
  | _ => code.hint

namespace Fault

def code : Fault → FaultCode
  | io _ => .io
  | json _ | yaml _ | serialization _ => .serialization
  | invalidInput _ => .inputInvalid
  | unsupportedFormat _ => .inputFormatUnsupported
  | teamNotFound _ _ => .teamNotFound
  | config _ => .configInvalid
  | missingConfig _ => .configMissing

def message : Fault → String
  | io text => "IO error: " ++ text
  | json text => "JSON serialization error: " ++ text
  | yaml text => "YAML serialization error: " ++ text
  | invalidInput text => "Invalid input: " ++ text
  | unsupportedFormat path => "Unsupported input format: " ++ path
  | teamNotFound query _ => "Team not found: " ++ query
  | config text => "Config error: " ++ text
  | missingConfig text => "Missing required config: " ++ text
  | serialization text => "Serialization error: " ++ text

/-- Details a caller can act on, their keys in order. -/
def context : Fault → Option Json
  | teamNotFound query available =>
    some (.obj [("available", .arr (available.map .str)), ("team", .str query)])
  | unsupportedFormat path => some (.obj [("path", .str path)])
  | missingConfig text => some (.obj [("config_key", .str text)])
  | _ => none

end Fault

structure FaultReport where
  code : FaultCode
  numericCode : UInt16
  message : String
  suggestion : String
  context : Option Json := none
  recoverable : Bool
  category : String
  deriving Repr

namespace FaultReport

def ofCode (code : FaultCode) (message : String) : FaultReport where
  code
  numericCode := UInt16.ofNat code.number
  message
  suggestion := code.hint
  recoverable := code.isRecoverable
  category := code.category

def ofFault (fault : Fault) : FaultReport where
  code := fault.code
  numericCode := UInt16.ofNat fault.code.number
  message := fault.message
  suggestion := fault.code.suggest fault.context
  context := fault.context
  recoverable := fault.code.isRecoverable
  category := fault.code.category

def headline (r : FaultReport) : String := "[" ++ r.code.label ++ "] " ++ r.message

end FaultReport

end LeagueRoster
