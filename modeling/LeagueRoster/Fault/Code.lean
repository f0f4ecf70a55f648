import LeagueRoster.Text.Numeral

/-!
The stable codes of failures. The hundreds of a code give its category: the snapshot or the
team asked for, the configuration, or the reading and writing of files.
-/
namespace LeagueRoster

inductive FaultCode where
  | inputInvalid
  | teamNotFound
  | inputFormatUnsupported
  | configInvalid
  | configMissing
  | serialization
  | io
  deriving Repr, DecidableEq

namespace FaultCode

def all : List FaultCode :=
  [inputInvalid, teamNotFound, inputFormatUnsupported, configInvalid, configMissing,
    serialization, io]

def wireName : FaultCode → String
  | inputInvalid => "INPUT_INVALID"
  | teamNotFound => "TEAM_NOT_FOUND"
  | inputFormatUnsupported => "INPUT_FORMAT_UNSUPPORTED"
  | configInvalid => "CONFIG_INVALID"
  | configMissing => "CONFIG_MISSING_REQUIRED"
  | serialization => "SERIALIZATION_ERROR"
  | io => "IO_ERROR"

def number : FaultCode → Nat
  | inputInvalid => 101
  | teamNotFound => 102
  | inputFormatUnsupported => 103
  | configInvalid => 302
  | configMissing => 304
  | serialization => 605
  | io => 606

def label (code : FaultCode) : String := "E" ++ Text.decimal code.number

/-- The hint for a failure that brings no details of its own. -/
def hint : FaultCode → String
  | inputInvalid =>
    "Check that the snapshot matches the league roster payload (league.teams[].contracts[])"
  | teamNotFound => "Run `fbkl-roster summary <input>` to list the teams in the snapshot"
  | inputFormatUnsupported =>
    "Use a .json, .yaml or .yml snapshot, or pass `-` to read JSON from stdin"
  | configInvalid =>
    "Check TOML syntax in the config file and the values of FBKL_* environment variables"
  | configMissing => "Pass --config <path> or set FBKL_CONFIG"
  | serialization => "Re-export the snapshot; a field has an unexpected type or value"
  | io => "Check that the snapshot path exists and is readable"

/-- Other input or other options can make the command succeed. -/
def isRecoverable : FaultCode → Bool
  | serialization => false
  | _ => true

def category (code : FaultCode) : String :=
  match code.number / 100 with
  | 1 => "input"
  | 3 => "config"
  | _ => "io"

end FaultCode

end LeagueRoster
