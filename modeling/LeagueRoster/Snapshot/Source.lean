import LeagueRoster.Snapshot.Document
import LeagueRoster.Workspace

/-!
Where a snapshot comes from. A hyphen stands for a JSON document on standard input; the format
of a file shows in its extension, letter case apart, and a file without one holds JSON. A file
of another extension is refused before it is looked at.
-/
namespace LeagueRoster.Snapshot

inductive Source where
  | input
  | jsonFile (path : String)
  | yamlFile (path : String)
  deriving Repr, DecidableEq

namespace Source

def ofPath (path : String) : Except Fault Source :=
  if Path.parts path = ["-"] then .ok input
  else
    match (Path.extension? path).map fun e => e.toList.map Char.toLower with
    | none => .ok (jsonFile path)
    | some ext =>
      if ext = "json".toList then .ok (jsonFile path)
      else if ext = "yaml".toList || ext = "yml".toList then .ok (yamlFile path)
      else .error (.unsupportedFormat path)

def path? : Source → Option String
  | input => none
  | jsonFile path => some path
  | yamlFile path => some path

end Source

def fileText (w : Workspace) (path : String) : Except Fault String :=
  match (w.entry path).text? with
  | .ok content => .ok content
  | .error reason => .error (.invalidInput ("cannot read " ++ path ++ ": " ++ reason))

def load (w : Workspace) (path : String) : Except Fault Snapshot := do
  match ← Source.ofPath path with
  | .input =>
    match w.input.text? with
    | .ok content => ofJson content
    | .error reason => .error (.io reason)
  | .jsonFile path => ofJson (← fileText w path)
  | .yamlFile path => ofYaml (← fileText w path)

end LeagueRoster.Snapshot
