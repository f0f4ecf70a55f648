/-!
The formats in which a report can be written: styled text for a terminal, a JSON envelope,
JSON lines, plain lines, and a table of tab-separated values. In a table tabs and line breaks within
a cell become blanks, so that a table has one line for each row and each line one cell for each
column.
-/
namespace LeagueRoster

inductive ReportFormat where
  | human
  | json
  | jsonl
  | plain
  | tsv
  deriving Repr, DecidableEq

namespace ReportFormat

def all : List ReportFormat := [human, json, jsonl, plain, tsv]

def name : ReportFormat → String
  | human => "human"
  | json => "json"
  | jsonl => "jsonl"
  | plain => "plain"
  | tsv => "tsv"

/-- Failures are reported as JSON too. -/
def isJson : ReportFormat → Bool
  | json | jsonl => true
  | _ => false

end ReportFormat

namespace Tsv

def cell (s : String) : String :=
  String.ofList (s.toList.map fun c => if c = '\t' || c = '\n' then ' ' else c)

def row (cells : List String) : String := "\t".intercalate cells ++ "\n"

def table (header : List String) (rows : List (List String)) : String :=
  row header ++ String.join (rows.map row)

end Tsv

end LeagueRoster
