import LeagueRoster.Json

/-!
JSON values out of data. The members of an object are put in order of their keys, and of
members under one key the last one counts.
-/
namespace LeagueRoster

namespace Json

/-- Puts a member in its place among ordered ones, instead of one under the same key. -/
def insertMember (key : String) (value : Json) : List (String × Json) → List (String × Json)
  | [] => [(key, value)]
  | (k, v) :: rest =>
    match compare key.toList k.toList with
    | .lt => (key, value) :: (k, v) :: rest
    | .eq => (key, value) :: rest
    | .gt => (k, v) :: insertMember key value rest

end Json

namespace Datum

mutual

def toJson? : Datum → Option Json
  | .null => some .null
  | .bool b => some (.bool b)
  | .int n => some (.int n)
  | .str s => some (.str s)
  | .seq items => (itemsToJson? items).map .arr
  | .map entries => (membersToJson? [] entries).map .obj
  | .real | .unreadable => none
  termination_by structural d => d

def itemsToJson? : List Datum → Option (List Json)
  | [] => some []
  | d :: rest => do return (← d.toJson?) :: (← itemsToJson? rest)
  termination_by structural ds => ds

/-- The members together with those already in order. -/
def membersToJson? (members : List (String × Json)) :
    List (Datum × Datum) → Option (List (String × Json))
  | [] => some members
  | (.str k, d) :: rest => do
    let value ← d.toJson?
    membersToJson? (Json.insertMember k value members) rest
  | _ :: _ => none
  termination_by structural es => es

end

end Datum

end LeagueRoster
