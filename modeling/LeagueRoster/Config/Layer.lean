import LeagueRoster.Config.Wire
import LeagueRoster.Fault
import LeagueRoster.Toml.Document

/-!
Configuration files. A file is a layer: it gives values to some settings, and the others keep
what the layers below say. A layer with a penalty share above the dropped salary is refused
whatever lies above it.
-/
namespace LeagueRoster

open Datum

abbrev ConfigLayer := (s : Setting) → Option s.Value

namespace ConfigLayer

/-- A file may spell a record by a longer sequence, and a constant with empty content. -/
def leniency : Leniency := { Leniency.plain with surplus := true, hollow := true }

/-- The fields of a section; a section that is left out has none. -/
def section? (field : Record) (entry : String × List Setting) : Option (Option Record) :=
  (field entry.1).optionalInReach fun d => d.record? leniency (entry.2.map Setting.key)

/-- What the section of a setting says of it. -/
def valueIn? (fields : Option Record) (s : Setting) : Option (Option s.Value) :=
  match fields with
  | none => some none
  | some field => (field s.key).optionalInReach fun d => s.valueOfDatum? leniency d

def sectionOf : Setting → String
  | .cap _ | .dropPenaltyPercent => "caps"
  | .limit _ => "limits"
  | .defaultPhase | .nameWidth | .showPositions => "display"

def ofDatum? (d : Datum) : Option ConfigLayer := do
  let field ← d.record? leniency (Setting.sections.map Prod.fst)
  let sections ← Setting.sections.mapM fun entry => do
    return (entry.1, ← section? field entry)
  let value (s : Setting) : Option (Option s.Value) :=
    valueIn? ((sections.lookup (sectionOf s)).join) s
  if Setting.all.all fun s => (value s).isSome then some fun s => (value s).join else none

end ConfigLayer

namespace Config

def assign (c : Config) (layer : ConfigLayer) : Config :=
  Setting.all.foldl
    (fun c s => match layer s with
      | some v => c.set s v
      | none => c) c

/-- Lays a file on top of a configuration. -/
def merge (c : Config) (layer : ConfigLayer) : Except Fault Config :=
  match (layer .dropPenaltyPercent).map (checkPercent "caps.drop_penalty_percent") with
  | some (.error text) => .error (.config text)
  | _ => .ok (c.assign layer)

def malformedText : String := "the document is not well formed"

/-- The layer in a text, or the fault that names where the text came from. -/
def readLayer (source text : String) : Except Fault ConfigLayer :=
  match (Datum.ofToml? text).bind ConfigLayer.ofDatum? with
  | some layer => .ok layer
  | none => .error (.config ("parse config" ++ source ++ ": " ++ malformedText))

/-- A document on top of the defaults. -/
def ofToml (text : String) : Except Fault Config := do
  Config.merge {} (← readLayer "" text)

end Config

end LeagueRoster
