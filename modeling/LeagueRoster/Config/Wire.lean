import LeagueRoster.Config.Setting
import LeagueRoster.Datum.Record
import LeagueRoster.Json

/-!
The wire form of a configuration: an object of sections, each an object of settings. What is
left out has its default.
-/
namespace LeagueRoster

open Datum

def SeasonPhase.ofDatum? (rules : Leniency) (d : Datum) : Option SeasonPhase :=
  d.constant? rules all name

namespace Setting

def valueToJson : (s : Setting) → s.Value → Json
  | cap _, v | dropPenaltyPercent, v => .int (UInt32.toNat v)
  | limit _, v | nameWidth, v => .int (UInt64.toNat v)
  | defaultPhase, v => .str (SeasonPhase.name v)
  | showPositions, v => .bool v

def valueOfDatum? (rules : Leniency) (d : Datum) : (s : Setting) → Option s.Value
  | cap _ | dropPenaltyPercent => d.uint32?
  | limit _ | nameWidth => d.uint64?
  | defaultPhase => SeasonPhase.ofDatum? rules d
  | showPositions => d.bool?

end Setting

namespace Config

def sectionToJson (c : Config) (settings : List Setting) : Json :=
  .obj (settings.map fun s => (s.key, s.valueToJson (c.get s)))

def toJson (c : Config) : Json :=
  .obj (Setting.sections.map fun entry => (entry.1, c.sectionToJson entry.2))

/-- Reads a section into a configuration that has the defaults there. -/
def readSection? (rules : Leniency) (settings : List Setting) (c : Config) (d : Datum) :
    Option Config := do
  let field ← d.record? rules (settings.map Setting.key)
  settings.foldlM
    (fun c s => do
      let v ← (field s.key).orElse (s.valueOfDatum? rules) (c.get s)
      return c.set s v) c

def ofDatum? (rules : Leniency) (d : Datum) : Option Config := do
  let field ← d.record? rules (Setting.sections.map Prod.fst)
  Setting.sections.foldlM
    (fun c entry => (field entry.1).orElse (readSection? rules entry.2 c) c) ({} : Config)

end Config

end LeagueRoster
