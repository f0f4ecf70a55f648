import LeagueRoster.Config.Setting

/-!
Overrides from variables of the environment. They are applied setting by setting, in the order
of `Setting.all`; the first value that is no value of its setting ends the run, and what was
applied before it stays applied.
-/
namespace LeagueRoster

namespace Setting

def readNumber {α : Type} (parse : String → Except Text.NumeralFault α) (source raw : String) :
    Except String α :=
  match parse (Text.trim raw) with
  | .ok v => .ok v
  | .error fault =>
    .error ("invalid " ++ source ++ " value " ++ raw ++ ": " ++ fault.message)

def readPhase (raw : String) : Except String SeasonPhase :=
  match SeasonPhase.parse? raw with
  | some phase => .ok phase
  | none => .error (SeasonPhase.invalidMessage raw)

/-- Four words say yes, in any letter case. Everything else says no. -/
def readFlag (raw : String) : Bool :=
  ["1", "true", "yes", "on"].contains (String.ofList (raw.toList.flatMap Text.lower))

/-- The value that the text of its variable gives to a setting, or why it gives none. -/
def read (raw : String) : (s : Setting) → Except String s.Value
  | cap phase => readNumber Text.parseUInt32 (cap phase).variableName raw
  | dropPenaltyPercent => do
    let percent ← readNumber Text.parseUInt32 dropPenaltyPercent.variableName raw
    checkPercent dropPenaltyPercent.variableName percent
  | limit which => readNumber Text.parseUInt64 (limit which).variableName raw
  | defaultPhase => readPhase raw
  | nameWidth => readNumber Text.parseUInt64 nameWidth.variableName raw
  | showPositions => .ok (readFlag raw)

end Setting

namespace Config

def overrideEach (lookup : String → Option String) :
    List Setting → Config → Config × Option String
  | [], c => (c, none)
  | s :: rest, c =>
    match lookup s.variableName with
    | none => overrideEach lookup rest c
    | some raw =>
      match s.read raw with
      | .ok v => overrideEach lookup rest (c.set s v)
      | .error fault => (c, some fault)

/-- The configuration after the run, and the fault that ended it, if any. -/
def override (c : Config) (lookup : String → Option String) : Config × Option String :=
  overrideEach lookup Setting.all c

end Config

end LeagueRoster
