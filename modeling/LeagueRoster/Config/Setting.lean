import LeagueRoster.Config
import LeagueRoster.Text.Numeral

/-!
The settings of a configuration, one by one. Each has a type of values, a place in the
configuration, a section and key in documents, and a variable that overrides it. Setting one
changes that one and no other (`get_set_same`, `get_set_other`).
-/
namespace LeagueRoster

inductive CountLimit where
  | keeperContracts
  | preseasonContracts
  | activeContracts
  | rookieDevelopment
  | rookieDevelopmentInternational
  | injuredReserve
  deriving Repr, DecidableEq

namespace CountLimit

def all : List CountLimit :=
  [keeperContracts, preseasonContracts, activeContracts, rookieDevelopment,
    rookieDevelopmentInternational, injuredReserve]

def key : CountLimit → String
  | keeperContracts => "keeper_contracts"
  | preseasonContracts => "preseason_contracts"
  | activeContracts => "active_contracts"
  | rookieDevelopment => "rookie_development"
  | rookieDevelopmentInternational => "rookie_development_international"
  | injuredReserve => "injured_reserve"

end CountLimit

def RosterLimits.get (limits : RosterLimits) : CountLimit → UInt64
  | .keeperContracts => limits.keeperContracts
  | .preseasonContracts => limits.preseasonContracts
  | .activeContracts => limits.activeContracts
  | .rookieDevelopment => limits.rookieDevelopment
  | .rookieDevelopmentInternational => limits.rookieDevelopmentInternational
  | .injuredReserve => limits.injuredReserve

def RosterLimits.set (limits : RosterLimits) (which : CountLimit) (n : UInt64) : RosterLimits :=
  match which with
  | .keeperContracts => { limits with keeperContracts := n }
  | .preseasonContracts => { limits with preseasonContracts := n }
  | .activeContracts => { limits with activeContracts := n }
  | .rookieDevelopment => { limits with rookieDevelopment := n }
  | .rookieDevelopmentInternational => { limits with rookieDevelopmentInternational := n }
  | .injuredReserve => { limits with injuredReserve := n }

inductive Setting where
  | cap (phase : SeasonPhase)
  | dropPenaltyPercent
  | limit (which : CountLimit)
  | defaultPhase
  | nameWidth
  | showPositions
  deriving Repr, DecidableEq

namespace Setting

def Value : Setting → Type
  | cap _ | dropPenaltyPercent => UInt32
  | limit _ | nameWidth => UInt64
  | defaultPhase => SeasonPhase
  | showPositions => Bool

def capSettings : List Setting := SeasonPhase.all.map cap ++ [dropPenaltyPercent]

def limitSettings : List Setting := CountLimit.all.map limit

def displaySettings : List Setting := [defaultPhase, nameWidth, showPositions]

/-- The sections of a configuration document with their settings. -/
def sections : List (String × List Setting) :=
  [("caps", capSettings), ("limits", limitSettings), ("display", displaySettings)]

/-- In the order in which overrides are applied. -/
def all : List Setting := capSettings ++ limitSettings ++ displaySettings

theorem mem_all (s : Setting) : s ∈ all := by
  cases s with
  | cap phase => cases phase <;> decide
  | limit which => cases which <;> decide
  | dropPenaltyPercent | defaultPhase | nameWidth | showPositions => decide

def key : Setting → String
  | cap phase => phase.name
  | dropPenaltyPercent => "drop_penalty_percent"
  | limit which => which.key
  | defaultPhase => "default_phase"
  | nameWidth => "name_width"
  | showPositions => "show_positions"

/-- The environment variable that overrides the setting. -/
def variableName : Setting → String
  | cap .keeper => "FBKL_CAP_KEEPER"
  | cap .preseason => "FBKL_CAP_PRESEASON"
  | cap .regularSeason => "FBKL_CAP_REGULAR_SEASON"
  | cap .postSeason => "FBKL_CAP_POST_SEASON"
  | dropPenaltyPercent => "FBKL_CAP_DROP_PENALTY_PERCENT"
  | limit .keeperContracts => "FBKL_LIMIT_KEEPER_CONTRACTS"
  | limit .preseasonContracts => "FBKL_LIMIT_PRESEASON_CONTRACTS"
  | limit .activeContracts => "FBKL_LIMIT_ACTIVE_CONTRACTS"
  | limit .rookieDevelopment => "FBKL_LIMIT_ROOKIE_DEVELOPMENT"
  | limit .rookieDevelopmentInternational => "FBKL_LIMIT_ROOKIE_DEVELOPMENT_INTERNATIONAL"
  | limit .injuredReserve => "FBKL_LIMIT_INJURED_RESERVE"
  | defaultPhase => "FBKL_DEFAULT_PHASE"
  | nameWidth => "FBKL_DISPLAY_NAME_WIDTH"
  | showPositions => "FBKL_DISPLAY_SHOW_POSITIONS"

end Setting

namespace Config

def get (c : Config) : (s : Setting) → s.Value
  | .cap phase => c.caps.forPhase phase
  | .dropPenaltyPercent => c.caps.dropPenaltyPercent
  | .limit which => c.limits.get which
  | .defaultPhase => c.display.defaultPhase
  | .nameWidth => c.display.nameWidth
  | .showPositions => c.display.showPositions

def set (c : Config) : (s : Setting) → s.Value → Config
  | .cap phase, v => { c with caps := c.caps.setPhase phase v }
  | .dropPenaltyPercent, v => { c with caps := { c.caps with dropPenaltyPercent := v } }
  | .limit which, v => { c with limits := c.limits.set which v }
  | .defaultPhase, v => { c with display := { c.display with defaultPhase := v } }
  | .nameWidth, v => { c with display := { c.display with nameWidth := v } }
  | .showPositions, v => { c with display := { c.display with showPositions := v } }

theorem get_set_same (c : Config) (s : Setting) (v : s.Value) : (c.set s v).get s = v := by
  cases s with
  | cap phase => cases phase <;> rfl
  | limit which => cases which <;> rfl
  | dropPenaltyPercent | defaultPhase | nameWidth | showPositions => rfl

theorem get_set_other (c : Config) {s t : Setting} (v : s.Value) (h : t ≠ s) :
    (c.set s v).get t = c.get t := by
  rcases s with (_ | _ | _ | _) | _ | (_ | _ | _ | _ | _ | _) | _ | _ | _ <;>
    rcases t with (_ | _ | _ | _) | _ | (_ | _ | _ | _ | _ | _) | _ | _ | _ <;>
    first | rfl | exact absurd rfl h

/-- A configuration is known by its settings. -/
theorem ext_get {c d : Config} (h : ∀ s, c.get s = d.get s) : c = d := by
  obtain ⟨⟨_, _, _, _, _⟩, ⟨_, _, _, _, _, _⟩, _, _, _⟩ := c
  obtain ⟨⟨_, _, _, _, _⟩, ⟨_, _, _, _, _, _⟩, _, _, _⟩ := d
  have h₁ := h (.cap .keeper)
  have h₂ := h (.cap .preseason)
  have h₃ := h (.cap .regularSeason)
  have h₄ := h (.cap .postSeason)
  have h₅ := h .dropPenaltyPercent
  have h₆ := h (.limit .keeperContracts)
  have h₇ := h (.limit .preseasonContracts)
  have h₈ := h (.limit .activeContracts)
  have h₉ := h (.limit .rookieDevelopment)
  have h₁₀ := h (.limit .rookieDevelopmentInternational)
  have h₁₁ := h (.limit .injuredReserve)
  have h₁₂ := h .defaultPhase
  have h₁₃ := h .nameWidth
  have h₁₄ := h .showPositions
  simp_all [get, SalaryCaps.forPhase, RosterLimits.get]

end Config

/-- A penalty above the dropped salary itself is a slip and no rule. -/
def checkPercent (source : String) (percent : UInt32) : Except String UInt32 :=
  if 100 < percent then
    .error (source ++ " must be between 0 and 100, got " ++ Text.decimal percent.toNat)
  else .ok percent

end LeagueRoster
