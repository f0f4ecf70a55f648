import LeagueRoster.Fault
import LeagueRoster.Proofs.Config.Overrides
import LeagueRoster.Proofs.Config.Spelling
import Mathlib.Tactic.ByContra

/-!
A run of overrides seen from outside. The settings have their turns in the order of `Setting.all`.
If no variable is refused, every setting takes what its variable says; otherwise the first variable
that is refused is the fault, and it parts the settings that have taken their values from those
that keep what they had (`override_prefix`).
-/
namespace LeagueRoster.Config

/-- How a run of overrides ends for its caller. -/
def overrideOutcome (c : Config) (lookup : String → Option String) : Except Fault Unit :=
  match (c.override lookup).2 with
  | none => .ok ()
  | some text => .error (.config text)

/-- The variable of a setting holds no value of it. -/
def Refused (lookup : String → Option String) (s : Setting) : Prop :=
  ∃ raw, lookup s.variableName = some raw ∧ ∀ v, ¬s.Reads raw v

/-- A setting has the value of its variable; if that is not set, it has the value it had. -/
def Takes (lookup : String → Option String) (before after : Config) (s : Setting) : Prop :=
  match lookup s.variableName with
  | some raw => s.Reads raw (after.get s)
  | none => after.get s = before.get s

variable {lookup : String → Option String} {settings : List Setting} {c : Config} {s : Setting}

theorem overrideOutcome_of_some {text : String} (h : (c.override lookup).2 = some text) :
    c.overrideOutcome lookup = .error (.config text) := by
  rw [overrideOutcome, h]

theorem not_refused_iff :
    ¬Refused lookup s ↔ ∀ raw, lookup s.variableName = some raw → ∃ v, s.read raw = .ok v := by
  simp only [Refused, ← Setting.read_eq_ok_iff, not_exists, not_and, not_forall, not_not]

theorem refused_of_read {raw text : String} (hraw : lookup s.variableName = some raw)
    (hread : s.read raw = .error text) : Refused lookup s := by
  refine ⟨raw, hraw, ?_⟩
  intro v hv
  rw [← Setting.read_eq_ok_iff, hread] at hv
  exact absurd hv (by simp)

/-- Every text is read as a flag. -/
theorem not_refused_showPositions : ¬Refused lookup .showPositions :=
  not_refused_iff.mpr fun raw _ => ⟨Setting.readFlag raw, rfl⟩

theorem forall_not_refused_iff :
    (∀ s, ¬Refused lookup s) ↔ ∀ s, s ≠ .showPositions → ¬Refused lookup s := by
  constructor
  · intro h s _
    exact h s
  · intro h s
    by_cases hs : s = .showPositions
    · rw [hs]
      exact not_refused_showPositions
    · exact h s hs

theorem overrideEach_eq_none_iff :
    (overrideEach lookup settings c).2 = none ↔ ∀ s ∈ settings, ¬Refused lookup s := by
  simp only [overrideEach_succeeds_iff, not_refused_iff]

theorem override_eq_none_iff : (c.override lookup).2 = none ↔ ∀ s, ¬Refused lookup s :=
  overrideEach_eq_none_iff.trans
    ⟨fun h s => h s (Setting.mem_all s), fun h s _ => h s⟩

theorem overrideOutcome_eq_ok_iff :
    c.overrideOutcome lookup = .ok () ↔ ∀ s, ¬Refused lookup s := by
  rw [← override_eq_none_iff, overrideOutcome]
  cases (c.override lookup).2 <;> simp

theorem overrideOutcome_of_refused (h : Refused lookup s) :
    ∃ text, c.overrideOutcome lookup = .error (.config text) := by
  cases hrun : (c.override lookup).2 with
  | none => exact absurd h (override_eq_none_iff.mp hrun s)
  | some text => exact ⟨text, overrideOutcome_of_some hrun⟩

theorem takes_overrideEach (hrun : (overrideEach lookup settings c).2 = none) (hs : s ∈ settings) :
    Takes lookup c (overrideEach lookup settings c).1 s := by
  unfold Takes
  cases hraw : lookup s.variableName with
  | none => exact get_overrideEach_of_unset (Or.inr hraw)
  | some raw => exact Setting.read_eq_ok_iff.mp (read_get_overrideEach hrun hs hraw)

theorem nodup_settings : Setting.all.Nodup := by decide

/-- The settings of a run in three parts, and what each has: those that took their values, the one
whose text is complained about, and those whose turn does not come. -/
structure StoppedAt (lookup : String → Option String) (before after : Config)
    (outcome : Except Fault Unit) (done : List Setting) (s : Setting) (rest : List Setting) :
    Prop where
  parts : Setting.all = done ++ s :: rest
  accepted : ∀ t ∈ done, ¬Refused lookup t
  refused : Refused lookup s
  fault : ∃ raw text, lookup s.variableName = some raw ∧ s.Complaint raw text ∧
    outcome = .error (.config text)
  applied : ∀ t ∈ done, Takes lookup before after t
  kept : ∀ t ∈ s :: rest, after.get t = before.get t

/-- A run in which some variable is refused stops. No setting has two turns, so that a setting whose
turn does not come is not among those that have had theirs. -/
theorem exists_stoppedAt (h : Refused lookup s) :
    ∃ done t rest,
      StoppedAt lookup c (c.override lookup).1 (c.overrideOutcome lookup) done t rest := by
  rcases overrideEach_cases lookup Setting.all c with
    hrun | ⟨done, t, rest, raw, text, hparts, hdone, hraw, hread, hstop⟩
  · exact absurd h (override_eq_none_iff.mp hrun s)
  · have hrun : c.override lookup = ((overrideEach lookup done c).1, some text) := hstop
    have houtcome : c.overrideOutcome lookup = .error (.config text) := by
      apply overrideOutcome_of_some
      rw [hrun]
    rw [houtcome, hrun]
    refine ⟨done, t, rest, ?_⟩
    constructor
    case parts => exact hparts
    case accepted => exact overrideEach_eq_none_iff.mp hdone
    case refused => exact refused_of_read hraw hread
    case fault => exact ⟨raw, text, hraw, Setting.complaint_of_read hread, rfl⟩
    case applied =>
      intro t' ht
      exact takes_overrideEach hdone ht
    case kept =>
      intro t' ht
      have hnodup := nodup_settings
      rw [hparts] at hnodup
      have hlater : t' ∉ done := fun hdone => (List.nodup_append.mp hnodup).2.2 t' hdone t' ht rfl
      exact get_overrideEach_of_unset (Or.inl hlater)

/-- A run of overrides takes every value it is given if none is refused. Otherwise it fails at the
first setting whose variable is refused: the settings before it have taken their values, and it and
those behind it keep what they had. A second run with the same variables leaves the same
configuration and ends in the same way. -/
theorem override_prefix (c : Config) (lookup : String → Option String) :
    let after := (c.override lookup).1
    ((∀ s, s ≠ .showPositions → ¬Refused lookup s) →
        c.overrideOutcome lookup = .ok () ∧ ∀ s, Takes lookup c after s) ∧
      ((∃ s, s ≠ .showPositions ∧ Refused lookup s) →
        ∃ done s rest, StoppedAt lookup c after (c.overrideOutcome lookup) done s rest) ∧
      (after.override lookup).1 = after ∧
      after.overrideOutcome lookup = c.overrideOutcome lookup := by
  intro after
  have hagain : after.override lookup = c.override lookup := overrideEach_again lookup Setting.all c
  refine ⟨?_, ?_, congrArg Prod.fst hagain, ?_⟩
  · intro haccepted
    have hall : ∀ s, ¬Refused lookup s := forall_not_refused_iff.mpr haccepted
    refine ⟨overrideOutcome_eq_ok_iff.mpr hall, ?_⟩
    intro s
    exact takes_overrideEach (override_eq_none_iff.mpr hall) (Setting.mem_all s)
  · rintro ⟨bad, -, hbad⟩
    exact exists_stoppedAt hbad
  · rw [overrideOutcome, overrideOutcome, hagain]

/-- The second of three variables is refused: the first is applied, the third is not looked at. -/
example :
    let given (name : String) : Option String :=
      [("FBKL_CAP_KEEPER", " +90 "), ("FBKL_CAP_DROP_PENALTY_PERCENT", "101"),
        ("FBKL_DEFAULT_PHASE", "off-season")].lookup name
    ({} : Config).override given =
      ({ caps := { keeper := 90 } },
        some "FBKL_CAP_DROP_PENALTY_PERCENT must be between 0 and 100, got 101") := by
  decide +kernel

/-- The order of the turns. -/
example : Setting.all.map Setting.variableName =
    ["FBKL_CAP_KEEPER", "FBKL_CAP_PRESEASON", "FBKL_CAP_REGULAR_SEASON", "FBKL_CAP_POST_SEASON",
      "FBKL_CAP_DROP_PENALTY_PERCENT", "FBKL_LIMIT_KEEPER_CONTRACTS",
      "FBKL_LIMIT_PRESEASON_CONTRACTS", "FBKL_LIMIT_ACTIVE_CONTRACTS",
      "FBKL_LIMIT_ROOKIE_DEVELOPMENT", "FBKL_LIMIT_ROOKIE_DEVELOPMENT_INTERNATIONAL",
      "FBKL_LIMIT_INJURED_RESERVE", "FBKL_DEFAULT_PHASE", "FBKL_DISPLAY_NAME_WIDTH",
      "FBKL_DISPLAY_SHOW_POSITIONS"] := rfl

end LeagueRoster.Config
