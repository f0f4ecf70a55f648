import LeagueRoster.Proofs.Cap.Penalty
import LeagueRoster.Proofs.Config.Precedence

/-!
The penalty share of a configuration stays between 0 and 100. Whatever documents replace a
configuration and whatever variables override it, also by steps that are refused or stop half
way, it never leaves these bounds (`fair_apply`, `fair_foldl_apply`), and neither does one that is
loaded (`fair_load`). So a dropped contract never costs more than its salary.
-/
namespace LeagueRoster.Config

/-- The penalty share is no larger than the dropped salary. -/
def Fair (c : Config) : Prop := c.caps.dropPenaltyPercent ≤ 100

/-- What can change a configuration from outside. -/
inductive Edit where
  | document (text : String)
  | overrides (lookup : String → Option String)

/-- A document takes the place of the configuration, unless it is refused. Overrides that end
with a fault keep what they have applied before it. -/
def Edit.apply (c : Config) : Edit → Config
  | document text =>
    match ofToml text with
    | .ok replaced => replaced
    | .error _ => c
  | overrides lookup => (c.override lookup).1

/-- The defaults after a sequence of edits. -/
def afterEdits (edits : List Edit) : Config := edits.foldl Edit.apply {}

variable {c c' : Config} {w : Workspace} {argument : Option String}

/-- If two steps in a row succeed, each of them does. -/
theorem exists_of_bind_eq_ok {ε α β : Type} {x : Except ε α} {f : α → Except ε β} {b : β}
    (h : x >>= f = .ok b) : ∃ a, x = .ok a ∧ f a = .ok b := by
  cases x with
  | error fault => exact absurd h (by simp [bind, Except.bind])
  | ok a => exact ⟨a, rfl, h⟩

theorem fair_default : Fair {} := UInt32.le_iff_toNat_le.mpr (by decide)

theorem Fair.dropPenalty_le (h : Fair c) (contract : Contract) :
    (dropPenalty contract c.caps.dropPenaltyPercent).toNat ≤ contract.salary.toNat :=
  toNat_dropPenalty_le contract (UInt32.le_iff_toNat_le.mp h)

/-- The text of a variable gives no unfair share: reading it runs the check. -/
theorem percent_le_of_read {raw : String} {percent : UInt32}
    (hread : Setting.dropPenaltyPercent.read raw = .ok percent) : percent ≤ 100 := by
  simp only [Setting.read] at hread
  obtain ⟨number, -, hcheck⟩ := exists_of_bind_eq_ok hread
  by_cases hnumber : number ≤ 100
  · rw [checkPercent_of_le hnumber] at hcheck
    rw [← Except.ok.inj hcheck]
    exact hnumber
  · obtain ⟨text, htext⟩ := checkPercent_of_lt (UInt32.not_le.mp hnumber)
    exact absurd (htext.symm.trans hcheck) (by simp)

theorem fair_set {s : Setting} {v : s.Value} {raw : String} (h : Fair c)
    (hread : s.read raw = .ok v) : Fair (c.set s v) := by
  by_cases hs : s = .dropPenaltyPercent
  · subst hs
    exact percent_le_of_read hread
  · have hkept : (c.set s v).caps.dropPenaltyPercent = c.caps.dropPenaltyPercent :=
      get_set_other c v (Ne.symm hs)
    rw [Fair, hkept]
    exact h

theorem fair_overrideEach (lookup : String → Option String) (settings : List Setting)
    (h : Fair c) : Fair (overrideEach lookup settings c).1 := by
  induction settings generalizing c with
  | nil => exact h
  | cons s rest ih =>
    cases hlookup : lookup s.variableName with
    | none =>
      rw [overrideEach_cons_unset hlookup]
      exact ih h
    | some raw =>
      cases hread : s.read raw with
      | ok v =>
        rw [overrideEach_cons_ok hlookup hread]
        exact ih (fair_set h hread)
      | error fault =>
        rw [overrideEach_cons_error hlookup hread]
        exact h

theorem fair_assign {layer : ConfigLayer} (hlayer : FairLayer layer) (h : Fair c) :
    Fair (c.assign layer) := by
  have hassign : (c.assign layer).caps.dropPenaltyPercent =
      (percent? layer).getD c.caps.dropPenaltyPercent := get_assign c layer .dropPenaltyPercent
  rw [Fair, hassign]
  cases hpercent : percent? layer with
  | none => exact h
  | some percent => exact hlayer percent hpercent

theorem fair_merge {layer : ConfigLayer} (hmerge : c.merge layer = .ok c') (h : Fair c) :
    Fair c' := by
  by_cases hlayer : FairLayer layer
  · rw [merge_of_fair hlayer] at hmerge
    rw [← Except.ok.inj hmerge]
    exact fair_assign hlayer h
  · obtain ⟨fault, hfault⟩ := merge_of_not_fair hlayer c
    exact absurd (hmerge.symm.trans hfault) (by simp)

theorem fair_ofToml {text : String} (hread : ofToml text = .ok c) : Fair c := by
  unfold ofToml at hread
  obtain ⟨layer, -, hmerge⟩ := exists_of_bind_eq_ok hread
  exact fair_merge hmerge fair_default

theorem fair_apply (edit : Edit) (h : Fair c) : Fair (edit.apply c) := by
  cases edit with
  | document text =>
    simp only [Edit.apply]
    cases hread : ofToml text with
    | ok replaced => exact fair_ofToml hread
    | error fault => exact h
  | overrides lookup => exact fair_overrideEach lookup Setting.all h

theorem fair_foldl_apply (edits : List Edit) (h : Fair c) : Fair (edits.foldl Edit.apply c) := by
  induction edits generalizing c with
  | nil => exact h
  | cons edit rest ih => exact ih (fair_apply edit h)

theorem fair_stackFile {path : String} (hstack : stackFile w c path = .ok c') (h : Fair c) :
    Fair c' := by
  unfold stackFile at hstack
  obtain ⟨found, -, hlaid⟩ := exists_of_bind_eq_ok hstack
  cases found with
  | none =>
    rw [← Except.ok.inj hlaid]
    exact h
  | some layer => exact fair_merge hlaid h

theorem fair_stackFiles {paths : List String} (hstack : stackFiles w paths = .ok c) : Fair c := by
  induction paths generalizing c with
  | nil =>
    rw [← Except.ok.inj hstack]
    exact fair_default
  | cons path below ih =>
    unfold stackFiles at hstack
    obtain ⟨lower, hlower, hlaid⟩ := exists_of_bind_eq_ok hstack
    exact fair_stackFile hlaid (ih hlower)

theorem fair_load (hload : load w argument = .ok c) : Fair c := by
  have hpresent := (loadable_of_load hload).named_present
  cases hfiles : ofFiles w argument with
  | error fault =>
    rw [load_of_ofFiles_error hfiles] at hload
    exact absurd hload (by simp)
  | ok lower =>
    have hlower : Fair lower := by
      rw [ofFiles_eq_stackFiles hpresent] at hfiles
      exact fair_stackFiles hfiles
    rw [load_of_ofFiles_ok hfiles] at hload
    split at hload
    · rw [← Except.ok.inj hload]
      exact fair_overrideEach w.environment Setting.all hlower
    · exact absurd hload (by simp)

/-- Edits of the defaults and sources of every kind keep the penalty share between 0 and 100, at
each turn of an override too, so that dropping a contract costs at most its salary. -/
theorem penaltyShare_invariant :
    (∀ edits : List Edit, Fair (afterEdits edits)) ∧
      (∀ (edits : List Edit) (lookup : String → Option String) (turns : Nat),
        Fair (overrideEach lookup (Setting.all.take turns) (afterEdits edits)).1) ∧
      (∀ w argument c, load w argument = .ok c → Fair c) ∧
      ∀ (c : Config) (contract : Contract), Fair c →
        (dropPenalty contract c.caps.dropPenaltyPercent).toNat ≤ contract.salary.toNat := by
  have hedits : ∀ edits : List Edit, Fair (afterEdits edits) := by
    intro edits
    exact fair_foldl_apply edits fair_default
  refine ⟨hedits, ?_, ?_, ?_⟩
  · intro edits lookup turns
    exact fair_overrideEach lookup _ (hedits edits)
  · intro w argument c hload
    exact fair_load hload
  · intro c contract h
    exact h.dropPenalty_le contract

/-- A share that is refused twice over: the document leaves no trace, the run of overrides
keeps the two caps before it. A share of one hundred is loaded, and charges all of a salary. -/
theorem penaltyShare_invariant_largeShares :
    let given (values : List (String × String)) (name : String) := values.lookup name
    let refused : Edit := .document "[caps]\nkeeper = 80\ndrop_penalty_percent = 101"
    let stopped : Edit := .overrides (given [("FBKL_CAP_KEEPER", "90"),
      ("FBKL_CAP_PRESEASON", "70"), ("FBKL_CAP_DROP_PENALTY_PERCENT", "101"),
      ("FBKL_LIMIT_INJURED_RESERVE", "3")])
    let w : Workspace :=
      { environment := given [("FBKL_CAP_DROP_PENALTY_PERCENT", "100")]
        entry := fun _ => .missing "" }
    let whole : Config := { caps := { dropPenaltyPercent := 100 } }
    let c : Contract :=
      { id := 1, kind := .veteran, salary := 7, year := 1,
        player := .real { id := 1, name := "Bo" } }
    afterEdits [refused, stopped] = { caps := { keeper := 90, preseason := 70 } } ∧
      Fair (afterEdits [refused, stopped]) ∧ load w none = .ok whole ∧ Fair whole ∧
      (dropPenalty c 100).toNat = 7 ∧ (dropPenalty c 100).toNat ≤ c.salary.toNat := by
  intro given refused stopped w whole c
  obtain ⟨hedits, -, hload, hpenalty⟩ := penaltyShare_invariant
  have hloaded : load w none = .ok whole := rfl
  have hfair : Fair whole := hload w none whole hloaded
  refine ⟨by decide +kernel, hedits [refused, stopped], hloaded, hfair, by decide, ?_⟩
  exact hpenalty whole c hfair

end LeagueRoster.Config
