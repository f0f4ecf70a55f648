import LeagueRoster.Config.Override

/-!
What a run of overrides leaves behind. It succeeds exactly when each variable that is set holds
a value of its setting (`overrideEach_succeeds_iff`); then every setting with a variable has the
value of that variable (`read_get_overrideEach`), and every other setting is as it was
(`get_overrideEach_of_unset`). Otherwise it stops at the first variable that holds no value of its
setting, with what the settings before it have left (`overrideEach_cases`). A second run changes
nothing (`overrideEach_again`).
-/
namespace LeagueRoster.Config

variable {lookup : String → Option String} {settings : List Setting} {c : Config} {s t : Setting}
  {raw fault : String}

theorem overrideEach_cons_unset (hlookup : lookup t.variableName = none) :
    overrideEach lookup (t :: settings) c = overrideEach lookup settings c := by
  rw [overrideEach, hlookup]

theorem overrideEach_cons_ok {v : t.Value} (hlookup : lookup t.variableName = some raw)
    (hread : t.read raw = .ok v) :
    overrideEach lookup (t :: settings) c = overrideEach lookup settings (c.set t v) := by
  simp only [overrideEach, hlookup, hread]

theorem overrideEach_cons_error (hlookup : lookup t.variableName = some raw)
    (hread : t.read raw = .error fault) :
    overrideEach lookup (t :: settings) c = (c, some fault) := by
  simp only [overrideEach, hlookup, hread]

theorem overrideEach_succeeds_iff :
    (overrideEach lookup settings c).2 = none ↔
      ∀ s ∈ settings, ∀ raw, lookup s.variableName = some raw → ∃ v, s.read raw = .ok v := by
  induction settings generalizing c with
  | nil => simp [overrideEach]
  | cons t rest ih =>
    rw [List.forall_mem_cons]
    cases hlookup : lookup t.variableName with
    | none => simp [overrideEach_cons_unset hlookup, ih]
    | some raw =>
      cases hread : t.read raw with
      | ok v => simp [overrideEach_cons_ok hlookup hread, ih, hread]
      | error fault => simp [overrideEach_cons_error hlookup hread, hread]

/-- A setting without a turn or without a variable is left alone, also by a run that fails. -/
theorem get_overrideEach_of_unset (h : s ∉ settings ∨ lookup s.variableName = none) :
    (overrideEach lookup settings c).1.get s = c.get s := by
  induction settings generalizing c with
  | nil => rfl
  | cons t rest ih =>
    have hrest : s ∉ rest ∨ lookup s.variableName = none :=
      h.imp_left fun hmem hrest => hmem (List.mem_cons_of_mem t hrest)
    cases hlookup : lookup t.variableName with
    | none => rw [overrideEach_cons_unset hlookup, ih hrest]
    | some raw =>
      have hne : s ≠ t := by
        rintro rfl
        rcases h with h | h
        · exact h List.mem_cons_self
        · exact absurd (hlookup.symm.trans h) (by simp)
      cases hread : t.read raw with
      | ok v => rw [overrideEach_cons_ok hlookup hread, ih hrest, get_set_other c v hne]
      | error fault => rw [overrideEach_cons_error hlookup hread]

/-- After a run without a fault a setting has the value of its variable, if that is set: its
last turn gives it that value and nothing later changes it. -/
theorem read_get_overrideEach (hrun : (overrideEach lookup settings c).2 = none)
    (hs : s ∈ settings) (hraw : lookup s.variableName = some raw) :
    s.read raw = .ok ((overrideEach lookup settings c).1.get s) := by
  induction settings generalizing c with
  | nil => exact absurd hs List.not_mem_nil
  | cons t rest ih =>
    cases hlookup : lookup t.variableName with
    | none =>
      have hne : s ≠ t := by
        rintro rfl
        exact absurd (hlookup.symm.trans hraw) (by simp)
      rw [overrideEach_cons_unset hlookup] at hrun ⊢
      exact ih hrun ((List.mem_cons.mp hs).resolve_left hne)
    | some raw' =>
      cases hread : t.read raw' with
      | error fault =>
        rw [overrideEach_cons_error hlookup hread] at hrun
        exact absurd hrun (by simp)
      | ok v =>
        rw [overrideEach_cons_ok hlookup hread] at hrun ⊢
        by_cases hrest : s ∈ rest
        · exact ih hrun hrest
        · obtain rfl : s = t := (List.mem_cons.mp hs).resolve_right hrest
          obtain rfl : raw = raw' := Option.some.inj (hraw.symm.trans hlookup)
          rw [get_overrideEach_of_unset (Or.inl hrest), get_set_same, hread]

/-- A run either comes to its end, or stops at the first setting whose variable holds no value of
it, with what the settings before it have left. -/
theorem overrideEach_cases (lookup : String → Option String) (settings : List Setting)
    (c : Config) :
    (overrideEach lookup settings c).2 = none ∨
      ∃ done s rest raw fault, settings = done ++ s :: rest ∧
        (overrideEach lookup done c).2 = none ∧ lookup s.variableName = some raw ∧
        s.read raw = .error fault ∧
        overrideEach lookup settings c = ((overrideEach lookup done c).1, some fault) := by
  induction settings generalizing c with
  | nil => exact Or.inl rfl
  | cons t settings ih =>
    cases hlookup : lookup t.variableName with
    | none =>
      rw [overrideEach_cons_unset hlookup]
      rcases ih c with hrun | ⟨done, s, rest, raw, fault, rfl, hdone, hraw, hread, hstop⟩
      · exact Or.inl hrun
      · refine Or.inr ⟨t :: done, s, rest, raw, fault, rfl, ?_, hraw, hread, ?_⟩
        · rw [overrideEach_cons_unset hlookup, hdone]
        · rw [overrideEach_cons_unset hlookup, hstop]
    | some raw' =>
      cases hread' : t.read raw' with
      | error fault =>
        exact Or.inr ⟨[], t, settings, raw', fault, rfl, rfl, hlookup, hread',
          overrideEach_cons_error hlookup hread'⟩
      | ok v =>
        rw [overrideEach_cons_ok hlookup hread']
        rcases ih (c.set t v) with
          hrun | ⟨done, s, rest, raw, fault, rfl, hdone, hraw, hread, hstop⟩
        · exact Or.inl hrun
        · refine Or.inr ⟨t :: done, s, rest, raw, fault, rfl, ?_, hraw, hread, ?_⟩
          · rw [overrideEach_cons_ok hlookup hread', hdone]
          · rw [overrideEach_cons_ok hlookup hread', hstop]

theorem overrideEach_append {done : List Setting} (rest : List Setting)
    (hdone : (overrideEach lookup done c).2 = none) :
    overrideEach lookup (done ++ rest) c =
      overrideEach lookup rest (overrideEach lookup done c).1 := by
  induction done generalizing c with
  | nil => rfl
  | cons t done ih =>
    rw [List.cons_append]
    cases hlookup : lookup t.variableName with
    | none =>
      rw [overrideEach_cons_unset hlookup] at hdone ⊢
      rw [overrideEach_cons_unset hlookup, ih hdone]
    | some raw =>
      cases hread : t.read raw with
      | error fault =>
        rw [overrideEach_cons_error hlookup hread] at hdone
        exact absurd hdone (by simp)
      | ok v =>
        rw [overrideEach_cons_ok hlookup hread] at hdone ⊢
        rw [overrideEach_cons_ok hlookup hread, ih hdone]

/-- Whether a run succeeds depends on the variables only, and so do the values it leaves. -/
theorem overrideEach_again_of_ok (hrun : (overrideEach lookup settings c).2 = none) :
    overrideEach lookup settings (overrideEach lookup settings c).1 =
      overrideEach lookup settings c := by
  have hagain : (overrideEach lookup settings (overrideEach lookup settings c).1).2 = none :=
    overrideEach_succeeds_iff.mpr (overrideEach_succeeds_iff.mp hrun)
  refine Prod.ext ?_ (hagain.trans hrun.symm)
  apply ext_get
  intro s
  by_cases hs : s ∈ settings
  · cases hraw : lookup s.variableName with
    | none => exact get_overrideEach_of_unset (Or.inr hraw)
    | some raw =>
      have hfirst := read_get_overrideEach hrun hs hraw
      have hsecond := read_get_overrideEach hagain hs hraw
      exact Except.ok.inj (hsecond.symm.trans hfirst)
  · exact get_overrideEach_of_unset (Or.inl hs)

/-- A second run with the same variables finds its work done: it stops where the first one did,
and the settings before that place have their values already. -/
theorem overrideEach_again (lookup : String → Option String) (settings : List Setting)
    (c : Config) :
    overrideEach lookup settings (overrideEach lookup settings c).1 =
      overrideEach lookup settings c := by
  rcases overrideEach_cases lookup settings c with
    hrun | ⟨done, s, rest, raw, fault, rfl, hdone, hraw, hread, hstop⟩
  · exact overrideEach_again_of_ok hrun
  · have hagain := overrideEach_again_of_ok hdone
    have hdone' : (overrideEach lookup done (overrideEach lookup done c).1).2 = none := by
      rw [hagain, hdone]
    rw [hstop, overrideEach_append _ hdone', hagain, overrideEach_cons_error hraw hread]

end LeagueRoster.Config
