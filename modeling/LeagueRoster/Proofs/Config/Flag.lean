import LeagueRoster.Proofs.Config.OverrideRun

/-!
Overrides taken at their word. Numbers and phases are never misread: what is no spelling of a
value is refused. The flag is another matter. It has eight words, four for yes and four for no, but
refuses nothing and does not drop blanks, so that every text that is no word for yes says no. A
run is therefore faithful exactly when another variable is refused, or the flag is not set, or it
is set to a word for yes without blanks around it or to a word for no (`faithful_iff`).
-/
namespace LeagueRoster

namespace Text

theorem mem_lowercase_of_isBlank {s : String} {c : Char} (hc : c ∈ s.toList) (hblank : isBlank c) :
    c ∈ (lowercase s).toList := by
  rw [lowercase, String.toList_ofList]
  apply List.mem_flatMap.mpr
  refine ⟨c, hc, ?_⟩
  rw [lower_of_isBlank hblank]
  exact List.mem_singleton_self c

end Text

namespace Setting

def noWords : List String := ["0", "false", "no", "off"]

/-- The text of its variable spells the value `v` of a setting. -/
def Spells (raw : String) : (s : Setting) → s.Value → Prop
  | showPositions, v =>
    v = true ∧ Text.lowercase (Text.trim raw) ∈ yesWords ∨
      v = false ∧ Text.lowercase (Text.trim raw) ∈ noWords
  | s, v => s.Reads raw v

variable {s : Setting} {raw : String}

theorem spells_iff_reads (hs : s ≠ .showPositions) {v : s.Value} :
    s.Spells raw v ↔ s.Reads raw v := by
  cases s with
  | showPositions => exact absurd rfl hs
  | cap _ | dropPenaltyPercent | limit _ | defaultPhase | nameWidth => exact Iff.rfl

theorem not_isBlank_of_yesWord {w : String} (hw : w ∈ yesWords) {c : Char} (hc : c ∈ w.toList) :
    ¬Text.isBlank c := by
  have hwords : (yesWords.all fun w => w.toList.all fun c => !Text.isBlank c) = true := by
    decide +kernel
  have hclear := List.all_eq_true.mp (List.all_eq_true.mp hwords w hw) c hc
  rw [Bool.not_eq_true, ← Bool.not_eq_true']
  exact hclear

theorem trim_of_yesWord (h : Text.lowercase raw ∈ yesWords) : Text.trim raw = raw := by
  apply Text.trim_of_forall_not_isBlank
  intro c hc hblank
  exact not_isBlank_of_yesWord h (Text.mem_lowercase_of_isBlank hc hblank) hblank

/-- The texts that the flag reads as they are spelled. -/
theorem spells_readFlag_iff :
    Setting.showPositions.Spells raw (readFlag raw) ↔
      Text.lowercase raw ∈ yesWords ∨ Text.lowercase (Text.trim raw) ∈ noWords := by
  have hspells : Setting.showPositions.Spells raw (readFlag raw) ↔
      readFlag raw = true ∧ Text.lowercase (Text.trim raw) ∈ yesWords ∨
        readFlag raw = false ∧ Text.lowercase (Text.trim raw) ∈ noWords := Iff.rfl
  rw [hspells]
  by_cases hyes : Text.lowercase raw ∈ yesWords
  · have hflag : readFlag raw = true := readFlag_iff.mpr hyes
    simp [hflag, trim_of_yesWord hyes, hyes]
  · have hflag : readFlag raw = false := by
      rw [← Bool.not_eq_true, readFlag_iff]
      exact hyes
    simp [hflag, hyes]

end Setting

namespace Config

/-- No override is misread: after a run without a fault each setting has the value that its
variable spells, and a text that spells none ends the run with a fault. -/
structure Faithful (c : Config) (lookup : String → Option String) : Prop where
  spelled : c.overrideOutcome lookup = .ok () → ∀ (s : Setting) raw,
    lookup s.variableName = some raw → s.Spells raw ((c.override lookup).1.get s)
  rejected : ∀ (s : Setting) raw, lookup s.variableName = some raw → (∀ v, ¬s.Spells raw v) →
    ∃ text, c.overrideOutcome lookup = .error (.config text)

variable {c : Config} {lookup : String → Option String} {raw : String}

theorem get_showPositions_override (hrun : (c.override lookup).2 = none)
    (hraw : lookup Setting.showPositions.variableName = some raw) :
    (c.override lookup).1.get .showPositions = Setting.readFlag raw := by
  have hread : Setting.showPositions.read raw = .ok ((c.override lookup).1.get .showPositions) :=
    read_get_overrideEach hrun (Setting.mem_all _) hraw
  exact (Except.ok.inj hread).symm

/-- Where another variable is refused, the flag has no say. -/
theorem faithful_of_refused {s : Setting} (h : Refused lookup s) : Faithful c lookup where
  spelled hok := absurd h (overrideOutcome_eq_ok_iff.mp hok s)
  rejected _ _ _ _ := overrideOutcome_of_refused h

theorem faithful_of_flagWord
    (h : ∀ raw, lookup Setting.showPositions.variableName = some raw →
      Text.lowercase raw ∈ Setting.yesWords ∨
        Text.lowercase (Text.trim raw) ∈ Setting.noWords) : Faithful c lookup where
  spelled hok s raw hraw := by
    have hrun : (c.override lookup).2 = none :=
      override_eq_none_iff.mpr (overrideOutcome_eq_ok_iff.mp hok)
    by_cases hs : s = .showPositions
    · subst hs
      rw [get_showPositions_override hrun hraw]
      exact Setting.spells_readFlag_iff.mpr (h raw hraw)
    · rw [Setting.spells_iff_reads hs, ← Setting.read_eq_ok_iff]
      exact read_get_overrideEach hrun (Setting.mem_all s) hraw
  rejected s raw hraw hno := by
    by_cases hs : s = .showPositions
    · subst hs
      exact absurd (Setting.spells_readFlag_iff.mpr (h raw hraw)) (hno _)
    · apply overrideOutcome_of_refused
      refine ⟨raw, hraw, ?_⟩
      intro v hv
      exact hno v ((Setting.spells_iff_reads hs).mpr hv)

/-- Exactly when a run of overrides can be taken at its word: numbers and phases cannot break it,
but a flag does whose text is no word at all, or a word for yes with blanks around it. -/
theorem faithful_iff (c : Config) (lookup : String → Option String) :
    Faithful c lookup ↔
      (∃ s, s ≠ .showPositions ∧ Refused lookup s) ∨
        ∀ raw, lookup Setting.showPositions.variableName = some raw →
          Text.lowercase raw ∈ Setting.yesWords ∨
            Text.lowercase (Text.trim raw) ∈ Setting.noWords := by
  constructor
  · intro h
    by_cases hrefused : ∃ s, s ≠ .showPositions ∧ Refused lookup s
    · exact Or.inl hrefused
    · refine Or.inr ?_
      intro raw hraw
      have hall : ∀ s, ¬Refused lookup s :=
        forall_not_refused_iff.mpr fun s hflag hs => hrefused ⟨s, hflag, hs⟩
      have hspells := h.spelled (overrideOutcome_eq_ok_iff.mpr hall) .showPositions raw hraw
      rw [get_showPositions_override (override_eq_none_iff.mpr hall) hraw] at hspells
      exact Setting.spells_readFlag_iff.mp hspells
  · rintro (⟨s, -, hs⟩ | h)
    · exact faithful_of_refused hs
    · exact faithful_of_flagWord h

/-- A flag that is set to no word at all is taken for a no without a fault, and so is a yes with a
blank behind it. -/
theorem not_faithful_flag :
    let given (text name : String) : Option String :=
      if name = "FBKL_DISPLAY_SHOW_POSITIONS" then some text else none
    (({} : Config).override (given "maybe")).2 = none ∧
      (({} : Config).override (given "maybe")).1.display.showPositions = false ∧
      ¬Faithful {} (given "maybe") ∧
      (({} : Config).override (given "true ")).2 = none ∧
      (({} : Config).override (given "true ")).1.display.showPositions = false ∧
      ¬Faithful {} (given "true ") := by
  intro given
  have hmaybe : (({} : Config).override (given "maybe")).2 = none := by decide +kernel
  have htrue : (({} : Config).override (given "true ")).2 = none := by decide +kernel
  have hno : (({} : Config).override (given "true ")).1.display.showPositions = false := by
    decide +kernel
  refine ⟨hmaybe, by decide +kernel, ?_, htrue, hno, ?_⟩
  · intro h
    have hyes : Text.lowercase (Text.trim "maybe") ∉ Setting.yesWords := by decide +kernel
    have hnot : Text.lowercase (Text.trim "maybe") ∉ Setting.noWords := by decide +kernel
    have hnone : ∀ v, ¬Setting.showPositions.Spells "maybe" v := by
      rintro v (⟨-, hv⟩ | ⟨-, hv⟩)
      · exact hyes hv
      · exact hnot hv
    obtain ⟨text, htext⟩ := h.rejected .showPositions "maybe" rfl hnone
    rw [overrideOutcome, hmaybe] at htext
    exact absurd htext (by simp)
  · intro h
    have hok : ({} : Config).overrideOutcome (given "true ") = .ok () := by
      rw [overrideOutcome, htrue]
    have hnot : Text.lowercase (Text.trim "true ") ∉ Setting.noWords := by decide +kernel
    rcases h.spelled hok .showPositions "true " rfl with ⟨hv, -⟩ | ⟨-, hv⟩
    · exact absurd (hno.symm.trans hv) (by decide)
    · exact hnot hv

end Config

end LeagueRoster
