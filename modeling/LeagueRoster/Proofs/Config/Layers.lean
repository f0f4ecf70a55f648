import LeagueRoster.Config.Source
import LeagueRoster.Proofs.Config.Document
import Mathlib.Tactic.ByContra

/-!
Laying files on top of a configuration. A layer replaces the settings it gives and no other
(`get_assign`). A file takes part without a fault exactly when it is absent or its document is a
layer whose penalty share is at most one hundred (`stackFile_of_valid`, `stackFile_of_invalid`);
what lies above it does not matter. What is read of a setting from such a file is what the document
gives it (`fileValue?_eq_some_iff`).
-/
namespace LeagueRoster.Config

/-- A layer gives no penalty share above the dropped salary. -/
def FairLayer (layer : ConfigLayer) : Prop :=
  ∀ percent : UInt32, layer .dropPenaltyPercent = some percent → percent ≤ 100

/-- The file at a path holds a document. -/
def HoldsDocument (w : Workspace) (path : String) (document : Datum) : Prop :=
  ∃ content, w.entry path = .text content ∧ Datum.ofToml? content = some document

/-- A partial configuration with no penalty share above the dropped salary. -/
structure IsFairLayer (document : Datum) : Prop where
  isLayer : ConfigLayer.IsLayer document
  percent_le : ∀ percent : UInt32,
    ConfigLayer.Gives document .dropPenaltyPercent percent → percent ≤ 100

/-- There is something at the path, but nothing that may be laid on top of a configuration. -/
def InvalidFile (w : Workspace) (path : String) : Prop :=
  (∀ reason, w.entry path ≠ .missing reason) ∧
    ∀ document, HoldsDocument w path document → ¬IsFairLayer document

/-- The layer that is read from the file at a path. -/
def layerIn? (w : Workspace) (path : String) : Option ConfigLayer :=
  match w.entry path with
  | .text content => (Datum.ofToml? content).bind ConfigLayer.ofDatum?
  | .missing _ | .unreadable _ => none

/-- What is read of a setting from the file at a path. -/
def fileValue? (w : Workspace) (path : String) (s : Setting) : Option s.Value :=
  (layerIn? w path).bind fun layer => layer s

section Files

variable {w : Workspace} {path : String} {document : Datum} {layer : ConfigLayer}

theorem layerIn?_eq_some_iff :
    layerIn? w path = some layer ↔
      ∃ document, HoldsDocument w path document ∧ ConfigLayer.ofDatum? document = some layer := by
  unfold layerIn? HoldsDocument
  cases w.entry path <;> simp [Option.bind_eq_some_iff]

theorem isFairLayer_iff :
    IsFairLayer document ↔
      ∃ layer, ConfigLayer.ofDatum? document = some layer ∧ FairLayer layer := by
  constructor
  · rintro ⟨hlayer, hpercent⟩
    obtain ⟨layer, hread⟩ := ConfigLayer.exists_ofDatum?_of_isLayer hlayer
    obtain ⟨-, hgives⟩ := ConfigLayer.ofDatum?_eq_some_iff.mp hread
    refine ⟨layer, hread, ?_⟩
    intro percent h
    exact hpercent percent ((hgives .dropPenaltyPercent percent).mp h)
  · rintro ⟨layer, hread, hfair⟩
    obtain ⟨hlayer, hgives⟩ := ConfigLayer.ofDatum?_eq_some_iff.mp hread
    refine ⟨hlayer, ?_⟩
    intro percent h
    exact hfair percent ((hgives .dropPenaltyPercent percent).mpr h)

theorem invalidFile_iff :
    InvalidFile w path ↔
      (∀ reason, w.entry path ≠ .missing reason) ∧
        ∀ layer, layerIn? w path = some layer → ¬FairLayer layer := by
  refine and_congr_right fun _ => ?_
  simp only [isFairLayer_iff, layerIn?_eq_some_iff]
  constructor
  · rintro h layer ⟨document, hdocument, hread⟩ hfair
    exact h document hdocument ⟨layer, hread, hfair⟩
  · rintro h document hdocument ⟨layer, hread, hfair⟩
    exact h layer ⟨document, hdocument, hread⟩ hfair

end Files

theorem get_foldl_assign (layer : ConfigLayer) (settings : List Setting) (c : Config)
    (s : Setting) :
    (settings.foldl
      (fun c s => match layer s with
        | some v => c.set s v
        | none => c) c).get s =
      if s ∈ settings then (layer s).getD (c.get s) else c.get s := by
  induction settings generalizing c with
  | nil => rfl
  | cons t rest ih =>
    rw [List.foldl_cons, ih]
    by_cases hst : s = t
    · subst hst
      cases layer s with
      | none => simp
      | some v => simp [get_set_same]
    · have hmem : s ∈ t :: rest ↔ s ∈ rest := by simp [hst]
      simp only [hmem]
      cases layer t with
      | none => rfl
      | some v => simp only [get_set_other c v hst]

theorem get_assign (c : Config) (layer : ConfigLayer) (s : Setting) :
    (c.assign layer).get s = (layer s).getD (c.get s) :=
  (get_foldl_assign layer Setting.all c s).trans (if_pos (Setting.mem_all s))

theorem checkPercent_of_le {source : String} {percent : UInt32} (h : percent ≤ 100) :
    checkPercent source percent = .ok percent :=
  if_neg (UInt32.not_lt.mpr h)

theorem checkPercent_of_lt {source : String} {percent : UInt32} (h : 100 < percent) :
    ∃ text, checkPercent source percent = .error text :=
  ⟨_, if_pos h⟩

/-- The penalty share that a layer gives. -/
def percent? (layer : ConfigLayer) : Option UInt32 := layer .dropPenaltyPercent

theorem merge_eq (c : Config) (layer : ConfigLayer) :
    c.merge layer =
      match (percent? layer).map (checkPercent "caps.drop_penalty_percent") with
      | some (.error text) => .error (.config text)
      | _ => .ok (c.assign layer) := rfl

theorem merge_of_fair {layer : ConfigLayer} (h : FairLayer layer) (c : Config) :
    c.merge layer = .ok (c.assign layer) := by
  rw [merge_eq]
  cases hpercent : percent? layer with
  | none => rfl
  | some percent =>
    rw [Option.map_some, checkPercent_of_le (h percent hpercent)]

theorem merge_of_not_fair {layer : ConfigLayer} (h : ¬FairLayer layer) (c : Config) :
    ∃ fault, c.merge layer = .error fault := by
  obtain ⟨percent, h⟩ := not_forall.mp h
  obtain ⟨hpercent, hlarge⟩ := Classical.not_imp.mp h
  obtain ⟨text, hcheck⟩ : ∃ text, checkPercent "caps.drop_penalty_percent" percent = .error text :=
    checkPercent_of_lt (UInt32.not_le.mp hlarge)
  have hpercent : percent? layer = some percent := hpercent
  refine ⟨.config text, ?_⟩
  rw [merge_eq, hpercent, Option.map_some, hcheck]

theorem layerAt_of_missing {w : Workspace} {path reason : String}
    (h : w.entry path = .missing reason) : layerAt w path = .ok none := by
  rw [layerAt, h]

/-- A file that is there holds the layer that is read from it, or reading it fails. -/
theorem layerAt_of_present {w : Workspace} {path : String}
    (h : ∀ reason, w.entry path ≠ .missing reason) :
    match layerIn? w path with
    | some layer => layerAt w path = .ok (some layer)
    | none => ∃ fault, layerAt w path = .error fault := by
  unfold layerIn? layerAt
  cases hentry : w.entry path with
  | missing reason => exact absurd hentry (h reason)
  | unreadable reason => exact ⟨_, rfl⟩
  | text content =>
    simp only [readLayer]
    cases (Datum.ofToml? content).bind ConfigLayer.ofDatum? with
    | some layer => rfl
    | none => exact ⟨_, rfl⟩

/-- A file that is valid or absent replaces the settings it gives. -/
theorem stackFile_of_valid {w : Workspace} {path : String} (h : ¬InvalidFile w path) (c : Config) :
    ∃ c', stackFile w c path = .ok c' ∧ ∀ s, c'.get s = (fileValue? w path s).getD (c.get s) := by
  rw [invalidFile_iff] at h
  unfold stackFile fileValue?
  by_cases hpresent : ∀ reason, w.entry path ≠ .missing reason
  · have hlayer := layerAt_of_present hpresent
    cases hfound : layerIn? w path with
    | none =>
      refine absurd ⟨hpresent, ?_⟩ h
      intro layer hlayer
      exact absurd (hlayer.symm.trans hfound) (by simp)
    | some layer =>
      have hfair : FairLayer layer := by
        by_contra hunfair
        refine h ⟨hpresent, ?_⟩
        intro layer' hlayer'
        obtain rfl : layer = layer' := Option.some.inj (hfound.symm.trans hlayer')
        exact hunfair
      simp only [hfound] at hlayer
      rw [hlayer]
      exact ⟨c.assign layer, merge_of_fair hfair c, get_assign c layer⟩
  · obtain ⟨reason, hreason⟩ := not_forall.mp hpresent
    have hmissing : w.entry path = .missing reason := not_not.mp hreason
    rw [layerAt_of_missing hmissing]
    refine ⟨c, rfl, ?_⟩
    intro s
    simp only [layerIn?, hmissing, Option.bind_none, Option.getD_none]

theorem stackFile_of_invalid {w : Workspace} {path : String} (h : InvalidFile w path) (c : Config) :
    ∃ fault, stackFile w c path = .error fault := by
  obtain ⟨hpresent, hunfair⟩ := invalidFile_iff.mp h
  have hlayer := layerAt_of_present hpresent
  unfold stackFile
  cases hfound : layerIn? w path with
  | none =>
    simp only [hfound] at hlayer
    obtain ⟨fault, hfault⟩ := hlayer
    exact ⟨fault, by rw [hfault]; rfl⟩
  | some layer =>
    simp only [hfound] at hlayer
    obtain ⟨fault, hfault⟩ := merge_of_not_fair (hunfair layer hfound) c
    exact ⟨fault, by rw [hlayer]; exact hfault⟩

end LeagueRoster.Config
