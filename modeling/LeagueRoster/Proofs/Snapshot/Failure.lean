import LeagueRoster.Proofs.Json.Document
import LeagueRoster.Snapshot.Document

/-!
What becomes of a text that is to hold a snapshot (`ofJson_outcome`). A document that can be
represented and has a shape gives its snapshot, and every other text fails as one that could not
be decoded: a document of no shape is told from an ill-formed text by the message
(`ofJson_of_shapeless`) and not by the code.
-/
namespace LeagueRoster.Snapshot

open Datum Datum.JsonText

/-- The datum is neither a league nor teams in an envelope, nor a team. -/
structure Shapeless (d : Datum) : Prop where
  notLeague : ofLeagueEnvelope? d = none
  notTeams : ofTeamsEnvelope? d = none
  notTeam : ofSingleTeam? d = none

theorem shapeless_iff {d : Datum} : Shapeless d ↔ ofDatum? d = none := by
  simp only [ofDatum?, Option.orElse_eq_orElse, Option.orElse_eq_or, Option.or_eq_none_iff]
  exact ⟨fun h => ⟨h.notLeague, h.notTeams, h.notTeam⟩, fun h => ⟨h.1, h.2.1, h.2.2⟩⟩

/-- The text is a JSON document that can be represented in full. -/
def WellFormed (text : String) (d : Datum) : Prop := d.IsDocument text ∧ d.readable

section Outcomes

variable {text : String} {d : Datum}

theorem ofJson_of_wellFormed (h : WellFormed text d) :
    ofJson text =
      match ofDatum? d with
      | some s => .ok s
      | none => .error (.json noShapeText) := by
  obtain ⟨hdocument, hreadable⟩ := h
  obtain ⟨w, hw, hread⟩ := readJson?_of_isDocument hdocument
  have hblank : (skipBlanks w).isEmpty := isEmpty_skipBlanks_iff.mpr hw
  simp only [ofJson, hread, Option.map_some, ofDocument, hreadable, hblank, if_true, Bool.not_true]
  cases ofDatum? d <;> rfl

theorem ofJson_of_shapeless (h : WellFormed text d) (hshape : Shapeless d) :
    ofJson text = .error (.json noShapeText) := by
  rw [ofJson_of_wellFormed h, shapeless_iff.mp hshape]

/-- A snapshot comes from a document only. -/
theorem exists_wellFormed_of_ofJson {s : Snapshot} (h : ofJson text = .ok s) :
    ∃ d, WellFormed text d ∧ ofDatum? d = some s := by
  rw [ofJson] at h
  cases hread : readJson? text.toList with
  | none => exact absurd h (by simp [hread, ofDocument])
  | some found =>
    obtain ⟨d, rest⟩ := found
    simp only [hread, Option.map_some, ofDocument] at h
    split at h
    · exact absurd h (by simp)
    · next hreadable =>
      split at h
      · exact absurd h (by simp)
      · next s' hshape =>
        split at h
        · next hblank =>
          have hdocument := isDocument_of_readJson? hread (isEmpty_skipBlanks_iff.mp hblank)
          refine ⟨d, ⟨hdocument, by simpa using hreadable⟩, ?_⟩
          rw [hshape, Except.ok.inj h]
        · exact absurd h (by simp)

/-- Whatever goes wrong in a text, the fault is one of the decoder. -/
theorem exists_json_of_ofJson {fault : Fault} (h : ofJson text = .error fault) :
    ∃ detail, fault = .json detail := by
  unfold ofJson ofDocument at h
  split at h
  · exact ⟨_, (Except.error.inj h).symm⟩
  · split at h
    · exact ⟨_, (Except.error.inj h).symm⟩
    · split at h
      · exact ⟨_, (Except.error.inj h).symm⟩
      · split at h
        · exact absurd h (by simp)
        · exact ⟨_, (Except.error.inj h).symm⟩

end Outcomes

/-- A text gives a snapshot just if it is a document with a shape. It fails just if it is not,
ill-formed or shapeless alike, and then with the code for what could not be decoded. -/
theorem ofJson_outcome (text : String) :
    ((∃ s, ofJson text = .ok s) ↔ ∃ d, WellFormed text d ∧ ¬Shapeless d) ∧
      ((∃ fault, ofJson text = .error fault ∧ fault.code = .serialization) ↔
        ∀ d, WellFormed text d → Shapeless d) := by
  have hok : (∃ s, ofJson text = .ok s) ↔ ∃ d, WellFormed text d ∧ ¬Shapeless d := by
    constructor
    · rintro ⟨s, hs⟩
      obtain ⟨d, hd, hshape⟩ := exists_wellFormed_of_ofJson hs
      exact ⟨d, hd, fun h => absurd ((shapeless_iff.mp h).symm.trans hshape) (by simp)⟩
    · rintro ⟨d, hd, hshape⟩
      obtain ⟨s, hs⟩ := Option.ne_none_iff_exists'.mp (mt shapeless_iff.mpr hshape)
      exact ⟨s, by rw [ofJson_of_wellFormed hd, hs]⟩
  refine ⟨hok, ?_, ?_⟩
  · rintro ⟨fault, hfault, -⟩ d hd
    refine Classical.byContradiction fun hshape => ?_
    obtain ⟨s, hs⟩ := hok.mpr ⟨d, hd, hshape⟩
    exact absurd (hfault.symm.trans hs) (by simp)
  · intro h
    cases hread : ofJson text with
    | error fault =>
      obtain ⟨detail, rfl⟩ := exists_json_of_ofJson hread
      exact ⟨_, rfl, rfl⟩
    | ok s =>
      obtain ⟨d, hd, hshape⟩ := hok.mp ⟨s, hread⟩
      exact absurd (h d hd) hshape

/-- An object without entries is a document of no shape, whose fault has not the code for that. -/
theorem ofJson_empty_object :
    WellFormed "{}" (.map []) ∧ Shapeless (.map []) ∧
      ∃ fault, ofJson "{}" = .error fault ∧ fault.code.label = "E605" ∧
        fault.code ≠ .inputInvalid := by
  have hvalue : IsValue 127 ['{', '}'] (.map []) := .map (.none Json.allBlank_nil)
  have hdocument : (Datum.map []).IsDocument "{}" := Json.padded_self hvalue
  have hshape : Shapeless (.map []) := shapeless_iff.mpr (by decide +kernel)
  exact ⟨⟨hdocument, rfl⟩, hshape, _, ofJson_of_shapeless ⟨hdocument, rfl⟩ hshape,
    by decide +kernel, by decide⟩

end LeagueRoster.Snapshot
