import LeagueRoster.Proofs.Contract.RoundTrip
import LeagueRoster.Proofs.Snapshot.Failure

/-!
A snapshot is read back from what is written of it, bare or in an envelope of its own, and a
team that stands alone is read as the snapshot of that team (`ofJson_undoes_toJson`). The three
shapes of a document do not get in each other's way: neither a team nor a bare snapshot has an
entry for a league, and a team has no entry for teams.
-/
namespace LeagueRoster

open Datum Datum.JsonText

namespace Team

/-- The entries of a team. -/
def members (t : Team) : List (String × Json) :=
  [("id", Json.ofInt64 t.id), ("name", .str t.name),
    ("contracts", .arr (t.contracts.map Contract.toJson)),
    ("droppedContracts", .arr (t.droppedContracts.map Contract.toJson))]

theorem keys_eq_fields (t : Team) : t.members.map Prod.fst = fields := rfl

theorem nodup_keys (t : Team) : (t.members.map Prod.fst).Nodup := by
  rw [keys_eq_fields]
  decide

theorem wireForm (rules : Leniency) : WireForm (ofDatum? rules) toJson 5 where
  reads t := by
    have hid : t.members.lookup "id" = some (Json.ofInt64 t.id) := rfl
    have hname : t.members.lookup "name" = some (.str t.name) := rfl
    have hcontracts : t.members.lookup "contracts" =
        some (.arr (t.contracts.map Contract.toJson)) := rfl
    have hdropped : t.members.lookup "droppedContracts" =
        some (.arr (t.droppedContracts.map Contract.toJson)) := rfl
    have hlist := (Contract.wireForm rules).list
    show ofDatum? rules (Json.obj t.members).toDatum = some t
    simp only [ofDatum?, record?_toDatum t.nodup_keys, Option.bind_eq_bind, Option.bind_some,
      slot_required wireForm_int64 hid, slot_required wireForm_str hname,
      slot_orElse hlist [] hcontracts, slot_orElse hlist [] hdropped, Option.pure_def]
  fits t levels hlevels := by
    have hid := wireForm_int64.fits t.id (levels - 1) (Nat.zero_le _)
    have hlist := (Contract.wireForm rules).list.fits
    have hcontracts := hlist t.contracts (levels - 1) (by omega)
    have hdropped := hlist t.droppedContracts (levels - 1) (by omega)
    exact ⟨by omega, hid, trivial, hcontracts, hdropped, trivial⟩

end Team

namespace Snapshot

/-- What stands under the name of a snapshot's only field. -/
def teamsJson (s : Snapshot) : Json := .arr (s.teams.map Team.toJson)

theorem wireForm : WireForm ofLeague? toJson 7 where
  reads s := by
    have hkeys : ([("teams", s.teamsJson)].map Prod.fst).Nodup := List.pairwise_singleton _ _
    have hteams : [("teams", s.teamsJson)].lookup "teams" = some s.teamsJson := rfl
    have hlist := (Team.wireForm leniency).list
    show ofLeague? (Json.obj [("teams", s.teamsJson)]).toDatum = some s
    simp only [ofLeague?, record?_toDatum hkeys, Option.bind_eq_bind, Option.bind_some,
      slot_orElse hlist [] hteams, Option.pure_def]
  fits s levels hlevels := by
    have hteams := (Team.wireForm leniency).list.fits s.teams (levels - 1) (by omega)
    exact ⟨by omega, hteams, trivial⟩

section Shapes

variable {members : List (String × Json)}

theorem ofLeagueEnvelope?_toDatum (hkeys : (members.map Prod.fst).Nodup) :
    ofLeagueEnvelope? (Json.obj members).toDatum =
      (Json.slot members "league").required ofLeague? := by
  have hrecord : record? leniency ["league"] (Json.obj members).toDatum =
      some (Json.slot members) := record?_toDatum hkeys _
  rw [Json.toDatum] at hrecord ⊢
  rw [ofLeagueEnvelope?, hrecord]
  rfl

theorem ofTeamsEnvelope?_toDatum (hkeys : (members.map Prod.fst).Nodup) :
    ofTeamsEnvelope? (Json.obj members).toDatum =
      ((Json.slot members "teams").required (listOf? (Team.ofDatum? leniency))).map
        Snapshot.mk := by
  have hrecord : record? leniency ["teams"] (Json.obj members).toDatum =
      some (Json.slot members) := record?_toDatum hkeys _
  rw [Json.toDatum] at hrecord ⊢
  rw [ofTeamsEnvelope?, hrecord, Option.map_eq_bind]
  rfl

end Shapes

theorem ofDatum?_enveloped (s : Snapshot) :
    ofDatum? (Json.obj [("league", s.toJson)]).toDatum = some s := by
  have hkeys : ([("league", s.toJson)].map Prod.fst).Nodup := List.pairwise_singleton _ _
  have hleague : [("league", s.toJson)].lookup "league" = some s.toJson := rfl
  rw [ofDatum?, ofLeagueEnvelope?_toDatum hkeys, slot_required wireForm hleague]
  rfl

theorem ofDatum?_toJson (s : Snapshot) : ofDatum? s.toJson.toDatum = some s := by
  have hkeys : ([("teams", s.teamsJson)].map Prod.fst).Nodup := List.pairwise_singleton _ _
  have hteams : [("teams", s.teamsJson)].lookup "teams" = some s.teamsJson := rfl
  show ofDatum? (Json.obj [("teams", s.teamsJson)]).toDatum = some s
  rw [ofDatum?, ofLeagueEnvelope?_toDatum hkeys, ofTeamsEnvelope?_toDatum hkeys,
    slot_required (Team.wireForm leniency).list hteams]
  rfl

theorem ofDatum?_team (t : Team) : ofDatum? t.toJson.toDatum = some ⟨[t]⟩ := by
  have hteam : Team.ofDatum? leniency (Json.obj t.members).toDatum = some t :=
    (Team.wireForm leniency).reads t
  show ofDatum? (Json.obj t.members).toDatum = some ⟨[t]⟩
  rw [ofDatum?, ofLeagueEnvelope?_toDatum t.nodup_keys, ofTeamsEnvelope?_toDatum t.nodup_keys,
    ofSingleTeam?, hteam]
  rfl

/-- Every document of the value, laid out as may be, is read as the snapshot. -/
structure ReadsAs (j : Json) (s : Snapshot) : Prop where
  compact : ofJson j.compact = .ok s
  pretty : ofJson j.pretty = .ok s
  document : ∀ text, j.WrittenAs text → ofJson text = .ok s

theorem readsAs_of_ofDatum? {j : Json} {s : Snapshot} (hfits : Fits 127 j)
    (hshape : ofDatum? j.toDatum = some s) : ReadsAs j s := by
  have hdocument : ∀ text, j.WrittenAs text → ofJson text = .ok s := by
    intro text htext
    have hdatum := htext.isDocument
    rw [readBack_of_fits j hfits] at hdatum
    rw [ofJson_of_wellFormed ⟨hdatum, j.readable_toDatum⟩, hshape]
  exact ⟨hdocument _ j.writtenAs_compact, hdocument _ j.writtenAs_pretty, hdocument⟩

theorem readsAs_team (t : Team) : ReadsAs t.toJson ⟨[t]⟩ :=
  readsAs_of_ofDatum? ((Team.wireForm leniency).fits t 127 (by decide)) (ofDatum?_team t)

/-- Reading undoes writing in all three shapes of a document. -/
theorem ofJson_undoes_toJson (s : Snapshot) (t : Team) :
    ReadsAs s.toJson s ∧ ReadsAs (.obj [("league", s.toJson)]) s ∧ ReadsAs t.toJson ⟨[t]⟩ := by
  refine ⟨?_, ?_, ?_⟩
  · exact readsAs_of_ofDatum? (wireForm.fits s 127 (by decide)) s.ofDatum?_toJson
  · have hfits : Fits 127 (.obj [("league", s.toJson)]) :=
      ⟨by decide, wireForm.fits s 126 (by decide), trivial⟩
    exact readsAs_of_ofDatum? hfits s.ofDatum?_enveloped
  · exact readsAs_team t

end Snapshot

end LeagueRoster
