import LeagueRoster.Proofs.Datum.WireForm

/-!
Players and contracts are read back from what is written of them. The names that a record is
written with are among its fields, in their order; so none stands twice, and none is the name
that the type of a player stands under.
-/
namespace LeagueRoster

open Datum

variable (rules : Leniency)

namespace RealPlayer

theorem keys_sublist_fields (p : RealPlayer) : (p.members.map Prod.fst).Sublist fields := by
  have hkeys : (p.members.map Prod.fst).Sublist (["id", "name"] ++ ["position"] ++
      ["realTeamName"] ++ ["photoUrl"] ++ ["isRdiEligible"]) := by
    simp only [members, List.map_append]
    exact ((((List.Sublist.refl _).append (keys_entry?_sublist _ _ _)).append
      (keys_entry?_sublist _ _ _)).append (keys_entry?_sublist _ _ _)).append (List.Sublist.refl _)
  exact hkeys

theorem wireForm : WireForm (ofDatum? rules) (fun p => .obj p.members) 1 where
  reads p := by
    have hkeys : (p.members.map Prod.fst).Nodup := p.keys_sublist_fields.nodup (by decide)
    have hid : p.members.lookup "id" = some (Json.ofInt64 p.id) := rfl
    have hname : p.members.lookup "name" = some (.str p.name) := rfl
    have hposition : p.members.lookup "position" = p.position.map .str := by
      simp [members, List.lookup_append, List.lookup_cons]
    have hteam : p.members.lookup "realTeamName" = p.teamName.map .str := by
      simp [members, List.lookup_append, List.lookup_cons]
    have hphoto : p.members.lookup "photoUrl" = p.photoUrl.map .str := by
      simp [members, List.lookup_append, List.lookup_cons]
    have hrdi : p.members.lookup "isRdiEligible" = some (.bool p.rdiEligible) := by
      simp [members, List.lookup_append, List.lookup_cons]
    simp only [ofDatum?, record?_toDatum hkeys, Option.bind_eq_bind, Option.bind_some,
      slot_required wireForm_int64 hid, slot_required wireForm_str hname,
      slot_optional wireForm_str rfl hposition, slot_optional wireForm_str rfl hteam,
      slot_optional wireForm_str rfl hphoto, slot_orElse wireForm_bool false hrdi, Option.pure_def]
  fits p levels hlevels := by
    refine ⟨hlevels, ?_⟩
    simp only [members, membersFit_append]
    have hid := wireForm_int64.fits p.id (levels - 1) (Nat.zero_le _)
    have hdetail := fun name (o : Option String) =>
      wireForm_str.membersFit_optional (Nat.zero_le (levels - 1)) name o
    exact ⟨⟨⟨⟨⟨hid, trivial, trivial⟩, hdetail _ _⟩, hdetail _ _⟩, hdetail _ _⟩, trivial, trivial⟩

end RealPlayer

namespace LeaguePlayer

theorem keys_sublist_fields (p : LeaguePlayer) : (p.members.map Prod.fst).Sublist fields := by
  have hkeys : (p.members.map Prod.fst).Sublist
      (["id", "name"] ++ ["realPlayerId"] ++ ["isRdiEligible"] ++ ["realPlayer"]) := by
    simp only [members, List.map_append]
    exact (((List.Sublist.refl _).append (keys_entry?_sublist _ _ _)).append
      (List.Sublist.refl _)).append (keys_entry?_sublist _ _ _)
  exact hkeys

theorem wireForm : WireForm (ofDatum? rules) (fun p => .obj p.members) 2 where
  reads p := by
    have hkeys : (p.members.map Prod.fst).Nodup := p.keys_sublist_fields.nodup (by decide)
    have hid : p.members.lookup "id" = some (Json.ofInt64 p.id) := rfl
    have hname : p.members.lookup "name" = some (.str p.name) := rfl
    have hlink : p.members.lookup "realPlayerId" = p.realPlayerId.map Json.ofInt64 := by
      simp [members, List.lookup_append, List.lookup_cons]
    have hrdi : p.members.lookup "isRdiEligible" = some (.bool p.rdiEligible) := by
      simp [members, List.lookup_append, List.lookup_cons]
    have hreal : p.members.lookup "realPlayer" =
        p.realPlayer.map fun real => .obj real.members := by
      simp [members, List.lookup_append, List.lookup_cons]
    simp only [ofDatum?, record?_toDatum hkeys, Option.bind_eq_bind, Option.bind_some,
      slot_required wireForm_int64 hid, slot_required wireForm_str hname,
      slot_optional wireForm_int64 rfl hlink, slot_orElse wireForm_bool false hrdi,
      slot_optional (RealPlayer.wireForm rules) rfl hreal, Option.pure_def]
  fits p levels hlevels := by
    refine ⟨by omega, ?_⟩
    simp only [members, membersFit_append]
    have hid := wireForm_int64.fits p.id (levels - 1) (Nat.zero_le _)
    have hlink := wireForm_int64.membersFit_optional (Nat.zero_le (levels - 1)) "realPlayerId"
      p.realPlayerId
    have hreal := (RealPlayer.wireForm rules).membersFit_optional (Nat.le_sub_one_of_lt hlevels)
      "realPlayer" p.realPlayer
    exact ⟨⟨⟨⟨hid, trivial, trivial⟩, hlink⟩, trivial, trivial⟩, hreal⟩

end LeaguePlayer

namespace Player

/-- The type is taken off a record that has no field of its name. -/
theorem splitType?_toDatum {members : List (String × Json)}
    (hkeys : "__typename" ∉ members.map Prod.fst) (type : Json) :
    splitType? (Json.obj (("__typename", type) :: members)).toDatum =
      some (type.toDatum, (Json.obj members).toDatum) := by
  have hother : ∀ m ∈ members, isTypeKey (.str m.1) = false := by
    intro m hm
    have hne : m.1 ≠ "__typename" := fun h => hkeys (List.mem_map.mpr ⟨m, hm, h⟩)
    exact beq_eq_false_iff_ne.mpr hne
  have hdrop : members.filter (fun m => isTypeKey (.str m.1)) = [] := by
    rw [List.filter_eq_nil_iff]
    intro m hm
    simp [hother m hm]
  have hkeep : members.filter (fun m => !isTypeKey (.str m.1)) = members := by
    rw [List.filter_eq_self]
    intro m hm
    simp [hother m hm]
  have hfilter := filter_datumEntries isTypeKey (("__typename", type) :: members)
  have hrest := filter_datumEntries (!isTypeKey ·) (("__typename", type) :: members)
  rw [List.filter_cons_of_pos (by rfl), hdrop] at hfilter
  rw [List.filter_cons_of_neg (by simp [isTypeKey]), hkeep] at hrest
  rw [Json.toDatum, splitType?, hfilter, hrest]
  rfl

theorem guard_of_true {p : Prop} [Decidable p] (h : p) : (guard p : Option Unit) = some () :=
  if_pos h

/-- Of a tagged record the tag says which kind of record the rest is read as. -/
theorem ofDatum?_tagged {members : List (String × Json)}
    (hkeys : "__typename" ∉ members.map Prod.fst) (type : String) :
    ofDatum? rules (Json.obj (("__typename", .str type) :: members)).toDatum = (do
      match ← typePosition? rules (.str type) with
      | 0 => return league (← LeaguePlayer.ofDatum? rules (Json.obj members).toDatum)
      | 1 => return real (← RealPlayer.ofDatum? rules (Json.obj members).toDatum)
      | _ => none) := by
  have hreadable := Json.readable_toDatum (.obj (("__typename", .str type) :: members))
  rw [ofDatum?, guard_of_true hreadable, splitType?_toDatum hkeys]
  rfl

theorem wireForm : WireForm (ofDatum? rules) toJson 2 where
  reads p := by
    cases p with
    | league p =>
      have hkeys : "__typename" ∉ p.members.map Prod.fst := fun h =>
        absurd (p.keys_sublist_fields.subset h) (by decide)
      have hrecord := (LeaguePlayer.wireForm rules).reads p
      refine (ofDatum?_tagged rules hkeys "LeaguePlayer").trans ?_
      rw [hrecord]
      rfl
    | real p =>
      have hkeys : "__typename" ∉ p.members.map Prod.fst := fun h =>
        absurd (p.keys_sublist_fields.subset h) (by decide)
      have hrecord := (RealPlayer.wireForm rules).reads p
      refine (ofDatum?_tagged rules hkeys "RealPlayer").trans ?_
      rw [hrecord]
      rfl
  fits p levels hlevels := by
    refine ⟨by omega, trivial, ?_⟩
    cases p with
    | league p => exact ((LeaguePlayer.wireForm rules).fits p levels hlevels).2
    | real p => exact ((RealPlayer.wireForm rules).fits p levels (by omega)).2

end Player

theorem ContractKind.wireForm :
    WireForm (ContractKind.ofDatum? rules) (fun kind => .str kind.wireName) 0 :=
  wireForm_constant fun kind => by cases kind <;> decide

theorem ContractStatus.wireForm :
    WireForm (ContractStatus.ofDatum? rules) (fun status => .str status.wireName) 0 :=
  wireForm_constant fun status => by cases status <;> decide

namespace Contract

/-- The entries of a contract. -/
def members (c : Contract) : List (String × Json) :=
  [("id", Json.ofInt64 c.id), ("kind", .str c.kind.wireName), ("status", .str c.status.wireName),
    ("isIr", .bool c.injuredReserve), ("salary", Json.ofUInt16 c.salary),
    ("yearNumber", Json.ofUInt16 c.year)] ++
  Json.entry? "endOfSeasonYear" Json.ofUInt16 c.seasonEnd ++
  [("leagueOrRealPlayer", c.player.toJson)]

theorem keys_sublist_fields (c : Contract) : (c.members.map Prod.fst).Sublist fields := by
  have hkeys : (c.members.map Prod.fst).Sublist
      (["id", "kind", "status", "isIr", "salary", "yearNumber"] ++ ["endOfSeasonYear"] ++
        ["leagueOrRealPlayer"]) := by
    simp only [members, List.map_append]
    exact ((List.Sublist.refl _).append (keys_entry?_sublist _ _ _)).append (List.Sublist.refl _)
  exact hkeys

theorem wireForm : WireForm (ofDatum? rules) toJson 3 where
  reads c := by
    have hkeys : (c.members.map Prod.fst).Nodup := c.keys_sublist_fields.nodup (by decide)
    have hid : c.members.lookup "id" = some (Json.ofInt64 c.id) := rfl
    have hkind : c.members.lookup "kind" = some (.str c.kind.wireName) := rfl
    have hstatus : c.members.lookup "status" = some (.str c.status.wireName) := rfl
    have hinjured : c.members.lookup "isIr" = some (.bool c.injuredReserve) := rfl
    have hsalary : c.members.lookup "salary" = some (Json.ofUInt16 c.salary) := rfl
    have hyear : c.members.lookup "yearNumber" = some (Json.ofUInt16 c.year) := rfl
    have hend : c.members.lookup "endOfSeasonYear" = c.seasonEnd.map Json.ofUInt16 := by
      simp [members, List.lookup_append, List.lookup_cons]
    have hplayer : c.members.lookup "leagueOrRealPlayer" = some c.player.toJson := by
      simp [members, List.lookup_append, List.lookup_cons]
    show ofDatum? rules (Json.obj c.members).toDatum = some c
    simp only [ofDatum?, record?_toDatum hkeys, Option.bind_eq_bind, Option.bind_some,
      slot_required wireForm_int64 hid, slot_required (ContractKind.wireForm rules) hkind,
      slot_orElse (ContractStatus.wireForm rules) .usual hstatus,
      slot_orElse wireForm_bool false hinjured, slot_required wireForm_uint16 hsalary,
      slot_required wireForm_uint16 hyear, slot_optional wireForm_uint16 rfl hend,
      slot_required (Player.wireForm rules) hplayer, Option.pure_def]
  fits c levels hlevels := by
    have hid := wireForm_int64.fits c.id (levels - 1) (Nat.zero_le _)
    have hsalary := wireForm_uint16.fits c.salary (levels - 1) (Nat.zero_le _)
    have hyear := wireForm_uint16.fits c.year (levels - 1) (Nat.zero_le _)
    have hend := wireForm_uint16.membersFit_optional (Nat.zero_le (levels - 1)) "endOfSeasonYear"
      c.seasonEnd
    have hplayer := (Player.wireForm rules).fits c.player (levels - 1) (by omega)
    refine ⟨by omega, ?_⟩
    simp only [membersFit_append]
    exact ⟨⟨⟨hid, trivial, trivial, trivial, hsalary, hyear, trivial⟩, hend⟩, hplayer, trivial⟩

end Contract

end LeagueRoster
