import LeagueRoster.Proofs.Datum.WireForm
import LeagueRoster.Proofs.Json.Value
import LeagueRoster.Report.Envelope

/-!
Fault reports survive the wire. A report is read back from every text of its wire form, if its
details have their members in order and are not null, for null is read as no details
(`ofDatum?_toJson`). The response to a failure is written from a record of its own, but what stands
in its status is that wire form (`member?_failure`), so the report can be taken out of the response
as well. The details of a fault are of that kind whatever texts it carries (`survivesWire_ofFault`).
-/
namespace LeagueRoster

open Datum Datum.JsonText

/-- What stands under a key of a map. -/
def Datum.under? (key : String) (d : Datum) : Option Datum := do
  ((← d.record? .plain [key]) key).required some

theorem Datum.under?_toDatum {members : List (String × Json)} {key : String} {j : Json}
    (hkeys : (members.map Prod.fst).Nodup) (hj : members.lookup key = some j) :
    (Json.obj members).toDatum.under? key = some j.toDatum := by
  rw [Datum.under?, record?_toDatum hkeys, Option.bind_eq_bind, Option.bind_some, Json.slot, hj]
  rfl

theorem FaultCode.wireForm (rules : Leniency) :
    WireForm (FaultCode.ofDatum? rules) (fun code => .str code.wireName) 0 :=
  wireForm_constant fun code => by cases code <;> decide

/-- Details that are not taken for none, are read back as they are, and leave three levels of
containers for the report and its response. -/
structure Json.Legible (j : Json) : Prop where
  inOrder : j.InOrder
  ne_null : j ≠ .null
  fits : ∀ levels, 124 ≤ levels → Fits levels j

theorem slot_optionalInReach {members : List (String × Json)} {name : String} {o : Option Json}
    (ho : members.lookup name = o) (h : ∀ j, o = some j → j.Legible) :
    (Json.slot members name).optionalInReach Datum.toJson? = some o := by
  rw [Json.slot, ho]
  cases o with
  | none => rfl
  | some j =>
    have hread : j.toDatum.toJson? = some j := j.toJson?_toDatum (h j rfl).inOrder
    show (Slot.given j.toDatum).optional Datum.toJson? = some (some j)
    cases j with
    | null => exact absurd rfl (h .null rfl).ne_null
    | bool b => rfl
    | int n => rfl
    | str s => rfl
    | arr items => exact congrArg (Option.map some) hread
    | obj members => exact congrArg (Option.map some) hread

namespace FaultReport

/-- The entries of a report. -/
def members (r : FaultReport) : List (String × Json) :=
  [("code", .str r.code.wireName), ("numeric_code", Json.ofUInt16 r.numericCode),
    ("message", .str r.message), ("suggestion", .str r.suggestion)] ++
  Json.entry? "context" id r.context ++
  [("recoverable", .bool r.recoverable), ("category", .str r.category)]

theorem toJson_eq (r : FaultReport) : r.toJson = .obj r.members := by
  cases hcontext : r.context <;> simp [toJson, members, hcontext, Json.entry?, Json.ofUInt16]

theorem nodup_keys (r : FaultReport) : (r.members.map Prod.fst).Nodup := by
  have hsub : (r.members.map Prod.fst).Sublist (["code", "numeric_code", "message", "suggestion"] ++
      ["context"] ++ ["recoverable", "category"]) := by
    simp only [members, List.map_append]
    exact ((List.Sublist.refl _).append (keys_entry?_sublist _ _ _)).append (List.Sublist.refl _)
  exact hsub.nodup (by decide)

variable {r : FaultReport} (h : ∀ j, r.context = some j → j.Legible)

include h in
theorem ofDatum?_toJson (rules : Leniency) : ofDatum? rules r.toJson.toDatum = some r := by
  have hcode : r.members.lookup "code" = some (.str r.code.wireName) := rfl
  have hnumber : r.members.lookup "numeric_code" = some (Json.ofUInt16 r.numericCode) := rfl
  have hmessage : r.members.lookup "message" = some (.str r.message) := rfl
  have hsuggestion : r.members.lookup "suggestion" = some (.str r.suggestion) := rfl
  have hcontext : r.members.lookup "context" = r.context := by
    simp [members, List.lookup_append, List.lookup_cons]
  have hrecoverable : r.members.lookup "recoverable" = some (.bool r.recoverable) := by
    simp [members, List.lookup_append, List.lookup_cons]
  have hcategory : r.members.lookup "category" = some (.str r.category) := by
    simp [members, List.lookup_append, List.lookup_cons]
  rw [toJson_eq]
  simp only [ofDatum?, record?_toDatum r.nodup_keys, Option.bind_eq_bind, Option.bind_some,
    slot_required (FaultCode.wireForm rules) hcode, slot_required wireForm_uint16 hnumber,
    slot_required wireForm_str hmessage, slot_required wireForm_str hsuggestion,
    slot_optionalInReach hcontext h, slot_required wireForm_bool hrecoverable,
    slot_required wireForm_str hcategory, Option.pure_def]

include h in
theorem fits_toJson {levels : Nat} (hlevels : 125 ≤ levels) : Fits levels r.toJson := by
  have hnumber := wireForm_uint16.fits r.numericCode (levels - 1) (Nat.zero_le _)
  have hcontext : MembersFit (levels - 1) (Json.entry? "context" id r.context) := by
    cases hr : r.context with
    | none => trivial
    | some j => exact ⟨(h j hr).fits (levels - 1) (Nat.le_sub_one_of_lt hlevels), trivial⟩
  rw [toJson_eq]
  refine ⟨Nat.lt_of_lt_of_le (by decide) hlevels, ?_⟩
  simp only [members, membersFit_append]
  exact ⟨⟨⟨trivial, hnumber, trivial, trivial, trivial⟩, hcontext⟩, trivial, trivial, trivial⟩

/-- The status of a response holds the wire form of the report, though it is written apart. -/
theorem member?_failure (time : String) (r : FaultReport) :
    ((Envelope.failure time r).member? "status").bind (Json.member? "error") = some r.toJson := rfl

theorem under?_failure (time : String) (r : FaultReport) :
    ((Envelope.failure time r).toDatum.under? "status").bind (under? "error") =
      some r.toJson.toDatum := by
  have hkeys : ["status", "timestamp", "version", "data"].Nodup := by decide
  have hstatus : (Envelope.failure time r).toDatum.under? "status" =
      some (Json.obj [("error", r.toJson)]).toDatum := under?_toDatum hkeys rfl
  rw [hstatus, Option.bind_some]
  exact under?_toDatum (List.pairwise_singleton _ _) rfl

include h in
theorem fits_failure (time : String) : Fits 127 (Envelope.failure time r) := by
  have hreport : Fits 125 r.toJson := fits_toJson h (Nat.le_refl _)
  have hstatus : Fits 126 (.obj [("error", r.toJson)]) := ⟨by decide, hreport, trivial⟩
  exact ⟨by decide, hstatus, trivial, trivial, trivial, trivial⟩

/-- The report is had back from its wire form, however that is laid out, and it stands in the status
of the response to the failure as the same object. -/
structure SurvivesWire (r : FaultReport) : Prop where
  compact : (ofJson? r.toJson.compact).bind (ofDatum? .plain) = some r
  document : ∀ text, r.toJson.WrittenAs text → (ofJson? text).bind (ofDatum? .plain) = some r
  status : ∀ time,
    ((Envelope.failure time r).member? "status").bind (Json.member? "error") = some r.toJson
  response : ∀ time text, (Envelope.failure time r).WrittenAs text →
    ∃ encoded, ofJson? r.toJson.compact = some encoded ∧
      ((ofJson? text).bind (under? "status")).bind (under? "error") = some encoded

include h in
theorem survivesWire_of_legible : SurvivesWire r := by
  have hreads : ∀ text, r.toJson.WrittenAs text → ofJson? text = some r.toJson.toDatum := by
    intro text htext
    rw [ofJson?_of_writtenAs htext, readBack_of_fits _ (fits_toJson h (by decide))]
  have hdocument : ∀ text, r.toJson.WrittenAs text →
      (ofJson? text).bind (ofDatum? .plain) = some r := by
    intro text htext
    rw [hreads text htext, Option.bind_some, ofDatum?_toJson h .plain]
  refine ⟨hdocument _ r.toJson.writtenAs_compact, hdocument, fun time => member?_failure time r, ?_⟩
  intro time text htext
  refine ⟨_, hreads _ r.toJson.writtenAs_compact, ?_⟩
  rw [ofJson?_of_writtenAs htext, readBack_of_fits _ (fits_failure h time), Option.bind_some]
  exact under?_failure time r

/-- The details that a fault brings along are texts and a list of texts. -/
theorem legible_context {fault : Fault} {j : Json} (hj : fault.context = some j) : j.Legible := by
  have htext : ∀ key text, (Json.obj [(key, .str text)]).Legible := fun key text =>
    { inOrder := ⟨List.pairwise_singleton _ _, trivial, trivial⟩
      ne_null := Json.noConfusion
      fits := fun levels hlevels => ⟨Nat.lt_of_lt_of_le (by decide) hlevels, trivial, trivial⟩ }
  cases fault with
  | teamNotFound query available =>
    obtain rfl := Option.some.inj hj
    constructor
    case inOrder =>
      have hnames : Json.ItemsInOrder (available.map .str) := by
        rw [Json.itemsInOrder_iff]
        intro name hname
        obtain ⟨text, -, rfl⟩ := List.mem_map.mp hname
        exact trivial
      have hkeys : compare "available".toList "team".toList = .lt := by decide
      exact ⟨List.pairwise_pair.mpr hkeys, hnames, trivial, trivial⟩
    case ne_null => exact Json.noConfusion
    case fits =>
      intro levels hlevels
      have hnames := wireForm_str.list.fits available (levels - 1) (by omega)
      exact ⟨Nat.lt_of_lt_of_le (by decide) hlevels, hnames, trivial, trivial⟩
  | unsupportedFormat path => exact Option.some.inj hj ▸ htext "path" path
  | missingConfig key => exact Option.some.inj hj ▸ htext "config_key" key
  | io text | json text | yaml text | invalidInput text | config text | serialization text =>
    exact absurd hj (Option.some_ne_none j).symm

/-- The report of every fault survives the wire, whatever texts the fault carries. -/
theorem survivesWire_ofFault (fault : Fault) : SurvivesWire (ofFault fault) :=
  survivesWire_of_legible fun _ hj => legible_context hj

end FaultReport

end LeagueRoster
