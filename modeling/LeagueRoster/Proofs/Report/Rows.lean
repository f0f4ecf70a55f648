import LeagueRoster.Proofs.Datum.WireForm
import LeagueRoster.Proofs.Report.Lines
import LeagueRoster.Report.Partition
import Mathlib.Algebra.GroupWithZero.Nat
import Mathlib.Data.List.Forall2

/-!
The machine formats of the partition report list the same rows (`machineFormats_sameRows`).
Each of the JSON lines is read as the row at its place in the groups of the envelope, and each
line of the table shows the key of that row. The rows are those of the contracts that the pages
show.
-/
namespace LeagueRoster

open Datum Datum.JsonText

/-- The rows of a team in an envelope, group by group. -/
def teamRows? (team : Datum) : Option (List Datum) := do
  let field ← team.record? .plain ["active", "active_ir", "rookie_development"]
  let active ← (field "active").required (listOf? some)
  let injuredReserve ← (field "active_ir").required (listOf? some)
  let rookieDevelopment ← (field "rookie_development").required (listOf? some)
  return active ++ injuredReserve ++ rookieDevelopment

/-- The rows of an envelope, team by team. -/
def envelopeRows? (envelope : Datum) : Option (List Datum) := do
  let field ← envelope.record? .plain ["data"]
  let teams ← (field "data").required (listOf? teamRows?)
  return teams.flatten

/-- What tells the rows of a report apart, and what they charge. -/
structure RowKey where
  teamId : Int64
  group : String
  contractId : Int64
  salary : UInt16
  year : UInt16
  kind : String
  deriving Repr, DecidableEq

def RowKey.ofDatum? (row : Datum) : Option RowKey := do
  let field ← row.record? .plain
    ["team_id", "group", "contract_id", "salary", "year_number", "kind"]
  return {
    teamId := ← (field "team_id").required int64?
    group := ← (field "group").required str?
    contractId := ← (field "contract_id").required int64?
    salary := ← (field "salary").required uint16?
    year := ← (field "year_number").required uint16?
    kind := ← (field "kind").required str?
  }

/-- The line of a table has the key in its columns, the salary in dollars. -/
def RowKey.ShownOn (key : RowKey) (line : String) : Prop :=
  ∃ name position team, splitAt '\t' line =
    [Text.decimal key.teamId.toInt, key.group, Text.decimal key.contractId.toInt, name, position,
      team, "$" ++ Text.decimal key.salary.toNat, Text.decimal key.year.toNat, key.kind]

namespace ContractRow

/-- The entries of a row. -/
def members (r : ContractRow) : List (String × Json) :=
  [("team_id", Json.ofInt64 r.teamId), ("group", .str r.group.key),
    ("contract_id", Json.ofInt64 r.contractId), ("name", .str r.profile.name)] ++
  Json.entry? "position" .str r.profile.position ++
  Json.entry? "real_team" .str r.profile.team ++
  Json.entry? "photo_url" .str r.profile.photoUrl ++
  [("salary", Json.ofUInt16 r.salary), ("year_number", Json.ofUInt16 r.year),
    ("kind", .str r.kind), ("is_ir", .bool r.injuredReserve)]

theorem nodup_keys (r : ContractRow) : (r.members.map Prod.fst).Nodup := by
  have hkeys : (r.members.map Prod.fst).Sublist (["team_id", "group", "contract_id", "name"] ++
      ["position"] ++ ["real_team"] ++ ["photo_url"] ++
      ["salary", "year_number", "kind", "is_ir"]) := by
    simp only [members, List.map_append]
    exact ((((List.Sublist.refl _).append (keys_entry?_sublist _ _ _)).append
      (keys_entry?_sublist _ _ _)).append (keys_entry?_sublist _ _ _)).append (List.Sublist.refl _)
  exact hkeys.nodup (by decide)

theorem fits_toJson (r : ContractRow) {levels : Nat} (h : 0 < levels) : Fits levels r.toJson := by
  have hteam := wireForm_int64.fits r.teamId (levels - 1) (Nat.zero_le _)
  have hcontract := wireForm_int64.fits r.contractId (levels - 1) (Nat.zero_le _)
  have hsalary := wireForm_uint16.fits r.salary (levels - 1) (Nat.zero_le _)
  have hyear := wireForm_uint16.fits r.year (levels - 1) (Nat.zero_le _)
  have hdetail := fun name (o : Option String) =>
    wireForm_str.membersFit_optional (Nat.zero_le (levels - 1)) name o
  refine ⟨h, ?_⟩
  simp only [membersFit_append]
  exact ⟨⟨⟨⟨⟨hteam, trivial, hcontract, trivial, trivial⟩, hdetail _ _⟩, hdetail _ _⟩,
    hdetail _ _⟩, hsalary, hyear, trivial, trivial, trivial⟩

def key (r : ContractRow) : RowKey where
  teamId := r.teamId
  group := r.group.key
  contractId := r.contractId
  salary := r.salary
  year := r.year
  kind := r.kind

theorem key_of_toDatum (r : ContractRow) : RowKey.ofDatum? r.toJson.toDatum = some r.key := by
  have hteam : r.members.lookup "team_id" = some (Json.ofInt64 r.teamId) := rfl
  have hgroup : r.members.lookup "group" = some (.str r.group.key) := rfl
  have hcontract : r.members.lookup "contract_id" = some (Json.ofInt64 r.contractId) := rfl
  have hsalary : r.members.lookup "salary" = some (Json.ofUInt16 r.salary) := by
    simp [members, List.lookup_append, List.lookup_cons]
  have hyear : r.members.lookup "year_number" = some (Json.ofUInt16 r.year) := by
    simp [members, List.lookup_append, List.lookup_cons]
  have hkind : r.members.lookup "kind" = some (.str r.kind) := by
    simp [members, List.lookup_append, List.lookup_cons]
  show RowKey.ofDatum? (Json.obj r.members).toDatum = some r.key
  simp only [RowKey.ofDatum?, record?_toDatum r.nodup_keys, Option.bind_eq_bind, Option.bind_some,
    slot_required wireForm_int64 hteam, slot_required wireForm_str hgroup,
    slot_required wireForm_int64 hcontract, slot_required wireForm_uint16 hsalary,
    slot_required wireForm_uint16 hyear, slot_required wireForm_str hkind, Option.pure_def]
  rfl

theorem cellText_of_mem_cells {r : ContractRow} (hkind : CellText r.kind) :
    ∀ s ∈ r.cells, CellText s := by
  have hgroup : CellText r.group.key := by
    cases r.group <;> decide
  simp only [cells, List.forall_mem_cons]
  have hnone : ∀ s ∈ ([] : List String), CellText s := fun _ h => absurd h List.not_mem_nil
  exact ⟨cellText_decimal _, hgroup, cellText_decimal _, cellText_cell _, cellText_cell _,
    cellText_cell _, cellText_money _, cellText_decimal _, hkind, hnone⟩

theorem key_shownOn_lineOf {r : ContractRow} (hkind : CellText r.kind) :
    r.key.ShownOn (lineOf r.cells) := by
  refine ⟨Tsv.cell r.profile.name, Tsv.cell (r.profile.position.getD ""),
    Tsv.cell (r.profile.team.getD ""), ?_⟩
  rw [splitAt_lineOf (cellText_of_mem_cells hkind) (List.cons_ne_nil _ _), cells, money_natCast]
  rfl

end ContractRow

theorem mapM_map_of_forall {α β γ : Type} {write : α → β} {read : β → Option γ} {f : α → γ}
    (h : ∀ a, read (write a) = some (f a)) (as : List α) :
    (as.map write).mapM read = some (as.map f) := by
  have hread : read ∘ write = fun a => pure (f a) := funext h
  rw [List.mapM_map, hread, List.mapM_pure]
  rfl

namespace PartitionReport

/-- What a reader of the row finds. -/
def rowDatum (row : ContractRow) : Datum := row.toJson.toDatum

/-- The rows of a page, group by group. -/
def pageRows (page : RosterPage) : List ContractRow := RosterGroup.all.flatMap (rowsOf page)

/-- The entries of a page. -/
def pageMembers (page : RosterPage) : List (String × Json) :=
  let rows (g : RosterGroup) : Json := .arr ((rowsOf page g).map ContractRow.toJson)
  [("summary", page.summary.toJson), ("active", rows .active),
    ("active_ir", rows .injuredReserve), ("rookie_development", rows .rookieDevelopment),
    ("violations", .arr (page.violations.map Violation.toJson)),
    ("trade_action", page.tradeAction.toJson)]

theorem slotBy_rows {members : List (String × Json)} {name : String} {rows : List ContractRow}
    (levels : Nat) (h : members.lookup name = some (.arr (rows.map ContractRow.toJson))) :
    (Json.slotBy (readBack (levels + 2)) members name).required (listOf? some) =
      some (rows.map rowDatum) := by
  have hrows : (rows.map ContractRow.toJson).map (readBack (levels + 1)) = rows.map rowDatum := by
    rw [List.map_map]
    apply List.map_congr_left
    intro row _
    exact readBack_of_fits _ (row.fits_toJson (Nat.succ_pos levels))
  have hslot : Json.slotBy (readBack (levels + 2)) members name =
      .given (readBack (levels + 2) (.arr (rows.map ContractRow.toJson))) := by
    rw [Json.slotBy, h]
  rw [hslot, Slot.required, readBack_arr, hrows]
  exact mapM_map_of_forall (fun _ => rfl) rows

theorem teamRows?_readBack (page : RosterPage) (levels : Nat) :
    teamRows? (readBack (levels + 3) (pageToJson page)) = some ((pageRows page).map rowDatum) := by
  have hkeys : ((pageMembers page).map Prod.fst).Nodup := by
    show ["summary", "active", "active_ir", "rookie_development", "violations",
      "trade_action"].Nodup
    decide
  have hpage : pageToJson page = .obj (pageMembers page) := rfl
  have hactive : (pageMembers page).lookup "active" =
      some (.arr ((rowsOf page .active).map ContractRow.toJson)) := rfl
  have hinjured : (pageMembers page).lookup "active_ir" =
      some (.arr ((rowsOf page .injuredReserve).map ContractRow.toJson)) := rfl
  have hdevelopment : (pageMembers page).lookup "rookie_development" =
      some (.arr ((rowsOf page .rookieDevelopment).map ContractRow.toJson)) := rfl
  rw [hpage, readBack_obj, teamRows?, record?_entriesBy hkeys]
  simp only [Option.bind_eq_bind, Option.bind_some, slotBy_rows levels hactive,
    slotBy_rows levels hinjured, slotBy_rows levels hdevelopment, Option.pure_def]
  simp [pageRows, RosterGroup.all]

theorem envelopeRows?_json (r : PartitionReport) (time : String) :
    (ofJson? (r.json time)).bind envelopeRows? = some (r.rows.map rowDatum) := by
  let members : List (String × Json) := [("status", .str "ok"), ("timestamp", .str time),
    ("version", .str version), ("data", .arr (r.pages.map pageToJson))]
  have hdocument : ofJson? (r.json time) = some (readBack 127 (.obj members)) :=
    ofJson?_of_writtenAs (Json.writtenAs_pretty (.obj members))
  have hkeys : (members.map Prod.fst).Nodup := by
    show ["status", "timestamp", "version", "data"].Nodup
    decide
  have hdata : Json.slotBy (readBack 126) members "data" =
      .given (readBack 126 (.arr (r.pages.map pageToJson))) := rfl
  -- of the 127 levels two go to the envelope and its list, a team takes three down to its rows
  have hteams : listOf? teamRows? (readBack 126 (.arr (r.pages.map pageToJson))) =
      some (r.pages.map fun page => (pageRows page).map rowDatum) := by
    rw [readBack_arr, List.map_map]
    exact mapM_map_of_forall (fun page => teamRows?_readBack page 122) r.pages
  rw [hdocument, Option.bind_some, readBack_obj, envelopeRows?, record?_entriesBy hkeys]
  simp only [Option.bind_eq_bind, Option.bind_some, hdata, Slot.required, hteams, Option.pure_def]
  rw [← List.flatMap_def, ← List.map_flatMap]
  rfl

theorem length_pageRows (page : RosterPage) : (pageRows page).length = page.roster.size := by
  simp only [pageRows, RosterGroup.all, rowsOf, Roster.group, Roster.size, List.flatMap_cons,
    List.flatMap_nil, List.append_nil, List.length_append, List.length_map]
  omega

/-- The keys of the contracts that a page shows. -/
def pageKeys (page : RosterPage) : List RowKey :=
  page.roster.groups.flatMap fun g => g.2.map fun c =>
    { teamId := page.summary.teamId, group := g.1.key, contractId := c.id, salary := c.salary,
      year := c.year, kind := c.kind.abbreviation }

theorem map_key_rows (r : PartitionReport) :
    r.rows.map ContractRow.key = r.pages.flatMap pageKeys := by
  have hpage : ∀ page, (pageRows page).map ContractRow.key = pageKeys page := by
    intro page
    simp only [pageRows, pageKeys, Roster.groups, List.map_flatMap, List.flatMap_map, rowsOf,
      List.map_map]
    rfl
  rw [rows, List.map_flatMap]
  exact congrArg r.pages.flatMap (funext hpage)

theorem cellText_kind {r : PartitionReport} {row : ContractRow} (h : row ∈ r.rows) :
    CellText row.kind := by
  obtain ⟨page, -, hpage⟩ := List.mem_flatMap.mp h
  obtain ⟨g, -, hg⟩ := List.mem_flatMap.mp hpage
  obtain ⟨c, -, rfl⟩ := List.mem_map.mp hg
  show CellText c.kind.abbreviation
  cases c.kind <;> decide

theorem ofJson?_compact (row : ContractRow) : ofJson? row.toJson.compact = some (rowDatum row) := by
  rw [ofJson?_of_writtenAs (Json.writtenAs_compact row.toJson),
    readBack_of_fits _ (row.fits_toJson (by decide))]
  rfl

theorem textLines_tsv (r : PartitionReport) :
    textLines r.tsv = lineOf tsvHeader :: r.rows.map (fun row => lineOf row.cells) ++ [""] := by
  have hheader : ∀ s ∈ tsvHeader, CellText s := by decide
  have hcells : ∀ cells ∈ r.rows.map ContractRow.cells, ∀ s ∈ cells, CellText s := by
    intro cells hmem
    obtain ⟨row, hrow, rfl⟩ := List.mem_map.mp hmem
    exact ContractRow.cellText_of_mem_cells (cellText_kind hrow)
  rw [tsv, textLines_table hheader hcells, List.map_cons, List.map_map]
  rfl

/-- The machine formats of a report list these rows, one for each contract that is shown. No
line is broken by what a row holds, and without rows there are no JSON lines at all. -/
structure SameRows (r : PartitionReport) (time : String) (styling : Text.Styling)
    (rows : List Datum) : Prop where
  count : rows.length = (r.pages.map fun page => page.roster.size).sum
  keys : rows.mapM RowKey.ofDatum? = some (r.pages.flatMap pageKeys)
  envelope : (ofJson? (r.render time styling .json)).bind envelopeRows? = some rows
  lines : List.Forall₂ (fun line row => ofJson? line = some row)
    (textLines (r.render time styling .jsonl)) rows
  unbroken : ∀ line ∈ textLines (r.render time styling .jsonl), '\n' ∉ line.toList
  empty : r.render time styling .jsonl = "" ↔ rows = []
  table : ∃ header shown, textLines (r.render time styling .tsv) = header :: shown ++ [""] ∧
    splitAt '\t' header = tsvHeader ∧
      List.Forall₂ (fun line row => ∃ key, RowKey.ofDatum? row = some key ∧ key.ShownOn line)
        shown rows

/-- Whatever the pages hold, the three machine formats list the same rows. -/
theorem machineFormats_sameRows (r : PartitionReport) (time : String) (styling : Text.Styling) :
    ∃ rows, SameRows r time styling rows := by
  have hlines : textLines r.jsonl = r.rows.map fun row => row.toJson.compact := by
    rw [jsonl, textLines_jsonLines, List.map_map]
    rfl
  refine ⟨r.rows.map rowDatum, ?_, ?_, envelopeRows?_json r time, ?_, ?_, ?_, ?_⟩
  · rw [List.length_map, rows, List.length_flatMap]
    exact congrArg List.sum (congrArg r.pages.map (funext length_pageRows))
  · rw [← map_key_rows]
    exact mapM_map_of_forall (fun row => row.key_of_toDatum) r.rows
  · show List.Forall₂ _ (textLines r.jsonl) _
    rw [hlines, List.forall₂_map_left_iff, List.forall₂_map_right_iff, List.forall₂_same]
    intro row _
    exact ofJson?_compact row
  · intro line hline
    replace hline : line ∈ textLines r.jsonl := hline
    rw [hlines] at hline
    obtain ⟨row, -, rfl⟩ := List.mem_map.mp hline
    exact row.toJson.newline_not_mem_compact
  · rw [List.map_eq_nil_iff]
    exact (jsonLines_eq_empty_iff _).trans List.map_eq_nil_iff
  · refine ⟨_, _, textLines_tsv r, ?_, ?_⟩
    · exact splitAt_lineOf (by decide) (by decide)
    · rw [List.forall₂_map_left_iff, List.forall₂_map_right_iff, List.forall₂_same]
      intro row hrow
      exact ⟨row.key, row.key_of_toDatum, ContractRow.key_shownOn_lineOf (cellText_kind hrow)⟩

end PartitionReport

end LeagueRoster
