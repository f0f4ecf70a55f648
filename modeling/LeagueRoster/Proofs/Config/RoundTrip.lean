import LeagueRoster.Config.Wire
import LeagueRoster.Proofs.Config.Layers
import LeagueRoster.Proofs.Datum.WireForm
import Mathlib.Data.List.Nodup

/-!
A configuration is read back from its document and from every part of it (`readsAs_retain`). What
is left of a section says of each of its settings what the configuration says, or nothing, so
reading lays it on top of the defaults as a file is laid on top of a configuration. Sections and
settings can be left out in any combination, for no two have the same place in the document.
-/
namespace LeagueRoster

open Datum Datum.JsonText

namespace Json

mutual

/-- The value with only those members in its objects that are kept. A member is known by the keys
that lead to it. -/
def retain : Json → (List String → Bool) → Json
  | .obj members, keep => .obj (retainMembers members keep)
  | .null, _ => .null
  | .bool b, _ => .bool b
  | .int n, _ => .int n
  | .str s, _ => .str s
  | .arr items, _ => .arr items
  termination_by structural j => j

def retainMembers : List (String × Json) → (List String → Bool) → List (String × Json)
  | [], _ => []
  | (key, j) :: rest, keep =>
    if keep [key] then (key, j.retain fun path => keep (key :: path)) :: retainMembers rest keep
    else retainMembers rest keep
  termination_by structural ms => ms

end

mutual

theorem retain_all : (j : Json) → j.retain (fun _ => true) = j
  | .obj members => by rw [retain, retainMembers_all members]
  | .null | .bool _ | .int _ | .str _ | .arr _ => rfl

theorem retainMembers_all :
    (members : List (String × Json)) → retainMembers members (fun _ => true) = members
  | [] => rfl
  | (key, j) :: rest => by
    rw [retainMembers, if_pos rfl, retain_all j, retainMembers_all rest]

end

theorem retainMembers_map {α : Type} (key : α → String) (value : α → Json) (l : List α)
    (keep : List String → Bool) :
    retainMembers (l.map fun a => (key a, value a)) keep =
      (l.filter fun a => keep [key a]).map fun a =>
        (key a, (value a).retain fun path => keep (key a :: path)) := by
  induction l with
  | nil => rfl
  | cons a l ih =>
    rw [List.map_cons, retainMembers, ih]
    by_cases hkeep : keep [key a] = true
    · rw [if_pos hkeep, List.filter_cons_of_pos (by exact hkeep), List.map_cons]
    · rw [if_neg hkeep, List.filter_cons_of_neg (by exact hkeep)]

end Json

section Entries

variable {α : Type} {key : α → String} {l : List α}

theorem lookup_map_of_mem {β : Type} (hkeys : (l.map key).Nodup) (value : α → β) {a : α}
    (ha : a ∈ l) : (l.map fun a => (key a, value a)).lookup (key a) = some (value a) := by
  induction l with
  | nil => exact absurd ha List.not_mem_nil
  | cons b l ih =>
    obtain ⟨hb, hkeys⟩ := List.nodup_cons.mp hkeys
    rw [List.map_cons]
    rcases List.mem_cons.mp ha with rfl | ha
    · exact List.lookup_cons_self
    · have hne : key a ≠ key b := fun heq => hb (heq ▸ List.mem_map_of_mem ha)
      rw [List.lookup_cons, beq_eq_false_iff_ne.mpr hne]
      exact ih hkeys ha

theorem lookup_map_filter_of_not {β : Type} (hkeys : (l.map key).Nodup) {kept : α → Bool}
    (value : α → β) {a : α} (ha : a ∈ l) (hkept : ¬kept a = true) :
    ((l.filter kept).map fun a => (key a, value a)).lookup (key a) = none := by
  rw [List.lookup_eq_none_iff]
  intro entry hentry
  obtain ⟨b, hb, rfl⟩ := List.mem_map.mp hentry
  obtain ⟨hmem, hb⟩ := List.mem_filter.mp hb
  have hne : key a ≠ key b := by
    intro heq
    rw [List.inj_on_of_nodup_map hkeys ha hmem heq] at hkept
    exact hkept hb
  simpa using hne

/-- A record that is written in part gives the fields that are kept and misses the others. -/
theorem exists_record?_filter (rules : Leniency) (names : List String) (hkeys : (l.map key).Nodup)
    (kept : α → Bool) (value : α → Json) :
    ∃ field, record? rules names
        (Json.obj ((l.filter kept).map fun a => (key a, value a))).toDatum = some field ∧
      ∀ a ∈ l, field (key a) = if kept a then .given (value a).toDatum else .missing := by
  have hkept : ((l.filter kept).map key).Nodup := (List.filter_sublist.map key).nodup hkeys
  have hnodup : (((l.filter kept).map fun a => (key a, value a)).map Prod.fst).Nodup := by
    rwa [List.map_map]
  refine ⟨_, record?_toDatum hnodup names, ?_⟩
  intro a ha
  rw [Json.slot]
  split_ifs with h
  · rw [lookup_map_of_mem hkept value (List.mem_filter.mpr ⟨ha, h⟩)]
  · rw [lookup_map_filter_of_not hkeys value ha h]

/-- A run in which no step fails. -/
theorem foldlM_eq_some {β : Type} {f : β → α → Option β} {g : β → α → β}
    (h : ∀ b, ∀ a ∈ l, f b a = some (g b a)) (b : β) : l.foldlM f b = some (l.foldl g b) := by
  induction l generalizing b with
  | nil => rfl
  | cons a l ih =>
    have hrest : ∀ b, ∀ a ∈ l, f b a = some (g b a) := fun b a ha =>
      h b a (List.mem_cons_of_mem _ ha)
    rw [List.foldlM_cons, h b a List.mem_cons_self, List.foldl_cons, ← ih hrest]
    rfl

end Entries

theorem SeasonPhase.wireForm (rules : Leniency) :
    WireForm (SeasonPhase.ofDatum? rules) (fun phase => .str phase.name) 0 :=
  wireForm_constant fun phase => by cases phase <;> decide

theorem Setting.wireForm (rules : Leniency) (s : Setting) :
    WireForm (s.valueOfDatum? rules) s.valueToJson 0 :=
  match s with
  | .cap _ | .dropPenaltyPercent => wireForm_uint32
  | .limit _ | .nameWidth => wireForm_uint64
  | .defaultPhase => SeasonPhase.wireForm rules
  | .showPositions => wireForm_bool

namespace Config

/-- The setting and its section are both kept. -/
def Stays (keep : List String → Bool) (s : Setting) : Bool :=
  keep [ConfigLayer.sectionOf s] && keep [ConfigLayer.sectionOf s, s.key]

/-- What the configuration says of the settings that are kept. -/
def part (c : Config) (kept : Setting → Bool) : ConfigLayer :=
  fun s => if kept s then some (c.get s) else none

/-- Lays what a layer says of some settings on top of a configuration. -/
def assignTo (settings : List Setting) (layer : ConfigLayer) (c : Config) : Config :=
  settings.foldl
    (fun c s => match layer s with
      | some v => c.set s v
      | none => c) c

theorem assignTo_sections (layer : ConfigLayer) (c : Config) :
    Setting.sections.foldl (fun c entry => assignTo entry.2 layer c) c = c.assign layer := by
  simp only [assign, Setting.all, List.foldl_append]
  rfl

theorem assignTo_eq_self {settings : List Setting} {layer : ConfigLayer}
    (h : ∀ s ∈ settings, layer s = none) (c : Config) : assignTo settings layer c = c := by
  apply ext_get
  intro s
  refine (get_foldl_assign layer settings c s).trans ?_
  split
  · next hs => rw [h s hs, Option.getD_none]
  · rfl

theorem set_getD (layer : ConfigLayer) (c : Config) (s : Setting) :
    c.set s ((layer s).getD (c.get s)) =
      match layer s with
      | some v => c.set s v
      | none => c := by
  cases layer s with
  | some v => rfl
  | none =>
    apply ext_get
    intro t
    by_cases hts : t = s
    · subst hts
      exact get_set_same c t _
    · exact get_set_other c _ hts

/-- What is left of a section is a layer on top of what the settings are otherwise. -/
theorem readSection?_sectionToJson (rules : Leniency) {settings : List Setting}
    (hkeys : (settings.map Setting.key).Nodup) (c : Config) {kept : Setting → Bool}
    {layer : ConfigLayer} (hlayer : ∀ s ∈ settings, layer s = c.part kept s) (d : Config) :
    readSection? rules settings d (c.sectionToJson (settings.filter kept)).toDatum =
      some (assignTo settings layer d) := by
  obtain ⟨field, hrecord, hfield⟩ := exists_record?_filter rules (settings.map Setting.key) hkeys
    kept fun s => s.valueToJson (c.get s)
  rw [readSection?, sectionToJson, hrecord, Option.bind_eq_bind, Option.bind_some]
  apply foldlM_eq_some
  intro d s hs
  have hread : (field s.key).orElse (s.valueOfDatum? rules) (d.get s) =
      some ((layer s).getD (d.get s)) := by
    rw [hfield s hs, hlayer s hs, part]
    split
    · exact (s.wireForm rules).reads (c.get s)
    · rfl
  rw [hread, ← set_getD layer d s]
  rfl

theorem retain_valueToJson (s : Setting) (v : s.Value) (keep : List String → Bool) :
    (s.valueToJson v).retain keep = s.valueToJson v := by
  cases s <;> rfl

/-- What is left of a document are its sections with what is left of each. -/
theorem retain_toJson (c : Config) (keep : List String → Bool) :
    c.toJson.retain keep = .obj ((Setting.sections.filter fun entry => keep [entry.1]).map
      fun entry => (entry.1, c.sectionToJson (entry.2.filter fun s => keep [entry.1, s.key]))) := by
  have hsection : ∀ settings (keep : List String → Bool), (c.sectionToJson settings).retain keep =
      c.sectionToJson (settings.filter fun s => keep [s.key]) := by
    intro settings keep
    simp only [sectionToJson, Json.retain, Json.retainMembers_map, retain_valueToJson]
  simp only [toJson, Json.retain, Json.retainMembers_map, hsection]

/-- Each section that is kept is read in part, and one that is left out changes nothing. -/
theorem ofDatum?_retain (rules : Leniency) (c : Config) (keep : List String → Bool) :
    ofDatum? rules (c.toJson.retain keep).toDatum =
      some (({} : Config).assign (c.part (Stays keep))) := by
  obtain ⟨field, hrecord, hfield⟩ := exists_record?_filter rules (Setting.sections.map Prod.fst)
    ConfigLayer.nodup_sections (fun entry => keep [entry.1])
    fun entry => c.sectionToJson (entry.2.filter fun s => keep [entry.1, s.key])
  rw [retain_toJson, ofDatum?, hrecord, Option.bind_eq_bind, Option.bind_some, ← assignTo_sections]
  apply foldlM_eq_some
  intro d entry hentry
  have hnames := ConfigLayer.nodup_settingKeys entry hentry
  have hpart : ∀ s ∈ entry.2, c.part (Stays keep) s =
      if keep [entry.1] then c.part (fun s => keep [entry.1, s.key]) s else none := by
    intro s hs
    rw [part, Stays, ConfigLayer.sectionOf_eq entry hentry s hs]
    cases keep [entry.1] <;> rfl
  rw [hfield entry hentry]
  split
  · next hkeep =>
    simp only [hkeep, if_true] at hpart
    exact readSection?_sectionToJson rules hnames c hpart d
  · next hkeep =>
    simp only [if_neg hkeep] at hpart
    rw [assignTo_eq_self hpart]
    rfl

theorem get_assign_part (c d : Config) (kept : Setting → Bool) (s : Setting) :
    (d.assign (c.part kept)).get s = if kept s then c.get s else d.get s := by
  rw [get_assign, part]
  split <;> rfl

theorem fits_retain (c : Config) (keep : List String → Bool) {levels : Nat} (hlevels : 2 ≤ levels) :
    Fits levels (c.toJson.retain keep) := by
  rw [retain_toJson]
  refine ⟨by omega, membersFit_iff.mpr ?_⟩
  intro member hmember
  obtain ⟨entry, -, rfl⟩ := List.mem_map.mp hmember
  refine ⟨by omega, membersFit_iff.mpr ?_⟩
  intro member hmember
  obtain ⟨s, -, rfl⟩ := List.mem_map.mp hmember
  exact (s.wireForm .plain).fits (c.get s) _ (Nat.zero_le _)

/-- Every document of the value, laid out as may be, is read as the configuration. -/
structure ReadsAs (j : Json) (c : Config) : Prop where
  compact : (ofJson? j.compact).bind (ofDatum? .plain) = some c
  pretty : (ofJson? j.pretty).bind (ofDatum? .plain) = some c
  document : ∀ text, j.WrittenAs text → (ofJson? text).bind (ofDatum? .plain) = some c

theorem readsAs_of_ofDatum? {j : Json} {c : Config} (hfits : Fits 127 j)
    (hread : ofDatum? .plain j.toDatum = some c) : ReadsAs j c := by
  have hdocument : ∀ text, j.WrittenAs text → (ofJson? text).bind (ofDatum? .plain) = some c := by
    intro text htext
    rw [ofJson?_of_writtenAs htext, readBack_of_fits j hfits, Option.bind_some, hread]
  exact ⟨hdocument _ j.writtenAs_compact, hdocument _ j.writtenAs_pretty, hdocument⟩

/-- Whatever sections and settings are left out of the document of a configuration, the rest is read
as the configuration that agrees with it in the settings that are left and has the defaults in all
others. The whole document is read as the configuration itself. -/
theorem readsAs_retain (c : Config) :
    (∀ keep : List String → Bool, ∃ d : Config, ReadsAs (c.toJson.retain keep) d ∧
        ∀ s, d.get s = if Stays keep s then c.get s else ({} : Config).get s) ∧
      ReadsAs c.toJson c := by
  have hretain : ∀ keep, ReadsAs (c.toJson.retain keep)
      (({} : Config).assign (c.part (Stays keep))) := fun keep =>
    readsAs_of_ofDatum? (fits_retain c keep (by decide)) (ofDatum?_retain .plain c keep)
  constructor
  · intro keep
    exact ⟨_, hretain keep, get_assign_part c {} (Stays keep)⟩
  · have hall := hretain fun _ => true
    have hself : ({} : Config).assign (c.part (Stays fun _ => true)) = c :=
      ext_get fun s => get_assign_part c {} _ s
    rwa [Json.retain_all, hself] at hall

end Config

end LeagueRoster
