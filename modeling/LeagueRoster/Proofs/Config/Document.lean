import LeagueRoster.Config.Layer
import LeagueRoster.Proofs.Datum.Record
import Mathlib.Tactic.Choose

/-!
What a configuration document says, apart from how it is read. A document is a record of sections
and a section a record of settings. It is read as a layer exactly if it is one in that sense
(`IsLayer`), and the layer has for each setting the value that the document gives it
(`ofDatum?_eq_some_iff`).
-/
namespace LeagueRoster

/-- The datum spells the value `v` of a setting. -/
def Setting.IsValueOf (d : Datum) : (s : Setting) → s.Value → Prop
  | cap _, v | dropPenaltyPercent, v => d = .int (UInt32.toNat v)
  | limit _, v | nameWidth, v => d = .int (UInt64.toNat v)
  | defaultPhase, v => d.IsConstant (SeasonPhase.name v)
  | showPositions, v => d = .bool v

namespace ConfigLayer

/-- What stands under the key of a setting in the section of the setting. -/
def HoldsSetting (document : Datum) (s : Setting) (d : Datum) : Prop :=
  ∃ entry ∈ Setting.sections, s ∈ entry.2 ∧
    ∃ part, document.Holds (Setting.sections.map Prod.fst) entry.1 part ∧
      part.Holds (entry.2.map Setting.key) s.key d

/-- The document gives a setting the value `v`. -/
def Gives (document : Datum) (s : Setting) (v : s.Value) : Prop :=
  ∃ d, HoldsSetting document s d ∧ s.IsValueOf d v

/-- A partial configuration: a record of sections, each of them a record of settings, with a null
or a value under the key of each setting that is given. -/
structure IsLayer (document : Datum) : Prop where
  document_record : document.IsRecord (Setting.sections.map Prod.fst)
  section_record : ∀ entry ∈ Setting.sections, ∀ part,
    document.Holds (Setting.sections.map Prod.fst) entry.1 part →
      part = .null ∨ part.IsRecord (entry.2.map Setting.key)
  setting_value : ∀ s d, HoldsSetting document s d → d = .null ∨ ∃ v, s.IsValueOf d v

end ConfigLayer

theorem Setting.valueOfDatum?_eq_some_iff {d : Datum} {s : Setting} {v : s.Value} :
    s.valueOfDatum? ConfigLayer.leniency d = some v ↔ s.IsValueOf d v := by
  cases s with
  | cap _ | dropPenaltyPercent => exact Datum.uint32?_eq_some_iff
  | limit _ | nameWidth => exact Datum.uint64?_eq_some_iff
  | defaultPhase => exact Datum.constant?_eq_some_iff rfl rfl fun phase => by cases phase <;> decide
  | showPositions => exact Datum.bool?_eq_some_iff

theorem Setting.valueOfDatum?_null (s : Setting) :
    s.valueOfDatum? ConfigLayer.leniency .null = none := by
  cases s <;> rfl

section Runs

variable {α β : Type} {f : α → Option β} {l : List α}

theorem exists_mapM_iff : (∃ out, l.mapM f = some out) ↔ ∀ a ∈ l, ∃ b, f a = some b := by
  induction l with
  | nil => simp
  | cons a l ih =>
    rw [List.forall_mem_cons, ← ih, List.mapM_cons]
    cases f a <;> cases l.mapM f <;> simp

theorem lookup_of_mapM {key : α → String} (hkeys : (l.map key).Nodup) {out : List (String × β)}
    (hout : (l.mapM fun a => do return (key a, ← f a)) = some out) {a : α} (ha : a ∈ l) :
    out.lookup (key a) = f a := by
  induction l generalizing out with
  | nil => exact absurd ha List.not_mem_nil
  | cons b l ih =>
    obtain ⟨hb, hkeys⟩ := List.nodup_cons.mp hkeys
    rw [List.mapM_cons] at hout
    simp only [Option.bind_eq_bind, Option.pure_def, Option.bind_eq_some_iff, Option.some.injEq]
      at hout
    obtain ⟨_, ⟨v, hv, rfl⟩, rest, hrest, rfl⟩ := hout
    rcases List.mem_cons.mp ha with rfl | ha
    · rw [List.lookup_cons_self, hv]
    · have hne : key a ≠ key b := fun heq => hb (heq ▸ List.mem_map_of_mem ha)
      rw [List.lookup_cons, beq_eq_false_iff_ne.mpr hne]
      exact ih hkeys hrest ha

end Runs

namespace ConfigLayer

variable {document d : Datum} {layer : ConfigLayer} {field : Datum.Record} {s : Setting}
  {entry : String × List Setting}

theorem given_iff_holds {names : List String} {name : String}
    (hrecord : document.record? leniency names = some field) (hname : name ∈ names) :
    field name = .given d ↔ document.Holds names name d :=
  Datum.given_iff_holds rfl hrecord hname

theorem isRecord_iff {names : List String} (hnames : names.Nodup) :
    document.IsRecord names ↔ ∃ field, document.record? leniency names = some field ∧
      ∀ name ∈ names, field name ≠ .beyond :=
  Datum.isRecord_iff rfl rfl hnames

theorem nodup_sections : (Setting.sections.map Prod.fst).Nodup := by decide

theorem nodup_settingKeys :
    ∀ entry ∈ Setting.sections, (entry.2.map Setting.key).Nodup := by decide

theorem sectionOf_eq : ∀ entry ∈ Setting.sections, ∀ s ∈ entry.2, sectionOf s = entry.1 := by
  decide

theorem exists_entry (s : Setting) : ∃ entry ∈ Setting.sections, s ∈ entry.2 := by
  have h : ∀ s ∈ Setting.all, ∃ entry ∈ Setting.sections, s ∈ entry.2 := by decide
  exact h s (Setting.mem_all s)

theorem entry_unique {entry' : String × List Setting} (hentry : entry ∈ Setting.sections)
    (hs : s ∈ entry.2) (hentry' : entry' ∈ Setting.sections) (hs' : s ∈ entry'.2) :
    entry = entry' := by
  have hplace : entry.1 = entry'.1 :=
    (sectionOf_eq entry hentry s hs).symm.trans (sectionOf_eq entry' hentry' s hs')
  exact List.inj_on_of_nodup_map nodup_sections hentry hentry' hplace

/-- All that reading does. -/
theorem ofDatum?_eq_some_iff_forall :
    ofDatum? document = some layer ↔
      ∃ field, document.record? leniency (Setting.sections.map Prod.fst) = some field ∧
        ∀ entry ∈ Setting.sections, ∃ fields, section? field entry = some fields ∧
          ∀ s ∈ entry.2, valueIn? fields s = some (layer s) := by
  constructor
  · intro h
    unfold ofDatum? at h
    simp only [Option.bind_eq_bind, Option.bind_eq_some_iff] at h
    obtain ⟨field, hfield, sections, hsections, h⟩ := h
    rw [Option.ite_none_right_eq_some, List.all_eq_true, Option.some.injEq] at h
    obtain ⟨hvalues, rfl⟩ := h
    refine ⟨field, hfield, ?_⟩
    intro entry hentry
    have hlookup := lookup_of_mapM nodup_sections hsections hentry
    obtain ⟨_, hread⟩ := exists_mapM_iff.mp ⟨sections, hsections⟩ entry hentry
    rw [Option.bind_eq_some_iff] at hread
    obtain ⟨fields, hfields, -⟩ := hread
    refine ⟨fields, hfields, ?_⟩
    intro s hs
    have hvalue := hvalues s (Setting.mem_all s)
    dsimp only
    rw [sectionOf_eq entry hentry s hs, hlookup, hfields] at hvalue ⊢
    obtain ⟨o, ho⟩ := Option.isSome_iff_exists.mp hvalue
    exact ho.trans (congrArg (some ∘ Option.join) ho).symm
  · rintro ⟨field, hfield, h⟩
    obtain ⟨sections, hsections⟩ : ∃ sections, (Setting.sections.mapM fun entry => do
        return (entry.1, ← section? field entry)) = some sections := by
      apply exists_mapM_iff.mpr
      intro entry hentry
      obtain ⟨fields, hfields, -⟩ := h entry hentry
      exact ⟨(entry.1, fields), by rw [hfields]; rfl⟩
    have hvalue : ∀ s, valueIn? ((sections.lookup (sectionOf s)).join) s = some (layer s) := by
      intro s
      obtain ⟨entry, hentry, hs⟩ := exists_entry s
      obtain ⟨fields, hfields, hvalue⟩ := h entry hentry
      rw [sectionOf_eq entry hentry s hs, lookup_of_mapM nodup_sections hsections hentry,
        hfields]
      exact hvalue s hs
    rw [ofDatum?, hfield, Option.bind_eq_bind, Option.bind_some, hsections, Option.bind_eq_bind,
      Option.bind_some]
    simp [hvalue]

section Fields

variable (hfield : document.record? leniency (Setting.sections.map Prod.fst) = some field)
  (hentry : entry ∈ Setting.sections)

include hfield hentry

/-- A section can be read if it is null, or a record, or left out. -/
theorem exists_section?_iff :
    (∃ fields, section? field entry = some fields) ↔
      field entry.1 ≠ .beyond ∧
        ∀ part, document.Holds (Setting.sections.map Prod.fst) entry.1 part →
          part = .null ∨
            ∃ fields, part.record? leniency (entry.2.map Setting.key) = some fields := by
  have hname : entry.1 ∈ Setting.sections.map Prod.fst := List.mem_map_of_mem hentry
  rw [section?, Datum.exists_optionalInReach_iff]
  simp only [given_iff_holds hfield hname]

theorem section?_eq_some_some_iff {fields : Datum.Record} :
    (section? field entry = some (some fields)) ↔
      ∃ part, document.Holds (Setting.sections.map Prod.fst) entry.1 part ∧
        part.record? leniency (entry.2.map Setting.key) = some fields := by
  have hname : entry.1 ∈ Setting.sections.map Prod.fst := List.mem_map_of_mem hentry
  rw [section?, Datum.optionalInReach_eq_some_some_iff rfl]
  simp only [given_iff_holds hfield hname]

/-- What stands under the key of a setting is what the record of its section, if there is one, has
in that field. -/
theorem holdsSetting_iff (hs : s ∈ entry.2) {fields : Option Datum.Record}
    (hsection : section? field entry = some fields) :
    HoldsSetting document s d ↔ ∃ record, fields = some record ∧ record s.key = .given d := by
  have hkey : s.key ∈ entry.2.map Setting.key := List.mem_map_of_mem hs
  constructor
  · rintro ⟨entry', hentry', hs', part, hpart, hd⟩
    obtain rfl : entry' = entry := entry_unique hentry' hs' hentry hs
    rcases ((exists_section?_iff hfield hentry).mp ⟨fields, hsection⟩).2 part hpart with
      rfl | ⟨record, hrecord⟩
    · cases hd
    · have hread := (section?_eq_some_some_iff hfield hentry).mpr ⟨part, hpart, hrecord⟩
      exact ⟨record, Option.some.inj (hsection.symm.trans hread),
        (given_iff_holds hrecord hkey).mpr hd⟩
  · rintro ⟨record, rfl, hd⟩
    obtain ⟨part, hpart, hrecord⟩ := (section?_eq_some_some_iff hfield hentry).mp hsection
    exact ⟨entry, hentry, hs, part, hpart, (given_iff_holds hrecord hkey).mp hd⟩

end Fields

theorem exists_valueIn?_iff {fields : Option Datum.Record} :
    (∃ o, valueIn? fields s = some o) ↔
      ∀ record, fields = some record → record s.key ≠ .beyond ∧
        ∀ d, record s.key = .given d → d = .null ∨ ∃ v, s.IsValueOf d v := by
  cases fields with
  | none => simp [valueIn?]
  | some record =>
    simp only [valueIn?, Datum.exists_optionalInReach_iff, Setting.valueOfDatum?_eq_some_iff,
      Option.some.injEq, forall_eq']

theorem valueIn?_eq_some_some_iff {fields : Option Datum.Record} {v : s.Value} :
    valueIn? fields s = some (some v) ↔
      ∃ d, (∃ record, fields = some record ∧ record s.key = .given d) ∧ s.IsValueOf d v := by
  cases fields with
  | none => simp [valueIn?]
  | some record =>
    have hgiven := @Datum.optionalInReach_eq_some_some_iff _ (fun d => s.valueOfDatum? leniency d)
      (record s.key) v s.valueOfDatum?_null
    simp only [valueIn?, hgiven, Setting.valueOfDatum?_eq_some_iff, Option.some.injEq,
      exists_eq_left']

/-- What is read says of each setting what the document gives it. -/
theorem eq_some_iff_gives (hread : ofDatum? document = some layer) (s : Setting) (v : s.Value) :
    layer s = some v ↔ Gives document s v := by
  obtain ⟨field, hfield, hsections⟩ := ofDatum?_eq_some_iff_forall.mp hread
  obtain ⟨entry, hentry, hs⟩ := exists_entry s
  obtain ⟨fields, hsection, hvalue⟩ := hsections entry hentry
  rw [Gives]
  simp only [holdsSetting_iff hfield hentry hs hsection]
  rw [← valueIn?_eq_some_some_iff, hvalue s hs, Option.some.injEq]

theorem isLayer_of_ofDatum? (hread : ofDatum? document = some layer) : IsLayer document := by
  obtain ⟨field, hfield, hsections⟩ := ofDatum?_eq_some_iff_forall.mp hread
  refine ⟨?_, ?_, ?_⟩
  · refine (isRecord_iff nodup_sections).mpr ⟨field, hfield, ?_⟩
    intro name hname
    obtain ⟨entry, hentry, rfl⟩ := List.mem_map.mp hname
    obtain ⟨fields, hsection, -⟩ := hsections entry hentry
    exact ((exists_section?_iff hfield hentry).mp ⟨fields, hsection⟩).1
  · intro entry hentry part hpart
    obtain ⟨fields, hsection, hvalues⟩ := hsections entry hentry
    refine (((exists_section?_iff hfield hentry).mp ⟨fields, hsection⟩).2 part hpart).imp_right ?_
    rintro ⟨record, hrecord⟩
    have hread := (section?_eq_some_some_iff hfield hentry).mpr ⟨part, hpart, hrecord⟩
    obtain rfl : fields = some record := Option.some.inj (hsection.symm.trans hread)
    refine (isRecord_iff (nodup_settingKeys entry hentry)).mpr ⟨record, hrecord, ?_⟩
    intro key hkey
    obtain ⟨s, hs, rfl⟩ := List.mem_map.mp hkey
    exact (exists_valueIn?_iff.mp ⟨_, hvalues s hs⟩ record rfl).1
  · intro s d hd
    obtain ⟨entry, hentry, hs⟩ := exists_entry s
    obtain ⟨fields, hsection, hvalues⟩ := hsections entry hentry
    obtain ⟨record, hrecord, hd⟩ := (holdsSetting_iff hfield hentry hs hsection).mp hd
    exact (exists_valueIn?_iff.mp ⟨_, hvalues s hs⟩ record hrecord).2 d hd

namespace IsLayer

variable (h : IsLayer document)
  (hfield : document.record? leniency (Setting.sections.map Prod.fst) = some field)
  (hentry : entry ∈ Setting.sections)

include h hfield hentry

theorem exists_section? (hreach : field entry.1 ≠ .beyond) :
    ∃ fields, section? field entry = some fields := by
  refine (exists_section?_iff hfield hentry).mpr ⟨hreach, ?_⟩
  intro part hpart
  refine (h.section_record entry hentry part hpart).imp_right ?_
  intro hrecord
  obtain ⟨fields, hfields, -⟩ := (isRecord_iff (nodup_settingKeys entry hentry)).mp hrecord
  exact ⟨fields, hfields⟩

/-- The section of a layer reaches all of its fields. -/
theorem ne_beyond {record : Datum.Record} (hsection : section? field entry = some (some record))
    (hs : s ∈ entry.2) : record s.key ≠ .beyond := by
  obtain ⟨part, hpart, hrecord⟩ := (section?_eq_some_some_iff hfield hentry).mp hsection
  rcases h.section_record entry hentry part hpart with rfl | hpart
  · exact absurd hrecord (by simp [Datum.record?])
  · obtain ⟨record', hrecord', hreach⟩ := (isRecord_iff (nodup_settingKeys entry hentry)).mp hpart
    obtain rfl : record' = record := Option.some.inj (hrecord'.symm.trans hrecord)
    exact hreach s.key (List.mem_map_of_mem hs)

theorem exists_valueIn? {fields : Option Datum.Record}
    (hsection : section? field entry = some fields) (hs : s ∈ entry.2) :
    ∃ o, valueIn? fields s = some o := by
  apply exists_valueIn?_iff.mpr
  rintro record rfl
  refine ⟨h.ne_beyond hfield hentry hsection hs, ?_⟩
  intro d hd
  exact h.setting_value s d ((holdsSetting_iff hfield hentry hs hsection).mpr ⟨record, rfl, hd⟩)

end IsLayer

theorem exists_ofDatum?_of_isLayer (h : IsLayer document) :
    ∃ layer, ofDatum? document = some layer := by
  obtain ⟨field, hfield, hreach⟩ := (isRecord_iff nodup_sections).mp h.document_record
  have hsections : ∀ entry ∈ Setting.sections, ∃ fields, section? field entry = some fields := by
    intro entry hentry
    exact h.exists_section? hfield hentry (hreach _ (List.mem_map_of_mem hentry))
  have hvalues : ∀ s, ∃ o, ∀ entry ∈ Setting.sections, s ∈ entry.2 →
      ∀ fields, section? field entry = some fields → valueIn? fields s = some o := by
    intro s
    obtain ⟨entry, hentry, hs⟩ := exists_entry s
    obtain ⟨fields, hsection⟩ := hsections entry hentry
    obtain ⟨o, ho⟩ := h.exists_valueIn? hfield hentry hsection hs
    refine ⟨o, ?_⟩
    intro entry' hentry' hs' fields' hsection'
    obtain rfl : entry' = entry := entry_unique hentry' hs' hentry hs
    obtain rfl : fields' = fields := Option.some.inj (hsection'.symm.trans hsection)
    exact ho
  choose layer hlayer using hvalues
  refine ⟨layer, ofDatum?_eq_some_iff_forall.mpr ⟨field, hfield, ?_⟩⟩
  intro entry hentry
  obtain ⟨fields, hsection⟩ := hsections entry hentry
  exact ⟨fields, hsection, fun s hs => hlayer s entry hentry hs fields hsection⟩

/-- A document is read exactly if it is a layer, and what is read has for each setting the value
that the document gives it. -/
theorem ofDatum?_eq_some_iff :
    ofDatum? document = some layer ↔
      IsLayer document ∧ ∀ s v, layer s = some v ↔ Gives document s v := by
  constructor
  · intro hread
    exact ⟨isLayer_of_ofDatum? hread, eq_some_iff_gives hread⟩
  · rintro ⟨hlayer, hvalues⟩
    obtain ⟨read, hread⟩ := exists_ofDatum?_of_isLayer hlayer
    have hsame : read = layer := by
      funext s
      apply Option.ext
      intro v
      rw [hvalues s v]
      exact eq_some_iff_gives hread s v
    rw [← hsame, hread]

end ConfigLayer

end LeagueRoster
