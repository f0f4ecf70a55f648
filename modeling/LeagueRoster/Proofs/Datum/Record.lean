import LeagueRoster.Datum.Record
import Mathlib.Data.List.Nodup
import Mathlib.Tactic.ByContra

/-!
What records, constants and numbers are in a document, apart from how they are read. A map holds
a field under its name, a sequence at its position. Where numbers do not stand for fields, a record
that is read has in each field what is held there (`given_iff_holds`), and all of its fields are in
reach exactly if it is a record in that sense (`isRecord_iff`).
-/
namespace LeagueRoster.Datum

/-- What stands in the field of a name: in a map the entry under it, in a sequence the item at its
position among the names of the record. -/
inductive Holds (names : List String) (name : String) : Datum → Datum → Prop where
  | entry {entries : List (Datum × Datum)} {d : Datum} (h : (str name, d) ∈ entries) :
      Holds names name (map entries) d
  | item {items : List Datum} {d : Datum} (h : items[names.idxOf name]? = some d) :
      Holds names name (seq items) d

/-- A record with fields of these names. A map may have other entries, but none of a field twice;
a sequence may be longer. -/
inductive IsRecord (names : List String) : Datum → Prop where
  | map {entries : List (Datum × Datum)} (texts : ∀ e ∈ entries, ∃ key, e.1 = str key)
      (once : ∀ name ∈ names, entries.Pairwise fun e e' => e.1 = str name → e'.1 ≠ str name) :
      IsRecord names (map entries)
  | seq {items : List Datum} (reaches : names.length ≤ items.length) : IsRecord names (seq items)

/-- A constant is spelled by its name, alone or over nothing. -/
inductive IsConstant (name : String) : Datum → Prop where
  | alone : IsConstant name (str name)
  | entry {d : Datum} (h : d = null ∨ d = seq [] ∨ d = map []) :
      IsConstant name (map [(str name, d)])

section Records

variable {rules : Leniency} {names : List String} {name : String} {d v : Datum} {field : Record}
  {entries : List (Datum × Datum)} {items : List Datum}

theorem length_filter_le_one_iff {α : Type} {p : α → Bool} {l : List α} :
    (l.filter p).length ≤ 1 ↔ l.Pairwise fun a b => p a = true → ¬p b = true := by
  induction l with
  | nil => simp
  | cons a l ih =>
    rw [List.pairwise_cons, ← ih]
    by_cases ha : p a = true
    · have hnone : (l.filter p).length = 0 ↔ ∀ b ∈ l, ¬p b = true :=
        List.length_eq_zero_iff.trans List.filter_eq_nil_iff
      have hforall : (∀ b ∈ l, p a = true → ¬p b = true) ↔ ∀ b ∈ l, ¬p b = true :=
        forall₂_congr fun b _ => imp_iff_right ha
      rw [List.filter_cons_of_pos ha, List.length_cons, hforall, ← hnone]
      omega
    · rw [List.filter_cons_of_neg ha]
      constructor
      · intro h
        exact ⟨fun b _ hpos => absurd hpos ha, h⟩
      · exact And.right

theorem holds_map_iff : Holds names name (map entries) v ↔ (str name, v) ∈ entries := by
  constructor
  · intro h
    cases h with
    | entry h => exact h
  · exact .entry

theorem holds_seq_iff : Holds names name (seq items) v ↔ items[names.idxOf name]? = some v := by
  constructor
  · intro h
    cases h with
    | item h => exact h
  · exact .item

theorem isRecord_seq_iff : IsRecord names (seq items) ↔ names.length ≤ items.length := by
  constructor
  · intro h
    cases h with
    | seq reaches => exact reaches
  · exact .seq

theorem length_le_iff_reaches (hnames : names.Nodup) :
    names.length ≤ items.length ↔ ∀ name ∈ names, names.idxOf name < items.length := by
  constructor
  · intro h name hname
    exact Nat.lt_of_lt_of_le (List.idxOf_lt_length_of_mem hname) h
  · intro h
    by_contra hshort
    have hlt : items.length < names.length := Nat.lt_of_not_le hshort
    have hreach := h names[items.length] (List.getElem_mem hlt)
    rw [hnames.idxOf_getElem items.length hlt] at hreach
    exact Nat.lt_irrefl _ hreach

theorem ne_beyond_of_map (hrecord : record? rules names (map entries) = some field)
    (name : String) : field name ≠ .beyond := by
  simp only [record?, Option.ite_none_right_eq_some, Option.some.injEq] at hrecord
  obtain ⟨-, rfl⟩ := hrecord
  dsimp only
  split <;> simp

variable (hpositions : rules.positions = false)

include hpositions

theorem isFieldKey_iff {key : Datum} : isFieldKey rules key = true ↔ ∃ text, key = str text := by
  cases key <;> simp [isFieldKey, hpositions]

theorem named_iff {position : Nat} {key : Datum} :
    named rules name position key = true ↔ key = str name := by
  cases key <;> simp [named, hpositions]

theorem isRecord_map_iff :
    IsRecord names (map entries) ↔
      (∀ e ∈ entries, isFieldKey rules e.1 = true) ∧
        ∀ name ∈ names,
          (entries.filter fun e => named rules name (names.idxOf name) e.1).length ≤ 1 := by
  simp only [isFieldKey_iff hpositions, length_filter_le_one_iff, named_iff hpositions]
  constructor
  · rintro ⟨texts, once⟩
    exact ⟨texts, once⟩
  · rintro ⟨texts, once⟩
    exact .map texts once

theorem exists_record?_map_iff :
    (∃ field, record? rules names (map entries) = some field) ↔
      IsRecord names (map entries) := by
  rw [isRecord_map_iff hpositions, ← Option.isSome_iff_exists]
  simp [record?, List.all_eq_true]

/-- What a record that is read says of a field is what stands there. -/
theorem given_iff_holds (hrecord : record? rules names d = some field) (hname : name ∈ names) :
    field name = .given v ↔ Holds names name d v := by
  cases d with
  | map entries =>
    have hmap : IsRecord names (map entries) :=
      (exists_record?_map_iff hpositions).mp ⟨field, hrecord⟩
    have honce := ((isRecord_map_iff hpositions).mp hmap).2 name hname
    have hunder : ∀ e, (e ∈ entries.filter fun e => named rules name (names.idxOf name) e.1) ↔
        e ∈ entries ∧ e.1 = str name := by
      intro e
      rw [List.mem_filter, named_iff hpositions]
    have hentry := (hunder (str name, v)).trans (and_iff_left rfl)
    simp only [record?, Option.ite_none_right_eq_some, Option.some.injEq] at hrecord
    obtain ⟨-, rfl⟩ := hrecord
    rw [holds_map_iff, ← hentry]
    dsimp only
    generalize entries.filter _ = under at *
    match under with
    | [] => simp
    | [e] =>
      obtain ⟨key, d⟩ := e
      obtain rfl : key = str name := ((hunder (key, d)).mp List.mem_cons_self).2
      simp [eq_comm]
    | _ :: _ :: _ => simp at honce
  | seq items =>
    simp only [record?, Option.ite_none_right_eq_some, Option.some.injEq] at hrecord
    obtain ⟨-, rfl⟩ := hrecord
    rw [holds_seq_iff]
    dsimp only
    cases items[names.idxOf name]? <;> simp
  | null | bool _ | int _ | real | str _ | unreadable => exact absurd hrecord (by simp [record?])

/-- A record is one that can be read with all of its fields in reach. -/
theorem isRecord_iff (hsurplus : rules.surplus = true) (hnames : names.Nodup) :
    IsRecord names d ↔
      ∃ field, record? rules names d = some field ∧ ∀ name ∈ names, field name ≠ .beyond := by
  cases d with
  | map entries =>
    rw [← exists_record?_map_iff hpositions]
    refine exists_congr fun field => (and_iff_left_of_imp ?_).symm
    intro hrecord name _
    exact ne_beyond_of_map hrecord name
  | seq items =>
    rw [isRecord_seq_iff, length_le_iff_reaches hnames]
    simp only [record?, hsurplus, Bool.or_true, if_true, Option.some.injEq, exists_eq_left']
    refine forall₂_congr fun name _ => ?_
    rw [← Nat.not_le, ← List.getElem?_eq_none_iff]
    cases items[names.idxOf name]? <;> simp
  | null | bool _ | int _ | real | str _ | unreadable =>
    constructor
    · intro h
      cases h
    · rintro ⟨field, hrecord, -⟩
      exact absurd hrecord (by simp [record?])

end Records

section Fields

variable {α : Type} {read : Datum → Option α} {slot : Slot}

theorem exists_optionalInReach_iff :
    (∃ o, slot.optionalInReach read = some o) ↔
      slot ≠ .beyond ∧ ∀ d, slot = .given d → d = .null ∨ ∃ a, read d = some a := by
  cases slot with
  | given d => cases d <;> simp [Slot.optionalInReach, Slot.optional]
  | missing => simp [Slot.optionalInReach, Slot.optional]
  | beyond => simp [Slot.optionalInReach]

theorem optionalInReach_eq_some_some_iff {a : α} (hnull : read .null = none) :
    slot.optionalInReach read = some (some a) ↔ ∃ d, slot = .given d ∧ read d = some a := by
  cases slot with
  | given d => cases d <;> simp [Slot.optionalInReach, Slot.optional, hnull]
  | missing => simp [Slot.optionalInReach, Slot.optional]
  | beyond => simp [Slot.optionalInReach]

end Fields

section Scalars

variable {d : Datum}

theorem bool?_eq_some_iff {b : Bool} : bool? d = some b ↔ d = .bool b := by
  cases d <;> simp [bool?]

theorem natural?_eq_some_iff {bound n : Nat} :
    natural? bound d = some n ↔ d = .int n ∧ n ≤ bound := by
  cases d with
  | int m =>
    simp only [natural?, Option.ite_none_right_eq_some, Bool.and_eq_true, decide_eq_true_eq,
      Option.some.injEq, int.injEq]
    omega
  | null | bool _ | real | str _ | seq _ | map _ | unreadable => simp [natural?]

/-- A number of a fixed width is a number below its size. -/
theorem map_natural?_eq_some_iff {α : Type} {size : Nat} {ofNat : Nat → α} {toNat : α → Nat}
    (hlt : ∀ a, toNat a < size) (hofNat : ∀ a, ofNat (toNat a) = a)
    (htoNat : ∀ n < size, toNat (ofNat n) = n) {a : α} :
    (natural? (size - 1) d).map ofNat = some a ↔ d = .int (toNat a) := by
  rw [Option.map_eq_some_iff]
  simp only [natural?_eq_some_iff]
  constructor
  · rintro ⟨n, ⟨rfl, hn⟩, rfl⟩
    have hsize : 0 < size := Nat.zero_lt_of_lt (hlt (ofNat n))
    rw [htoNat n (Nat.lt_of_le_sub_one hsize hn)]
  · rintro rfl
    exact ⟨toNat a, ⟨rfl, Nat.le_sub_one_of_lt (hlt a)⟩, hofNat a⟩

theorem uint16?_eq_some_iff {n : UInt16} : uint16? d = some n ↔ d = .int n.toNat :=
  map_natural?_eq_some_iff UInt16.toNat_lt_size (fun _ => UInt16.ofNat_toNat)
    fun _ => UInt16.toNat_ofNat_of_lt'

theorem uint32?_eq_some_iff {n : UInt32} : uint32? d = some n ↔ d = .int n.toNat :=
  map_natural?_eq_some_iff UInt32.toNat_lt_size (fun _ => UInt32.ofNat_toNat)
    fun _ => UInt32.toNat_ofNat_of_lt'

theorem uint64?_eq_some_iff {n : UInt64} : uint64? d = some n ↔ d = .int n.toNat :=
  map_natural?_eq_some_iff UInt64.toNat_lt_size (fun _ => UInt64.ofNat_toNat)
    fun _ => UInt64.toNat_ofNat_of_lt'

end Scalars

section Constants

variable {rules : Leniency} {d : Datum}

theorem isNothing_iff (hhollow : rules.hollow = true) :
    isNothing rules d = true ↔ d = null ∨ d = seq [] ∨ d = map [] := by
  unfold isNothing
  split <;> simp_all

/-- A constant is found by its name if that is not the name of one before it. -/
theorem constant?_eq_some_iff {α : Type} {all : List α} {name : α → String} {a : α}
    (hpositions : rules.positions = false) (hhollow : rules.hollow = true)
    (hnames : ∀ a, all.find? (fun b => name b == name a) = some a) :
    constant? rules all name d = some a ↔ IsConstant (name a) d := by
  have hfind : ∀ text, all.find? (fun b => name b == text) = some a ↔ text = name a := by
    intro text
    constructor
    · intro h
      have hname := List.find?_some h
      exact (beq_iff_eq.mp hname).symm
    · rintro rfl
      exact hnames a
  unfold constant?
  split
  · next text =>
    rw [hfind]
    constructor
    · rintro rfl
      exact .alone
    · intro h
      cases h
      rfl
  · next key content =>
    rw [Option.ite_none_right_eq_some, isNothing_iff hhollow]
    constructor
    · rintro ⟨hcontent, hkey⟩
      cases key with
      | str text =>
        obtain rfl := (hfind text).mp hkey
        exact .entry hcontent
      | int n => simp [hpositions] at hkey
      | null | bool _ | real | seq _ | map _ | unreadable => simp at hkey
    · intro h
      cases h with
      | entry h => exact ⟨h, hnames a⟩
  · next hstr hmap =>
    constructor
    · intro h
      exact absurd h (by simp)
    · intro h
      cases h with
      | alone => exact absurd rfl (hstr _)
      | entry h => exact absurd rfl (hmap _ _)

end Constants

end LeagueRoster.Datum
