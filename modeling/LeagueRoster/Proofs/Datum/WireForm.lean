import LeagueRoster.Contract.Wire
import LeagueRoster.Proofs.Datum.Record
import LeagueRoster.Proofs.Json.Reading

/-!
Values that are read back from what is written of them (`WireForm`): scalars, constants, lists,
and the fields of records. A record that is written out names each of its fields at most once,
so what it says of a field is what was written under that name (`record?_entriesBy`).
-/
namespace LeagueRoster

open Datum Datum.JsonText

/-- Reading undoes writing, and what is written takes that many levels of containers. -/
structure WireForm {α : Type} (read : Datum → Option α) (write : α → Json) (depth : Nat) :
    Prop where
  reads : ∀ a, read (write a).toDatum = some a
  fits : ∀ a levels, depth ≤ levels → Fits levels (write a)

section Scalars

theorem wireForm_int64 : WireForm int64? Json.ofInt64 0 where
  reads n := by
    have hlow : Int64.minValue.toInt ≤ n.toInt := Int64.minValue_le_toInt n
    have hhigh : n.toInt ≤ Int64.maxValue.toInt := Int64.toInt_le n
    have hrange := Bool.and_eq_true_iff.mpr ⟨decide_eq_true hlow, decide_eq_true hhigh⟩
    rw [Json.ofInt64, Json.toDatum, int64?, if_pos hrange, Int64.ofInt_toInt]
  fits n levels _ := by
    have hlow : Int64.minValue.toInt ≤ n.toInt := Int64.minValue_le_toInt n
    have hhigh : n.toInt ≤ Int64.maxValue.toInt := Int64.toInt_le n
    have hmin : -((UInt64.size / 2 : Nat) : Int) ≤ Int64.minValue.toInt := by decide
    have hmax : Int64.maxValue.toInt < (UInt64.size : Int) := by decide
    exact ⟨Int.le_trans hmin hlow, Int.lt_of_le_of_lt hhigh hmax⟩

theorem fits_natCast {n : Nat} (h : n < UInt64.size) (levels : Nat) :
    Fits levels (.int n) := by
  have hn : (n : Int) < UInt64.size := Int.ofNat_lt.mpr h
  exact ⟨by omega, hn⟩

theorem wireForm_uint16 : WireForm uint16? Json.ofUInt16 0 where
  reads _ := uint16?_eq_some_iff.mpr rfl
  fits n levels _ := fits_natCast (Nat.lt_trans n.toNat_lt_size (by decide)) levels

theorem wireForm_uint32 : WireForm uint32? (fun n => .int n.toNat) 0 where
  reads _ := uint32?_eq_some_iff.mpr rfl
  fits n levels _ := fits_natCast (Nat.lt_trans n.toNat_lt_size (by decide)) levels

theorem wireForm_uint64 : WireForm uint64? (fun n => .int n.toNat) 0 where
  reads _ := uint64?_eq_some_iff.mpr rfl
  fits n levels _ := fits_natCast n.toNat_lt_size levels

theorem wireForm_str : WireForm str? Json.str 0 where
  reads _ := rfl
  fits _ _ _ := trivial

theorem wireForm_bool : WireForm bool? Json.bool 0 where
  reads _ := rfl
  fits _ _ _ := trivial

/-- A constant is read back if its name is not the name of one before it. -/
theorem wireForm_constant {α : Type} {rules : Leniency} {all : List α} {name : α → String}
    (hnames : ∀ a, all.find? (fun b => name b == name a) = some a) :
    WireForm (constant? rules all name) (fun a => .str (name a)) 0 where
  reads := hnames
  fits _ _ _ := trivial

end Scalars

variable {α : Type} {read : Datum → Option α} {write : α → Json} {depth : Nat}

theorem mapM_read_datumItems (h : WireForm read write depth) (as : List α) :
    (Json.datumItems (as.map write)).mapM read = some as := by
  induction as with
  | nil => rfl
  | cons a as ih => simp [Json.datumItems, h.reads a, ih]

theorem WireForm.list (h : WireForm read write depth) :
    WireForm (listOf? read) (fun as => .arr (as.map write)) (depth + 1) where
  reads := mapM_read_datumItems h
  fits as levels hlevels := by
    refine ⟨by omega, itemsFit_iff.mpr fun j hj => ?_⟩
    obtain ⟨a, -, rfl⟩ := List.mem_map.mp hj
    exact h.fits a (levels - 1) (by omega)

section Records

/-- What a written record says of a field. -/
def Json.slot (members : List (String × Json)) (name : String) : Slot :=
  match members.lookup name with
  | some j => .given j.toDatum
  | none => .missing

/-- The entries of a record, given what each written value is read as. -/
def Json.entriesBy (f : Json → Datum) (members : List (String × Json)) : List (Datum × Datum) :=
  members.map fun m => (.str m.1, f m.2)

/-- What these entries say of a field. -/
def Json.slotBy (f : Json → Datum) (members : List (String × Json)) (name : String) : Slot :=
  match members.lookup name with
  | some j => .given (f j)
  | none => .missing

variable {members : List (String × Json)} {rules : Leniency} {name : String} {f : Json → Datum}

theorem datumEntries_eq_entriesBy (members : List (String × Json)) :
    Json.datumEntries members = Json.entriesBy Json.toDatum members := by
  induction members with
  | nil => rfl
  | cons m members ih =>
    rw [Json.datumEntries, ih]
    rfl

theorem filter_entriesBy (keep : Datum → Bool) (members : List (String × Json)) :
    (Json.entriesBy f members).filter (fun e => keep e.1) =
      Json.entriesBy f (members.filter fun m => keep (.str m.1)) :=
  List.filter_map

theorem filter_datumEntries (keep : Datum → Bool) (members : List (String × Json)) :
    (Json.datumEntries members).filter (fun e => keep e.1) =
      Json.datumEntries (members.filter fun m => keep (.str m.1)) := by
  rw [datumEntries_eq_entriesBy, datumEntries_eq_entriesBy, filter_entriesBy]

/-- Of members with keys of their own at most one stands under a name. -/
theorem filter_key_eq (hkeys : (members.map Prod.fst).Nodup) (name : String) :
    (members.filter fun m => m.1 == name) =
      ((members.lookup name).map fun j => (name, j)).toList := by
  induction members with
  | nil => rfl
  | cons m members ih =>
    obtain ⟨key, j⟩ := m
    obtain ⟨hkey, hkeys⟩ := List.nodup_cons.mp hkeys
    by_cases hname : key = name
    · subst hname
      have hlookup : members.lookup key = none := by
        rw [List.lookup_eq_none_iff]
        intro m hm
        have hne : key ≠ m.1 := fun h => hkey (List.mem_map.mpr ⟨m, hm, h.symm⟩)
        simpa using hne
      rw [List.filter_cons_of_pos (by simp), ih hkeys, hlookup, List.lookup_cons_self]
      rfl
    · have hne : (name == key) = false := beq_eq_false_iff_ne.mpr fun h => hname h.symm
      rw [List.filter_cons_of_neg (by simpa using hname), ih hkeys, List.lookup_cons, hne]

/-- Entries without a name that stands twice say of each field what stands under its name. -/
theorem record?_entriesBy (hkeys : (members.map Prod.fst).Nodup) (names : List String) :
    record? rules names (.map (Json.entriesBy f members)) = some (Json.slotBy f members) := by
  have hunder : ∀ name position,
      (Json.entriesBy f members).filter (fun e => named rules name position e.1) =
        Json.entriesBy f ((members.lookup name).map fun j => (name, j)).toList := by
    intro name position
    rw [filter_entriesBy]
    exact congrArg (Json.entriesBy f) (filter_key_eq hkeys name)
  have hfields : (Json.entriesBy f members).all (isFieldKey rules ·.1) := by
    rw [Json.entriesBy, List.all_map, List.all_eq_true]
    intro m _
    rfl
  have hunique : names.all fun name =>
      (Json.entriesBy f ((members.lookup name).map fun j => (name, j)).toList).length ≤ 1 := by
    rw [List.all_eq_true]
    intro name _
    cases members.lookup name <;> simp [Json.entriesBy]
  simp only [record?, hunder, hfields, hunique, Bool.and_self, if_true, Option.some.injEq]
  funext name
  unfold Json.slotBy
  cases members.lookup name <;> rfl

theorem readBack_obj (levels : Nat) (members : List (String × Json)) :
    readBack (levels + 1) (.obj members) = .map (Json.entriesBy (readBack levels) members) := by
  have hentries : ∀ members,
      readBackEntries levels members = Json.entriesBy (readBack levels) members := by
    intro members
    induction members with
    | nil => rfl
    | cons m rest ih =>
      rw [readBackEntries, ih]
      rfl
  rw [readBack, if_neg (Nat.succ_ne_zero levels), Nat.add_sub_cancel, hentries]

theorem record?_toDatum (hkeys : (members.map Prod.fst).Nodup) (names : List String) :
    record? rules names (Json.obj members).toDatum = some (Json.slot members) := by
  rw [Json.toDatum, datumEntries_eq_entriesBy, record?_entriesBy hkeys names]
  rfl

section Fields

variable {a : α} {o : Option α}

theorem slot_required (h : WireForm read write depth) (ha : members.lookup name = some (write a)) :
    (Json.slot members name).required read = some a := by
  rw [Json.slot, ha]
  exact h.reads a

theorem slot_orElse (h : WireForm read write depth) (fallback : α)
    (ha : members.lookup name = some (write a)) :
    (Json.slot members name).orElse read fallback = some a := by
  rw [Json.slot, ha]
  exact h.reads a

/-- A detail that is left out is read as none, for what is written of a value is not null. -/
theorem slot_optional (h : WireForm read write depth) (hnull : read .null = none)
    (ho : members.lookup name = o.map write) :
    (Json.slot members name).optional read = some o := by
  rw [Json.slot, ho]
  cases o with
  | none => rfl
  | some a =>
    have hread : read (write a).toDatum = some a := h.reads a
    have hgiven : (write a).toDatum ≠ .null := by
      intro heq
      rw [heq, hnull] at hread
      exact absurd hread (by simp)
    show (Slot.given (write a).toDatum).optional read = some (some a)
    unfold Slot.optional
    split
    · next heq => exact absurd (Slot.given.inj heq) hgiven
    · next heq => rw [← Slot.given.inj heq, hread, Option.map_some]
    · next heq => cases heq
    · next heq => cases heq

@[simp] theorem lookup_entry?_self (name : String) (write : α → Json) (o : Option α) :
    (Json.entry? name write o).lookup name = o.map write := by
  cases o with
  | none => rfl
  | some a => exact List.lookup_cons_self

@[simp] theorem lookup_entry?_of_ne {key : String} (hne : name ≠ key) (write : α → Json)
    (o : Option α) : (Json.entry? key write o).lookup name = none := by
  have hkey : (name == key) = false := beq_eq_false_iff_ne.mpr hne
  cases o with
  | none => rfl
  | some a => simp [Json.entry?, List.lookup_cons, hkey]

theorem keys_entry?_sublist (name : String) (write : α → Json) (o : Option α) :
    ((Json.entry? name write o).map Prod.fst).Sublist [name] := by
  cases o with
  | none => exact List.nil_sublist [name]
  | some a => exact List.Sublist.refl [name]

theorem membersFit_append {levels : Nat} {ms ms' : List (String × Json)} :
    MembersFit levels (ms ++ ms') ↔ MembersFit levels ms ∧ MembersFit levels ms' := by
  simp only [membersFit_iff, List.forall_mem_append]

theorem WireForm.membersFit_optional (h : WireForm read write depth) {levels : Nat}
    (hlevels : depth ≤ levels) (name : String) (o : Option α) :
    MembersFit levels (Json.entry? name write o) := by
  cases o with
  | none => trivial
  | some a => exact ⟨h.fits a levels hlevels, trivial⟩

end Fields

end Records

end LeagueRoster
