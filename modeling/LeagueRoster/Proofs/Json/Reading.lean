import LeagueRoster.Proofs.Json.Document

/-!
Every text of a value, whatever its layout, is a document of the grammar (`isValue_of_spells`), and
reads as the value if the numbers in it fit 64 bits and it is not nested too deep
(`readBack_of_fits`).
-/
namespace LeagueRoster.Datum.JsonText

open Json

mutual

/-- A reader with that many levels of containers left can represent the value. -/
def Fits (levels : Nat) : Json → Prop
  | .null | .bool _ | .str _ => True
  | .int n => Representable n
  | .arr items => 0 < levels ∧ ItemsFit (levels - 1) items
  | .obj members => 0 < levels ∧ MembersFit (levels - 1) members
  termination_by structural j => j

def ItemsFit (levels : Nat) : List Json → Prop
  | [] => True
  | j :: rest => Fits levels j ∧ ItemsFit levels rest
  termination_by structural js => js

def MembersFit (levels : Nat) : List (String × Json) → Prop
  | [] => True
  | (_, j) :: rest => Fits levels j ∧ MembersFit levels rest
  termination_by structural ms => ms

end

theorem itemsFit_iff {levels : Nat} {items : List Json} :
    ItemsFit levels items ↔ ∀ j ∈ items, Fits levels j := by
  induction items with
  | nil => simp [ItemsFit]
  | cons j items ih => simp [ItemsFit, ih]

theorem membersFit_iff {levels : Nat} {members : List (String × Json)} :
    MembersFit levels members ↔ ∀ m ∈ members, Fits levels m.2 := by
  induction members with
  | nil => simp [MembersFit]
  | cons m members ih => simp [MembersFit, ih]

mutual

/-- What a reader with that many levels of containers left makes of a text of the value. -/
def readBack (levels : Nat) : Json → Datum
  | .null => .null
  | .bool b => .bool b
  | .int n => numberRead n
  | .str s => .str s
  | .arr items => if levels = 0 then .unreadable else .seq (readBackItems (levels - 1) items)
  | .obj members => if levels = 0 then .unreadable else .map (readBackEntries (levels - 1) members)
  termination_by structural j => j

def readBackItems (levels : Nat) : List Json → List Datum
  | [] => []
  | j :: rest => readBack levels j :: readBackItems levels rest
  termination_by structural js => js

def readBackEntries (levels : Nat) : List (String × Json) → List (Datum × Datum)
  | [] => []
  | (k, j) :: rest => (.str k, readBack levels j) :: readBackEntries levels rest
  termination_by structural ms => ms

end

theorem readBack_arr (levels : Nat) (items : List Json) :
    readBack (levels + 1) (.arr items) = .seq (items.map (readBack levels)) := by
  have hitems : ∀ items, readBackItems levels items = items.map (readBack levels) := by
    intro items
    induction items with
    | nil => rfl
    | cons j rest ih => rw [readBackItems, ih, List.map_cons]
  rw [readBack, if_neg (Nat.succ_ne_zero levels), Nat.add_sub_cancel, hitems]

mutual

theorem readBack_of_fits : (j : Json) → ∀ {levels : Nat}, Fits levels j →
    readBack levels j = j.toDatum
  | .null, _, _ | .bool _, _, _ | .str _, _, _ => rfl
  | .int _, _, h => numberRead_of_representable h
  | .arr items, levels, ⟨hlevels, hitems⟩ => by
    rw [readBack, if_neg (Nat.ne_of_gt hlevels), readBackItems_of_fit items hitems, toDatum]
  | .obj members, levels, ⟨hlevels, hmembers⟩ => by
    rw [readBack, if_neg (Nat.ne_of_gt hlevels), readBackEntries_of_fit members hmembers, toDatum]

theorem readBackItems_of_fit : (items : List Json) → ∀ {levels : Nat}, ItemsFit levels items →
    readBackItems levels items = datumItems items
  | [], _, _ => rfl
  | j :: rest, _, ⟨hj, hrest⟩ => by
    rw [readBackItems, readBack_of_fits j hj, readBackItems_of_fit rest hrest, datumItems]

theorem readBackEntries_of_fit : (members : List (String × Json)) → ∀ {levels : Nat},
    MembersFit levels members → readBackEntries levels members = datumEntries members
  | [], _, _ => rfl
  | (_, j) :: rest, _, ⟨hj, hrest⟩ => by
    rw [readBackEntries, readBack_of_fits j hj, readBackEntries_of_fit rest hrest, datumEntries]

end

/-- A name with blanks around it. -/
theorem padded_isText {k : String} {name : List Char} (h : Padded (· = quoted k) name) :
    Padded (IsText (k.toList.map pieceOf)) name := by
  obtain ⟨w, _, w', hw, rfl, hw', hname⟩ := h
  exact ⟨w, _, w', hw, isText_quoted k, hw', hname⟩

mutual

/-- A text of a value is one of the grammar. -/
theorem isValue_of_spells : (j : Json) → ∀ {levels : Nat} {s : List Char}, Spells j s →
    IsValue levels s (readBack levels j)
  | .null, _, _, rfl => .null
  | .bool true, _, _, rfl => .yes
  | .bool false, _, _, rfl => .no
  | .int n, _, _, rfl => .number (isNumber_decimalChars n)
  | .str t, levels, _, rfl => by
    rw [readBack, ← textOf_map_pieceOf t]
    exact .text (isText_quoted t)
  | .arr items, _, _, ⟨_, hbody, rfl⟩ => .seq (isItems_of_spellsItems items hbody)
  | .obj members, _, _, ⟨_, hbody, rfl⟩ => .map (isEntries_of_spellsMembers members hbody)

theorem isItems_of_spellsItems : (items : List Json) → ∀ {levels : Nat} {u : List Char},
    SpellsItems items u → IsItems levels u (readBackItems levels items)
  | [], _, _, hu => .none hu
  | [j], _, _, ⟨_, _, _, hw, ht, hw', rfl⟩ => .last hw (isValue_of_spells j ht) hw'
  | j :: j' :: rest, _, _, ⟨_, _, ⟨_, _, _, hw, ht, hw', rfl⟩, hu, rfl⟩ =>
    .more hw (isValue_of_spells j ht) hw' (isItems_of_spellsItems (j' :: rest) hu)

theorem isEntries_of_spellsMembers : (members : List (String × Json)) → ∀ {levels : Nat}
    {u : List Char}, SpellsMembers members u →
      IsEntries levels u (readBackEntries levels members)
  | [], _, _, hu => .none hu
  | [(k, j)], _, _, ⟨_, _, hname, ⟨_, _, _, hw, ht, hw', rfl⟩, rfl⟩ => by
    rw [readBackEntries, ← textOf_map_pieceOf k]
    exact .last (padded_isText hname) hw (isValue_of_spells j ht) hw'
  | (k, j) :: m :: rest, _, _, ⟨_, _, _, hname, ⟨_, _, _, hw, ht, hw', rfl⟩, hu, rfl⟩ => by
    rw [readBackEntries, ← textOf_map_pieceOf k]
    exact .more (padded_isText hname) hw (isValue_of_spells j ht) hw'
      (isEntries_of_spellsMembers (m :: rest) hu)

end

end LeagueRoster.Datum.JsonText

namespace LeagueRoster

open Datum.JsonText

theorem Json.WrittenAs.isDocument {j : Json} {text : String} (h : j.WrittenAs text) :
    (readBack 127 j).IsDocument text := by
  obtain ⟨w, t, w', hw, ht, hw', htext⟩ := h
  exact ⟨w, t, w', hw, isValue_of_spells j ht, hw', htext⟩

/-- A document of a value is read. -/
theorem Datum.ofJson?_of_writtenAs {j : Json} {text : String} (h : j.WrittenAs text) :
    ofJson? text = some (readBack 127 j) :=
  ofJson?_eq_some_iff.mpr h.isDocument

namespace Json

mutual

theorem readable_toDatum : (j : Json) → j.toDatum.readable
  | .null | .bool _ | .int _ | .str _ => rfl
  | .arr items => allReadable_datumItems items
  | .obj members => entriesReadable_datumEntries members

theorem allReadable_datumItems : (items : List Json) → Datum.allReadable (datumItems items)
  | [] => rfl
  | j :: rest => Bool.and_eq_true_iff.mpr ⟨readable_toDatum j, allReadable_datumItems rest⟩

theorem entriesReadable_datumEntries :
    (members : List (String × Json)) → Datum.entriesReadable (datumEntries members)
  | [] => rfl
  | (_, j) :: rest =>
    Bool.and_eq_true_iff.mpr ⟨readable_toDatum j, entriesReadable_datumEntries rest⟩

end

end Json

end LeagueRoster
