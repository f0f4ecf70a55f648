import LeagueRoster.Json.Value

/-!
A JSON value is read back out of the data it holds if every object in it has its members in order
(`toJson?_toDatum`): each member that is read has the last place among those before it.
-/
namespace LeagueRoster.Json

mutual

/-- The members of every object in the value stand in order of their keys. -/
def InOrder : Json → Prop
  | .null | .bool _ | .int _ | .str _ => True
  | .arr items => ItemsInOrder items
  | .obj members =>
    members.Pairwise (fun m m' => compare m.1.toList m'.1.toList = .lt) ∧ ValuesInOrder members
  termination_by structural j => j

def ItemsInOrder : List Json → Prop
  | [] => True
  | j :: rest => InOrder j ∧ ItemsInOrder rest
  termination_by structural js => js

def ValuesInOrder : List (String × Json) → Prop
  | [] => True
  | (_, j) :: rest => InOrder j ∧ ValuesInOrder rest
  termination_by structural ms => ms

end

theorem itemsInOrder_iff {items : List Json} :
    ItemsInOrder items ↔ ∀ j ∈ items, InOrder j := by
  induction items with
  | nil => simp [ItemsInOrder]
  | cons j items ih => simp [ItemsInOrder, ih]

/-- A member whose key comes after all others goes behind them. -/
theorem insertMember_of_last {key : String} {value : Json} {members : List (String × Json)}
    (h : ∀ m ∈ members, compare m.1.toList key.toList = .lt) :
    insertMember key value members = members ++ [(key, value)] := by
  induction members with
  | nil => rfl
  | cons m members ih =>
    obtain ⟨hm, hmembers⟩ := List.forall_mem_cons.mp h
    have hgt : compare key.toList m.1.toList = .gt := Std.OrientedCmp.gt_of_lt hm
    rw [insertMember, hgt]
    show m :: insertMember key value members = _
    rw [ih hmembers, List.cons_append]

mutual

theorem toJson?_toDatum : (j : Json) → InOrder j → j.toDatum.toJson? = some j
  | .null, _ | .bool _, _ | .int _, _ | .str _, _ => rfl
  | .arr items, h => by
    rw [toDatum, Datum.toJson?, itemsToJson?_datumItems items h, Option.map_some]
  | .obj members, ⟨hkeys, hvalues⟩ => by
    rw [toDatum, Datum.toJson?, membersToJson?_datumEntries members [] hkeys hvalues,
      Option.map_some, List.nil_append]

theorem itemsToJson?_datumItems : (items : List Json) → ItemsInOrder items →
    Datum.itemsToJson? (datumItems items) = some items
  | [], _ => rfl
  | j :: rest, ⟨hj, hrest⟩ => by
    simp only [datumItems, Datum.itemsToJson?, toJson?_toDatum j hj,
      itemsToJson?_datumItems rest hrest, Option.bind_eq_bind, Option.bind_some, Option.pure_def]

/-- The members still to be read go behind those of `front`, which have been read before. -/
theorem membersToJson?_datumEntries : (members front : List (String × Json)) →
    (front ++ members).Pairwise (fun m m' => compare m.1.toList m'.1.toList = .lt) →
      ValuesInOrder members →
        Datum.membersToJson? front (datumEntries members) = some (front ++ members)
  | [], front, _, _ => by rw [datumEntries, Datum.membersToJson?, List.append_nil]
  | (key, j) :: rest, front, hkeys, ⟨hj, hrest⟩ => by
    have hlast : ∀ m ∈ front, compare m.1.toList key.toList = .lt := fun m hm =>
      (List.pairwise_append.mp hkeys).2.2 m hm (key, j) List.mem_cons_self
    have hsplit : front ++ (key, j) :: rest = front ++ [(key, j)] ++ rest := by simp
    rw [hsplit] at hkeys ⊢
    simp only [datumEntries, Datum.membersToJson?, toJson?_toDatum j hj, Option.bind_eq_bind,
      Option.bind_some, insertMember_of_last hlast]
    exact membersToJson?_datumEntries rest (front ++ [(key, j)]) hkeys hrest

end

end LeagueRoster.Json
