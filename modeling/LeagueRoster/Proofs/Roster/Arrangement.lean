import LeagueRoster.Proofs.Roster.Development

/-!
A roster as an arrangement of contracts. Each group is a stable sort of its members by an order of
its own (`group_eq_mergeSort`); on injured reserve that order tells nothing apart. One more
contract at the end of the input therefore goes to one place of one group
(`ofContracts_concat`). The rosters that stay as they are when their rows are read again are those
with each contract in its group and each group in its order (`ofContracts_shown_iff`).
-/
namespace LeagueRoster.Roster

open NameOrder StableSort

/-- In the development group `a` may stand before `b`. -/
def DevelopmentOrder (a b : Contract) : Prop :=
  a.kind.isInternational = false ∧ b.kind.isInternational = true ∨
    a.kind.isInternational = b.kind.isInternational ∧ SeniorityOrder a b

/-- In a group `a` does not compare greater than `b`. -/
def MayPrecede : RosterGroup → Contract → Contract → Prop
  | .active => ActiveOrder
  | .injuredReserve => fun _ _ => True
  | .rookieDevelopment => DevelopmentOrder

/-- The comparison a group is sorted by. On injured reserve all contracts tie. -/
def compareIn : RosterGroup → Contract → Contract → Ordering
  | .active => compareActive
  | .injuredReserve => fun _ _ => .eq
  | .rookieDevelopment => compareDevelopment

instance (g : RosterGroup) : Std.TransCmp (compareIn g) := by
  cases g with
  | active => exact inferInstanceAs (Std.TransCmp compareActive)
  | injuredReserve => exact { eq_swap := rfl, isLE_trans := fun _ _ => rfl }
  | rookieDevelopment => exact inferInstanceAs (Std.TransCmp compareDevelopment)

theorem compare_bool_eq_lt (x y : Bool) : compare x y = .lt ↔ x = false ∧ y = true := by
  cases x <;> cases y <;> decide

theorem isLE_compareDevelopment (a b : Contract) :
    (compareDevelopment a b).isLE ↔ DevelopmentOrder a b := by
  rw [compareDevelopment_eq, Ordering.isLE_then_iff_or, compare_bool_eq_lt,
    Std.compare_eq_iff_eq, isLE_compareSeniority, DevelopmentOrder, SeniorityOrder]

theorem isLE_compareIn {g : RosterGroup} {a b : Contract} :
    (compareIn g a b).isLE ↔ MayPrecede g a b := by
  cases g with
  | active => exact isLE_compareActive a b
  | injuredReserve => exact iff_of_true rfl trivial
  | rookieDevelopment => exact isLE_compareDevelopment a b

theorem compareIn_eq_gt {g : RosterGroup} {a b : Contract} :
    compareIn g a b = .gt ↔ ¬MayPrecede g a b := by
  rw [← isLE_compareIn, Ordering.isLE_iff_ne_gt, not_not]

/-- A sort by an order that tells nothing apart keeps the order of the input. -/
theorem group_eq_mergeSort (contracts : List Contract) (g : RosterGroup) :
    (ofContracts contracts).group g =
      (members g contracts).mergeSort fun a b => (compareIn g a b).isLE := by
  cases g with
  | active => rfl
  | injuredReserve =>
    symm
    apply List.mergeSort_of_pairwise
    exact List.pairwise_of_forall fun _ _ => rfl
  | rookieDevelopment => rfl

/-- A roster is known by its groups. -/
theorem ext_group {r r' : Roster} (h : ∀ g, r.group g = r'.group g) : r = r' := by
  obtain ⟨active, injuredReserve, rookieDevelopment⟩ := r
  obtain ⟨active', injuredReserve', rookieDevelopment'⟩ := r'
  obtain rfl : active = active' := h .active
  obtain rfl : injuredReserve = injuredReserve' := h .injuredReserve
  obtain rfl : rookieDevelopment = rookieDevelopment' := h .rookieDevelopment
  rfl

section Growth

/-- The contract `c` enters the group `g`, behind every row that does not compare greater and before
every row that does. No other row moves. -/
structure Enters (c : Contract) (g : RosterGroup) (before after : Roster) : Prop where
  place : ∃ front back, before.group g = front ++ back ∧ after.group g = front ++ c :: back ∧
    (∀ b ∈ front, MayPrecede g b c) ∧ ∀ b ∈ back, ¬MayPrecede g b c
  others : ∀ g', g' ≠ g → after.group g' = before.group g'

theorem members_concat_of_eq {g : RosterGroup} {c : Contract} (h : classify c = some g)
    (contracts : List Contract) : members g (contracts ++ [c]) = members g contracts ++ [c] :=
  members_middle_of_eq h contracts []

theorem group_concat_of_ne {g : RosterGroup} {c : Contract} (h : classify c ≠ some g)
    (contracts : List Contract) :
    (ofContracts (contracts ++ [c])).group g = (ofContracts contracts).group g := by
  have hmembers : members g (contracts ++ [c]) = members g contracts ++ [] :=
    members_middle_of_ne h contracts []
  rw [group_eq_mergeSort, hmembers, List.append_nil, ← group_eq_mergeSort]

theorem enters_concat {g : RosterGroup} {c : Contract} (h : classify c = some g)
    (contracts : List Contract) :
    Enters c g (ofContracts contracts) (ofContracts (contracts ++ [c])) := by
  constructor
  case place =>
    obtain ⟨front, back, hbefore, hafter, hfront, hback⟩ :=
      @exists_mergeSort_concat _ (compareIn g) _ (members g contracts) c
    refine ⟨front, back, ?_, ?_, ?_, ?_⟩
    · rw [group_eq_mergeSort, hbefore]
    · rw [group_eq_mergeSort, members_concat_of_eq h, hafter]
    · intro b hb
      exact isLE_compareIn.mp (hfront b hb)
    · intro b hb
      exact compareIn_eq_gt.mp (hback b hb)
  case others =>
    intro g' hne
    apply group_concat_of_ne
    rw [h]
    exact fun heq => hne (Option.some.inj heq).symm

/-- Nothing compares greater on injured reserve, so what enters there enters last. -/
theorem Enters.injuredReserve_eq {c : Contract} {before after : Roster}
    (h : Enters c .injuredReserve before after) :
    after.injuredReserve = before.injuredReserve ++ [c] := by
  obtain ⟨front, back, hbefore, hafter, -, hback⟩ := h.place
  have hnil : back = [] := by
    apply List.eq_nil_iff_forall_not_mem.mpr
    intro b hb
    exact hback b hb trivial
  rw [hnil] at hbefore hafter
  rw [List.append_nil] at hbefore
  exact hafter.trans (congrArg (· ++ [c]) hbefore.symm)

/-- A roster grows contract by contract, whatever came before: a contract that is shown in no group
changes nothing, and any other takes its place in its group by that group's order, last among
those it ties with, and at the end of injured reserve. -/
theorem ofContracts_concat (contracts : List Contract) (c : Contract) :
    (classify c = none → ofContracts (contracts ++ [c]) = ofContracts contracts) ∧
      (∀ g, classify c = some g →
        Enters c g (ofContracts contracts) (ofContracts (contracts ++ [c]))) ∧
      (classify c = some .injuredReserve →
        (ofContracts (contracts ++ [c])).injuredReserve =
          (ofContracts contracts).injuredReserve ++ [c]) := by
  refine ⟨?_, ?_, ?_⟩
  · intro h
    apply ext_group
    intro g
    exact group_concat_of_ne (by simp [h]) contracts
  · intro g h
    exact enters_concat h contracts
  · intro h
    exact (enters_concat h contracts).injuredReserve_eq

end Growth

section Shown

/-- Each contract stands in its group and each group in its order. -/
structure Arranged (r : Roster) : Prop where
  classified : ∀ g, ∀ c ∈ r.group g, classify c = some g
  sorted : ∀ g, (r.group g).Pairwise (MayPrecede g)

/-- The contracts of a roster in display order. -/
def shown (r : Roster) : List Contract := r.active ++ r.injuredReserve ++ r.rookieDevelopment

theorem length_shown (r : Roster) : r.shown.length = r.size := by
  simp only [shown, size, List.length_append]

theorem mem_shown {r : Roster} {c : Contract} : c ∈ r.shown ↔ ∃ g, c ∈ r.group g := by
  simp only [shown, List.mem_append]
  constructor
  · rintro ((h | h) | h)
    · exact ⟨.active, h⟩
    · exact ⟨.injuredReserve, h⟩
    · exact ⟨.rookieDevelopment, h⟩
  · rintro ⟨g, h⟩
    cases g with
    | active => exact Or.inl (Or.inl h)
    | injuredReserve => exact Or.inl (Or.inr h)
    | rookieDevelopment => exact Or.inr h

theorem arranged_ofContracts (contracts : List Contract) : Arranged (ofContracts contracts) where
  classified g c hc := (mem_group.mp hc).2
  sorted g := by
    rw [group_eq_mergeSort]
    exact (pairwise_mergeSort _).imp isLE_compareIn.mp

theorem members_of_classified {g g' : RosterGroup} {l : List Contract}
    (h : ∀ c ∈ l, classify c = some g') : members g l = if g' = g then l else [] := by
  split
  · next heq =>
    apply List.filter_eq_self.mpr
    intro c hc
    simpa using (h c hc).trans (congrArg some heq)
  · next hne =>
    apply List.filter_eq_nil_iff.mpr
    intro c hc
    simpa [h c hc] using hne

theorem Arranged.members_shown {r : Roster} (h : Arranged r) (g : RosterGroup) :
    members g r.shown = r.group g := by
  have happend : members g r.shown =
      members g (r.group .active) ++ members g (r.group .injuredReserve) ++
        members g (r.group .rookieDevelopment) := by
    simp only [members, shown, group, List.filter_append]
  rw [happend, members_of_classified (h.classified .active),
    members_of_classified (h.classified .injuredReserve),
    members_of_classified (h.classified .rookieDevelopment)]
  cases g <;> simp

/-- The rosters that are read again as they are. A group that is in order already keeps its rows
in place, ties among them. -/
theorem ofContracts_shown_iff {r : Roster} : ofContracts r.shown = r ↔ Arranged r := by
  constructor
  · intro h
    rw [← h]
    exact arranged_ofContracts r.shown
  · intro h
    apply ext_group
    intro g
    rw [group_eq_mergeSort, h.members_shown]
    exact List.mergeSort_of_pairwise ((h.sorted g).imp isLE_compareIn.mpr)

/-- Showing a roster and reading its rows again in display order, injured reserve after the active
group and development last, changes nothing: each group has the same contracts in the same order,
the same salaries are charged, and every row is shown again. -/
theorem ofContracts_shown_ofContracts (contracts : List Contract) :
    let r := ofContracts contracts
    let rows := r.active ++ r.injuredReserve ++ r.rookieDevelopment
    let again := ofContracts rows
    again.active = r.active ∧ again.injuredReserve = r.injuredReserve ∧
      again.rookieDevelopment = r.rookieDevelopment ∧ again.salaryUsed = r.salaryUsed ∧
      (∀ c ∈ rows, ∃ g, classify c = some g) ∧ again.size = rows.length := by
  intro r rows again
  have harranged : Arranged r := arranged_ofContracts contracts
  have hagain : again = r := ofContracts_shown_iff.mpr harranged
  rw [hagain]
  refine ⟨rfl, rfl, rfl, rfl, ?_, (length_shown r).symm⟩
  intro c hc
  obtain ⟨g, hg⟩ := mem_shown.mp hc
  exact ⟨g, harranged.classified g c hg⟩

end Shown

end LeagueRoster.Roster
