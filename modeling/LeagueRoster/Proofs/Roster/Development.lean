import LeagueRoster.Proofs.Roster.Order

/-!
The development group. Its first key only tells domestic from international contracts, so the
one sort of the group is two: each kind is sorted by seniority on its own, and the domestic
block stands in front (`rookieDevelopment_eq_blocks`). Status, injured reserve and salary play
no part in it.
-/
namespace LeagueRoster.Roster

open NameOrder StableSort

/-- In a block of the development group `a` may stand before `b`. -/
def SeniorityOrder (a b : Contract) : Prop :=
  b.year < a.year ∨ a.year = b.year ∧ (compareNames (shownName a) (shownName b)).isLE

/-- Neither year nor name tells `a` and `b` apart. -/
def SameSeniority (a b : Contract) : Prop :=
  a.year = b.year ∧ compareNames (shownName a) (shownName b) = .eq

instance (a : Contract) : DecidablePred (SameSeniority a) :=
  fun b => inferInstanceAs (Decidable (a.year = b.year ∧ _))

/-- All contracts of a kind, by year descending and name, in the order of the input where
these agree. -/
structure SeniorityBlock (kind : ContractKind) (contracts block : List Contract) : Prop where
  perm : block.Perm (contracts.filter fun c => c.kind = kind)
  sorted : block.Pairwise SeniorityOrder
  ties : ∀ a, block.filter (fun b => SameSeniority a b) =
    (contracts.filter fun c => c.kind = kind).filter fun b => SameSeniority a b

/-- The contracts of a kind, stably sorted. -/
def sortedKind (kind : ContractKind) (contracts : List Contract) : List Contract :=
  (contracts.filter fun c => c.kind = kind).mergeSort fun a b => (compareSeniority a b).isLE

theorem seniorityBlock_iff (kind : ContractKind) (contracts block : List Contract) :
    SeniorityBlock kind contracts block ↔
      StableOrder compareSeniority (contracts.filter fun c => c.kind = kind) block := by
  have hbefore : ∀ a b, (compareSeniority a b).isLE ↔ SeniorityOrder a b := isLE_compareSeniority
  have hsame : ∀ a b, compareSeniority a b = .eq ↔ SameSeniority a b := compareSeniority_eq_eq
  rw [stableOrder_iff hbefore hsame]
  constructor
  · intro h
    exact ⟨h.perm, h.sorted, h.ties⟩
  · rintro ⟨hperm, hsorted, hties⟩
    exact ⟨hperm, hsorted, hties⟩

theorem eq_sortedKind_iff (kind : ContractKind) (contracts block : List Contract) :
    block = sortedKind kind contracts ↔ SeniorityBlock kind contracts block :=
  eq_mergeSort_iff.trans (seniorityBlock_iff kind contracts block).symm

/-- A domestic contract stands before every international one. -/
theorem compareDevelopment_eq_lt {a b : Contract} (ha : a.kind.isInternational = false)
    (hb : b.kind.isInternational = true) : compareDevelopment a b = .lt := by
  rw [compareDevelopment_eq, ha, hb]
  rfl

/-- Among contracts of one kind seniority decides alone. -/
theorem compareDevelopment_of_kind_eq {a b : Contract} (h : a.kind = b.kind) :
    compareDevelopment a b = compareSeniority a b := by
  rw [compareDevelopment_eq, h, Std.compare_self, Ordering.eq_then]

/-- A test of the kind that only one development kind passes. -/
theorem filter_members_rookieDevelopment {p : ContractKind → Bool} {kind : ContractKind}
    (h : ∀ k : ContractKind, (k.isRookieDevelopment && p k) ↔ k = kind)
    (contracts : List Contract) :
    (members .rookieDevelopment contracts).filter (fun c => p c.kind) =
      contracts.filter fun c => c.kind = kind := by
  rw [members, List.filter_filter]
  apply List.filter_congr
  intro c _
  rw [Bool.eq_iff_iff, decide_eq_true_eq, ← h c.kind, Bool.and_eq_true, Bool.and_eq_true,
    decide_eq_true_eq, classify_eq_rookieDevelopment_iff, and_comm]

theorem mergeSort_kind (kind : ContractKind) (contracts : List Contract) :
    ((contracts.filter fun c => c.kind = kind).mergeSort fun a b => (compareDevelopment a b).isLE) =
      sortedKind kind contracts := by
  apply mergeSort_congr
  intro a ha b hb
  rw [List.mem_filter, decide_eq_true_eq] at ha hb
  exact compareDevelopment_of_kind_eq (ha.2.trans hb.2.symm)

/-- The development group is its domestic contracts followed by its international ones, each
kind stably sorted on its own; and for each kind that is the one list with all its contracts,
whatever their status, in which year descends, names decide next, and contracts that agree in
both keep the order of the input. -/
theorem rookieDevelopment_eq_blocks (contracts : List Contract) :
    (ofContracts contracts).rookieDevelopment =
        sortedKind .rookieDevelopment contracts ++
          sortedKind .rookieDevelopmentInternational contracts ∧
      ∀ kind block, block = sortedKind kind contracts ↔ SeniorityBlock kind contracts block := by
  refine ⟨?_, fun kind block => eq_sortedKind_iff kind contracts block⟩
  have hfirst : ∀ a b : Contract, (!a.kind.isInternational) = true →
      (!b.kind.isInternational) = false → compareDevelopment a b = .lt := by
    intro a b ha hb
    rw [Bool.not_eq_true'] at ha
    rw [Bool.not_eq_false'] at hb
    exact compareDevelopment_eq_lt ha hb
  have hdomestic := filter_members_rookieDevelopment domestic_iff contracts
  have hinternational := filter_members_rookieDevelopment international_iff contracts
  calc (ofContracts contracts).rookieDevelopment
      = (members .rookieDevelopment contracts).mergeSort
          fun a b => (compareDevelopment a b).isLE := rfl
    _ = _ := mergeSort_eq_append hfirst _
    _ = _ := by
      simp only [Bool.not_not]
      rw [hdomestic, hinternational, mergeSort_kind, mergeSort_kind]

end LeagueRoster.Roster
