import LeagueRoster.Proofs.NameOrder
import LeagueRoster.Proofs.Roster.Groups
import LeagueRoster.Proofs.StableSort

/-!
The order of the sorted groups. Salary and year stand in descending order and names decide
last; each key is a total order and so is their combination. The active group is the one
stable arrangement of its contracts in that order (`eq_active_iff_stableOrder`).
-/
namespace LeagueRoster.Roster

open NameOrder StableSort

/-- The name a contract is shown under: a linked real-world record speaks first. -/
def shownName (c : Contract) : String :=
  match c.player with
  | .real player => player.name
  | .league player =>
    match player.realPlayer with
    | some real => real.name
    | none => player.name

/-- In the active group `a` may stand before `b`. -/
def ActiveOrder (a b : Contract) : Prop :=
  b.salary < a.salary ∨ a.salary = b.salary ∧
    (b.year < a.year ∨ a.year = b.year ∧ (compareNames (shownName a) (shownName b)).isLE)

/-- None of the three keys of the active group tells `a` and `b` apart. -/
def SameActiveKeys (a b : Contract) : Prop :=
  a.salary = b.salary ∧ a.year = b.year ∧ compareNames (shownName a) (shownName b) = .eq

instance (a : Contract) : DecidablePred (SameActiveKeys a) :=
  fun b => inferInstanceAs (Decidable (a.salary = b.salary ∧ a.year = b.year ∧ _))

theorem displayName_eq_shownName (c : Contract) : c.displayName = shownName c := by
  simp only [Contract.displayName, Contract.profile, shownName, Player.profile,
    LeaguePlayer.profile]
  cases c.player with
  | real player => rfl
  | league player =>
    simp only
    cases player.realPlayer with
    | some real => rfl
    | none => rfl

/-- The keys that both sorted groups end with: year descending, then name. -/
def compareSeniority (a b : Contract) : Ordering :=
  (compare b.year a.year).then (compareNames a.displayName b.displayName)

theorem compareActive_eq (a b : Contract) :
    compareActive a b = (compare b.salary a.salary).then (compareSeniority a b) := rfl

instance : Std.TransCmp fun a b : Contract => compareNames a.displayName b.displayName :=
  transCmp_comap Contract.displayName

instance : Std.TransCmp compareSeniority :=
  inferInstanceAs <| Std.TransCmp <| compareLex (fun a b => compareOn Contract.year b a)
    fun a b => compareNames a.displayName b.displayName

instance : Std.TransCmp compareActive :=
  inferInstanceAs <| Std.TransCmp <| compareLex (fun a b => compareOn Contract.salary b a)
    compareSeniority

theorem compareDevelopment_eq (a b : Contract) :
    compareDevelopment a b =
      (compare a.kind.isInternational b.kind.isInternational).then (compareSeniority a b) := rfl

instance : Std.TransCmp compareDevelopment :=
  inferInstanceAs <| Std.TransCmp <| compareLex
    (compareOn fun c : Contract => c.kind.isInternational) compareSeniority

theorem isLE_compareSeniority (a b : Contract) : (compareSeniority a b).isLE ↔
    b.year < a.year ∨ a.year = b.year ∧ (compareNames (shownName a) (shownName b)).isLE := by
  rw [compareSeniority, Ordering.isLE_then_iff_or, Std.compare_eq_lt, Std.compare_eq_iff_eq,
    displayName_eq_shownName, displayName_eq_shownName, eq_comm]

theorem compareSeniority_eq_eq (a b : Contract) : compareSeniority a b = .eq ↔
    a.year = b.year ∧ compareNames (shownName a) (shownName b) = .eq := by
  rw [compareSeniority, Ordering.then_eq_eq, Std.compare_eq_iff_eq, displayName_eq_shownName,
    displayName_eq_shownName, eq_comm]

theorem isLE_compareActive (a b : Contract) : (compareActive a b).isLE ↔ ActiveOrder a b := by
  rw [compareActive_eq, Ordering.isLE_then_iff_or, Std.compare_eq_lt, Std.compare_eq_iff_eq,
    isLE_compareSeniority, eq_comm, ActiveOrder]

theorem compareActive_eq_eq (a b : Contract) : compareActive a b = .eq ↔ SameActiveKeys a b := by
  rw [compareActive_eq, Ordering.then_eq_eq, Std.compare_eq_iff_eq, compareSeniority_eq_eq,
    eq_comm, SameActiveKeys]

theorem members_active_eq (contracts : List Contract) :
    members .active contracts = contracts.filter fun c => OnSquad c := by
  apply List.filter_congr
  intro c _
  simp only [classify_eq_active_iff]

theorem tied_compareActive (a : Contract) (contracts : List Contract) :
    tied compareActive a contracts = contracts.filter fun b => SameActiveKeys a b := by
  simp only [tied, compareActive_eq_eq]

/-- The active group is the stable arrangement of the active squad by salary and year, both
descending, and name; and no other arrangement is. Ties keep the order of the input: each
class of contracts with the same three keys reads in the group as it does in the input. -/
theorem eq_active_iff_stableOrder (contracts out : List Contract) :
    out = (ofContracts contracts).active ↔
      out.Perm (contracts.filter fun c => OnSquad c) ∧
        out.Pairwise ActiveOrder ∧
        ∀ a, out.filter (fun b => SameActiveKeys a b) =
          (contracts.filter fun c => OnSquad c).filter fun b => SameActiveKeys a b := by
  have hsort : out = (ofContracts contracts).active ↔
      StableOrder compareActive (contracts.filter fun c => OnSquad c) out := by
    rw [← members_active_eq]
    exact eq_mergeSort_iff
  have hsorted : (out.Pairwise fun a b => (compareActive a b).isLE) ↔ out.Pairwise ActiveOrder := by
    simp only [isLE_compareActive]
  rw [hsort, ← hsorted]
  constructor
  · intro h
    refine ⟨h.perm, h.sorted, ?_⟩
    intro a
    rw [← tied_compareActive, ← tied_compareActive, h.ties a]
  · rintro ⟨hperm, hpairwise, hties⟩
    refine ⟨hperm, hpairwise, ?_⟩
    intro a
    rw [tied_compareActive, tied_compareActive, hties a]

end LeagueRoster.Roster
