import LeagueRoster.Proofs.Cap.Penalty
import LeagueRoster.Proofs.Roster.Groups
import Mathlib.Algebra.Order.Floor.Semiring
import Mathlib.Data.Rat.Floor
import Mathlib.Tactic.NormNum

/-!
The cap against unbounded arithmetic. Shares are rounded up contract by contract, products and
sums stop at the largest number of 32 bits, and the subtraction stops at zero. Under a fair
share no product reaches the bound, and a sum that does is above every base, so the effective
cap is the exact one (`forPhase_exact`).
-/
namespace LeagueRoster

open Roster

/-- What dropped contracts cost a team in a phase, in exact arithmetic: for each contract of a
squad kind its share of the salary, rounded up. -/
def exactPenalty (phase : SeasonPhase) (percent : UInt32) (dropped : List Contract) : ℕ :=
  if phase = .keeper then 0
  else ((dropped.filter fun c => SquadKind c.kind).map fun c =>
    ⌈(c.salary.toNat * percent.toNat : ℚ) / 100⌉₊).sum

theorem natCeil_div_hundred (n : ℕ) : ⌈(n : ℚ) / 100⌉₊ = (n + 99) / 100 := by
  apply eq_of_forall_ge_iff
  intro k
  have hceil : ⌈(n : ℚ) / 100⌉₊ ≤ k ↔ n ≤ k * 100 := by
    rw [Nat.ceil_le, div_le_iff₀ (by norm_num)]
    norm_cast
  rw [hceil]
  omega

theorem toNat_dropPenalty_eq_ceil (c : Contract) {percent : UInt32} (h : percent.toNat ≤ 100) :
    (dropPenalty c percent).toNat =
      if SquadKind c.kind then ⌈(c.salary.toNat * percent.toNat : ℚ) / 100⌉₊ else 0 := by
  have hkind : c.kind.countsTowardCap ↔ SquadKind c.kind := isActiveOnTeam_iff c.kind
  rw [toNat_dropPenalty c h, ← natCeil_div_hundred, Nat.cast_mul]
  simp only [hkind]

namespace TeamCap

theorem penaltySum_eq_exact (dropped : List Contract) {percent : UInt32}
    (h : percent.toNat ≤ 100) :
    penaltySum dropped percent = ((dropped.filter fun c => SquadKind c.kind).map fun c =>
      ⌈(c.salary.toNat * percent.toNat : ℚ) / 100⌉₊).sum := by
  induction dropped with
  | nil => rfl
  | cons c rest ih =>
    rw [penaltySum_cons, ih, toNat_dropPenalty_eq_ceil c h]
    by_cases hkind : SquadKind c.kind
    · simp only [List.filter_cons, hkind, decide_true, if_true, List.map_cons, List.sum_cons]
    · simp only [List.filter_cons, hkind, decide_false, Bool.false_eq_true, if_false, Nat.zero_add]

theorem toNat_penalty (phase : SeasonPhase) {caps : SalaryCaps}
    (h : caps.dropPenaltyPercent.toNat ≤ 100) (dropped : List Contract) :
    (forPhase phase caps dropped).penalty.toNat =
      min (UInt32.size - 1) (exactPenalty phase caps.dropPenaltyPercent dropped) := by
  cases phase with
  | keeper => rfl
  | preseason | regularSeason | postSeason =>
    have hsum := toNat_totalPenalty dropped caps.dropPenaltyPercent
    rw [penaltySum_eq_exact dropped h, Nat.min_comm] at hsum
    exact hsum

/-- The penalty of a cap is the exact one, cut at the largest number of 32 bits, and the
effective cap is the base less the exact penalty, cut at zero: neither the bound on products
nor the bound on sums shows in it, for dropped lists of any length and in any order. -/
theorem forPhase_exact (phase : SeasonPhase) (caps : SalaryCaps) (dropped : List Contract)
    (hpercent : caps.dropPenaltyPercent ≤ 100) :
    let cap := forPhase phase caps dropped
    let owed := exactPenalty phase caps.dropPenaltyPercent dropped
    cap.base = caps.forPhase phase ∧
      cap.penalty.toNat = min (UInt32.size - 1) owed ∧
      (cap.effective.toNat : ℤ) = max 0 (cap.base.toNat - owed) ∧
      ∀ dropped' : List Contract, dropped'.Perm dropped → forPhase phase caps dropped' = cap := by
  intro cap owed
  have hpenalty : cap.penalty.toNat = min (UInt32.size - 1) owed :=
    toNat_penalty phase (UInt32.le_iff_toNat_le.mp hpercent) dropped
  have heffective : cap.effective.toNat = cap.base.toNat - cap.penalty.toNat :=
    toNat_effective phase caps dropped
  have hbase : cap.base.toNat < UInt32.size := cap.base.toNat_lt
  refine ⟨rfl, hpenalty, ?_, fun dropped' hperm => forPhase_perm hperm phase caps⟩
  -- A sum cut at the bound is still no less than the base, so the difference is zero either way.
  rw [heffective, hpenalty]
  omega

/-- Half of an odd salary is rounded up to `2 ^ 15`, so `2 ^ 17` such contracts cost `2 ^ 32`,
one more than the penalty can say. -/
theorem forPhase_exact_at_bound :
    let veteran : Contract :=
      { id := 1, kind := .veteran, salary := 65535, year := 3,
        player := .real { id := 1, name := "Player" } }
    let caps : SalaryCaps := { regularSeason := 4294967295, dropPenaltyPercent := 50 }
    let dropped := List.replicate (2 ^ 17) veteran
    let cap := forPhase .regularSeason caps dropped
    caps.dropPenaltyPercent ≤ 100 ∧
      exactPenalty .regularSeason caps.dropPenaltyPercent dropped = 2 ^ 32 ∧
      cap.penalty.toNat = 2 ^ 32 - 1 ∧ cap.effective.toNat = 0 := by
  intro veteran caps dropped cap
  have hpercent : caps.dropPenaltyPercent ≤ 100 := by decide
  have hshare : ⌈((65535 : ℕ) * (50 : ℕ) : ℚ) / 100⌉₊ = 2 ^ 15 := by
    rw [← Nat.cast_mul, natCeil_div_hundred]
    rfl
  have hexact : exactPenalty .regularSeason caps.dropPenaltyPercent dropped = 2 ^ 32 := by
    rw [exactPenalty, if_neg (by decide), List.filter_replicate_of_pos (by decide),
      List.map_replicate, List.sum_replicate]
    exact congrArg (2 ^ 17 • ·) hshare
  obtain ⟨hbase, hpenalty, heffective, -⟩ := forPhase_exact .regularSeason caps dropped hpercent
  have hcap : (caps.forPhase .regularSeason).toNat = 2 ^ 32 - 1 := by decide
  rw [hexact] at hpenalty heffective
  rw [hbase, hcap] at heffective
  have hroom : (cap.effective.toNat : ℤ) = max 0 (((2 ^ 32 - 1 : ℕ) : ℤ) - (2 ^ 32 : ℕ)) :=
    heffective
  refine ⟨hpercent, hexact, hpenalty, ?_⟩
  omega

end TeamCap

end LeagueRoster
