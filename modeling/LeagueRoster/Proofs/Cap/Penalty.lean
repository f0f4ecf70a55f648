import LeagueRoster.Cap
import LeagueRoster.Proofs.Roster.Salary

/-!
The penalties of dropped contracts. A penalty share of at most one hundred never costs more
than the dropped salary (`toNat_dropPenalty_le`), and a total that stops at the largest number
of 32 bits is the sum of the penalties cut there (`toNat_totalPenalty`), so the order of the
dropped contracts does not matter. One more dropped contract lowers the effective cap by its
salary at most (`effective_le_effective_drop`).
-/
namespace LeagueRoster

/-- The share of a salary that is charged, rounded up, as a number without bound. -/
theorem toNat_dropPenalty (c : Contract) {percent : UInt32} (h : percent.toNat ≤ 100) :
    (dropPenalty c percent).toNat =
      if c.kind.countsTowardCap then (c.salary.toNat * percent.toNat + 99) / 100 else 0 := by
  have hsalary : c.salary.toNat < 65536 := c.salary.toNat_lt
  have hproduct : c.salary.toNat * percent.toNat ≤ c.salary.toNat * 100 :=
    Nat.mul_le_mul_left _ h
  have hexact : (saturate (c.salary.toNat * percent.toNat)).toNat =
      c.salary.toNat * percent.toNat := by
    apply toNat_saturate_of_lt
    simp only [UInt32.size]
    omega
  unfold dropPenalty
  split
  · rw [hexact]
    apply UInt32.toNat_ofNat_of_lt'
    simp only [UInt32.size]
    omega
  · rfl

theorem toNat_dropPenalty_le (c : Contract) {percent : UInt32} (h : percent.toNat ≤ 100) :
    (dropPenalty c percent).toNat ≤ c.salary.toNat := by
  have hproduct : c.salary.toNat * percent.toNat ≤ c.salary.toNat * 100 :=
    Nat.mul_le_mul_left _ h
  rw [toNat_dropPenalty c h]
  split
  · omega
  · exact Nat.zero_le _

namespace TeamCap

/-- The penalties of dropped contracts, added up without a bound. -/
def penaltySum (dropped : List Contract) (percent : UInt32) : Nat :=
  (dropped.map fun c => (dropPenalty c percent).toNat).sum

theorem penaltySum_cons (c : Contract) (rest : List Contract) (percent : UInt32) :
    penaltySum (c :: rest) percent =
      (dropPenalty c percent).toNat + penaltySum rest percent := by
  simp only [penaltySum, List.map_cons, List.sum_cons]

theorem penaltySum_perm {dropped dropped' : List Contract} (h : dropped.Perm dropped')
    (percent : UInt32) : penaltySum dropped percent = penaltySum dropped' percent :=
  (h.map _).sum_nat

/-- Once the total has reached the bound it stays there, so it may as well be cut at the end. -/
theorem toNat_foldl_penalty (dropped : List Contract) (percent sum : UInt32) :
    (dropped.foldl (fun sum c => saturate (sum.toNat + (dropPenalty c percent).toNat)) sum).toNat =
      min (sum.toNat + penaltySum dropped percent) (UInt32.size - 1) := by
  induction dropped generalizing sum with
  | nil =>
    have hsum : sum.toNat < UInt32.size := sum.toNat_lt
    simp only [List.foldl_nil, penaltySum, List.map_nil, List.sum_nil]
    omega
  | cons c rest ih =>
    rw [List.foldl_cons, ih, toNat_saturate, penaltySum_cons]
    omega

theorem toNat_totalPenalty (dropped : List Contract) (percent : UInt32) :
    (totalPenalty dropped percent).toNat = min (penaltySum dropped percent) (UInt32.size - 1) := by
  rw [totalPenalty, toNat_foldl_penalty, UInt32.toNat_zero, Nat.zero_add]

/-- Of the dropped contracts only the sum of their penalties matters. -/
theorem forPhase_of_penaltySum_eq {dropped dropped' : List Contract} {caps : SalaryCaps}
    (h : penaltySum dropped caps.dropPenaltyPercent = penaltySum dropped' caps.dropPenaltyPercent)
    (phase : SeasonPhase) : forPhase phase caps dropped = forPhase phase caps dropped' := by
  have hpenalty : totalPenalty dropped caps.dropPenaltyPercent =
      totalPenalty dropped' caps.dropPenaltyPercent := by
    apply UInt32.toNat_inj.mp
    rw [toNat_totalPenalty, toNat_totalPenalty, h]
  simp only [forPhase, hpenalty]

theorem forPhase_perm {dropped dropped' : List Contract} (h : dropped.Perm dropped')
    (phase : SeasonPhase) (caps : SalaryCaps) :
    forPhase phase caps dropped = forPhase phase caps dropped' :=
  forPhase_of_penaltySum_eq (penaltySum_perm h _) phase

theorem toNat_effective (phase : SeasonPhase) (caps : SalaryCaps) (dropped : List Contract) :
    (forPhase phase caps dropped).effective.toNat =
      (caps.forPhase phase).toNat - (forPhase phase caps dropped).penalty.toNat := by
  have hbase : (caps.forPhase phase).toNat < UInt32.size := (caps.forPhase phase).toNat_lt
  apply toNat_saturate_of_lt
  omega

theorem penalty_drop_le (phase : SeasonPhase) {caps : SalaryCaps}
    (hpercent : caps.dropPenaltyPercent.toNat ≤ 100) (earlier later : List Contract)
    (c : Contract) :
    (forPhase phase caps (earlier ++ c :: later)).penalty.toNat ≤
      (forPhase phase caps (earlier ++ later)).penalty.toNat + c.salary.toNat := by
  simp only [forPhase]
  split
  · have hc := toNat_dropPenalty_le c hpercent
    rw [toNat_totalPenalty, toNat_totalPenalty, penaltySum_perm List.perm_middle, penaltySum_cons]
    omega
  · exact Nat.le_add_right _ _

theorem effective_le_effective_drop (phase : SeasonPhase) {caps : SalaryCaps}
    (hpercent : caps.dropPenaltyPercent.toNat ≤ 100) (earlier later : List Contract)
    (c : Contract) :
    (forPhase phase caps (earlier ++ later)).effective.toNat ≤
      (forPhase phase caps (earlier ++ c :: later)).effective.toNat + c.salary.toNat := by
  have hpenalty := penalty_drop_le phase hpercent earlier later c
  rw [toNat_effective, toNat_effective]
  omega

end TeamCap

end LeagueRoster
