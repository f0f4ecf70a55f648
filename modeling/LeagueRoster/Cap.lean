import LeagueRoster.Contract
import LeagueRoster.Config

/-!
The salary cap of a team. Outside the keeper deadline each dropped contract takes a share of
its salary, rounded up, off the cap of the league. Sums of penalties stop at the largest number of
32 bits instead of wrapping around.
-/
namespace LeagueRoster

def saturate (n : Nat) : UInt32 := UInt32.ofNat (min n (UInt32.size - 1))

theorem toNat_saturate (n : Nat) : (saturate n).toNat = min n (UInt32.size - 1) :=
  UInt32.toNat_ofNat_of_lt' (by simp only [UInt32.size]; omega)

theorem toNat_saturate_of_lt {n : Nat} (h : n < UInt32.size) : (saturate n).toNat = n := by
  rw [toNat_saturate]
  omega

/-- Kinds that never count toward the cap cost nothing when they are dropped. -/
def dropPenalty (c : Contract) (percent : UInt32) : UInt32 :=
  if c.kind.countsTowardCap then
    UInt32.ofNat (((saturate (c.salary.toNat * percent.toNat)).toNat + 99) / 100)
  else 0

structure TeamCap where
  phase : SeasonPhase
  /-- The cap of the league for the phase. -/
  base : UInt32
  penalty : UInt32
  /-- What is left of the base, never below zero. -/
  effective : UInt32
  deriving Repr, DecidableEq

namespace TeamCap

def totalPenalty (dropped : List Contract) (percent : UInt32) : UInt32 :=
  dropped.foldl (fun sum c => saturate (sum.toNat + (dropPenalty c percent).toNat)) 0

def forPhase (phase : SeasonPhase) (caps : SalaryCaps) (dropped : List Contract) : TeamCap :=
  let base := caps.forPhase phase
  let penalty :=
    if phase.appliesDropPenalties then totalPenalty dropped caps.dropPenaltyPercent else 0
  ⟨phase, base, penalty, saturate (base.toNat - penalty.toNat)⟩

/-- The room left under the cap; negative for a team over it. -/
def space (cap : TeamCap) (used : UInt32) : Int := cap.effective.toNat - used.toNat

end TeamCap

end LeagueRoster
