import LeagueRoster.Roster
import Mathlib.Algebra.GroupWithZero.Nat

/-!
Salaries of a list of contracts. The sum that is charged to the cap has 32 bits and wraps; it
is the exact sum as long as that fits. A salary has 16 bits, so many contracts fit.
-/
namespace LeagueRoster

/-- The sum of the salaries, as a number without bound. -/
def totalSalary (contracts : List Contract) : Nat :=
  (contracts.map fun c => c.salary.toNat).sum

theorem totalSalary_cons (c : Contract) (rest : List Contract) :
    totalSalary (c :: rest) = c.salary.toNat + totalSalary rest := by
  simp only [totalSalary, List.map_cons, List.sum_cons]

theorem totalSalary_append (l₁ l₂ : List Contract) :
    totalSalary (l₁ ++ l₂) = totalSalary l₁ + totalSalary l₂ := by
  simp only [totalSalary, List.map_append, List.sum_append]

theorem totalSalary_perm {l₁ l₂ : List Contract} (h : l₁.Perm l₂) :
    totalSalary l₁ = totalSalary l₂ :=
  (h.map _).sum_nat

theorem totalSalary_sublist {l₁ l₂ : List Contract} (h : l₁.Sublist l₂) :
    totalSalary l₁ ≤ totalSalary l₂ := by
  induction h with
  | slnil => exact Nat.le_refl _
  | cons c _ ih =>
    rw [totalSalary_cons]
    omega
  | cons_cons c _ ih =>
    rw [totalSalary_cons, totalSalary_cons]
    omega

/-- Adding a salary wraps as the sum does, so the order of wrapping does not matter. -/
theorem toNat_foldl_salary (contracts : List Contract) (sum : UInt32) :
    (contracts.foldl (fun sum c => sum + c.salary.toUInt32) sum).toNat =
      (sum.toNat + totalSalary contracts) % UInt32.size := by
  induction contracts generalizing sum with
  | nil =>
    have hsum : sum.toNat < UInt32.size := sum.toNat_lt
    simp only [List.foldl_nil, totalSalary, List.map_nil, List.sum_nil, Nat.add_zero,
      Nat.mod_eq_of_lt hsum]
  | cons c rest ih =>
    rw [List.foldl_cons, ih, UInt32.toNat_add, UInt16.toNat_toUInt32, totalSalary_cons,
      Nat.mod_add_mod, Nat.add_assoc]

theorem toNat_salaryUsed (contracts : List Contract) :
    (salaryUsed contracts).toNat = totalSalary contracts % UInt32.size := by
  rw [salaryUsed, toNat_foldl_salary, UInt32.toNat_zero, Nat.zero_add]

theorem salaryUsed_perm {contracts contracts' : List Contract} (h : contracts.Perm contracts') :
    salaryUsed contracts = salaryUsed contracts' := by
  apply UInt32.toNat_inj.mp
  rw [toNat_salaryUsed, toNat_salaryUsed, totalSalary_perm h]

theorem toNat_salaryUsed_of_lt {contracts : List Contract}
    (h : totalSalary contracts < UInt32.size) :
    (salaryUsed contracts).toNat = totalSalary contracts := by
  rw [toNat_salaryUsed, Nat.mod_eq_of_lt h]

theorem totalSalary_le (contracts : List Contract) :
    totalSalary contracts ≤ contracts.length * 65535 := by
  induction contracts with
  | nil => exact Nat.zero_le _
  | cons c rest ih =>
    have hc : c.salary.toNat < 65536 := c.salary.toNat_lt
    rw [totalSalary_cons, List.length_cons]
    omega

theorem length_lt_of_length_le {contracts : List Contract} (h : contracts.length ≤ 65537) :
    contracts.length < UInt32.size := by
  simp only [UInt32.size]
  omega

/-- The largest number of 32 bits is `65537 * 65535`. -/
theorem totalSalary_lt_of_length_le {contracts : List Contract} (h : contracts.length ≤ 65537) :
    totalSalary contracts < UInt32.size := by
  have hle := totalSalary_le contracts
  simp only [UInt32.size]
  omega

end LeagueRoster
