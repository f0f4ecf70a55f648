import LeagueRoster.Proofs.Roster.Salary
import Mathlib.Data.List.Induction

/-!
How many salaries can be summed up in 32 bits. The sum goes through the contracts and adds one
salary at a time, and one of these additions overflows exactly if the salaries together do not fit
(`overflows_iff`). The largest number of 32 bits is 65537 times the largest salary, so the sum of so
many contracts is exact at every point (`salaryUsed_exact`), and that of one more need not be.
-/
namespace LeagueRoster

/-- The sum of some contracts and the salary of the next one together leave the 32 bits. -/
def Overflows (contracts : List Contract) : Prop :=
  ∃ front c, front ++ [c] <+: contracts ∧
    UInt32.size ≤ (salaryUsed front).toNat + c.salary.toNat

/-- The sum of the salaries is the exact one all the way, and does what a sum does. -/
structure SumsExactly (contracts : List Contract) : Prop where
  sum_eq : ∀ front, front <+: contracts → (salaryUsed front).toNat = totalSalary front
  fits : ¬Overflows contracts
  perm : ∀ contracts', contracts'.Perm contracts →
    salaryUsed contracts' = salaryUsed contracts ∧ ¬Overflows contracts'
  append : ∀ front back, contracts = front ++ back →
    (salaryUsed contracts).toNat = (salaryUsed front).toNat + (salaryUsed back).toNat

theorem salaryUsed_concat (contracts : List Contract) (c : Contract) :
    salaryUsed (contracts ++ [c]) = salaryUsed contracts + c.salary.toUInt32 :=
  List.foldl_append

theorem totalSalary_concat (contracts : List Contract) (c : Contract) :
    totalSalary (contracts ++ [c]) = totalSalary contracts + c.salary.toNat := by
  rw [totalSalary_append]
  rfl

theorem totalSalary_replicate (n : Nat) (c : Contract) :
    totalSalary (List.replicate n c) = n * c.salary.toNat := by
  rw [totalSalary, List.map_replicate, List.sum_replicate_nat]

/-- The first addition that overflows is the one with which the exact sum leaves the 32 bits. -/
theorem overflows_iff (contracts : List Contract) :
    Overflows contracts ↔ UInt32.size ≤ totalSalary contracts := by
  constructor
  · rintro ⟨front, c, hprefix, hover⟩
    have hfront : (salaryUsed front).toNat ≤ totalSalary front := by
      rw [toNat_salaryUsed]
      exact Nat.mod_le _ _
    have hall := totalSalary_sublist hprefix.sublist
    rw [totalSalary_concat] at hall
    omega
  · induction contracts using List.reverseRecOn with
    | nil =>
      intro h
      exact absurd h (by decide)
    | append_singleton contracts c ih =>
      intro h
      by_cases hfits : totalSalary contracts < UInt32.size
      · refine ⟨contracts, c, List.prefix_rfl, ?_⟩
        rwa [toNat_salaryUsed_of_lt hfits, ← totalSalary_concat]
      · obtain ⟨front, d, hprefix, hover⟩ := ih (Nat.le_of_not_lt hfits)
        exact ⟨front, d, hprefix.trans (List.prefix_append _ _), hover⟩

theorem sumsExactly_of_length_le {contracts : List Contract} (h : contracts.length ≤ 65537) :
    SumsExactly contracts where
  sum_eq front hfront :=
    toNat_salaryUsed_of_lt (totalSalary_lt_of_length_le (Nat.le_trans hfront.length_le h))
  fits := by
    rw [overflows_iff, Nat.not_le]
    exact totalSalary_lt_of_length_le h
  perm contracts' hperm := by
    refine ⟨salaryUsed_perm hperm, ?_⟩
    rw [overflows_iff, totalSalary_perm hperm, Nat.not_le]
    exact totalSalary_lt_of_length_le h
  append front back hsplit := by
    have hfits := totalSalary_lt_of_length_le h
    have hall := toNat_salaryUsed_of_lt hfits
    rw [hsplit, totalSalary_append] at hfits
    have hfront : (salaryUsed front).toNat = totalSalary front :=
      toNat_salaryUsed_of_lt (by omega)
    have hback : (salaryUsed back).toNat = totalSalary back := toNat_salaryUsed_of_lt (by omega)
    rw [hall, hfront, hback, hsplit, totalSalary_append]

/-- Salaries are added one at a time. The sum of at most 65537 of them is exact at every point, in
any order and in any two parts. For 65538 contracts with the largest salary an addition overflows,
and the sum is no longer exact. -/
theorem salaryUsed_exact :
    (∀ contracts c, salaryUsed (contracts ++ [c]) = salaryUsed contracts + c.salary.toUInt32) ∧
      (∀ contracts : List Contract, contracts.length ≤ 65537 → SumsExactly contracts) ∧
        ∃ contracts : List Contract, contracts.length = 65538 ∧ Overflows contracts ∧
          (salaryUsed contracts).toNat ≠ totalSalary contracts := by
  refine ⟨salaryUsed_concat, fun contracts => sumsExactly_of_length_le, ?_⟩
  let veteran : Contract :=
    { id := 1, kind := .veteran, salary := 65535, year := 1,
      player := .real { id := 1, name := "Player" } }
  have htotal : totalSalary (List.replicate 65538 veteran) = 65538 * 65535 :=
    totalSalary_replicate 65538 veteran
  refine ⟨List.replicate 65538 veteran, List.length_replicate, ?_, ?_⟩
  · rw [overflows_iff, htotal]
    decide
  · rw [toNat_salaryUsed, htotal]
    decide

/-- With the largest salary the 65537 contracts come to the largest number of 32 bits. -/
theorem salaryUsed_exact_at_bound :
    let veteran : Contract :=
      { id := 1, kind := .veteran, salary := 65535, year := 1,
        player := .real { id := 1, name := "Player" } }
    let contracts := List.replicate 65537 veteran
    contracts.length ≤ 65537 ∧ SumsExactly contracts ∧
      (salaryUsed contracts).toNat = UInt32.size - 1 := by
  intro veteran contracts
  have hlength : contracts.length ≤ 65537 := Nat.le_of_eq List.length_replicate
  have hsum : SumsExactly contracts := salaryUsed_exact.2.1 contracts hlength
  have hsalary : veteran.salary.toNat = 65535 := rfl
  refine ⟨hlength, hsum, ?_⟩
  rw [hsum.sum_eq contracts List.prefix_rfl, totalSalary_replicate, hsalary]
  rfl

end LeagueRoster
