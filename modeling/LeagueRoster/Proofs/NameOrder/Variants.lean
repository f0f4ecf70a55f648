import LeagueRoster.Proofs.NameOrder.Equivalence
import LeagueRoster.Proofs.Roster.Order

/-!
Variants of a name in sorted lists. A list in increasing order of a key can be cut in front of any
key and behind it (`inBlocks_of_pairwise`), so the entries of each key stand side by side. Names
are compared by base letters first and by accents next, whatever case and code points say after
that, so a sorted list of names falls into blocks by base letters, and each of these into blocks by
accents. In the active group that holds of the names in each run of equal salary and year.
-/
namespace LeagueRoster.NameOrder

section Blocks

variable {α : Type} {key : α → List Char} {l : List α}

/-- For each key, the list consists of the entries with smaller keys, the entries with that key
and the entries with greater keys, in this order. -/
def InBlocks (key : α → List Char) (l : List α) : Prop :=
  ∀ k, l = l.filter (fun a => compare (key a) k = .lt) ++
    (l.filter (fun a => key a = k) ++ l.filter fun a => compare (key a) k = .gt)

/-- What holds of all entries in front of an entry that has it cuts the list in two. -/
theorem eq_filter_append {p : α → Bool} (h : l.Pairwise fun a b => p b → p a) :
    l = l.filter p ++ l.filter fun a => !p a := by
  induction l with
  | nil => rfl
  | cons a l ih =>
    obtain ⟨hfirst, hrest⟩ := List.pairwise_cons.mp h
    cases ha : p a with
    | true =>
      rw [List.filter_cons_of_pos ha, List.filter_cons_of_neg (by simp [ha]), List.cons_append,
        ← ih hrest]
    | false =>
      have hnone : ∀ b ∈ a :: l, ¬p b := by
        rw [List.forall_mem_cons]
        refine ⟨by simp [ha], fun b hb hp => ?_⟩
        rw [hfirst b hb hp] at ha
        exact Bool.noConfusion ha
      rw [List.filter_eq_nil_iff.mpr hnone, List.nil_append, List.filter_eq_self.mpr]
      intro b hb
      simp [hnone b hb]

/-- The cuts are in front of the key and behind it. -/
theorem inBlocks_of_pairwise (h : l.Pairwise fun a b => (compare (key a) (key b)).isLE) :
    InBlocks key l := by
  intro k
  have hbefore : l.Pairwise fun a b =>
      decide (compare (key b) k = .lt) → decide (compare (key a) k = .lt) := by
    refine h.imp fun {a b} hab hb => ?_
    rw [decide_eq_true_eq] at hb ⊢
    exact Std.TransCmp.lt_of_isLE_of_lt hab hb
  have hbehind : (l.filter fun a => !decide (compare (key a) k = .lt)).Pairwise fun a b =>
      decide (key b = k) → decide (key a = k) := by
    refine (h.filter _).imp_of_mem fun {a b} ha _ hab hb => ?_
    rw [decide_eq_true_eq] at hb ⊢
    rw [hb, Ordering.isLE_iff_eq_lt_or_eq_eq] at hab
    have hnot : compare (key a) k ≠ .lt := by simpa using (List.mem_filter.mp ha).2
    exact Std.LawfulEqOrd.eq_of_compare (hab.resolve_left hnot)
  have hrest : (l.filter fun a => !decide (compare (key a) k = .lt)) =
      l.filter (fun a => key a = k) ++ l.filter fun a => compare (key a) k = .gt := by
    rw [eq_filter_append hbehind, List.filter_filter, List.filter_filter]
    have hkey : ∀ a, key a = k ↔ compare (key a) k = .eq :=
      fun a => Std.LawfulEqCmp.compare_eq_iff_eq.symm
    simp only [hkey]
    congr 1
    · apply List.filter_congr
      intro a _
      cases compare (key a) k <;> rfl
    · apply List.filter_congr
      intro a _
      cases compare (key a) k <;> rfl
  rw [← hrest]
  exact eq_filter_append hbefore

end Blocks

/-- The names of equal base letters stand side by side, in the order of the base letters, and among
them the names of equal accents. -/
structure VariantsTogether (names : List String) : Prop where
  base : InBlocks baseKey names
  accents : ∀ k, InBlocks accentKey (names.filter fun name => baseKey name = k)

theorem isLE_baseKey {a b : String} (h : (compareNames a b).isLE) :
    (compare (baseKey a) (baseKey b)).isLE :=
  Ordering.isLE_left_of_isLE_then h

theorem isLE_accentKey {a b : String} (hbase : baseKey a = baseKey b)
    (h : (compareNames a b).isLE) : (compare (accentKey a) (accentKey b)).isLE := by
  have hself : compare (baseKey b) (baseKey b) = .eq := Std.ReflOrd.compare_self
  rw [compareNames, hbase, hself, Ordering.eq_then] at h
  exact Ordering.isLE_left_of_isLE_then h

theorem variantsTogether_of_pairwise {names : List String}
    (h : names.Pairwise fun a b => (compareNames a b).isLE) : VariantsTogether names := by
  constructor
  case base => exact inBlocks_of_pairwise (h.imp isLE_baseKey)
  case accents =>
    intro k
    apply inBlocks_of_pairwise
    refine (h.filter _).imp_of_mem fun {a b} ha hb hab => isLE_accentKey ?_ hab
    have hka : baseKey a = k := by simpa using (List.mem_filter.mp ha).2
    have hkb : baseKey b = k := by simpa using (List.mem_filter.mp hb).2
    rw [hka, hkb]

theorem pairwise_sortNames (names : List String) :
    (sortNames names).Pairwise fun a b => (compareNames a b).isLE :=
  StableSort.pairwise_mergeSort names

/-- Where salary and year tie, names decide the order of the active group. -/
theorem isLE_displayName {a b : Contract} (hsalary : a.salary = b.salary) (hyear : a.year = b.year)
    (h : (compareActive a b).isLE) : (compareNames a.displayName b.displayName).isLE := by
  rw [Roster.isLE_compareActive, Roster.ActiveOrder, hsalary, hyear] at h
  rw [Roster.displayName_eq_shownName, Roster.displayName_eq_shownName]
  simpa using h

theorem pairwise_displayName {contracts run : List Contract}
    (hrun : run <:+: (Roster.ofContracts contracts).active)
    (hkeys : ∀ a ∈ run, ∀ b ∈ run, a.salary = b.salary ∧ a.year = b.year) :
    (run.map Contract.displayName).Pairwise fun a b => (compareNames a b).isLE := by
  have hsorted : (Roster.ofContracts contracts).active.Pairwise
      fun a b => (compareActive a b).isLE := StableSort.pairwise_mergeSort _
  rw [List.pairwise_map]
  refine (hsorted.sublist hrun.sublist).imp_of_mem fun {a b} ha hb hab => ?_
  obtain ⟨hsalary, hyear⟩ := hkeys a ha b hb
  exact isLE_displayName hsalary hyear hab

/-- Spelling variants stay together in every list of names in order, so in particular in what
sorting makes of a list, and in every run of the active group with one salary and one year. -/
theorem variants_together :
    (∀ names : List String, (names.Pairwise fun a b => (compareNames a b).isLE) →
        VariantsTogether names) ∧
      (∀ names, VariantsTogether (sortNames names)) ∧
        ∀ contracts run : List Contract, run <:+: (Roster.ofContracts contracts).active →
          (∀ a ∈ run, ∀ b ∈ run, a.salary = b.salary ∧ a.year = b.year) →
          VariantsTogether (run.map Contract.displayName) := by
  refine ⟨fun names => variantsTogether_of_pairwise, ?_, ?_⟩
  · intro names
    exact variantsTogether_of_pairwise (pairwise_sortNames names)
  · intro contracts run hrun hkeys
    exact variantsTogether_of_pairwise (pairwise_displayName hrun hkeys)

/-- Three spellings of one name among others, as a sorted column and as the veterans of one
salary and year. -/
theorem variants_together_doncic :
    let names := ["Donatello", "doncic", "Doncic", "Dončić", "Dort"]
    let veteran (name : String) : Contract :=
      { id := 1, kind := .veteran, salary := 20, year := 1,
        player := .real { id := 1, name := name } }
    let active := (Roster.ofContracts (names.reverse.map veteran)).active
    VariantsTogether names ∧ VariantsTogether (active.map Contract.displayName) := by
  intro names veteran active
  have hsorted : names.Pairwise fun a b => (compareNames a b).isLE := by decide +kernel
  have hterms : ∀ a ∈ active, a.salary = 20 ∧ a.year = 1 := by
    intro a ha
    have hmem := (Roster.mem_group (g := .active).mp ha).1
    obtain ⟨name, -, rfl⟩ := List.mem_map.mp hmem
    exact ⟨rfl, rfl⟩
  have hkeys : ∀ a ∈ active, ∀ b ∈ active, a.salary = b.salary ∧ a.year = b.year := by
    intro a ha b hb
    rw [(hterms a ha).1, (hterms a ha).2, (hterms b hb).1, (hterms b hb).2]
    exact ⟨rfl, rfl⟩
  exact ⟨variants_together.1 names hsorted,
    variants_together.2.2 _ active (List.infix_refl active) hkeys⟩

end LeagueRoster.NameOrder
