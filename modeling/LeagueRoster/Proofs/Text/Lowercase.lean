import LeagueRoster.Text.Canonical
import LeagueRoster.Text.LetterCase
import Mathlib.Data.List.Basic

/-!
Lowercase forms in decomposed text. One character alone, U+0130, has a lowercase form of two
characters. No decomposition contains it, so a decomposed text is lowered character by
character and keeps its length.
-/
namespace LeagueRoster.Text

theorem lower_eq_singleton {c : Char} (h : c.toNat ≠ 0x130) : lower c = [simpleLower c] := by
  simp only [lower, h, if_false]

theorem toNat_ofNat_ne {n : Nat} (h : n ≠ 0x130) : (Char.ofNat n).toNat ≠ 0x130 := by
  by_cases hvalid : n.isValidChar
  · rw [Char.ofNat, dif_pos hvalid]
    exact h
  · rw [Char.ofNat, dif_neg hvalid]
    decide

theorem decompositions_ne :
    ∀ run ∈ decompositions, ∀ image ∈ run.value, ∀ n ∈ image, n ≠ 0x130 := by
  decide +kernel

theorem hangulParts_ne (n : Nat) : ∀ m ∈ hangulParts n, m ≠ 0x130 := by
  intro m hm
  simp only [hangulParts] at hm
  split at hm
  · simp only [List.mem_cons, List.not_mem_nil, or_false] at hm
    omega
  · simp only [List.mem_append, List.mem_cons, List.not_mem_nil, or_false] at hm
    omega

theorem decompose_U0130 : decompose (Char.ofNat 0x130) = [Char.ofNat 0x49, Char.ofNat 0x307] := by
  decide +kernel

/-- What a search in the tree of a table finds is a range of the table. -/
theorem mem_of_find?_ofList {α : Type} {rs : List (Range α)} {n : Nat} {r : Range α}
    (h : (RangeTree.ofList rs).find? n = some r) : r ∈ rs ∧ r.lo ≤ n ∧ n ≤ r.hi := by
  obtain ⟨hmem, hbounds⟩ := RangeTree.mem_of_find? h
  refine ⟨?_, hbounds⟩
  rw [← RangeTree.toList_grow 9 rs]
  exact List.mem_append_left _ hmem

/-- A character is left alone, or taken apart by arithmetic, or as the table says. -/
theorem decompose_cases (c : Char) :
    decompose c = [c] ∨ ∃ parts, decompose c = parts.map Char.ofNat ∧
      (isHangulSyllable c.toNat = true ∧ parts = hangulParts c.toNat ∨
        ∃ run ∈ decompositions, parts ∈ run.value) := by
  by_cases hangul : isHangulSyllable c.toNat = true
  · refine Or.inr ⟨hangulParts c.toNat, ?_, Or.inl ⟨hangul, rfl⟩⟩
    rw [decompose, if_pos hangul]
  · simp only [decompose, if_neg hangul]
    split
    · exact Or.inl rfl
    · next run hrun =>
      split
      · exact Or.inl rfl
      · next parts hparts =>
        exact Or.inr ⟨parts, rfl, Or.inr ⟨run, (mem_of_find?_ofList hrun).1,
          List.mem_of_getElem? hparts⟩⟩

/-- Decomposition takes U+0130 apart and never brings it in. -/
theorem ne_of_mem_decompose {c d : Char} (h : d ∈ decompose c) : d.toNat ≠ 0x130 := by
  by_cases hc : c.toNat = 0x130
  · have hc' : c = Char.ofNat 0x130 := by rw [← hc, Char.ofNat_toNat]
    rw [hc', decompose_U0130] at h
    simp only [List.mem_cons, List.not_mem_nil, or_false] at h
    rcases h with rfl | rfl <;> decide
  · rcases decompose_cases c with hself | ⟨parts, hparts, horigin⟩
    · rw [hself, List.mem_singleton] at h
      rwa [h]
    · rw [hparts] at h
      obtain ⟨n, hn, rfl⟩ := List.mem_map.mp h
      apply toNat_ofNat_ne
      rcases horigin with ⟨-, hhangul⟩ | ⟨run, hrun, hmem⟩
      · rw [hhangul] at hn
        exact hangulParts_ne _ n hn
      · exact decompositions_ne run hrun parts hmem n hn

theorem ne_of_mem_nfd {s : List Char} {c : Char} (h : c ∈ nfd s) : c.toNat ≠ 0x130 := by
  obtain ⟨d, _, hd⟩ := List.mem_flatMap.mp ((perm_canonicalOrder _).mem_iff.mp h)
  exact ne_of_mem_decompose hd

theorem flatMap_lower_nfd (s : List Char) : (nfd s).flatMap lower = (nfd s).map simpleLower := by
  calc
    (nfd s).flatMap lower = (nfd s).flatMap fun c => [simpleLower c] :=
      List.flatMap_congr fun c hc => lower_eq_singleton (ne_of_mem_nfd hc)
    _ = (nfd s).map simpleLower := List.map_eq_flatMap.symm

end LeagueRoster.Text
