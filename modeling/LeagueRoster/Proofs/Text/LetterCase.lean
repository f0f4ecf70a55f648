import LeagueRoster.Proofs.Text.Lowercase
import LeagueRoster.Text.Mark
import Mathlib.Data.List.Pairwise

/-!
What the lowercase form of a character and the property Uppercase say of it. Marks have no case:
a mark is its own lowercase form, and no letter has a mark for one (`isMark_simpleLower`). Of the
characters that decomposition leaves alone, two with the same lowercase form and the same property
are equal, but for five pairs of twins (`twin_eq_iff`).
-/
namespace LeagueRoster.Text

section Tables

variable {α : Type}

/-- No range of the tree meets the code points from `lo` to `hi`. -/
def RangeTree.misses : RangeTree α → Nat → Nat → Bool
  | leaf, _, _ => true
  | node l r t, lo, hi =>
    if hi < r.lo then l.misses lo hi
    else if r.lo ≤ lo ∧ r.hi < lo then t.misses lo hi
    else false

theorem RangeTree.find?_of_misses {t : RangeTree α} {lo hi n : Nat}
    (h : t.misses lo hi = true) (hlo : lo ≤ n) (hhi : n ≤ hi) : t.find? n = none := by
  induction t with
  | leaf => rfl
  | node left r right ihl ihr =>
    rw [misses] at h
    split at h
    · next hleft => rw [find?, if_pos (by omega), ihl h]
    · split at h
      · next hright => rw [find?, if_neg (by omega), if_pos (by omega), ihr h]
      · exact absurd h Bool.false_ne_true

/-- The lowercase form of the last letter of a run. -/
def lastImage (run : Range LowerRun) : Nat := run.value.image + (run.hi - run.lo)

/-- Letters that come behind another letter with the same lowercase form in the table. -/
def laterLetters : List Nat := [0x1C5, 0x1C8, 0x1CB, 0x1F2, 0x3F4, 0x2126, 0x212A, 0x212B]

/-- The lowercase forms of the run `s` lie apart from those of `r`, or the first of them is one of
`r` and no other is. -/
def Apart (r s : Range LowerRun) : Prop :=
  lastImage r < s.value.image ∨ lastImage s < r.value.image ∨
    s.lo ∈ laterLetters ∧ (s.hi = s.lo ∨ lastImage r = s.value.image)

instance (r s : Range LowerRun) : Decidable (Apart r s) :=
  inferInstanceAs (Decidable (_ ∨ _ ∨ _))

/-- A titlecase digraph has the lowercase form of the lowercase digraph and is not Uppercase either.
The theta symbol has that of the capital theta and both are Uppercase. -/
def twins : List (Char × Char) :=
  [('\u01C5', '\u01C6'), ('\u01C8', '\u01C9'), ('\u01CB', '\u01CC'), ('\u01F2', '\u01F3'),
    ('\u03F4', '\u0398')]

/-- The second of two twins stands for both. -/
def twin (c : Char) : Char := (twins.lookup c).getD c

/-- All that is read off the tables: runs of letters and their lowercase forms hold no marks, no
lowercase form is Uppercase, runs lie apart, and what a decomposition consists of is whole. -/
structure TablesAgree : Prop where
  valid : ∀ run ∈ lowercaseRuns,
    lastImage run < 0xD800 ∨ 0xDFFF < run.value.image ∧ lastImage run < 0x110000
  unmarked : ∀ run ∈ lowercaseRuns,
    markTree.misses run.lo run.hi ∧ markTree.misses run.value.image (lastImage run)
  apart : lowercaseRuns.Pairwise Apart
  cased : ∀ run ∈ lowercaseRuns, ∀ i < run.hi + 1 - run.lo, i % run.value.stride = 0 →
    isUpper (Char.ofNat (run.value.image + i)) = false ∧
      (isUpper (Char.ofNat (run.lo + i)) = true ∨
        twin (Char.ofNat (run.lo + i)) = Char.ofNat (run.value.image + i) ∨
          decompose (Char.ofNat (run.lo + i)) ≠ [Char.ofNat (run.lo + i)])
  paired : ∀ p ∈ twins, simpleLower p.2 = simpleLower p.1 ∧ isUpper p.2 = isUpper p.1 ∧
    simpleLower p.1 ≠ p.1 ∧ p.2.toNat ∉ laterLetters
  later : ∀ n ∈ laterLetters,
    decompose (Char.ofNat n) = [Char.ofNat n] → twin (Char.ofNat n) ≠ Char.ofNat n
  whole : ∀ run ∈ decompositions, ∀ image ∈ run.value, ∀ n ∈ image,
    decompose (Char.ofNat n) = [Char.ofNat n]
  jamo : decompositionTree.misses 0x1100 0x11FF

theorem tablesAgree : TablesAgree := by
  constructor <;> decide +kernel

end Tables

/-- The run of the table gives its letter number `i` a lowercase form. -/
structure Lowers (run : Range LowerRun) (i : Nat) (c : Char) : Prop where
  mem : run ∈ lowercaseRuns
  lt : i < run.hi + 1 - run.lo
  stride : i % run.value.stride = 0
  toNat_eq : c.toNat = run.lo + i
  lower_eq : simpleLower c = Char.ofNat (run.value.image + i)

theorem simpleLower_cases (c : Char) : simpleLower c = c ∨ ∃ run i, Lowers run i c := by
  unfold simpleLower
  split
  · exact Or.inl rfl
  · next run hrun =>
    obtain ⟨hmem, hlo, hhi⟩ := mem_of_find?_ofList hrun
    by_cases hstride : (c.toNat - run.lo) % run.value.stride = 0
    · have hlower : simpleLower c = Char.ofNat (run.value.image + (c.toNat - run.lo)) := by
        simp only [simpleLower, hrun, hstride, if_true]
      exact Or.inr ⟨run, c.toNat - run.lo,
        ⟨hmem, by omega, hstride, by omega, hlower⟩⟩
    · exact Or.inl (if_neg hstride)

theorem Lowers.eq_ofNat {run : Range LowerRun} {i : Nat} {c : Char} (h : Lowers run i c) :
    c = Char.ofNat (run.lo + i) := by
  rw [← h.toNat_eq, Char.ofNat_toNat]

section Marks

theorem Lowers.toNat_simpleLower {run : Range LowerRun} {i : Nat} {c : Char}
    (h : Lowers run i c) : (simpleLower c).toNat = run.value.image + i := by
  have hvalid : (run.value.image + i).isValidChar := by
    have hlast := tablesAgree.valid run h.mem
    have hlt := h.lt
    simp only [lastImage] at hlast
    unfold Nat.isValidChar
    omega
  rw [h.lower_eq, Char.ofNat, dif_pos hvalid]
  rfl

theorem Lowers.isMark_eq {run : Range LowerRun} {i : Nat} {c : Char} (h : Lowers run i c) :
    isMark c = false ∧ isMark (simpleLower c) = false := by
  obtain ⟨hletters, hforms⟩ := tablesAgree.unmarked run h.mem
  have hlt := h.lt
  constructor
  · rw [isMark, h.toNat_eq, RangeTree.find?_of_misses hletters (by omega) (by omega)]
    rfl
  · have hlast : run.value.image + i ≤ lastImage run := by
      simp only [lastImage]
      omega
    rw [isMark, h.toNat_simpleLower, RangeTree.find?_of_misses hforms (by omega) hlast]
    rfl

theorem isMark_simpleLower (c : Char) : isMark (simpleLower c) = isMark c := by
  rcases simpleLower_cases c with hself | ⟨run, i, h⟩
  · rw [hself]
  · rw [h.isMark_eq.1, h.isMark_eq.2]

theorem simpleLower_of_isMark {c : Char} (h : isMark c = true) : simpleLower c = c := by
  rcases simpleLower_cases c with hself | ⟨run, i, hlowers⟩
  · exact hself
  · rw [hlowers.isMark_eq.1] at h
    exact absurd h Bool.false_ne_true

end Marks

section Decomposed

/-- The letters of Hangul syllables stand in front of all syllables and not in the table. -/
theorem decompose_jamo {n : Nat} (hlo : 0x1100 ≤ n) (hhi : n ≤ 0x11FF) :
    decompose (Char.ofNat n) = [Char.ofNat n] := by
  have hvalid : n.isValidChar := Or.inl (by omega)
  have hn : (Char.ofNat n).toNat = n := by
    rw [Char.ofNat, dif_pos hvalid]
    rfl
  have hsyllable : ¬isHangulSyllable n = true := by
    simp only [isHangulSyllable, Bool.and_eq_true, decide_eq_true_eq]
    omega
  rw [decompose, hn, if_neg hsyllable,
    RangeTree.find?_of_misses tablesAgree.jamo hlo hhi]

theorem hangulParts_jamo {n : Nat} (h : isHangulSyllable n = true) :
    ∀ m ∈ hangulParts n, 0x1100 ≤ m ∧ m ≤ 0x11FF := by
  simp only [isHangulSyllable, Bool.and_eq_true, decide_eq_true_eq] at h
  intro m hm
  simp only [hangulParts] at hm
  split at hm
  · simp only [List.mem_cons, List.not_mem_nil, or_false] at hm
    omega
  · simp only [List.mem_append, List.mem_cons, List.not_mem_nil, or_false] at hm
    omega

/-- What a decomposition consists of is not taken apart again. -/
theorem decompose_of_mem_decompose {c d : Char} (h : d ∈ decompose c) : decompose d = [d] := by
  rcases decompose_cases c with hself | ⟨parts, hparts, horigin⟩
  · rw [hself, List.mem_singleton] at h
    rw [h, hself]
  · rw [hparts] at h
    obtain ⟨n, hn, rfl⟩ := List.mem_map.mp h
    rcases horigin with ⟨hangul, hhangul⟩ | ⟨run, hrun, hmem⟩
    · rw [hhangul] at hn
      obtain ⟨hlo, hhi⟩ := hangulParts_jamo hangul n hn
      exact decompose_jamo hlo hhi
    · exact tablesAgree.whole run hrun parts hmem n hn

theorem decompose_of_mem_nfd {s : List Char} {c : Char} (h : c ∈ nfd s) : decompose c = [c] := by
  obtain ⟨d, _, hd⟩ := List.mem_flatMap.mp ((perm_canonicalOrder _).mem_iff.mp h)
  exact decompose_of_mem_decompose hd

end Decomposed

section Twins

theorem Apart.mem_laterLetters {r s : Range LowerRun} {i j : Nat} {c d : Char} (h : Apart r s)
    (hc : Lowers r i c) (hd : Lowers s j d) (hlower : simpleLower c = simpleLower d) :
    d.toNat ∈ laterLetters := by
  have himage : r.value.image + i = s.value.image + j := by
    rw [← hc.toNat_simpleLower, ← hd.toNat_simpleLower, hlower]
  have hi := hc.lt
  have hj := hd.lt
  simp only [Apart, lastImage] at h
  have hfirst : s.lo ∈ laterLetters ∧ j = 0 := by
    rcases h with h | h | ⟨h, h' | h'⟩
    · omega
    · omega
    · exact ⟨h, by omega⟩
    · exact ⟨h, by omega⟩
  rw [hd.toNat_eq, hfirst.2]
  exact hfirst.1

/-- Of two letters with the same lowercase form one comes later in the table. -/
theorem eq_of_simpleLower_eq {c d : Char} (hc : simpleLower c ≠ c) (hd : simpleLower d ≠ d)
    (hlower : simpleLower c = simpleLower d) (hc' : c.toNat ∉ laterLetters)
    (hd' : d.toNat ∉ laterLetters) : c = d := by
  obtain ⟨r, i, hr⟩ := (simpleLower_cases c).resolve_left hc
  obtain ⟨s, j, hs⟩ := (simpleLower_cases d).resolve_left hd
  by_cases hrun : r = s
  · subst hrun
    have himage : r.value.image + i = r.value.image + j := by
      rw [← hr.toNat_simpleLower, ← hs.toNat_simpleLower, hlower]
    rw [← Char.toNat_inj, hr.toNat_eq, hs.toNat_eq]
    omega
  · let either (r s : Range LowerRun) : Prop := Apart r s ∨ Apart s r
    have : Std.Symm either := ⟨fun _ _ h => h.symm⟩
    have hpairwise : lowercaseRuns.Pairwise either := tablesAgree.apart.imp Or.inl
    rcases hpairwise.forall hr.mem hs.mem hrun with h | h
    · exact absurd (h.mem_laterLetters hr hs hlower) hd'
    · exact absurd (h.mem_laterLetters hs hr hlower.symm) hc'

theorem twin_cases (c : Char) : twin c = c ∨ (c, twin c) ∈ twins := by
  unfold twin
  cases h : twins.lookup c with
  | none => exact Or.inl rfl
  | some d =>
    obtain ⟨l₁, l₂, hsplit, -⟩ := List.lookup_eq_some_iff.mp h
    rw [hsplit]
    exact Or.inr (by simp)

theorem simpleLower_twin (c : Char) : simpleLower (twin c) = simpleLower c := by
  rcases twin_cases c with h | h
  · rw [h]
  · exact (tablesAgree.paired _ h).1

theorem isUpper_twin (c : Char) : isUpper (twin c) = isUpper c := by
  rcases twin_cases c with h | h
  · rw [h]
  · exact (tablesAgree.paired _ h).2.1

/-- No lowercase form is Uppercase, and each letter that has one is Uppercase, or the first of two
twins, or taken apart by decomposition. -/
theorem Lowers.isUpper_eq {run : Range LowerRun} {i : Nat} {c : Char} (h : Lowers run i c) :
    isUpper (simpleLower c) = false ∧
      (isUpper c = true ∨ twin c = simpleLower c ∨ decompose c ≠ [c]) := by
  have hcased := tablesAgree.cased run h.mem i h.lt h.stride
  rwa [← h.eq_ofNat, ← h.lower_eq] at hcased

theorem isUpper_simpleLower {c : Char} (h : simpleLower c ≠ c) :
    isUpper (simpleLower c) = false := by
  obtain ⟨run, i, hrun⟩ := (simpleLower_cases c).resolve_left h
  exact hrun.isUpper_eq.1

theorem twin_of_not_isUpper {c : Char} (hc : decompose c = [c]) (h : isUpper c = false) :
    twin c = simpleLower c := by
  rcases simpleLower_cases c with hself | ⟨run, i, hrun⟩
  · rcases twin_cases c with htwin | htwin
    · rw [htwin, hself]
    · exact absurd hself (tablesAgree.paired _ htwin).2.2.1
  · have hcapital := hrun.isUpper_eq.2
    rw [h] at hcapital
    exact (hcapital.resolve_left Bool.false_ne_true).resolve_right (not_not_intro hc)

theorem toNat_twin_not_mem {c : Char} (hc : decompose c = [c]) :
    (twin c).toNat ∉ laterLetters := by
  rcases twin_cases c with htwin | htwin
  · rw [htwin]
    intro hlater
    have hne := tablesAgree.later c.toNat hlater
    rw [Char.ofNat_toNat] at hne
    exact hne hc htwin
  · exact (tablesAgree.paired _ htwin).2.2.2

/-- Lowercase forms are not Uppercase, so an Uppercase character that shares one has it too. -/
theorem simpleLower_ne_of_isUpper {c d : Char} (hd : simpleLower d ≠ d)
    (hlower : simpleLower c = simpleLower d) (hc : isUpper c = true) : simpleLower c ≠ c := by
  intro hself
  have hsmall : isUpper (simpleLower d) = false := isUpper_simpleLower hd
  rw [← hlower, hself, hc] at hsmall
  exact Bool.false_ne_true hsmall.symm

theorem twin_eq_of_isUpper {c d : Char} (hc : decompose c = [c]) (hd : decompose d = [d])
    (hlower : simpleLower c = simpleLower d) (hcupper : isUpper c = true)
    (hdupper : isUpper d = true) : twin c = twin d := by
  by_cases hcself : simpleLower c = c
  · by_cases hdself : simpleLower d = d
    · rw [← hcself, hlower, hdself]
    · exact absurd hcself (simpleLower_ne_of_isUpper hdself hlower hcupper)
  · have hdmoves : simpleLower d ≠ d := simpleLower_ne_of_isUpper hcself hlower.symm hdupper
    have htwin : ∀ e, isUpper e = true → simpleLower e ≠ e → simpleLower (twin e) ≠ twin e := by
      intro e he hmoves
      exact simpleLower_ne_of_isUpper hmoves (simpleLower_twin e) ((isUpper_twin e).trans he)
    apply eq_of_simpleLower_eq (htwin c hcupper hcself) (htwin d hdupper hdmoves)
    · rw [simpleLower_twin, simpleLower_twin, hlower]
    · exact toNat_twin_not_mem hc
    · exact toNat_twin_not_mem hd

/-- Among the characters that decomposition leaves alone only twins share lowercase form and
property. -/
theorem twin_eq_iff {c d : Char} (hc : decompose c = [c]) (hd : decompose d = [d]) :
    twin c = twin d ↔ simpleLower c = simpleLower d ∧ isUpper c = isUpper d := by
  constructor
  · intro h
    rw [← simpleLower_twin c, ← simpleLower_twin d, ← isUpper_twin c, ← isUpper_twin d, h]
    exact ⟨rfl, rfl⟩
  · rintro ⟨hlower, hupper⟩
    cases hcupper : isUpper c with
    | false =>
      rw [twin_of_not_isUpper hc hcupper, twin_of_not_isUpper hd (hupper ▸ hcupper), hlower]
    | true => exact twin_eq_of_isUpper hc hd hlower hcupper (hupper ▸ hcupper)

end Twins

end LeagueRoster.Text
