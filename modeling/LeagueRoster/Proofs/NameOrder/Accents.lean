import LeagueRoster.Proofs.NameOrder
import LeagueRoster.Proofs.Text.LetterCase

/-!
Where accents put a name among names of the same base letters. The second level compares letters
and marks alike by code point, so at the first mark of a name its plain spelling shows the next
letter, and the greater of the two decides (`plain_first_iff`). Letters that lie below all marks,
as Latin ones do, let the plain spelling go first; letters that lie above, as Cyrillic ones do, let
it go last (`not_plain_first_semyon`).
-/
namespace LeagueRoster.NameOrder

open Text

/-- The first mark of a text and the first letter behind it, if there is one. -/
def firstMark : List Char → Option (Char × Option Char)
  | [] => none
  | c :: rest => if isMark c then some (c, rest.find? fun d => !isMark d) else firstMark rest

/-- What the plain spelling shows in the place of a mark compared with the mark. -/
def compareNext (next : Option Char) (mark : Char) : Ordering :=
  next.elim .lt fun letter => compare letter mark

/-- A letter that follows the first mark of the name lies below the mark. -/
def PlainFirst (name : String) : Prop :=
  ∀ mark letter, firstMark (nfd name.toList) = some (mark, some letter) → simpleLower letter < mark

theorem exists_firstMark {s : List Char} (h : ∃ c ∈ s, isMark c = true) :
    ∃ mark next, firstMark s = some (mark, next) := by
  induction s with
  | nil => simp at h
  | cons c rest ih =>
    by_cases hmark : isMark c = true
    · exact ⟨c, rest.find? fun d => !isMark d, if_pos hmark⟩
    · obtain ⟨d, hd, hdmark⟩ := h
      have hrest : d ∈ rest := by
        rcases List.mem_cons.mp hd with rfl | hd
        · exact absurd hdmark hmark
        · exact hd
      obtain ⟨mark, next, hfirst⟩ := ih ⟨d, hrest, hdmark⟩
      exact ⟨mark, next, (if_neg hmark).trans hfirst⟩

theorem isMark_of_firstMark {s : List Char} {mark : Char} {next : Option Char}
    (h : firstMark s = some (mark, next)) :
    isMark mark = true ∧ ∀ letter, next = some letter → letter ∈ s ∧ isMark letter = false := by
  induction s with
  | nil => simp [firstMark] at h
  | cons c rest ih =>
    by_cases hmark : isMark c = true
    · rw [firstMark, if_pos hmark, Option.some.injEq, Prod.mk.injEq] at h
      obtain ⟨rfl, hnext⟩ := h
      refine ⟨hmark, ?_⟩
      rintro letter rfl
      have hletter := List.find?_some hnext
      exact ⟨List.mem_cons_of_mem c (List.mem_of_find?_eq_some hnext), by simpa using hletter⟩
    · rw [firstMark, if_neg hmark] at h
      obtain ⟨hfirst, hnext⟩ := ih h
      refine ⟨hfirst, ?_⟩
      intro letter hletter
      exact ⟨List.mem_cons_of_mem c (hnext letter hletter).1, (hnext letter hletter).2⟩

theorem firstMark_map_simpleLower (s : List Char) :
    firstMark (s.map simpleLower) =
      (firstMark s).map fun m => (m.1, m.2.map simpleLower) := by
  induction s with
  | nil => rfl
  | cons c rest ih =>
    rw [List.map_cons, firstMark, firstMark, isMark_simpleLower]
    split
    · next hmark =>
      simp only [Option.map_some, simpleLower_of_isMark hmark, List.find?_map,
        Function.comp_def, isMark_simpleLower]
    · exact ih

theorem then_of_ne_eq {o o' : Ordering} (h : o ≠ .eq) : o.then o' = o := by
  cases o with
  | lt => rfl
  | eq => exact absurd rfl h
  | gt => rfl

/-- A letter and a mark never tie. -/
theorem compareNext_ne_eq {next : Option Char} {mark : Char} (hmark : isMark mark = true)
    (hnext : ∀ letter, next = some letter → isMark letter = false) :
    compareNext next mark ≠ .eq := by
  cases next with
  | none => exact Ordering.noConfusion
  | some letter =>
    intro heq
    have hsame : letter = mark := Std.LawfulEqOrd.eq_of_compare heq
    have hletter := hnext letter rfl
    rw [hsame, hmark] at hletter
    exact Bool.noConfusion hletter

/-- Without its marks a text compares with itself as the next letter does with the first mark. -/
theorem compare_filter_of_firstMark {s : List Char} {mark : Char} {next : Option Char}
    (h : firstMark s = some (mark, next)) :
    compare (s.filter fun c => !isMark c) s = compareNext next mark := by
  induction s with
  | nil => simp [firstMark] at h
  | cons c rest ih =>
    by_cases hmark : isMark c = true
    · obtain ⟨hfirst, hnext⟩ := isMark_of_firstMark h
      have hne : compareNext next mark ≠ .eq :=
        compareNext_ne_eq hfirst fun letter hletter => (hnext letter hletter).2
      rw [firstMark, if_pos hmark, Option.some.injEq, Prod.mk.injEq, ← List.head?_filter] at h
      obtain ⟨rfl, rfl⟩ := h
      rw [List.filter_cons_of_neg (by simp [hmark])]
      cases hletters : rest.filter fun d => !isMark d with
      | nil => rfl
      | cons letter letters =>
        rw [hletters] at hne
        rw [List.compare_cons_cons]
        exact then_of_ne_eq hne
    · rw [firstMark, if_neg hmark] at h
      have hself : compare c c = .eq := Std.ReflOrd.compare_self
      rw [List.filter_cons_of_pos (by simpa using hmark), List.compare_cons_cons, hself,
        Ordering.eq_then, ih h]

theorem baseKey_eq_filter (name : String) :
    baseKey name = (accentKey name).filter fun c => !isMark c := by
  have hmark : (fun c => !isMark c) ∘ simpleLower = fun c => !isMark c := by
    funext c
    rw [Function.comp_apply, isMark_simpleLower]
  have hlower : ∀ c ∈ (nfd name.toList).filter (fun c => !isMark c), lower c = [simpleLower c] :=
    fun c hc => lower_eq_singleton (ne_of_mem_nfd (List.mem_of_mem_filter hc))
  rw [accentKey_eq_map, List.filter_map, hmark, baseKey, List.flatMap_congr hlower,
    List.map_eq_flatMap]

theorem accentKey_eq_baseKey {name : String} (h : ∀ c ∈ nfd name.toList, isMark c = false) :
    accentKey name = baseKey name := by
  rw [baseKey_eq_filter, accentKey_eq_map]
  symm
  apply List.filter_eq_self.mpr
  intro c hc
  obtain ⟨d, hd, rfl⟩ := List.mem_map.mp hc
  rw [isMark_simpleLower, h d hd]
  rfl

/-- The first mark decides between a name and its plain spelling. -/
theorem compareNames_of_firstMark {a b : String} (hbase : baseKey a = baseKey b)
    (hplain : ∀ c ∈ nfd a.toList, isMark c = false) {mark : Char} {next : Option Char}
    (hfirst : firstMark (nfd b.toList) = some (mark, next)) :
    compareNames a b = compareNext (next.map simpleLower) mark := by
  obtain ⟨hmark, hnext⟩ := isMark_of_firstMark hfirst
  have haccent : firstMark (accentKey b) = some (mark, next.map simpleLower) := by
    rw [accentKey_eq_map, firstMark_map_simpleLower, hfirst, Option.map_some]
  have hlevel : compare (accentKey a) (accentKey b) = compareNext (next.map simpleLower) mark := by
    rw [accentKey_eq_baseKey hplain, hbase, baseKey_eq_filter, compare_filter_of_firstMark haccent]
  have hne : compareNext (next.map simpleLower) mark ≠ .eq := by
    apply compareNext_ne_eq hmark
    intro letter hletter
    obtain ⟨l, hl, rfl⟩ := Option.map_eq_some_iff.mp hletter
    rw [isMark_simpleLower]
    exact (hnext l hl).2
  have hself : compare (baseKey b) (baseKey b) = .eq := Std.ReflOrd.compare_self
  rw [compareNames, hbase, hself, Ordering.eq_then, hlevel, then_of_ne_eq hne]

theorem compare_eq_lt_iff (c d : Char) : compare c d = .lt ↔ c < d :=
  compareOfLessAndEq_eq_lt

theorem compareNext_eq_lt_iff {b : String} {mark : Char} {next : Option Char}
    (hfirst : firstMark (nfd b.toList) = some (mark, next)) :
    compareNext (next.map simpleLower) mark = .lt ↔ PlainFirst b := by
  unfold PlainFirst
  rw [hfirst]
  cases next with
  | none => simp [compareNext]
  | some letter =>
    rw [Option.map_some, compareNext, Option.elim_some, compare_eq_lt_iff]
    constructor
    · rintro h mark' letter' heq
      obtain ⟨rfl, hletter⟩ := Prod.mk.inj (Option.some.inj heq)
      rwa [← Option.some.inj hletter]
    · intro h
      exact h mark letter rfl

theorem le_toNat_of_isMark {c : Char} (h : isMark c = true) : 0x300 ≤ c.toNat := by
  have htable : ∀ range ∈ markRanges, 0x300 ≤ range.lo := by decide +kernel
  obtain ⟨range, hrange⟩ := Option.isSome_iff_exists.mp h
  obtain ⟨hmem, hlo, -⟩ := mem_of_find?_ofList hrange
  exact Nat.le_trans (htable range hmem) hlo

/-- Letters below all marks let the plain spelling go first. -/
theorem plainFirst_of_lt {name : String} (h : ∀ c ∈ baseKey name, c.toNat < 0x300) :
    PlainFirst name := by
  intro mark letter hfirst
  obtain ⟨hmark, hnext⟩ := isMark_of_firstMark hfirst
  obtain ⟨hmem, hletter⟩ := hnext letter rfl
  have hkey : simpleLower letter ∈ baseKey name := by
    rw [baseKey_eq_filter, accentKey_eq_map, List.mem_filter, isMark_simpleLower, hletter]
    exact ⟨List.mem_map_of_mem hmem, rfl⟩
  have hlow := h _ hkey
  have hhigh := le_toNat_of_isMark hmark
  show (simpleLower letter).val.toNat < mark.val.toNat
  exact Nat.lt_of_lt_of_le hlow hhigh

/-- Of two names with the same base letters, one without marks and one with marks, the plain one
comes first exactly if the letter behind the other's first mark lies below that mark, and otherwise
it comes last. It comes first wherever all letters lie below the marks. -/
theorem plain_first_iff {a b : String} (hbase : baseKey a = baseKey b)
    (hplain : ∀ c ∈ nfd a.toList, isMark c = false)
    (hmarked : ∃ c ∈ nfd b.toList, isMark c = true) :
    (compareNames a b = .lt ↔ PlainFirst b) ∧ (compareNames a b = .gt ↔ ¬PlainFirst b) ∧
      ((∀ c ∈ baseKey b, c.toNat < 0x300) → compareNames a b = .lt) := by
  obtain ⟨mark, next, hfirst⟩ := exists_firstMark hmarked
  have hlt : compareNames a b = .lt ↔ PlainFirst b := by
    rw [compareNames_of_firstMark hbase hplain hfirst]
    exact compareNext_eq_lt_iff hfirst
  have hne : compareNames a b ≠ .eq := by
    intro heq
    have hsame : a = b := Std.LawfulEqCmp.eq_of_compare heq
    obtain ⟨c, hc, hmark⟩ := hmarked
    rw [← hsame] at hc
    rw [hplain c hc] at hmark
    exact Bool.noConfusion hmark
  refine ⟨hlt, ?_, fun hletters => hlt.mpr (plainFirst_of_lt hletters)⟩
  rw [← hlt]
  cases hcompare : compareNames a b with
  | lt => simp
  | eq => exact absurd hcompare hne
  | gt => simp

/-- In Latin letters the plain spelling comes first, as a column of names should have it. -/
theorem plain_first_doncic :
    (compareNames "Doncic" "Dončić" = .lt ↔ PlainFirst "Dončić") ∧
      (compareNames "Doncic" "Dončić" = .gt ↔ ¬PlainFirst "Dončić") ∧
        compareNames "Doncic" "Dončić" = .lt := by
  have hbase : baseKey "Doncic" = baseKey "Dončić" := by decide +kernel
  have hplain : ((nfd "Doncic".toList).all fun c => isMark c = false) = true := by decide +kernel
  have hmark : '\u030C' ∈ nfd "Dončić".toList ∧ isMark '\u030C' = true := by decide +kernel
  have hletters : ((baseKey "Dončić").all fun c => c.toNat < 0x300) = true := by decide +kernel
  obtain ⟨hlt, hgt, hlow⟩ := plain_first_iff hbase
    (fun c hc => of_decide_eq_true (List.all_eq_true.mp hplain c hc)) ⟨'\u030C', hmark⟩
  exact ⟨hlt, hgt, hlow fun c hc => of_decide_eq_true (List.all_eq_true.mp hletters c hc)⟩

/-- In Cyrillic letters it comes last: what follows the mark is a letter greater than the mark. -/
theorem not_plain_first_semyon :
    ¬∀ a b : String, baseKey a = baseKey b → (∀ c ∈ nfd a.toList, isMark c = false) →
      (∃ c ∈ nfd b.toList, isMark c = true) → compareNames a b = .lt := by
  intro h
  have hbase : baseKey "Семен" = baseKey "Семён" := by decide +kernel
  have hplain : ((nfd "Семен".toList).all fun c => isMark c = false) = true := by decide +kernel
  have hmark : '\u0308' ∈ nfd "Семён".toList ∧ isMark '\u0308' = true := by decide +kernel
  have hlt := h "Семен" "Семён" hbase
    (fun c hc => of_decide_eq_true (List.all_eq_true.mp hplain c hc)) ⟨'\u0308', hmark⟩
  have hgt : compareNames "Семен" "Семён" = .gt := by decide +kernel
  rw [hgt] at hlt
  exact Ordering.noConfusion hlt

end LeagueRoster.NameOrder
