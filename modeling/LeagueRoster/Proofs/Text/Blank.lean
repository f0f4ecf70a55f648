import LeagueRoster.Text.LetterCase
import LeagueRoster.Text.Numeral
import Mathlib.Data.List.TakeWhile

/-!
Blanks around a text. What is left of a text that is trimmed stands in it amid blanks, and if there
are no blanks in a part that stands so, it is what is left (`amidBlanks_iff`). Digits and signs are
no blanks, and a blank is its own lowercase form.
-/
namespace LeagueRoster.Text

/-- A part with the property stands in the text, with nothing but blanks before and after it. -/
def AmidBlanks (P : List Char → Prop) (s : String) : Prop :=
  ∃ before part after, s.toList = before ++ part ++ after ∧ (∀ c ∈ before, isBlank c) ∧
    (∀ c ∈ after, isBlank c) ∧ P part

theorem dropWhile_isBlank {s : List Char} (h : ∀ c ∈ s, ¬isBlank c) : s.dropWhile isBlank = s := by
  cases s with
  | nil => rfl
  | cons c rest => exact List.dropWhile_cons_of_neg (h c List.mem_cons_self)

theorem trimChars_of_forall_not_isBlank {s : List Char} (h : ∀ c ∈ s, ¬isBlank c) :
    trimChars s = s := by
  have hreverse : ∀ c ∈ s.reverse, ¬isBlank c := by
    intro c hc
    exact h c (List.mem_reverse.mp hc)
  rw [trimChars, dropWhile_isBlank h, dropWhile_isBlank hreverse, List.reverse_reverse]

theorem trim_of_forall_not_isBlank {s : String} (h : ∀ c ∈ s.toList, ¬isBlank c) : trim s = s := by
  rw [trim, trimChars_of_forall_not_isBlank h, String.ofList_toList]

theorem trimChars_append_left {before s : List Char} (h : ∀ c ∈ before, isBlank c) :
    trimChars (before ++ s) = trimChars s := by
  rw [trimChars, List.dropWhile_append_of_pos h, trimChars]

theorem trimChars_append_right {s after : List Char} (hs : ∀ c ∈ s, ¬isBlank c)
    (hafter : ∀ c ∈ after, isBlank c) : trimChars (s ++ after) = s := by
  cases s with
  | nil =>
    have hnone : after.dropWhile isBlank = [] := List.dropWhile_eq_nil_iff.mpr hafter
    rw [List.nil_append, trimChars, hnone]
    rfl
  | cons c rest =>
    have hreverse : ∀ c ∈ after.reverse, isBlank c := by
      intro c hc
      exact hafter c (List.mem_reverse.mp hc)
    have hhead : ((c :: rest) ++ after).dropWhile isBlank = (c :: rest) ++ after :=
      List.dropWhile_cons_of_neg (hs c List.mem_cons_self)
    rw [trimChars, hhead, List.reverse_append, List.dropWhile_append_of_pos hreverse,
      dropWhile_isBlank fun d hd => hs d (List.mem_reverse.mp hd), List.reverse_reverse]

theorem exists_trimChars (s : List Char) :
    ∃ before after, s = before ++ trimChars s ++ after ∧ (∀ c ∈ before, isBlank c) ∧
      ∀ c ∈ after, isBlank c := by
  have hfront : s.takeWhile isBlank ++ s.dropWhile isBlank = s := List.takeWhile_append_dropWhile
  have hback : trimChars s ++ ((s.dropWhile isBlank).reverse.takeWhile isBlank).reverse =
      s.dropWhile isBlank := by
    rw [trimChars, ← List.reverse_append, List.takeWhile_append_dropWhile, List.reverse_reverse]
  refine ⟨s.takeWhile isBlank, ((s.dropWhile isBlank).reverse.takeWhile isBlank).reverse, ?_⟩
  refine ⟨?_, ?_, ?_⟩
  · rw [List.append_assoc, hback, hfront]
  · intro c hc
    exact List.mem_takeWhile_imp hc
  · intro c hc
    exact List.mem_takeWhile_imp (List.mem_reverse.mp hc)

/-- A part without blanks is what is left of a text that is trimmed exactly if it stands amid
blanks there. -/
theorem amidBlanks_iff {P : List Char → Prop} (hP : ∀ part, P part → ∀ c ∈ part, ¬isBlank c)
    {s : String} : AmidBlanks P s ↔ P (trimChars s.toList) := by
  constructor
  · rintro ⟨before, part, after, hs, hbefore, hafter, hpart⟩
    rw [hs, List.append_assoc, trimChars_append_left hbefore,
      trimChars_append_right (hP part hpart) hafter]
    exact hpart
  · intro h
    obtain ⟨before, after, hs, hbefore, hafter⟩ := exists_trimChars s.toList
    exact ⟨before, trimChars s.toList, after, hs, hbefore, hafter, h⟩

/-- Digits, signs and what stands between them in the character table are no blanks. -/
theorem not_isBlank_of_le {c : Char} (hlow : '+'.toNat ≤ c.toNat) (hhigh : c.toNat ≤ '9'.toNat) :
    ¬isBlank c := by
  intro hblank
  have hcodes : ∀ n ∈ blankCodes, n < '+'.toNat ∨ '9'.toNat < n := by decide
  have hout := hcodes c.toNat (List.contains_iff_mem.mp hblank)
  omega

theorem lower_of_isBlank {c : Char} (h : isBlank c) : lower c = [c] := by
  have hcodes : ∀ n ∈ blankCodes, lower (Char.ofNat n) = [Char.ofNat n] := by decide +kernel
  have hc := hcodes c.toNat (List.contains_iff_mem.mp h)
  rwa [Char.ofNat_toNat] at hc

end LeagueRoster.Text
