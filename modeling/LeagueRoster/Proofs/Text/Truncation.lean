import LeagueRoster.Text.Display

/-!
Texts cut to a width. A column of three characters or more holds the ellipsis, so there a cut text
fills its column and every other text keeps its length (`length_truncate`). Of two cuts the narrower
one decides (`truncate_truncate`): the wider one leaves in place what the narrower one keeps, and
what it cuts off the narrower one cuts off as well.
-/
namespace LeagueRoster.Text

variable {s : String} {width : Nat}

theorem truncate_of_le (h : s.toList.length ≤ width) : truncate s width = s := if_pos h

theorem truncate_of_narrow (h : width < s.toList.length) (hnarrow : width < 3) :
    truncate s width = "..." := by
  rw [truncate, if_neg (Nat.not_le.mpr h), if_pos hnarrow]

theorem toList_truncate (h : width < s.toList.length) (hwide : 3 ≤ width) :
    (truncate s width).toList = s.toList.take (width - 3) ++ ['.', '.', '.'] := by
  rw [truncate, if_neg (Nat.not_le.mpr h), if_neg (Nat.not_lt.mpr hwide), String.toList_ofList]

theorem length_truncate (s : String) (hwide : 3 ≤ width) :
    (truncate s width).toList.length = min s.toList.length width := by
  by_cases h : s.toList.length ≤ width
  · rw [truncate_of_le h, Nat.min_eq_left h]
  · rw [toList_truncate (Nat.not_le.mp h) hwide, List.length_append, List.length_take]
    simp only [List.length_cons, List.length_nil]
    omega

/-- Cutting a text that has been cut before gives what cutting it once would have given. -/
theorem truncate_truncate (s : String) {n m : Nat} (h : n ≤ m) :
    truncate (truncate s m) n = truncate s n := by
  by_cases hm : s.toList.length ≤ m
  · rw [truncate_of_le hm]
  have hcut : m < s.toList.length := Nat.not_le.mp hm
  have hcut' : n < s.toList.length := Nat.lt_of_le_of_lt h hcut
  rcases Nat.lt_or_ge n 3 with hnarrow | hwide
  · -- The ellipsis is what is left here, and also what is left of it.
    rw [truncate_of_narrow hcut' hnarrow]
    apply truncate_of_narrow _ hnarrow
    rcases Nat.lt_or_ge m 3 with hm3 | hm3
    · rw [truncate_of_narrow hcut hm3]
      exact hnarrow
    · rw [length_truncate s hm3]
      omega
  · have hlength : (truncate s m).toList.length = m := by
      rw [length_truncate s (Nat.le_trans hwide h), Nat.min_eq_right (Nat.le_of_lt hcut)]
    rcases Nat.eq_or_lt_of_le h with rfl | hless
    · exact truncate_of_le (Nat.le_of_eq hlength)
    · apply String.toList_inj.mp
      rw [toList_truncate (by omega) hwide, toList_truncate hcut' hwide,
        toList_truncate hcut (Nat.le_trans hwide h), List.take_append_of_le_length _,
        List.take_take, Nat.min_eq_left (by omega)]
      rw [List.length_take]
      omega

theorem length_padRight (h : s.toList.length ≤ width) :
    (padRight width s).toList.length = width := by
  rw [padRight, String.toList_append, List.length_append, blanks, String.toList_ofList,
    List.length_replicate, Nat.add_sub_cancel' h]

end LeagueRoster.Text
