import LeagueRoster.Proofs.Json.Reading

/-!
The compact form of a value is one line (`newline_not_mem_compactChars`): whatever a text
holds, a line break in it is written as an escape, and digits, names and brackets are none.
-/
namespace LeagueRoster.Json

open Datum.JsonText

theorem newline_not_mem_escapeChar (c : Char) : '\n' ∉ escapeChar c := by
  have hdigit : ∀ d < 16, '\n' ≠ Nat.digitChar d := by decide
  have hhex : ∀ n, '\n' ≠ hexDigit n := fun n => hdigit (n % 16) (Nat.mod_lt n (by decide))
  unfold escapeChar
  iterate 7
    split
    · decide
  split
  · simp [hhex]
  · next hne _ _ _ => simpa using Ne.symm hne

theorem newline_not_mem_quoted (s : String) : '\n' ∉ quoted s := by
  have hbody : '\n' ∉ s.toList.flatMap escapeChar := by
    intro hmem
    obtain ⟨c, -, hc⟩ := List.mem_flatMap.mp hmem
    exact newline_not_mem_escapeChar c hc
  simp [quoted, hbody]

mutual

theorem newline_not_mem_compactChars : (j : Json) → '\n' ∉ j.compactChars
  | .null | .bool true | .bool false => by decide
  | .int n => Text.not_mem_decimalChars (by decide) n
  | .str s => newline_not_mem_quoted s
  | .arr items => by simp [compactChars, newline_not_mem_compactItems items]
  | .obj members => by simp [compactChars, newline_not_mem_compactMembers members]

theorem newline_not_mem_compactItems : (items : List Json) → '\n' ∉ compactItems items
  | [] => List.not_mem_nil
  | [j] => newline_not_mem_compactChars j
  | j :: j' :: rest => by
    simp [compactItems, newline_not_mem_compactChars j, newline_not_mem_compactItems (j' :: rest)]

theorem newline_not_mem_compactMembers :
    (members : List (String × Json)) → '\n' ∉ compactMembers members
  | [] => List.not_mem_nil
  | [(k, j)] => by
    simp [compactMembers, newline_not_mem_quoted k, newline_not_mem_compactChars j]
  | (k, j) :: m :: rest => by
    simp [compactMembers, newline_not_mem_quoted k, newline_not_mem_compactChars j,
      newline_not_mem_compactMembers (m :: rest)]

end

theorem compact_ne_empty (j : Json) : j.compact ≠ "" := by
  have hvalue : IsValue 127 j.compactChars (readBack 127 j) :=
    isValue_of_spells j (spells_compactChars j)
  obtain ⟨c, rest, hchars, -⟩ := opens_of_isValue hvalue
  rw [compact, hchars]
  simp

theorem newline_not_mem_compact (j : Json) : '\n' ∉ j.compact.toList := by
  rw [compact, String.toList_ofList]
  exact newline_not_mem_compactChars j

end LeagueRoster.Json
