import LeagueRoster.Json
import LeagueRoster.Json.Reader

/-!
The texts of a value: its tokens in order, with any blanks between them. The compact and the
pretty form of a value are two of them (`writtenAs_compact`, `writtenAs_pretty`).
-/
namespace LeagueRoster.Json

open Datum.JsonText

def AllBlank (w : List Char) : Prop := ∀ c ∈ w, isJsonBlank c

/-- Something spelled with blanks around it. -/
def Padded (spelled : List Char → Prop) (s : List Char) : Prop :=
  ∃ w t w', AllBlank w ∧ spelled t ∧ AllBlank w' ∧ s = w ++ t ++ w'

mutual

def Spells : Json → List Char → Prop
  | .null, s => s = ['n', 'u', 'l', 'l']
  | .bool true, s => s = ['t', 'r', 'u', 'e']
  | .bool false, s => s = ['f', 'a', 'l', 's', 'e']
  | .int n, s => s = Text.decimalChars n
  | .str t, s => s = quoted t
  | .arr items, s => ∃ body, SpellsItems items body ∧ s = '[' :: body ++ [']']
  | .obj members, s => ∃ body, SpellsMembers members body ∧ s = '{' :: body ++ ['}']
  termination_by structural j => j

def SpellsItems : List Json → List Char → Prop
  | [], s => AllBlank s
  | [j], s => Padded (Spells j) s
  | j :: rest, s => ∃ t u, Padded (Spells j) t ∧ SpellsItems rest u ∧ s = t ++ ',' :: u
  termination_by structural js => js

def SpellsMembers : List (String × Json) → List Char → Prop
  | [], s => AllBlank s
  | [(k, j)], s =>
    ∃ name t, Padded (· = quoted k) name ∧ Padded (Spells j) t ∧ s = name ++ ':' :: t
  | (k, j) :: rest, s =>
    ∃ name t u, Padded (· = quoted k) name ∧ Padded (Spells j) t ∧ SpellsMembers rest u ∧
      s = name ++ ':' :: (t ++ ',' :: u)
  termination_by structural ms => ms

end

theorem allBlank_nil : AllBlank [] := fun _ h => absurd h List.not_mem_nil

theorem allBlank_breakLine (level : Nat) : AllBlank (breakLine level) := by
  intro c hc
  rcases List.mem_cons.mp hc with rfl | hc
  · decide
  · rw [List.eq_of_mem_replicate hc]
    decide

theorem padded_self {spelled : List Char → Prop} {s : List Char} (h : spelled s) :
    Padded spelled s :=
  ⟨[], s, [], allBlank_nil, h, allBlank_nil, by simp⟩

mutual

theorem spells_compactChars : (j : Json) → Spells j j.compactChars
  | .null | .bool true | .bool false | .int _ | .str _ => rfl
  | .arr items => ⟨_, spellsItems_compactItems items, rfl⟩
  | .obj members => ⟨_, spellsMembers_compactMembers members, rfl⟩

theorem spellsItems_compactItems : (items : List Json) → SpellsItems items (compactItems items)
  | [] => allBlank_nil
  | [j] => padded_self (spells_compactChars j)
  | j :: j' :: rest =>
    ⟨_, _, padded_self (spells_compactChars j), spellsItems_compactItems (j' :: rest), rfl⟩

theorem spellsMembers_compactMembers :
    (members : List (String × Json)) → SpellsMembers members (compactMembers members)
  | [] => allBlank_nil
  | [(_, j)] => ⟨_, _, padded_self rfl, padded_self (spells_compactChars j), rfl⟩
  | (_, j) :: m :: rest =>
    ⟨_, _, _, padded_self rfl, padded_self (spells_compactChars j),
      spellsMembers_compactMembers (m :: rest), rfl⟩

end

theorem allBlank_space : AllBlank [' '] := by
  intro c hc
  rw [List.mem_singleton.mp hc]
  decide

mutual

theorem spells_prettyChars (level : Nat) : (j : Json) → Spells j (j.prettyChars level)
  | .null | .bool true | .bool false | .int _ | .str _ => rfl
  | .arr [] => ⟨[], allBlank_nil, rfl⟩
  | .arr (j :: rest) =>
    ⟨_, spellsItems_prettyItems (level + 1) (j :: rest) (List.cons_ne_nil j rest)
      (allBlank_breakLine (level + 1)) (allBlank_breakLine level), rfl⟩
  | .obj [] => ⟨[], allBlank_nil, rfl⟩
  | .obj (m :: rest) =>
    ⟨_, spellsMembers_prettyMembers (level + 1) (m :: rest) (List.cons_ne_nil m rest)
      (allBlank_breakLine (level + 1)) (allBlank_breakLine level), rfl⟩

theorem spellsItems_prettyItems (level : Nat) : (items : List Json) → items ≠ [] →
    ∀ {w w' : List Char}, AllBlank w → AllBlank w' →
      SpellsItems items (w ++ prettyItems level items ++ w')
  | [], h, _, _, _, _ => absurd rfl h
  | [j], _, w, w', hw, hw' => ⟨w, j.prettyChars level, w', hw, spells_prettyChars level j, hw', rfl⟩
  | j :: j' :: rest, _, w, w', hw, hw' => by
    refine ⟨w ++ j.prettyChars level ++ [], breakLine level ++ prettyItems level (j' :: rest) ++ w',
      ⟨w, _, [], hw, spells_prettyChars level j, allBlank_nil, rfl⟩,
      spellsItems_prettyItems level (j' :: rest) (List.cons_ne_nil j' rest)
        (allBlank_breakLine level) hw', ?_⟩
    simp [prettyItems]

theorem spellsMembers_prettyMembers (level : Nat) : (members : List (String × Json)) →
    members ≠ [] → ∀ {w w' : List Char}, AllBlank w → AllBlank w' →
      SpellsMembers members (w ++ prettyMembers level members ++ w')
  | [], h, _, _, _, _ => absurd rfl h
  | [(k, j)], _, w, w', hw, hw' => by
    refine ⟨w ++ quoted k ++ [], [' '] ++ j.prettyChars level ++ w',
      ⟨w, _, [], hw, rfl, allBlank_nil, rfl⟩,
      ⟨[' '], _, w', allBlank_space, spells_prettyChars level j, hw', rfl⟩, ?_⟩
    simp [prettyMembers]
  | (k, j) :: m :: rest, _, w, w', hw, hw' => by
    refine ⟨w ++ quoted k ++ [], [' '] ++ j.prettyChars level ++ [],
      breakLine level ++ prettyMembers level (m :: rest) ++ w',
      ⟨w, _, [], hw, rfl, allBlank_nil, rfl⟩,
      ⟨[' '], _, [], allBlank_space, spells_prettyChars level j, allBlank_nil, rfl⟩,
      spellsMembers_prettyMembers level (m :: rest) (List.cons_ne_nil m rest)
        (allBlank_breakLine level) hw', ?_⟩
    simp [prettyMembers]

end

/-- The document holds the value and, blanks apart, nothing else. -/
def WrittenAs (j : Json) (text : String) : Prop := Padded (Spells j) text.toList

theorem writtenAs_compact (j : Json) : WrittenAs j j.compact := by
  have h : Padded (Spells j) j.compactChars := padded_self (spells_compactChars j)
  rwa [WrittenAs, compact, String.toList_ofList]

theorem writtenAs_pretty (j : Json) : WrittenAs j j.pretty := by
  have h : Padded (Spells j) (j.prettyChars 0) := padded_self (spells_prettyChars 0 j)
  rwa [WrittenAs, pretty, String.toList_ofList]

end LeagueRoster.Json
