import LeagueRoster.Datum
import LeagueRoster.Text.Numeral

/-!
JSON values as this library writes them, and their two written forms: compact, on one line,
and pretty, with two blanks for each level. Numbers are whole and members keep their order.
-/
namespace LeagueRoster

inductive Json where
  | null
  | bool (value : Bool)
  | int (value : Int)
  | str (value : String)
  | arr (items : List Json)
  | obj (members : List (String × Json))
  deriving Repr, Inhabited

namespace Json

def ofNat (n : Nat) : Json := .int n

def hexDigit (n : Nat) : Char := Nat.digitChar (n % 16)

/-- Quotes, backslashes and control characters are escaped; all else stands for itself. -/
def escapeChar (c : Char) : List Char :=
  if c = '"' then ['\\', '"']
  else if c = '\\' then ['\\', '\\']
  else if c = '\x08' then ['\\', 'b']
  else if c = '\x0c' then ['\\', 'f']
  else if c = '\n' then ['\\', 'n']
  else if c = '\x0d' then ['\\', 'r']
  else if c = '\t' then ['\\', 't']
  else if c.toNat < 0x20 then
    ['\\', 'u', '0', '0', hexDigit (c.toNat / 16), hexDigit c.toNat]
  else [c]

def quoted (s : String) : List Char := '"' :: s.toList.flatMap escapeChar ++ ['"']

mutual

def compactChars : Json → List Char
  | .null => ['n', 'u', 'l', 'l']
  | .bool true => ['t', 'r', 'u', 'e']
  | .bool false => ['f', 'a', 'l', 's', 'e']
  | .int n => Text.decimalChars n
  | .str s => quoted s
  | .arr items => '[' :: compactItems items ++ [']']
  | .obj members => '{' :: compactMembers members ++ ['}']
  termination_by structural j => j

def compactItems : List Json → List Char
  | [] => []
  | [j] => j.compactChars
  | j :: rest => j.compactChars ++ ',' :: compactItems rest
  termination_by structural js => js

def compactMembers : List (String × Json) → List Char
  | [] => []
  | [(k, j)] => quoted k ++ ':' :: j.compactChars
  | (k, j) :: rest => quoted k ++ ':' :: (j.compactChars ++ ',' :: compactMembers rest)
  termination_by structural ms => ms

end

def compact (j : Json) : String := String.ofList j.compactChars

/-- A new line, indented for the given level. -/
def breakLine (level : Nat) : List Char := '\n' :: List.replicate (2 * level) ' '

mutual

def prettyChars (level : Nat) : Json → List Char
  | .arr [] => ['[', ']']
  | .arr items =>
    '[' :: breakLine (level + 1) ++ prettyItems (level + 1) items ++ breakLine level ++ [']']
  | .obj [] => ['{', '}']
  | .obj members =>
    '{' :: breakLine (level + 1) ++ prettyMembers (level + 1) members ++ breakLine level ++ ['}']
  | .null => ['n', 'u', 'l', 'l']
  | .bool true => ['t', 'r', 'u', 'e']
  | .bool false => ['f', 'a', 'l', 's', 'e']
  | .int n => Text.decimalChars n
  | .str s => quoted s
  termination_by structural j => j

def prettyItems (level : Nat) : List Json → List Char
  | [] => []
  | [j] => j.prettyChars level
  | j :: rest => j.prettyChars level ++ ',' :: breakLine level ++ prettyItems level rest
  termination_by structural js => js

def prettyMembers (level : Nat) : List (String × Json) → List Char
  | [] => []
  | [(k, j)] => quoted k ++ ':' :: ' ' :: j.prettyChars level
  | (k, j) :: rest =>
    quoted k ++ ':' :: ' ' :: j.prettyChars level ++
      ',' :: breakLine level ++ prettyMembers level rest
  termination_by structural ms => ms

end

def pretty (j : Json) : String := String.ofList (j.prettyChars 0)

mutual

/-- The datum that a written value holds. -/
def toDatum : Json → Datum
  | .null => .null
  | .bool b => .bool b
  | .int n => .int n
  | .str s => .str s
  | .arr items => .seq (datumItems items)
  | .obj members => .map (datumEntries members)
  termination_by structural j => j

def datumItems : List Json → List Datum
  | [] => []
  | j :: rest => j.toDatum :: datumItems rest
  termination_by structural js => js

def datumEntries : List (String × Json) → List (Datum × Datum)
  | [] => []
  | (k, j) :: rest => (.str k, j.toDatum) :: datumEntries rest
  termination_by structural ms => ms

end

end Json

end LeagueRoster
