import LeagueRoster.Text.Canonical
import LeagueRoster.Text.LetterCase
import LeagueRoster.Text.Mark

/-!
The order of player names in a sorted column. Names are compared by their base letters,
without marks and case; then with marks; then by case, lowercase first; and names that agree
in all three are told apart by their code points, so only equal names compare as equal.
-/
namespace LeagueRoster.NameOrder

open Text

def baseKey (name : String) : List Char :=
  ((nfd name.toList).filter fun c => !isMark c).flatMap lower

def accentKey (name : String) : List Char := (nfd name.toList).flatMap lower

def caseRank (c : Char) : Nat := if isUpper c then 1 else 0

/-- The first place where one letter is uppercase and the other is not decides. -/
def compareRanks : List Char → List Char → Ordering
  | c :: a, d :: b => (compare (caseRank c) (caseRank d)).then (compareRanks a b)
  | _, _ => .eq

def compareCase (a b : String) : Ordering := compareRanks (nfd a.toList) (nfd b.toList)

def compareNames (a b : String) : Ordering :=
  (compare (baseKey a) (baseKey b)).then <|
    (compare (accentKey a) (accentKey b)).then <|
      (compareCase a b).then (compare a.toList b.toList)

def sortNames (names : List String) : List String :=
  names.mergeSort fun a b => (compareNames a b).isLE

end LeagueRoster.NameOrder
