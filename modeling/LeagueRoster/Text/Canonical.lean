import LeagueRoster.Text.Decomposition
import LeagueRoster.Text.CombiningClass

/-!
Canonical decomposition of a text: every character is taken apart, and then each run of marks
is put in order of combining class, marks of one class staying as they were. A starter never
moves and nothing moves across it, so an insertion from the right orders all runs at once.
-/
namespace LeagueRoster.Text

/-- Puts a character before an ordered text; a mark goes behind the marks of lower class. -/
def insertMark (c : Char) : List Char → List Char
  | [] => [c]
  | d :: rest =>
    if combiningClass d ≠ 0 ∧ combiningClass d < combiningClass c then d :: insertMark c rest
    else c :: d :: rest

def canonicalOrder : List Char → List Char
  | [] => []
  | c :: rest => insertMark c (canonicalOrder rest)

def nfd (s : List Char) : List Char := canonicalOrder (s.flatMap decompose)

theorem perm_insertMark (c : Char) (s : List Char) : (insertMark c s).Perm (c :: s) := by
  induction s with
  | nil => exact .refl _
  | cons d rest ih =>
    unfold insertMark
    split
    · exact (ih.cons d).trans (.swap c d rest)
    · exact .refl _

theorem perm_canonicalOrder (s : List Char) : (canonicalOrder s).Perm s := by
  induction s with
  | nil => exact .refl _
  | cons c rest ih => exact (perm_insertMark c _).trans (ih.cons c)

end LeagueRoster.Text
