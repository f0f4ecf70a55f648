/-!
Search trees over ranges of code points, for the tables of character properties.
A table is written as a list of ranges in increasing order and grown into a tree once.
What a search finds is a range of the tree and covers the code point asked for (`mem_of_find?`).
-/
namespace LeagueRoster.Text

/-- The code points from `lo` to `hi`, both included, with what the table says of them. -/
structure Range (α : Type) where
  lo : Nat
  hi : Nat
  value : α
  deriving Repr, DecidableEq

inductive RangeTree (α : Type) where
  | leaf
  | node (left : RangeTree α) (range : Range α) (right : RangeTree α)

namespace RangeTree

variable {α : Type}

def toList : RangeTree α → List (Range α)
  | leaf => []
  | node l r t => l.toList ++ r :: t.toList

/-- The range that covers a code point. -/
def find? : RangeTree α → Nat → Option (Range α)
  | leaf, _ => none
  | node l r t, n => if n < r.lo then l.find? n else if r.hi < n then t.find? n else some r

/-- A tree of at most the given depth from the front of a list, and what did not fit. -/
def grow : Nat → List (Range α) → RangeTree α × List (Range α)
  | 0, rs => (leaf, rs)
  | depth + 1, rs =>
    let (l, rest) := grow depth rs
    match rest with
    | [] => (l, [])
    | r :: rest =>
      let (t, rest) := grow depth rest
      (node l r t, rest)

/-- Depth nine has room for 511 ranges, more than any table of this library. -/
def ofList (rs : List (Range α)) : RangeTree α := (grow 9 rs).1

theorem toList_grow (depth : Nat) (rs : List (Range α)) :
    (grow depth rs).1.toList ++ (grow depth rs).2 = rs := by
  induction depth generalizing rs with
  | zero => rfl
  | succ depth ih =>
    have h := ih rs
    simp only [grow]
    split
    · next hrest => simpa [hrest] using h
    · next r rest hrest =>
      have h' := ih rest
      simp only [toList, List.append_assoc, List.cons_append, h']
      simpa [hrest] using h

theorem mem_of_find? {t : RangeTree α} {n : Nat} {r : Range α} (h : t.find? n = some r) :
    r ∈ t.toList ∧ r.lo ≤ n ∧ n ≤ r.hi := by
  induction t with
  | leaf => simp [find?] at h
  | node left s right ihl ihr =>
    simp only [find?] at h
    split at h
    · have := ihl h
      simp [toList, this]
    · split at h
      · have := ihr h
        simp [toList, this]
      · next hlo hhi =>
        cases h
        exact ⟨by simp [toList], Nat.not_lt.1 hlo, Nat.not_lt.1 hhi⟩

end RangeTree

end LeagueRoster.Text
