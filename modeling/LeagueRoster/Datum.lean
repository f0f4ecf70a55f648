/-!
What a document holds, whatever format it is written in: the scalars, sequences and maps of
JSON, YAML and TOML. Only whole numbers are of use to a roster, so of any other number just
its presence is kept. A value that is well formed but cannot be represented (a lone surrogate,
a number out of range, nesting too deep) is `unreadable`; it does no harm where it is ignored.
-/
namespace LeagueRoster

inductive Datum where
  | null
  | bool (value : Bool)
  | int (value : Int)
  | real
  | str (value : String)
  | seq (items : List Datum)
  | map (entries : List (Datum × Datum))
  | unreadable
  deriving Repr, Inhabited

namespace Datum

mutual

/-- No part of the value, keys included, is unreadable. -/
def readable : Datum → Bool
  | .seq items => allReadable items
  | .map entries => entriesReadable entries
  | .unreadable => false
  | .null | .bool _ | .int _ | .real | .str _ => true
  termination_by structural d => d

def allReadable : List Datum → Bool
  | [] => true
  | d :: rest => d.readable && allReadable rest
  termination_by structural ds => ds

def entriesReadable : List (Datum × Datum) → Bool
  | [] => true
  | (k, d) :: rest => k.readable && d.readable && entriesReadable rest
  termination_by structural es => es

end

end Datum

end LeagueRoster
