import LeagueRoster.Datum

/-!
Tables under construction. A table comes to be by a header of its own, by standing on the way
of a longer header, or by a dotted key, and this decides what may still be added to it: a
header opens a table only once, and dotted keys extend only tables that dotted keys made.
An array of tables is extended at its last table.
-/
namespace LeagueRoster.Toml

inductive Standing where
  | explicit
  | implied
  | dotted
  deriving Repr, DecidableEq

inductive Node where
  | leaf (value : Datum)
  | table (standing : Standing) (entries : List (String × Node))
  | tables (items : List (List (String × Node)))
  deriving Inhabited

abbrev Table := List (String × Node)

namespace Table

/-- Changes the node under a key, or puts one there. -/
def alter (key : String) (f : Option Node → Option Node) : Table → Option Table
  | [] => (f none).map fun node => [(key, node)]
  | (k, node) :: rest =>
    if k = key then (f (some node)).map fun node => (k, node) :: rest
    else (alter key f rest).map fun rest => (k, node) :: rest

/-- Changes the table at the end of a path; tables missing on the way get the given standing.
A dotted path does not go through tables that a header opened. -/
def within (fresh : Standing) (f : Standing → Table → Option Table) :
    List String → Standing → Table → Option Table
  | [], standing, t => f standing t
  | key :: path, _, t =>
    t.alter key fun
      | none => (within fresh f path fresh []).map (.table fresh)
      | some (.table standing inner) =>
        if fresh = .dotted ∧ standing = .explicit then none
        else (within fresh f path standing inner).map (.table standing)
      | some (.tables items) =>
        match items.getLast? with
        | some last =>
          (within fresh f path .explicit last).map fun last => .tables (items.dropLast ++ [last])
        | none => none
      | some (.leaf _) => none

/-- Opens the table of a header. -/
def openTable (t : Table) (path : List String) (key : String) : Option Table :=
  within .implied
    (fun _ t => t.alter key fun
      | none => some (.table .explicit [])
      | some (.table .implied inner) => some (.table .explicit inner)
      | some _ => none)
    path .explicit t

/-- Adds a table to the array of a header in double brackets. -/
def openItem (t : Table) (path : List String) (key : String) : Option Table :=
  within .implied
    (fun _ t => t.alter key fun
      | none => some (.tables [[]])
      | some (.tables items) => some (.tables (items ++ [[]]))
      | some _ => none)
    path .explicit t

/-- Puts a value under a dotted key. -/
def assign (t : Table) (path : List String) (key : String) (value : Datum) : Option Table :=
  within .dotted
    (fun standing t =>
      if !path.isEmpty && standing ≠ .dotted then none
      else t.alter key fun
        | none => some (.leaf value)
        | some _ => none)
    path .explicit t

end Table

mutual

def Node.toDatum : Node → Datum
  | .leaf value => value
  | .table _ entries => .map (entriesToData entries)
  | .tables items => .seq (itemsToData items)
  termination_by structural n => n

def entriesToData : List (String × Node) → List (Datum × Datum)
  | [] => []
  | (k, n) :: rest => (.str k, n.toDatum) :: entriesToData rest
  termination_by structural es => es

def itemsToData : List (List (String × Node)) → List Datum
  | [] => []
  | entries :: rest => .map (entriesToData entries) :: itemsToData rest
  termination_by structural ts => ts

end

def Table.toDatum (t : Table) : Datum := .map (entriesToData t)

end LeagueRoster.Toml
