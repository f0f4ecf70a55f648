import LeagueRoster.Toml.Scalar
import LeagueRoster.Toml.Table

/-!
TOML documents: values, with arrays and inline tables up to 80 deep, and the lines of a
document, each a header, an assignment or empty. `Datum.ofToml?` reads a whole text.
-/
namespace LeagueRoster.Toml

/-- A comment up to the end of its line. -/
def skipComment? : List Char → Option (List Char)
  | '#' :: rest =>
    let after := rest.dropWhile isPrintable
    if after.isEmpty || (newline? after).isSome then some after else none
  | s => some s

/-- Blanks, comments and line breaks. -/
def skipLines? : Nat → List Char → Option (List Char)
  | 0, _ => none
  | fuel + 1, s => do
    let s ← skipComment? (skipSpace s)
    match newline? s with
    | some rest => skipLines? fuel rest
    | none => return s

mutual

/-- A value, with the number of levels that may still be opened. -/
def value? : Nat → Nat → List Char → Option (Datum × List Char)
  | 0, _, _ => none
  | fuel + 1, levels, s =>
    match s with
    | '[' :: rest => do
      guard (0 < levels)
      let (items, rest) ← items? fuel (levels - 1) rest
      return (.seq items, rest)
    | '{' :: rest => do
      guard (0 < levels)
      let (table, rest) ← inline? fuel (levels - 1) [] rest
      return (table.toDatum, rest)
    | _ => scalar? s
  termination_by structural fuel => fuel

/-- The items of an array up to its closing bracket, which a comma may precede. -/
def items? : Nat → Nat → List Char → Option (List Datum × List Char)
  | 0, _, _ => none
  | fuel + 1, levels, s => do
    match ← skipLines? (s.length + 1) s with
    | ']' :: rest => return ([], rest)
    | s =>
      let (item, s) ← value? fuel levels s
      match ← skipLines? (s.length + 1) s with
      | ']' :: rest => return ([item], rest)
      | ',' :: rest =>
        let (items, rest) ← items? fuel levels rest
        return (item :: items, rest)
      | _ => none
  termination_by structural fuel => fuel

/-- The assignments of an inline table up to its closing brace, which a comma may precede. -/
def inline? : Nat → Nat → Table → List Char → Option (Table × List Char)
  | 0, _, _, _ => none
  | fuel + 1, levels, table, s => do
    match ← skipLines? (s.length + 1) s with
    | '}' :: rest => return (table, rest)
    | s =>
      let (key, s) ← key? (s.length + 1) s
      let s ← expect? '=' s
      let (value, s) ← value? fuel levels (skipSpace s)
      let table ← table.assign key.dropLast (key.getLastD "") value
      match ← skipLines? (s.length + 1) s with
      | '}' :: rest => return (table, rest)
      | ',' :: rest => inline? fuel levels table rest
      | _ => none
  termination_by structural fuel => fuel

end

inductive Line where
  | empty
  | table (key : List String)
  | item (key : List String)
  | assignment (key : List String) (value : Datum)

def headerKey? (s : List Char) : Option (List String × List Char) := do
  let (key, s) ← key? (s.length + 1) s
  return (key, skipSpace s)

def line? (s : List Char) : Option (Line × List Char) :=
  match skipSpace s with
  | '[' :: '[' :: rest => do
    let (key, rest) ← headerKey? rest
    let rest ← expect? ']' rest
    return (.item key, ← expect? ']' rest)
  | '[' :: rest => do
    let (key, rest) ← headerKey? rest
    return (.table key, ← expect? ']' rest)
  | [] => some (.empty, [])
  | c :: rest =>
    if c = '#' || (newline? (c :: rest)).isSome then some (.empty, c :: rest)
    else do
      let (key, s) ← headerKey? (c :: rest)
      let s ← expect? '=' s
      let (value, s) ← value? (s.length + 1) 80 (skipSpace s)
      return (.assignment key value, s)

/-- The rest of a line behind its content: the next line, if there is one. -/
def endOfLine? (s : List Char) : Option (List Char) := do
  match ← skipComment? (skipSpace s) with
  | [] => return []
  | s => newline? s

/-- The document so far, and the header whose table the assignments go to. -/
structure Draft where
  table : Table := []
  header : List String := []

def Draft.add (d : Draft) : Line → Option Draft
  | .empty => some d
  | .table key => do
    let table ← d.table.openTable key.dropLast (key.getLastD "")
    return { table, header := key }
  | .item key => do
    let table ← d.table.openItem key.dropLast (key.getLastD "")
    return { table, header := key }
  | .assignment key value => do
    let table ← d.table.within .implied
      (fun _ t => t.assign key.dropLast (key.getLastD "") value) d.header .explicit
    return { d with table }

def lines? : Nat → Draft → List Char → Option Draft
  | 0, _, _ => none
  | fuel + 1, d, s =>
    match s with
    | [] => some d
    | _ => do
      let (line, s) ← line? s
      let d ← d.add line
      lines? fuel d (← endOfLine? s)

end LeagueRoster.Toml

namespace LeagueRoster.Datum

def ofToml? (text : String) : Option Datum :=
  let s := match text.toList with
    | '\uFEFF' :: rest => rest
    | s => s
  (Toml.lines? (s.length + 1) {} s).map fun d => d.table.toDatum

end LeagueRoster.Datum
