import LeagueRoster.Yaml.Node
import LeagueRoster.Yaml.Scalar

/-!
Reading YAML documents. Aliases are replaced by the nodes they stand for, at most a hundred
times for each sign of the document, and collections nest at most 128 deep. A tag of the
document's own makes it unreadable. A stream holds one document; what follows the first is
reported beside it.
-/
namespace LeagueRoster

namespace Yaml

def isOwnTag (p : Properties) : Bool := p.tag.any (·.startsWith "!")

/-- Reads with a number of aliases that may still be replaced. -/
abbrev AliasReader := StateT Nat Option

/-- The node itself, or the one an alias stands for. -/
def target (anchored : List (Nat × Node)) : Node → AliasReader Node
  | .alias number => do
    match ← get with
    | 0 => failure
    | n + 1 =>
      set n
      match anchored.lookup number with
      | some node => return node
      | none => failure
  | node => return node

/-- What a node holds, with the number of levels that may still be opened. -/
def datum (anchored : List (Nat × Node)) : Nat → Node → AliasReader Datum
  | 0, node => do
    match ← target anchored node with
    | .scalar p text isPlain => scalarDatum p text isPlain
    | _ => failure
  | levels + 1, node => do
    match ← target anchored node with
    | .scalar p text isPlain => scalarDatum p text isPlain
    | .seq p items =>
      if isOwnTag p then failure
      return .seq (← items.mapM fun item => datum anchored levels item)
    | .map p entries =>
      if isOwnTag p then failure
      return .map (← entries.mapM fun entry => do
        return (← datum anchored levels entry.1, ← datum anchored levels entry.2))
    | .alias _ => failure
where
  scalarDatum (p : Properties) (text : String) (isPlain : Bool) : AliasReader Datum := do
    if isOwnTag p then failure
    match p.tag with
    | some tag =>
      match taggedDatum? tag text with
      | some d => return d
      | none => failure
    | none => return if isPlain then plainDatum text else .str text

/-- A document without a node holds nothing. -/
def documentDatum? : Option Node → Option Datum
  | none => some .null
  | some node =>
    ((datum node.anchored.reverse 128 node).run (100 * node.size)).map Prod.fst

end Yaml

open Yaml in
/-- What the first document of a text holds, and whether it is the only one and the text is
well formed behind it. -/
def Datum.readYaml? (text : String) : Option (Datum × Bool) := do
  let script ← Script.ofText? text
  let (node, rest) ← firstDocument? (tokens script)
  let d ← documentDatum? node
  return (d, rest.dropWhile (· = .documentEnd) = [.streamEnd])

end LeagueRoster
