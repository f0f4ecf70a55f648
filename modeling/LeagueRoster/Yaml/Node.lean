import LeagueRoster.Yaml.Layout

/-!
The nodes of a document. A node may be named by an anchor, and an alias stands for it; names
are numbered as they are met. A name that is given again takes the number of the names known
so far, which the next new name takes as well, and of the nodes of one number the last counts.
-/
namespace LeagueRoster.Yaml

/-- The number of a node's anchor, and its tag. -/
structure Properties where
  anchor : Option Nat := none
  tag : Option String := none
  deriving Repr, DecidableEq

inductive Node where
  | alias (number : Nat)
  | scalar (properties : Properties) (text : String) (isPlain : Bool)
  | seq (properties : Properties) (items : List Node)
  | map (properties : Properties) (entries : List (Node × Node))
  deriving Repr, Inhabited

namespace Node

def empty (properties : Properties) : Node := .scalar properties "" true

mutual

/-- The signs that a node consists of: one for a scalar or an alias, and one at either end of
a collection. -/
def size : Node → Nat
  | .seq _ items => 2 + sizeItems items
  | .map _ entries => 2 + sizeEntries entries
  | .scalar _ _ _ | .alias _ => 1
  termination_by structural n => n

def sizeItems : List Node → Nat
  | [] => 0
  | n :: rest => n.size + sizeItems rest
  termination_by structural ns => ns

def sizeEntries : List (Node × Node) → Nat
  | [] => 0
  | (k, v) :: rest => k.size + v.size + sizeEntries rest
  termination_by structural es => es

end

mutual

/-- The node and the nodes in it that have an anchor, by its number, in the order of the text. -/
def anchored (n : Node) : List (Nat × Node) :=
  match n with
  | .alias _ => []
  | .scalar p text isPlain => (p.anchor.map (·, .scalar p text isPlain)).toList
  | .seq p items => (p.anchor.map (·, .seq p items)).toList ++ anchoredItems items
  | .map p entries => (p.anchor.map (·, .map p entries)).toList ++ anchoredEntries entries
  termination_by structural n

def anchoredItems : List Node → List (Nat × Node)
  | [] => []
  | n :: rest => n.anchored ++ anchoredItems rest
  termination_by structural ns => ns

def anchoredEntries : List (Node × Node) → List (Nat × Node)
  | [] => []
  | (k, v) :: rest => k.anchored ++ v.anchored ++ anchoredEntries rest
  termination_by structural es => es

end

end Node

/-- What is left to read, the prefixes that tag handles stand for, and the numbers of the
anchors met so far. -/
structure Reading where
  tokens : List Token
  handles : List (String × String) := []
  names : List (String × Nat) := []

abbrev NodeReader := StateT Reading Option

namespace NodeReader

/-- The next token; there is always one in a text that is well formed. -/
def peek : NodeReader Token := do
  match (← get).tokens with
  | t :: _ => return t
  | [] => failure

def skip : NodeReader Unit := modify fun r => { r with tokens := r.tokens.tail }

/-- Skips the next token if it is that one. -/
def skipIf (t : Token) : NodeReader Bool := do
  if (← peek) = t then
    skip
    return true
  else return false

def define (name : String) : NodeReader Nat := do
  let r ← get
  let number := r.names.length
  let others := r.names.filter fun e => e.1 ≠ name
  set { r with names := (name, number) :: others }
  return number

def tagText (name : TagName) : NodeReader String := do
  if name.handle = "" then return name.suffix
  else
    match (← get).handles.lookup name.handle with
    | some stem => return stem ++ name.suffix
    | none => failure

/-- An anchor and a tag, in either order, both of which may be missing. -/
def properties : NodeReader (Properties × Bool) := do
  match ← peek with
  | .anchor name =>
    skip
    let anchor ← define name
    match ← peek with
    | .tag t =>
      skip
      return (⟨some anchor, some (← tagText t)⟩, true)
    | _ => return (⟨some anchor, none⟩, true)
  | .tag t =>
    skip
    let text ← tagText t
    match ← peek with
    | .anchor name =>
      skip
      return (⟨some (← define name), some text⟩, true)
    | _ => return (⟨none, some text⟩, true)
  | _ => return ({}, false)

mutual

/-- A node. Block collections are met only where they may start, and a sequence whose entries
are not indented only below the key of a mapping. -/
def node (block loose : Bool) : Nat → NodeReader Node
  | 0 => failure
  | fuel + 1 => do
    if let .alias name ← peek then
      skip
      match (← get).names.lookup name with
      | some number => return .alias number
      | none => failure
    let (p, given) ← properties
    match ← peek with
    | .scalar text isPlain =>
      skip
      let p := if p.tag = some "!" then { p with tag := none } else p
      return .scalar p text isPlain
    | .flowSeqOpen =>
      skip
      return .seq p (← flowItems true fuel)
    | .flowMapOpen =>
      skip
      return .map p (← flowEntries true fuel)
    | .blockEntry =>
      if loose then return .seq p (← looseItems fuel)
      else if given then return .empty p else failure
    | .blockSeq =>
      if block then
        skip
        return .seq p (← blockItems fuel)
      else if given then return .empty p else failure
    | .blockMap =>
      if block then
        skip
        return .map p (← blockEntries fuel)
      else if given then return .empty p else failure
    | _ => if given then return .empty p else failure
  termination_by structural fuel => fuel

/-- A node, or the empty one before any of the given tokens. -/
def nodeBefore (ends : List Token) (block loose : Bool) : Nat → NodeReader Node
  | 0 => failure
  | fuel + 1 => do
    if ends.contains (← peek) then return .empty {} else node block loose fuel
  termination_by structural fuel => fuel

def blockItems : Nat → NodeReader (List Node)
  | 0 => failure
  | fuel + 1 => do
    if ← skipIf .blockEntry then
      let item ← nodeBefore [.blockEntry, .blockEnd] true false fuel
      return item :: (← blockItems fuel)
    else if ← skipIf .blockEnd then return []
    else failure
  termination_by structural fuel => fuel

def looseItems : Nat → NodeReader (List Node)
  | 0 => failure
  | fuel + 1 => do
    if ← skipIf .blockEntry then
      let item ← nodeBefore [.blockEntry, .key, .value, .blockEnd] true false fuel
      return item :: (← looseItems fuel)
    else return []
  termination_by structural fuel => fuel

def blockEntries : Nat → NodeReader (List (Node × Node))
  | 0 => failure
  | fuel + 1 => do
    let ends : List Token := [.key, .value, .blockEnd]
    if ← skipIf .key then
      let key ← nodeBefore ends true true fuel
      let value ← if ← skipIf .value then nodeBefore ends true true fuel else pure (.empty {})
      return (key, value) :: (← blockEntries fuel)
    else if ← skipIf .blockEnd then return []
    else failure
  termination_by structural fuel => fuel

/-- The items up to the closing bracket, with commas between them. -/
def flowItems (first : Bool) : Nat → NodeReader (List Node)
  | 0 => failure
  | fuel + 1 => do
    if ← skipIf .flowSeqClose then return []
    else
      if !first then
        if !(← skipIf .flowEntry) then failure
      if ← skipIf .key then
        let entry ← flowPair fuel
        return .map {} [entry] :: (← flowItems false fuel)
      else if ← skipIf .flowSeqClose then return []
      else
        let item ← node false false fuel
        return item :: (← flowItems false fuel)
  termination_by structural fuel => fuel

/-- A mapping of one entry in a sequence, behind its key mark. Where the key is missing, the
sign that stands in its place is passed over. -/
def flowPair : Nat → NodeReader (Node × Node)
  | 0 => failure
  | fuel + 1 => do
    let missing := [Token.value, .flowEntry, .flowSeqClose].contains (← peek)
    let key ← if missing then do
        skip
        pure (.empty {})
      else node false false fuel
    let value ←
      if ← skipIf .value then nodeBefore [.flowEntry, .flowSeqClose] false false fuel
      else pure (.empty {})
    return (key, value)
  termination_by structural fuel => fuel

def flowEntries (first : Bool) : Nat → NodeReader (List (Node × Node))
  | 0 => failure
  | fuel + 1 => do
    if ← skipIf .flowMapClose then return []
    else
      if !first then
        if !(← skipIf .flowEntry) then failure
      if ← skipIf .key then
        let key ← nodeBefore [.value, .flowEntry, .flowMapClose] false false fuel
        let value ←
          if ← skipIf .value then nodeBefore [.flowEntry, .flowMapClose] false false fuel
          else pure (.empty {})
        return (key, value) :: (← flowEntries false fuel)
      else if ← skipIf .flowMapClose then return []
      else
        let key ← node false false fuel
        return (key, .empty {}) :: (← flowEntries false fuel)
  termination_by structural fuel => fuel

end

/-- The directives in front of a document: the handles, and whether the version is given. -/
def directives (versioned : Bool) (handles : List (String × String)) :
    List Token → Option (List (String × String) × List Token)
  | .directive (.version major minor) :: rest =>
    if versioned || major ≠ 1 || (minor ≠ 1 && minor ≠ 2) then none
    else directives true handles rest
  | .directive (.tag handle stem) :: rest =>
    if (handles.lookup handle).isSome then none
    else directives versioned (handles ++ [(handle, stem)]) rest
  | rest => some (handles, rest)

def usualHandles : List (String × String) := [("!", "!"), ("!!", "tag:yaml.org,2002:")]

end NodeReader

open NodeReader in
/-- The first document of a stream and the tokens behind it. A stream without a document has
no node. -/
def firstDocument? (tokens : List Token) : Option (Option Node × List Token) := do
  let (handles, rest) ← directives false [] tokens
  let reading : Reading := { tokens := rest, handles := handles ++ usualHandles }
  let fuel := 2 * rest.length + 2
  let isExplicit := rest.head? = some .documentStart || rest.length < tokens.length
  if isExplicit then
    guard (rest.head? = some .documentStart)
    let ends := rest.tail.head?.any fun t =>
      t matches .directive _ | .documentStart | .documentEnd | .streamEnd
    if ends then return (some (.empty {}), rest.tail)
    else
      let (n, r) ← (node true false fuel).run { reading with tokens := rest.tail }
      return (some n, r.tokens)
  else if rest.head? = some .streamEnd then return (none, rest)
  else
    let (n, r) ← (node true false fuel).run reading
    return (some n, r.tokens)

end LeagueRoster.Yaml
