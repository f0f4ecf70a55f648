import LeagueRoster.Yaml.Block
import LeagueRoster.Yaml.Plain
import LeagueRoster.Yaml.Quoted
import LeagueRoster.Yaml.Token

/-!
How the layout of a text becomes tokens. A node on a line may turn out to be a key when a
colon follows on the same line, at most 1024 characters on; its token number is kept until
then, one per nesting of brackets. Inside brackets indentation means nothing.
-/
namespace LeagueRoster.Yaml

/-- A token that becomes the start of a key if a colon follows soon enough. A node at the
column of its mapping has to be a key. -/
structure PossibleKey where
  number : Nat
  required : Bool
  line : Nat
  column : Nat
  index : Nat
  deriving Repr, DecidableEq

/-- How far a text is read: what is left of so many characters, the tokens so far, the latest
first, the columns of the open block collections, the possible keys by nesting of brackets, and
whether a key may start here. -/
structure Layout where
  size : Nat
  rest : Script
  tokens : List Token := []
  count : Nat := 0
  indent : Int := -1
  outerIndents : List Int := []
  possibleKey : Option PossibleKey := none
  outerKeys : List (Option PossibleKey) := []
  keyAllowed : Bool := true

namespace Layout

def inFlow (l : Layout) : Bool := !l.outerKeys.isEmpty

def emit (t : Token) (l : Layout) : Layout :=
  { l with tokens := t :: l.tokens, count := l.count + 1 }

/-- Puts a token in front of the one that has that number. -/
def emitAt (number : Nat) (t : Token) (l : Layout) : Layout :=
  { l with tokens := l.tokens.insertIdx (l.count - number) t, count := l.count + 1 }

/-- Gives up the possible key, which must not be a required one. -/
def dropKey? (l : Layout) : Option Layout :=
  match l.possibleKey with
  | some key => if key.required then none else some { l with possibleKey := none }
  | none => some l

/-- What comes next may be a key. -/
def offerKey? (l : Layout) : Option Layout :=
  if !l.keyAllowed then some l
  else
    match l.rest with
    | [] => some l
    | g :: _ => do
      let l ← l.dropKey?
      let required := !l.inFlow && l.indent = g.column
      return { l with possibleKey := some ⟨l.count, required, g.line, g.column, g.index⟩ }

/-- A key that is too far back is none; a required one must not be. -/
def refresh? (here : Glyph) (key : Option PossibleKey) : Option (Option PossibleKey) :=
  match key with
  | some k =>
    if k.line < here.line || k.index + 1024 < here.index then
      if k.required then none else some none
    else some key
  | none => some none

def refreshKeys? (l : Layout) : Option Layout :=
  match l.rest with
  | [] => some l
  | here :: _ => do
    let possibleKey ← refresh? here l.possibleKey
    let outerKeys ← l.outerKeys.mapM (refresh? here)
    return { l with possibleKey, outerKeys }

/-- Closes the block collections that are indented further than a column. -/
def closeBlocks (column : Int) : List Int → Layout → Layout
  | outer :: more, l =>
    if column < l.indent then
      closeBlocks column more { l.emit .blockEnd with indent := outer, outerIndents := more }
    else l
  | [], l => l

def unindent (column : Int) (l : Layout) : Layout :=
  if l.inFlow then l else closeBlocks column l.outerIndents l

/-- Opens a block collection at a column further right, in front of the token of a number. -/
def openBlock (column number : Nat) (t : Token) (l : Layout) : Layout :=
  if l.inFlow || (column : Int) ≤ l.indent then l
  else
    { l.emitAt number t with indent := column, outerIndents := l.indent :: l.outerIndents }

/-- Skips blanks, comments and line breaks. A line break lets a key start; where one may start,
no tab is skipped outside brackets. -/
def skipGaps (inFlow inComment allowed : Bool) : Script → Bool × Script
  | [] => (allowed, [])
  | g :: rest =>
    if isBreak g.char then skipGaps inFlow false (allowed || !inFlow) rest
    else if inComment || g.char = '#' then skipGaps inFlow true allowed rest
    else if g.char = ' ' || (g.char = '\t' && (inFlow || !allowed)) then
      skipGaps inFlow false allowed rest
    else (allowed, g :: rest)

def toToken (l : Layout) : Layout :=
  let (keyAllowed, rest) := skipGaps l.inFlow false l.keyAllowed l.rest
  { l with keyAllowed, rest }

/-- Takes a sign of that many characters as a token. -/
def take (width : Nat) (t : Token) (l : Layout) : Layout :=
  { l.emit t with rest := l.rest.drop width }

/-- Ends the block collections and forbids a key. -/
def leaveBlocks? (l : Layout) : Option Layout := do
  let l ← (l.unindent (-1)).dropKey?
  return { l with keyAllowed := false }

def openFlow? (t : Token) (l : Layout) : Option Layout := do
  let l ← l.offerKey?
  return { l.take 1 t with
    possibleKey := none, outerKeys := l.possibleKey :: l.outerKeys, keyAllowed := true }

def closeFlow? (t : Token) (l : Layout) : Option Layout := do
  let l ← l.dropKey?
  let l := { l.take 1 t with keyAllowed := false }
  match l.outerKeys with
  | [] => return l
  | key :: more => return { l with possibleKey := key, outerKeys := more }

/-- An entry or a key that has a sign of its own opens a block collection at its column. -/
def openEntry? (block : Token) (l : Layout) : Option Layout :=
  if l.inFlow then some l
  else if l.keyAllowed then some (l.openBlock (columnOf l.rest) l.count block)
  else none

def blockEntry? (l : Layout) : Option Layout := do
  let l ← (← l.openEntry? .blockSeq).dropKey?
  return { l.take 1 .blockEntry with keyAllowed := true }

def markedKey? (l : Layout) : Option Layout := do
  let l ← (← l.openEntry? .blockMap).dropKey?
  return { l.take 1 .key with keyAllowed := !l.inFlow }

/-- A colon makes the possible key one, or belongs to a key with a mark of its own. -/
def value? (l : Layout) : Option Layout :=
  match l.possibleKey with
  | some key =>
    let l := (l.emitAt key.number .key).openBlock key.column key.number .blockMap
    some { l.take 1 .value with possibleKey := none, keyAllowed := false }
  | none => do
    let l ← l.openEntry? .blockMap
    return { l.take 1 .value with keyAllowed := !l.inFlow }

/-- The name of an anchor or an alias behind its sign. -/
def reference? (make : String → Token) (l : Layout) : Option Layout := do
  let l ← l.offerKey?
  let (name, rest) := spanChars isWord l.rest.tail
  guard !name.isEmpty
  guard (atGap rest || startsWith (fun c => "?:,]\x7d%@\x60".contains c) rest)
  return { l.emit (make (String.ofList name)) with rest, keyAllowed := false }

def tagged? (l : Layout) : Option Layout := do
  let l ← l.offerKey?
  let (name, rest) ← tag? l.inFlow l.rest
  return { l.emit (.tag name) with rest, keyAllowed := false }

def quotedScalar? (quote : Char) (l : Layout) : Option Layout := do
  let l ← l.offerKey?
  let (text, rest) ← quoted? quote l.size l.rest.tail
  return { l.emit (.scalar (String.ofList text) false) with rest, keyAllowed := false }

def blockScalar? (literal : Bool) (l : Layout) : Option Layout := do
  let l ← l.dropKey?
  let (text, rest) ← block? literal l.indent l.size l.rest.tail
  return { l.emit (.scalar (String.ofList text) false) with rest, keyAllowed := true }

def plainScalar? (l : Layout) : Option Layout := do
  let l ← l.offerKey?
  let found ← plain? l.inFlow (l.indent + 1).toNat l.size l.rest
  return { l.emit (.scalar (String.ofList found.text) true) with
    rest := found.rest, keyAllowed := found.brokeLine }

def documentMark? (t : Token) (l : Layout) : Option Layout := do
  return (← l.leaveBlocks?).take 3 t

def directiveLine? (l : Layout) : Option Layout := do
  let l ← l.leaveBlocks?
  let (directive, rest) ← directive? l.rest.tail
  return { l.emit (.directive directive) with rest }

/-- Signs that no plain scalar starts with, unless what follows takes their meaning away. -/
def isSign (c : Char) : Bool := "-?:,[]\x7b\x7d#&*!|>'\"%@\x60".contains c

def startsPlain (inFlow : Bool) (c : Char) (rest : Script) : Bool :=
  (!isSign c && !isGap c) || (c = '-' && !startsWith isBlank rest) ||
    (!inFlow && (c = '?' || c = ':') && !atGap rest)

/-- The token that starts with a character. -/
def tokenAt? (c : Char) (rest : Script) (l : Layout) : Option Layout :=
  if columnOf l.rest = 0 && c = '%' then l.directiveLine?
  else if atMark '-' l.rest then l.documentMark? .documentStart
  else if atMark '.' l.rest then l.documentMark? .documentEnd
  else if c = '[' then l.openFlow? .flowSeqOpen
  else if c = '\x7b' then l.openFlow? .flowMapOpen
  else if c = ']' then l.closeFlow? .flowSeqClose
  else if c = '\x7d' then l.closeFlow? .flowMapClose
  else if c = ',' then do
    let l ← l.dropKey?
    return { l.take 1 .flowEntry with keyAllowed := true }
  else if c = '-' && atGap rest then l.blockEntry?
  else if c = '?' && (l.inFlow || atGap rest) then l.markedKey?
  else if c = ':' && (l.inFlow || atGap rest) then l.value?
  else if c = '*' then l.reference? .alias
  else if c = '&' then l.reference? .anchor
  else if c = '!' then l.tagged?
  else if c = '|' && !l.inFlow then l.blockScalar? true
  else if c = '>' && !l.inFlow then l.blockScalar? false
  else if c = '\'' || c = '"' then l.quotedScalar? c
  else if startsPlain l.inFlow c rest then l.plainScalar?
  else none

/-- Reads the next token, and the ends of collections before it. -/
def step? (l : Layout) : Option Layout := do
  let l ← l.toToken.refreshKeys?
  match l.rest with
  | [] => return (← l.leaveBlocks?).emit .streamEnd
  | g :: rest => (l.unindent g.column).tokenAt? g.char rest

/-- The tokens before any that may yet become a key. -/
def settled (l : Layout) : List Token :=
  let l := l.refreshKeys?.getD l
  let pending := (l.possibleKey :: l.outerKeys).filterMap (·.map PossibleKey.number)
  l.tokens.reverse.take (pending.foldl min l.count)

/-- Reads on to the end, or to where the text is not well formed. -/
def run : Nat → Layout → List Token
  | 0, l => l.settled
  | fuel + 1, l =>
    match l.step? with
    | none => l.settled
    | some next =>
      if next.tokens.head? = some .streamEnd then next.tokens.reverse else run fuel next

end Layout

/-- The tokens of a text, up to the end of the stream or to a fault. Every step takes at least
one character, the last one apart. -/
def tokens (s : Script) : List Token := Layout.run (s.length + 1) { size := s.length, rest := s }

end LeagueRoster.Yaml
