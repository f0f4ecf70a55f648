import LeagueRoster.Yaml.Glyph

/-!
Block scalars: the indented lines below a bar or an angle bracket. The header may fix the
indentation and say what becomes of the line breaks at the end; otherwise the first line with
content fixes it and one break is kept. Below an angle bracket a break between two lines that
start with no blank is folded.
-/
namespace LeagueRoster.Yaml

inductive Chomping where
  | strip
  | clip
  | keep
  deriving Repr, DecidableEq

structure BlockHeader where
  chomping : Chomping := .clip
  increment : Option Nat := none

def chomping? (s : Script) : Option (Chomping × Script) :=
  match s with
  | g :: rest =>
    if g.char = '+' then some (.keep, rest)
    else if g.char = '-' then some (.strip, rest)
    else none
  | [] => none

/-- A digit, which must not be zero; none if a zero stands here. -/
def increment? (s : Script) : Option (Option Nat × Script) :=
  match s with
  | g :: rest =>
    if g.char = '0' then none
    else if g.char.isDigit then some (some (g.char.toNat - 48), rest)
    else some (none, s)
  | [] => some (none, s)

/-- The two signs of a header, in either order. -/
def headerSigns? (s : Script) : Option (BlockHeader × Script) :=
  match chomping? s with
  | some (chomping, rest) =>
    (increment? rest).map fun found => (⟨chomping, found.1⟩, found.2)
  | none => do
    let (increment, rest) ← increment? s
    match increment, chomping? rest with
    | some _, some (chomping, rest) => return (⟨chomping, increment⟩, rest)
    | _, _ => return (⟨.clip, increment⟩, rest)

/-- The header up to the end of its line, where a comment may stand. -/
def blockHeader? (s : Script) : Option (BlockHeader × Script) := do
  let (header, rest) ← headerSigns? s
  let rest := skipChars isBlank rest
  let rest := if startsWith (· = '#') rest then skipChars (!isBreak ·) rest else rest
  guard (atLineEnd rest)
  return (header, rest.tail)

/-- Skips empty lines and the indentation of the next line, which is searched for if none is
given. Finds the line breaks and the widest column at which a line goes on; a tab must not
stand in the indentation. -/
def emptyLines? (indent : Option Nat) : Script → Option (List Char × Nat × Script)
  | [] => some ([], 0, [])
  | g :: rest =>
    let inside := match indent with
      | none => true
      | some n => g.column < n
    if inside && g.char = ' ' then emptyLines? indent rest
    else if inside && g.char = '\t' then none
    else if isBreak g.char then
      (emptyLines? indent rest).map fun found =>
        (g.char :: found.1, max g.column found.2.1, found.2.2)
    else some ([], g.column, g :: rest)

structure BlockText where
  text : List Char
  lastBreak : List Char
  moreBreaks : List Char
  rest : Script

/-- The lines at an indentation, behind the break of the line before and further breaks. -/
def blockLines? (literal : Bool) (indent : Nat) :
    Nat → List Char → List Char → Bool → Script → Option BlockText
  | 0, _, _, _, _ => none
  | _, lastBreak, moreBreaks, _, [] => some ⟨[], lastBreak, moreBreaks, []⟩
  | fuel + 1, lastBreak, moreBreaks, afterBlank, g :: rest =>
    if g.column ≠ indent then some ⟨[], lastBreak, moreBreaks, g :: rest⟩
    else do
      let startsBlank := isBlank g.char
      let joint :=
        if !literal && lastBreak = ['\n'] && !afterBlank && !startsBlank then
          if moreBreaks.isEmpty then [' '] else moreBreaks
        else lastBreak ++ moreBreaks
      let (line, rest) := spanChars (!isBreak ·) (g :: rest)
      let lineBreak := (rest.take 1).map Glyph.char
      let (breaks, _, rest) ← emptyLines? (some indent) rest.tail
      let more ← blockLines? literal indent fuel lineBreak breaks startsBlank rest
      return { more with text := joint ++ line ++ more.text }

/-- The scalar behind the sign of a block, below a node indented so far, in a text of that many
characters. -/
def block? (literal : Bool) (outer : Int) (size : Nat) (s : Script) :
    Option (List Char × Script) := do
  let (header, rest) ← blockHeader? s
  let given := header.increment.map fun n => (max outer 0).toNat + n
  let (breaks, widest, rest) ← emptyLines? given rest
  let indent := given.getD (max (max widest 1) (outer + 1).toNat)
  let found ← blockLines? literal indent (size + 1) [] breaks false rest
  let tail := match header.chomping with
    | .strip => []
    | .clip => found.lastBreak
    | .keep => found.lastBreak ++ found.moreBreaks
  return (found.text ++ tail, found.rest)

end LeagueRoster.Yaml
