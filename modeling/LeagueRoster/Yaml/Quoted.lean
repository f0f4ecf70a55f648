import LeagueRoster.Text.Numeral
import LeagueRoster.Yaml.Glyph

/-!
Quoted scalars. Between single quotes a quote is written twice; between double quotes there
are escapes, and a backslash at the end of a line joins it to the next. Line breaks are folded,
and no line inside may be a document mark.
-/
namespace LeagueRoster.Yaml

def namedEscape? : Char → Option Char
  | '0' => some '\x00'
  | 'a' => some '\x07'
  | 'b' => some '\x08'
  | 't' | '\t' => some '\t'
  | 'n' => some '\n'
  | 'v' => some '\x0b'
  | 'f' => some '\x0c'
  | 'r' => some '\x0d'
  | 'e' => some '\x1b'
  | ' ' => some ' '
  | '"' => some '"'
  | '/' => some '/'
  | '\\' => some '\\'
  | 'N' => some '\u0085'
  | '_' => some '\u00a0'
  | 'L' => some '\u2028'
  | 'P' => some '\u2029'
  | _ => none

def escapeWidth? : Char → Option Nat
  | 'x' => some 2
  | 'u' => some 4
  | 'U' => some 8
  | _ => none

/-- The character of an escape behind its backslash. -/
def escape? : Script → Option (Char × Script)
  | [] => none
  | g :: rest =>
    match escapeWidth? g.char with
    | some width =>
      (Text.codePoint? width ((rest.take width).map Glyph.char)).map fun c => (c, rest.drop width)
    | none => (namedEscape? g.char).map fun c => (c, rest)

/-- Behind an opening single quote. -/
def singleQuoted? : Nat → Script → Option (List Char × Script)
  | 0, _ => none
  | _, [] => none
  | fuel + 1, g :: rest =>
    if isGap g.char then do
      let (gap, rest) := readGap (g :: rest)
      guard !(atDocumentMark rest)
      let (text, rest) ← singleQuoted? fuel rest
      return (gap.folded ++ text, rest)
    else if g.char ≠ '\'' then
      (singleQuoted? fuel rest).map fun found => (g.char :: found.1, found.2)
    else
      match rest with
      | q :: more =>
        if q.char = '\'' then
          (singleQuoted? fuel more).map fun found => ('\'' :: found.1, found.2)
        else some ([], rest)
      | [] => some ([], rest)

/-- Behind an opening double quote. -/
def doubleQuoted? : Nat → Script → Option (List Char × Script)
  | 0, _ => none
  | _, [] => none
  | fuel + 1, g :: rest =>
    if isGap g.char then do
      let (gap, rest) := readGap (g :: rest)
      guard !(atDocumentMark rest)
      let (text, rest) ← doubleQuoted? fuel rest
      return (gap.folded ++ text, rest)
    else if g.char = '"' then some ([], rest)
    else if g.char ≠ '\\' then
      (doubleQuoted? fuel rest).map fun found => (g.char :: found.1, found.2)
    else if startsWith isBreak rest then do
      let (gap, rest) := readGap rest.tail
      guard !(atDocumentMark rest)
      let (text, rest) ← doubleQuoted? fuel rest
      return (gap.breaks ++ text, rest)
    else do
      let (c, rest) ← escape? rest
      let (text, rest) ← doubleQuoted? fuel rest
      return (c :: text, rest)

/-- A quoted scalar behind its opening quote, in a text of that many characters. -/
def quoted? (quote : Char) (size : Nat) (s : Script) : Option (List Char × Script) :=
  if quote = '"' then doubleQuoted? (size + 1) s else singleQuoted? (size + 1) s

end LeagueRoster.Yaml
