import LeagueRoster.Yaml.Glyph

/-!
Plain scalars: words without quotes, which go on over line breaks as long as the lines are
indented far enough. A colon before a gap ends the scalar, as do a comment, a document mark
and, inside brackets, the characters that set off the parts of a collection.
-/
namespace LeagueRoster.Yaml

/-- A word, none if a colon stands inside brackets before a mark that cannot follow it. -/
def plainWord? (inFlow : Bool) : Script → Option (List Char × Script)
  | [] => some ([], [])
  | g :: rest =>
    if isGap g.char then some ([], g :: rest)
    else if inFlow && g.char = ':' && startsWith (fun c => isFlowMark c || c = '?') rest then none
    else if (g.char = ':' && atGap rest) || (inFlow && isFlowMark g.char) then
      some ([], g :: rest)
    else (plainWord? inFlow rest).map fun found => (g.char :: found.1, found.2)

/-- After a line break no tab may stand left of the indentation. -/
def tabsFit (indent : Nat) (s : Script) : Bool :=
  ((s.takeWhile fun g => isGap g.char).dropWhile fun g => isBlank g.char).all fun g =>
    g.char ≠ '\t' || indent ≤ g.column

/-- What a plain scalar leaves behind: its text, and whether it ran over the end of a line. -/
structure PlainText where
  text : List Char
  brokeLine : Bool
  rest : Script

/-- The words behind a gap. A gap that no word follows is not part of the scalar. -/
def plainWords? (inFlow : Bool) (indent : Nat) : Nat → Gap → Script → Option PlainText
  | 0, _, _ => none
  | fuel + 1, gap, s =>
    if atDocumentMark s || startsWith (· = '#') s then
      some ⟨[], !gap.breaks.isEmpty, s⟩
    else do
      let (word, rest) ← plainWord? inFlow s
      if word.isEmpty then return ⟨[], !gap.breaks.isEmpty, s⟩
      else if !startsWith isGap rest then return ⟨gap.folded ++ word, false, rest⟩
      else
        guard (tabsFit indent rest)
        let (next, rest) := readGap rest
        if !inFlow && columnOf rest < indent then
          return ⟨gap.folded ++ word, !next.breaks.isEmpty, rest⟩
        else
          let more ← plainWords? inFlow indent fuel next rest
          return { more with text := gap.folded ++ word ++ more.text }

/-- A plain scalar, in a text of that many characters. -/
def plain? (inFlow : Bool) (indent size : Nat) (s : Script) : Option PlainText :=
  plainWords? inFlow indent (size + 1) {} s

end LeagueRoster.Yaml
