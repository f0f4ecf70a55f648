/-!
The characters of a YAML text together with their places. What a line means depends on where
it starts, so every character knows its line and column, and how many characters stand before
it. Line breaks of one or two characters are read as a line feed, and the separators of lines
and paragraphs are breaks that stay as they are.
-/
namespace LeagueRoster.Yaml

structure Glyph where
  char : Char
  line : Nat
  column : Nat
  index : Nat
  deriving Repr, DecidableEq

abbrev Script := List Glyph

/-- A byte order mark is no such character. -/
def isAllowed (c : Char) : Bool :=
  let n := c.toNat
  c = '\t' || c = '\n' || c = '\x0d' || (0x20 ≤ n && n ≤ 0x7E) || n = 0x85 ||
    (0xA0 ≤ n && n ≤ 0xFFFD && n ≠ 0xFEFF) || 0x10000 ≤ n

def isBlank (c : Char) : Bool := c = ' ' || c = '\t'

def isBreak (c : Char) : Bool := c = '\n' || c = '\u2028' || c = '\u2029'

def isGap (c : Char) : Bool := isBlank c || isBreak c

/-- Characters of the names of anchors, directives and tag handles. -/
def isWord (c : Char) : Bool := c.isAlphanum || c = '_' || c = '-'

/-- Characters that set off the parts of a collection written in brackets. -/
def isFlowMark (c : Char) : Bool := c = ',' || c = '[' || c = ']' || c = '\x7b' || c = '\x7d'

/-- Places the characters behind so many lines, columns and characters. -/
def place (line column index : Nat) : List Char → Script
  | [] => []
  | '\x0d' :: '\n' :: rest => ⟨'\n', line, column, index⟩ :: place (line + 1) 0 (index + 2) rest
  | c :: rest =>
    let c := if c = '\x0d' || c = '\u0085' then '\n' else c
    ⟨c, line, column, index⟩ ::
      if isBreak c then place (line + 1) 0 (index + 1) rest
      else place line (column + 1) (index + 1) rest

/-- A byte order mark may stand in front. -/
def Script.ofText? (text : String) : Option Script :=
  let chars :=
    match text.toList with
    | '\ufeff' :: rest => rest
    | chars => chars
  if chars.all isAllowed then some (place 0 0 0 chars) else none

def startsWith (p : Char → Bool) : Script → Bool
  | [] => false
  | g :: _ => p g.char

/-- Here a word ends: at a blank, at a break or at the end of the text. -/
def atGap (s : Script) : Bool := s.isEmpty || startsWith isGap s

def atLineEnd (s : Script) : Bool := s.isEmpty || startsWith isBreak s

def columnOf : Script → Nat
  | [] => 0
  | g :: _ => g.column

def takeChars (p : Char → Bool) (s : Script) : List Char :=
  (s.takeWhile fun g => p g.char).map Glyph.char

def skipChars (p : Char → Bool) (s : Script) : Script := s.dropWhile fun g => p g.char

/-- The first glyphs, as far as they are such characters, and the rest. -/
def spanChars (p : Char → Bool) (s : Script) : List Char × Script := (takeChars p s, skipChars p s)

/-- Three hyphens or three dots that open a line and stand alone. -/
def atMark (mark : Char) : Script → Bool
  | a :: b :: c :: rest =>
    a.column = 0 && a.char = mark && b.char = mark && c.char = mark && atGap rest
  | _ => false

def atDocumentMark (s : Script) : Bool := atMark '-' s || atMark '.' s

/-- The blanks and line breaks between two words: the blanks before the first break, and the
breaks. -/
structure Gap where
  blanks : List Char := []
  breaks : List Char := []
  deriving Repr, DecidableEq

/-- Blanks stay, a single line break is a space, and of several breaks the first is dropped. -/
def Gap.folded (gap : Gap) : List Char :=
  match gap.breaks with
  | [] => gap.blanks
  | ['\n'] => [' ']
  | '\n' :: more => more
  | breaks => breaks

def readGap (s : Script) : Gap × Script :=
  let run := takeChars isGap s
  (⟨run.takeWhile isBlank, run.filter isBreak⟩, skipChars isGap s)

end LeagueRoster.Yaml
