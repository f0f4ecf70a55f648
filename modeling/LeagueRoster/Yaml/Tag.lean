import LeagueRoster.Text.Numeral
import LeagueRoster.Yaml.Glyph

/-!
The spelling of tags. A tag has a handle, which stands for a prefix, and a suffix; or it is
written in full between angle brackets and has no handle. A percent sign in a suffix starts an
octet in hexadecimal digits.
-/
namespace LeagueRoster.Yaml

structure TagName where
  handle : String
  suffix : String
  deriving Repr, DecidableEq

def isUri (c : Char) : Bool := isWord c || ";/?:@&=+$.!~*'()".contains c

/-- In a tag that is written in full, marks of collections may stand too. -/
def isFullUri (c : Char) : Bool := isUri c || c = ',' || c = '[' || c = ']'

/-- The octets of a suffix. -/
def uriOctets? (allowed : Char → Bool) : Nat → Script → Option (List UInt8 × Script)
  | 0, s => some ([], s)
  | _, [] => some ([], [])
  | fuel + 1, g :: rest =>
    if g.char = '%' then do
      let octet ← Text.hexNumber? 2 ((rest.take 2).map Glyph.char)
      let (octets, rest) ← uriOctets? allowed fuel (rest.drop 2)
      return (UInt8.ofNat octet :: octets, rest)
    else if allowed g.char then do
      let (octets, rest) ← uriOctets? allowed fuel rest
      return (g.char.toString.toUTF8.toList ++ octets, rest)
    else some ([], g :: rest)

def uri? (allowed : Char → Bool) (s : Script) : Option (String × Script) := do
  let (octets, rest) ← uriOctets? allowed (s.takeWhile fun g => !isGap g.char).length s
  let text ← String.fromUTF8? ⟨octets.toArray⟩
  return (text, rest)

/-- An exclamation mark, a word and perhaps another exclamation mark. -/
def handle? : Script → Option (String × Script)
  | [] => none
  | g :: rest =>
    if g.char ≠ '!' then none
    else
      let (word, rest) := spanChars isWord rest
      if startsWith (· = '!') rest then
        some (String.ofList ('!' :: word ++ ['!']), rest.tail)
      else some (String.ofList ('!' :: word), rest)

/-- A handle has two marks, one at either end. -/
def isHandle (s : String) : Bool := 2 ≤ s.length && s.endsWith "!"

def fullTag? (s : Script) : Option (TagName × Script) := do
  let (suffix, rest) ← uri? isFullUri s
  guard (suffix ≠ "" && startsWith (· = '>') rest)
  return (⟨"", suffix⟩, rest.tail)

def shortTag? (s : Script) : Option (TagName × Script) := do
  let (front, rest) ← handle? s
  let (suffix, rest) ← uri? isUri rest
  if isHandle front then
    guard (suffix ≠ "")
    return (⟨front, suffix⟩, rest)
  else
    let suffix := String.ofList (front.toList.drop 1) ++ suffix
    return (if suffix = "" then ⟨"", "!"⟩ else ⟨"!", suffix⟩, rest)

def tag? (inFlow : Bool) (s : Script) : Option (TagName × Script) := do
  let (name, rest) ←
    match s with
    | _ :: g :: rest => if g.char = '<' then fullTag? rest else shortTag? s
    | _ => shortTag? s
  guard (atGap rest || (inFlow && startsWith (· = ',') rest))
  return (name, rest)

/-- What a directive line says. -/
inductive Directive where
  | version (major minor : Nat)
  | tag (handle : String) (stem : String)
  deriving Repr, DecidableEq

def number? (s : Script) : Option (Nat × Script) :=
  let (digits, rest) := spanChars Char.isDigit s
  if digits.isEmpty || 9 < digits.length then none
  else some (Nat.ofDigitChars 10 digits 0, rest)

def version? (s : Script) : Option (Directive × Script) := do
  let (major, rest) ← number? s
  guard (startsWith (· = '.') rest)
  let (minor, rest) ← number? rest.tail
  return (.version major minor, rest)

def tagDirective? (s : Script) : Option (Directive × Script) := do
  let (front, rest) ← handle? s
  guard (front = "!" || isHandle front)
  guard (startsWith isBlank rest)
  let (stem, rest) ← uri? isFullUri (skipChars isBlank rest)
  guard (stem ≠ "" && atGap rest)
  return (.tag front stem, rest)

/-- A directive behind its percent sign, with the end of its line. -/
def directive? (s : Script) : Option (Directive × Script) := do
  let (name, rest) := spanChars isWord s
  guard (atGap rest)
  let rest := skipChars isBlank rest
  let (directive, rest) ←
    if name = "YAML".toList then version? rest
    else if name = "TAG".toList then tagDirective? rest
    else none
  let rest := skipChars isBlank rest
  let rest := if startsWith (· = '#') rest then skipChars (!isBreak ·) rest else rest
  guard (atLineEnd rest)
  return (directive, rest.tail)

end LeagueRoster.Yaml
