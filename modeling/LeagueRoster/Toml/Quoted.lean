import LeagueRoster.Text.Numeral

/-!
Quoted texts and keys of TOML. A basic text has escapes and a literal text has none; three
quotes open a text over several lines, which may itself end in one or two quotes. Every
function reads from the front and returns what is left.
-/
namespace LeagueRoster.Toml

def isSpace (c : Char) : Bool := c = ' ' || c = '\t'

def skipSpace (s : List Char) : List Char := s.dropWhile isSpace

/-- Control characters, the tab apart, stand neither in texts nor in comments. -/
def isPrintable (c : Char) : Bool := c = '\t' || (0x20 ≤ c.toNat && c.toNat ≠ 0x7F)

def newline? : List Char → Option (List Char)
  | '\n' :: rest => some rest
  | '\x0d' :: '\n' :: rest => some rest
  | _ => none

/-- The character whose code is written in that many hexadecimal digits. -/
def codePoint? (width : Nat) (s : List Char) : Option (Char × List Char) :=
  (Text.codePoint? width s).map fun c => (c, s.drop width)

def escaped? : List Char → Option (Char × List Char)
  | 'b' :: rest => some ('\x08', rest)
  | 't' :: rest => some ('\t', rest)
  | 'n' :: rest => some ('\n', rest)
  | 'f' :: rest => some ('\x0c', rest)
  | 'r' :: rest => some ('\x0d', rest)
  | 'e' :: rest => some ('\x1b', rest)
  | '"' :: rest => some ('"', rest)
  | '\\' :: rest => some ('\\', rest)
  | 'x' :: rest => codePoint? 2 rest
  | 'u' :: rest => codePoint? 4 rest
  | 'U' :: rest => codePoint? 8 rest
  | _ => none

/-- A basic text behind its opening quote. -/
def basic? : Nat → List Char → Option (List Char × List Char)
  | 0, _ => none
  | _, [] => none
  | _, '"' :: rest => some ([], rest)
  | fuel + 1, '\\' :: rest => do
    let (c, rest) ← escaped? rest
    let (text, rest) ← basic? fuel rest
    return (c :: text, rest)
  | fuel + 1, c :: rest => do
    guard (isPrintable c)
    let (text, rest) ← basic? fuel rest
    return (c :: text, rest)

def literal? : List Char → Option (List Char × List Char)
  | [] => none
  | '\'' :: rest => some ([], rest)
  | c :: rest => do
    guard (isPrintable c)
    let (text, rest) ← literal? rest
    return (c :: text, rest)

/-- The quotes of a run that belong to the text, if the run closes it. -/
def closing? (quote : Char) (s : List Char) : Option (List Char × List Char) :=
  let run := s.takeWhile (· = quote)
  if run.length < 3 then none
  else
    let kept := min (run.length - 3) 2
    some (List.replicate kept quote, s.drop (kept + 3))

/-- A backslash at the end of a line takes the line break with it, and all blanks behind. -/
def foldedLine? (s : List Char) : Option (List Char) := do
  let rest ← newline? (skipSpace s)
  return rest.dropWhile fun c => isSpace c || c = '\n' || c = '\x0d'

def longBasic? : Nat → List Char → Option (List Char × List Char)
  | 0, _ => none
  | _, [] => none
  | fuel + 1, c :: rest =>
    if c = '"' then
      match closing? '"' (c :: rest) with
      | some found => some found
      | none => next fuel c rest
    else if c = '\\' then
      match foldedLine? rest with
      | some rest => longBasic? fuel rest
      | none => do
        let (e, rest) ← escaped? rest
        next fuel e rest
    else
      match newline? (c :: rest) with
      | some rest => next fuel '\n' rest
      | none => if isPrintable c then next fuel c rest else none
where
  next (fuel : Nat) (c : Char) (rest : List Char) : Option (List Char × List Char) :=
    (longBasic? fuel rest).map fun found => (c :: found.1, found.2)

def longLiteral? : Nat → List Char → Option (List Char × List Char)
  | 0, _ => none
  | _, [] => none
  | fuel + 1, c :: rest =>
    match closing? '\'' (c :: rest), newline? (c :: rest) with
    | some found, _ => some found
    | none, some rest => (longLiteral? fuel rest).map fun found => ('\n' :: found.1, found.2)
    | none, none =>
      if isPrintable c then (longLiteral? fuel rest).map fun found => (c :: found.1, found.2)
      else none

/-- A line break right behind the opening quotes is not part of the text. -/
def afterOpening (s : List Char) : List Char := (newline? s).getD s

/-- The characters of a text of any of the four sorts. -/
def textChars? (s : List Char) : Option (List Char × List Char) :=
  match s with
  | '"' :: '"' :: '"' :: rest => longBasic? (rest.length + 1) (afterOpening rest)
  | '\'' :: '\'' :: '\'' :: rest => longLiteral? (rest.length + 1) (afterOpening rest)
  | '"' :: rest => basic? (rest.length + 1) rest
  | '\'' :: rest => literal? rest
  | _ => none

def text? (s : List Char) : Option (String × List Char) :=
  (textChars? s).map fun found => (String.ofList found.1, found.2)

def isBareKey (c : Char) : Bool := c.isAlphanum || c = '_' || c = '-'

/-- A key of one part: bare, or a quoted text of one line. -/
def simpleKey? (s : List Char) : Option (String × List Char) :=
  match s with
  | '"' :: '"' :: '"' :: _ => none
  | '\'' :: '\'' :: '\'' :: _ => none
  | '"' :: _ | '\'' :: _ => text? s
  | _ =>
    match s.takeWhile isBareKey with
    | [] => none
    | key => some (String.ofList key, s.dropWhile isBareKey)

/-- The parts of a key, with dots between them. -/
def key? : Nat → List Char → Option (List String × List Char)
  | 0, _ => none
  | fuel + 1, s => do
    let (part, rest) ← simpleKey? (skipSpace s)
    match skipSpace rest with
    | '.' :: rest =>
      let (parts, rest) ← key? fuel rest
      return (part :: parts, rest)
    | rest => return ([part], rest)

end LeagueRoster.Toml
