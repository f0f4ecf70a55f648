import LeagueRoster.Datum
import LeagueRoster.Text.Numeral
import LeagueRoster.Toml.Quoted

/-!
Numbers, truth values and moments of time in TOML. Underscores may separate digits. A whole
number that no setting can hold is unreadable up to 128 bits and refused beyond, and so is a
number past the doubles. A moment of time is a record whose one entry has no name of ours.
-/
namespace LeagueRoster.Toml

/-- Digits with single underscores between them, and the rest. -/
def digits? (isDigit : Char → Bool) : List Char → Option (List Char × List Char)
  | [] => none
  | c :: rest =>
    if !isDigit c then none
    else
      match rest with
      | '_' :: more => (digits? isDigit more).map fun found => (c :: found.1, found.2)
      | d :: more =>
        if isDigit d then (digits? isDigit (d :: more)).map fun found => (c :: found.1, found.2)
        else some ([c], d :: more)
      | [] => some ([c], [])

def wholeNumber (negative : Bool) (n : Nat) : Option Datum :=
  if !negative && n < UInt64.size then some (.int n)
  else if negative && n ≤ UInt64.size / 2 then some (.int (-n))
  else if !negative && n < Text.wideSize || negative && n ≤ Text.wideSize / 2 then some .unreadable
  else none

/-- A number in another base, written behind its mark and without a sign. -/
def basedNumber? (base : Nat) (s : List Char) : Option (Datum × List Char) := do
  let inBase (c : Char) : Bool := match Text.hexValue? c with
    | some d => d < base
    | none => false
  let (digits, rest) ← digits? inBase s
  let n := digits.foldl (fun n c => base * n + (Text.hexValue? c).getD 0) 0
  return (← wholeNumber false n, rest)

def fraction? (s : List Char) : Option (List Char × List Char) :=
  match s with
  | '.' :: rest => digits? Char.isDigit rest
  | _ => some ([], s)

def exponent? (s : List Char) : Option (Option Int × List Char) :=
  match s with
  | 'e' :: '-' :: rest | 'E' :: '-' :: rest => signed (-1) rest
  | 'e' :: '+' :: rest | 'E' :: '+' :: rest => signed 1 rest
  | 'e' :: rest | 'E' :: rest => signed 1 rest
  | _ => some (none, s)
where
  signed (sign : Int) (s : List Char) : Option (Option Int × List Char) :=
    (digits? Char.isDigit s).map fun found =>
      (some (sign * (Nat.ofDigitChars 10 found.1 0 : Nat)), found.2)

def decimalNumber? (negative : Bool) (s : List Char) : Option (Datum × List Char) := do
  let (whole, s) ← digits? Char.isDigit s
  guard (whole.length = 1 || whole.head? ≠ some '0')
  let (fraction, s) ← fraction? s
  let (exponent, s) ← exponent? s
  if fraction.isEmpty && exponent.isNone then
    return (← wholeNumber negative (Nat.ofDigitChars 10 whole 0), s)
  else
    let n := Nat.ofDigitChars 10 (whole ++ fraction) 0
    guard !(Text.pastDoubles n (exponent.getD 0 - fraction.length))
    return (.real, s)

def unsigned? (negative : Bool) : List Char → Option (Datum × List Char)
  | 'i' :: 'n' :: 'f' :: rest => some (.real, rest)
  | 'n' :: 'a' :: 'n' :: rest => some (.real, rest)
  | rest => decimalNumber? negative rest

def number? : List Char → Option (Datum × List Char)
  | '+' :: rest => unsigned? false rest
  | '-' :: rest => unsigned? true rest
  | '0' :: 'x' :: rest => basedNumber? 16 rest
  | '0' :: 'o' :: rest => basedNumber? 8 rest
  | '0' :: 'b' :: rest => basedNumber? 2 rest
  | rest => unsigned? false rest

/-- A number of so many digits, from one bound to another. -/
def field? (width low high : Nat) (s : List Char) : Option (Nat × List Char) := do
  let digits := s.take width
  guard (digits.length = width && digits.all Char.isDigit)
  let n := Nat.ofDigitChars 10 digits 0
  guard (low ≤ n && n ≤ high)
  return (n, s.drop width)

def expect? (c : Char) : List Char → Option (List Char)
  | d :: rest => if c = d then some rest else none
  | [] => none

def isLeapYear (year : Nat) : Bool := year % 4 = 0 && (year % 100 ≠ 0 || year % 400 = 0)

def daysOf (year month : Nat) : Nat :=
  if month = 2 then (if isLeapYear year then 29 else 28)
  else if month = 4 || month = 6 || month = 9 || month = 11 then 30
  else 31

def date? (s : List Char) : Option (List Char) := do
  let (year, s) ← field? 4 0 9999 s
  let (month, s) ← field? 2 1 12 (← expect? '-' s)
  let (_, s) ← field? 2 1 (daysOf year month) (← expect? '-' s)
  return s

/-- Seconds may be left out, and a fraction of them has at least one digit. -/
def time? (s : List Char) : Option (List Char) := do
  let (_, s) ← field? 2 0 23 s
  let (_, s) ← field? 2 0 59 (← expect? ':' s)
  match s with
  | ':' :: s =>
    let (_, s) ← field? 2 0 60 s
    match s with
    | '.' :: s =>
      guard !(s.takeWhile Char.isDigit).isEmpty
      return s.dropWhile Char.isDigit
    | s => return s
  | s => return s

def offset? : List Char → Option (List Char)
  | 'Z' :: rest | 'z' :: rest => some rest
  | '+' :: rest | '-' :: rest => do
    let (_, rest) ← field? 2 0 23 rest
    let (_, rest) ← field? 2 0 59 (← expect? ':' rest)
    return rest
  | rest => some rest

/-- A date, a time of day, or both with a `T` or a blank between them. -/
def moment? (s : List Char) : Option (List Char) :=
  match date? s with
  | some rest =>
    match rest with
    | 'T' :: rest | 't' :: rest => time? rest >>= offset?
    | ' ' :: d :: more => if d.isDigit then time? (d :: more) >>= offset? else some rest
    | _ => some rest
  | none => time? s

def momentDatum : Datum := .map [(.str "", .str "")]

/-- Characters that end a value without quotes. -/
def endsScalar : List Char → Bool
  | [] => true
  | c :: _ => isSpace c || c = '\n' || c = '\x0d' || c = '#' || c = ',' || c = ']' || c = '}'

def bareScalar? (s : List Char) : Option (Datum × List Char) :=
  match s with
  | 't' :: 'r' :: 'u' :: 'e' :: rest => some (.bool true, rest)
  | 'f' :: 'a' :: 'l' :: 's' :: 'e' :: rest => some (.bool false, rest)
  | _ =>
    match moment? s with
    | some rest => some (momentDatum, rest)
    | none => number? s

/-- A scalar, quoted or not. -/
def scalar? (s : List Char) : Option (Datum × List Char) :=
  match s with
  | '"' :: _ | '\'' :: _ => (text? s).map fun found => (.str found.1, found.2)
  | _ => do
    let (d, rest) ← bareScalar? s
    guard (endsScalar rest)
    return (d, rest)

end LeagueRoster.Toml
