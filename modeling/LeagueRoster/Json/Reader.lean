import LeagueRoster.Datum
import LeagueRoster.Text.Numeral

/-!
Reading JSON text. The grammar has to hold everywhere; what is well formed but cannot be
represented becomes an unreadable datum: a text with a lone surrogate, a number beyond the
doubles, and containers more than 127 deep. `Datum.readJson?` gives the first value of a text
and what stands behind it, and `Datum.ofJson?` wants nothing but blanks there.
-/
namespace LeagueRoster.Datum

namespace JsonText

def isJsonBlank (c : Char) : Bool := c = ' ' || c = '\n' || c = '\t' || c = '\x0d'

def skipBlanks (s : List Char) : List Char := s.dropWhile isJsonBlank

/-- A piece of a quoted text: a character, or a UTF-16 unit given by its number. -/
inductive Piece where
  | char (c : Char)
  | unit (n : Nat)
  deriving Repr, DecidableEq

def escaped? : Char → Option Char
  | '"' => some '"'
  | '\\' => some '\\'
  | '/' => some '/'
  | 'b' => some '\x08'
  | 'f' => some '\x0c'
  | 'n' => some '\n'
  | 'r' => some '\x0d'
  | 't' => some '\t'
  | _ => none

/-- The pieces up to the closing quote, and what follows it. -/
def pieces? : List Char → Option (List Piece × List Char)
  | [] => none
  | '"' :: rest => some ([], rest)
  | '\\' :: 'u' :: a :: b :: c :: d :: rest => do
    let n ← Text.hexNumber? 4 [a, b, c, d]
    let (ps, rest) ← pieces? rest
    return (.unit n :: ps, rest)
  | '\\' :: e :: rest => do
    let c ← escaped? e
    let (ps, rest) ← pieces? rest
    return (.char c :: ps, rest)
  | c :: rest =>
    if c.toNat < 0x20 then none
    else do
      let (ps, rest) ← pieces? rest
      return (.char c :: ps, rest)

def isHighSurrogate (n : Nat) : Bool := 0xD800 ≤ n && n ≤ 0xDBFF

def isLowSurrogate (n : Nat) : Bool := 0xDC00 ≤ n && n ≤ 0xDFFF

/-- The characters that pieces stand for, unless a surrogate lacks its partner. -/
def join? : List Piece → Option (List Char)
  | [] => some []
  | .char c :: rest => (join? rest).map (c :: ·)
  | .unit n :: rest =>
    if isHighSurrogate n then
      match rest with
      | .unit m :: rest =>
        if isLowSurrogate m then
          (join? rest).map (Char.ofNat (0x10000 + (n - 0xD800) * 0x400 + (m - 0xDC00)) :: ·)
        else none
      | _ => none
    else if isLowSurrogate n then none
    else (join? rest).map (Char.ofNat n :: ·)

def textOf (pieces : List Piece) : Datum :=
  match join? pieces with
  | some s => .str (String.ofList s)
  | none => .unreadable

/-- The significant digits of a number that is not whole, as far as 64 bits hold them, and the
power of ten that they are to be multiplied with. -/
structure Magnitude where
  significand : Nat
  exponent : Int
  deriving Repr, DecidableEq

/-- Takes digits in until one does not fit; the rest are dropped, each moving the exponent by
the second of the given amounts and the others by the first. -/
def Magnitude.take (kept dropped : Int) (full : Bool) (m : Magnitude) : List Char → Magnitude
  | [] => m
  | c :: rest =>
    let value := 10 * m.significand + (c.toNat - 48)
    if full || UInt64.size ≤ value then
      take kept dropped true { m with exponent := m.exponent + dropped } rest
    else take kept dropped false ⟨value, m.exponent + kept⟩ rest

/-- The nearest number of 53 significant bits, a tie going to the even one. -/
def roundToDouble (n : Nat) : Nat :=
  if n < Nat.pow 2 53 then n
  else
    let unit := Nat.pow 2 (n.log2 - 52)
    let low := n / unit
    let rest := n % unit
    let up := unit < 2 * rest || (2 * rest = unit && low % 2 = 1)
    (if up then low + 1 else low) * unit

/-- The product of the two factors, each a double, is past the largest double. -/
def Magnitude.overflows (m : Magnitude) : Bool :=
  m.significand ≠ 0 && 0 ≤ m.exponent &&
    (309 ≤ m.exponent ||
      Text.beyondDoubles ≤
        roundToDouble m.significand * roundToDouble (Nat.pow 10 m.exponent.toNat))

def spanDigits (s : List Char) : List Char × List Char :=
  (s.takeWhile Char.isDigit, s.dropWhile Char.isDigit)

/-- The digits behind a decimal point, none if there is no point. -/
def fraction? (s : List Char) : Option (List Char × List Char) :=
  match s with
  | '.' :: rest =>
    match spanDigits rest with
    | ([], _) => none
    | (digits, rest) => some (digits, rest)
  | _ => some ([], s)

/-- The exponent, none if there is no mark of one. -/
def exponent? (s : List Char) : Option (Option Int × List Char) :=
  match s with
  | 'e' :: rest | 'E' :: rest =>
    let (sign, rest) : Int × List Char :=
      match rest with
      | '-' :: rest => (-1, rest)
      | '+' :: rest => (1, rest)
      | _ => (1, rest)
    match spanDigits rest with
    | ([], _) => none
    | (digits, rest) => some (some (sign * (Nat.ofDigitChars 10 digits 0 : Nat)), rest)
  | _ => some (none, s)

/-- The digits before the point: a zero that stands first stands alone. -/
def wholeDigits? (s : List Char) : Option (List Char × List Char) :=
  match spanDigits s with
  | ([], _) => none
  | ('0' :: _ :: _, _) => none
  | found => some found

def numberOf (negative : Bool) (whole fraction : List Char) (exponent : Option Int) : Datum :=
  let n := Nat.ofDigitChars 10 whole 0
  let isWhole := fraction.isEmpty && exponent.isNone
  if isWhole && !negative && n < UInt64.size then .int n
  else if isWhole && negative && n ≠ 0 && n ≤ UInt64.size / 2 then .int (-n)
  else
    let m := (Magnitude.take 0 1 false ⟨0, 0⟩ whole).take (-1) 0 false fraction
    if Magnitude.overflows { m with exponent := m.exponent + exponent.getD 0 } then .unreadable
    else .real

def number? (s : List Char) : Option (Datum × List Char) := do
  let (negative, s) : Bool × List Char :=
    match s with
    | '-' :: rest => (true, rest)
    | _ => (false, s)
  let (whole, s) ← wholeDigits? s
  let (fraction, s) ← fraction? s
  let (exponent, s) ← exponent? s
  return (numberOf negative whole fraction exponent, s)

mutual

/-- A value, with the number of container levels that may still be opened. -/
def value? : Nat → Nat → List Char → Option (Datum × List Char)
  | 0, _, _ => none
  | fuel + 1, levels, s =>
    match skipBlanks s with
    | '"' :: rest => do
      let (ps, rest) ← pieces? rest
      return (textOf ps, rest)
    | '[' :: rest => do
      let (items, rest) ← items? fuel (levels - 1) rest
      return (if levels = 0 then .unreadable else .seq items, rest)
    | '{' :: rest => do
      let (entries, rest) ← entries? fuel (levels - 1) rest
      return (if levels = 0 then .unreadable else .map entries, rest)
    | 'n' :: 'u' :: 'l' :: 'l' :: rest => some (.null, rest)
    | 't' :: 'r' :: 'u' :: 'e' :: rest => some (.bool true, rest)
    | 'f' :: 'a' :: 'l' :: 's' :: 'e' :: rest => some (.bool false, rest)
    | rest => number? rest
  termination_by structural fuel => fuel

def items? : Nat → Nat → List Char → Option (List Datum × List Char)
  | 0, _, _ => none
  | fuel + 1, levels, s =>
    match skipBlanks s with
    | ']' :: rest => some ([], rest)
    | rest => moreItems? fuel levels rest
  termination_by structural fuel => fuel

/-- One item at least. -/
def moreItems? : Nat → Nat → List Char → Option (List Datum × List Char)
  | 0, _, _ => none
  | fuel + 1, levels, s => do
    let (item, rest) ← value? fuel levels s
    match skipBlanks rest with
    | ']' :: rest => some ([item], rest)
    | ',' :: rest =>
      let (items, rest) ← moreItems? fuel levels rest
      return (item :: items, rest)
    | _ => none
  termination_by structural fuel => fuel

def entries? : Nat → Nat → List Char → Option (List (Datum × Datum) × List Char)
  | 0, _, _ => none
  | fuel + 1, levels, s =>
    match skipBlanks s with
    | '}' :: rest => some ([], rest)
    | rest => moreEntries? fuel levels rest
  termination_by structural fuel => fuel

/-- One entry at least. -/
def moreEntries? : Nat → Nat → List Char → Option (List (Datum × Datum) × List Char)
  | 0, _, _ => none
  | fuel + 1, levels, s =>
    match skipBlanks s with
    | '"' :: rest => do
      let (ps, rest) ← pieces? rest
      match skipBlanks rest with
      | ':' :: rest =>
        let (value, rest) ← value? fuel levels rest
        match skipBlanks rest with
        | '}' :: rest => some ([(textOf ps, value)], rest)
        | ',' :: rest =>
          let (entries, rest) ← moreEntries? fuel levels rest
          return ((textOf ps, value) :: entries, rest)
        | _ => none
      | _ => none
    | _ => none
  termination_by structural fuel => fuel

end

end JsonText

/-- The first value of a text, and the rest. Three times the length is fuel enough, since of
three calls in a row one at least consumes a character. -/
def readJson? (s : List Char) : Option (Datum × List Char) :=
  JsonText.value? (3 * s.length + 3) 127 s

def ofJson? (text : String) : Option Datum :=
  match readJson? text.toList with
  | some (d, rest) => if (JsonText.skipBlanks rest).isEmpty then some d else none
  | none => none

end LeagueRoster.Datum
