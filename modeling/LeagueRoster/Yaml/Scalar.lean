import LeagueRoster.Datum
import LeagueRoster.Text.Numeral

/-!
What a scalar without quotes stands for: nothing, a truth value, a number or a text. Whole
numbers may be written in base 16, 8 and 2; digits behind a leading zero are a text. A number
that needs more than 64 bits is unreadable up to 128 bits.
-/
namespace LeagueRoster.Yaml

def isNull (s : String) : Bool := ["~", "null", "Null", "NULL"].contains s

def bool? (s : String) : Option Bool :=
  if ["true", "True", "TRUE"].contains s then some true
  else if ["false", "False", "FALSE"].contains s then some false
  else none

/-- The number that digits of a base spell, one digit at least. -/
def digitsIn? (base : Nat) (s : List Char) : Option Nat := do
  let digits ← s.mapM Text.hexValue?
  if digits.isEmpty || digits.any (base ≤ ·) then none
  else some (digits.foldl (fun n d => base * n + d) 0)

def dropSign : List Char → List Char
  | '+' :: rest => rest
  | '-' :: rest => rest
  | s => s

/-- More digits than one, of which the first is a zero. -/
def hasLeadingZero (s : List Char) : Bool :=
  match dropSign s with
  | '0' :: d :: rest => (d :: rest).all Char.isDigit
  | _ => false

/-- A number without a sign, its base before its digits. -/
def natural? : List Char → Option Nat
  | '0' :: 'x' :: rest => digitsIn? 16 rest
  | '0' :: 'o' :: rest => digitsIn? 8 rest
  | '0' :: 'b' :: rest => digitsIn? 2 rest
  | rest => digitsIn? 10 rest

def whole? (s : List Char) : Option Datum :=
  if hasLeadingZero s then none
  else
    match s with
    | '-' :: rest => do
      let n ← natural? rest
      if n ≤ UInt64.size / 2 then some (.int (-n))
      else if n ≤ Text.wideSize / 2 then some .unreadable
      else none
    | _ => do
      let n ← natural? (if s.head? = some '+' then s.tail else s)
      if n < UInt64.size then some (.int n)
      else if n < Text.wideSize then some .unreadable
      else none

def exponent? (s : List Char) : Option Int :=
  match s with
  | [] => some 0
  | e :: rest =>
    if e = 'e' || e = 'E' then
      let size := (digitsIn? 10 (dropSign rest)).map fun n => (n : Int)
      if rest.head? = some '-' then size.map (- ·) else size
    else none

/-- A decimal within the doubles. There is a digit at least, before the point or behind it. -/
def isDecimal (s : List Char) : Bool :=
  let s := dropSign s
  let whole := s.takeWhile Char.isDigit
  let s := s.dropWhile Char.isDigit
  let behindPoint := if s.head? = some '.' then s.tail else []
  let fraction := behindPoint.takeWhile Char.isDigit
  let s := if s.head? = some '.' then behindPoint.dropWhile Char.isDigit else s
  match digitsIn? 10 (whole ++ fraction), exponent? s with
  | some n, some e => !(Text.pastDoubles n (e - fraction.length))
  | _, _ => false

/-- Infinities have a point in front and may have a sign; what is no number has none. -/
def isSpecial (s : String) : Bool :=
  [".inf", ".Inf", ".INF", "+.inf", "+.Inf", "+.INF", "-.inf", "-.Inf", "-.INF",
    ".nan", ".NaN", ".NAN"].contains s

def isReal (s : String) : Bool := isSpecial s || isDecimal s.toList

/-- What a plain scalar stands for. -/
def plainDatum (s : String) : Datum :=
  if s = "" || isNull s then .null
  else
    match bool? s, whole? s.toList with
    | some b, _ => .bool b
    | none, some d => d
    | none, none =>
      if !hasLeadingZero s.toList && isReal s then .real else .str s

/-- What a scalar of a given tag stands for. Only the tags of scalars bind a text, and any
other tag makes a text of it. -/
def taggedDatum? (tag s : String) : Option Datum :=
  match tag with
  | "tag:yaml.org,2002:null" => if isNull s then some .null else none
  | "tag:yaml.org,2002:bool" => (bool? s).map .bool
  | "tag:yaml.org,2002:int" => whole? s.toList
  | "tag:yaml.org,2002:float" => if isReal s then some .real else none
  | _ => some (.str s)

end LeagueRoster.Yaml
