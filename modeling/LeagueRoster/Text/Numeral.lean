/-!
Numbers as text, and the blanks around them. Blank characters are those with the Unicode property
White_Space; a text is trimmed by dropping the blanks at both of its ends. Settings and identifiers
spell whole numbers in decimal: an optional sign and then digits. The first character that is no
digit, or at which the value leaves its range, decides which fault a spelling has; a character that
does both is no digit. Documents give characters by their code in hexadecimal digits of either
letter case.
-/
namespace LeagueRoster.Text

def blankCodes : List Nat :=
  [0x9, 0xA, 0xB, 0xC, 0xD, 0x20, 0x85, 0xA0, 0x1680, 0x2000, 0x2001, 0x2002, 0x2003, 0x2004,
    0x2005, 0x2006, 0x2007, 0x2008, 0x2009, 0x200A, 0x2028, 0x2029, 0x202F, 0x205F, 0x3000]

def isBlank (c : Char) : Bool := blankCodes.contains c.toNat

def trimChars (s : List Char) : List Char :=
  ((s.dropWhile isBlank).reverse.dropWhile isBlank).reverse

def trim (s : String) : String := String.ofList (trimChars s.toList)

inductive NumeralFault where
  | empty
  | invalidDigit
  | tooLarge
  | tooSmall
  deriving Repr, DecidableEq

def NumeralFault.message : NumeralFault → String
  | empty => "cannot parse integer from empty string"
  | invalidDigit => "invalid digit found in string"
  | tooLarge => "number too large to fit in target type"
  | tooSmall => "number too small to fit in target type"

def digit? (c : Char) : Option Nat :=
  if c.isDigit then some (c.toNat - 48) else none

/-- Reads digits behind a value already read, up to a bound. -/
def readDigits (bound : Nat) (excess : NumeralFault) : Nat → List Char → Except NumeralFault Nat
  | value, [] => .ok value
  | value, c :: rest =>
    match digit? c with
    | none => .error .invalidDigit
    | some d =>
      if bound < 10 * value + d then .error excess
      else readDigits bound excess (10 * value + d) rest

/-- A number from zero to a bound. A plus sign may stand in front. -/
def readNatural (bound : Nat) (s : List Char) : Except NumeralFault Nat :=
  match s with
  | [] => .error .empty
  | ['+'] => .error .invalidDigit
  | '+' :: digits => readDigits bound .tooLarge 0 digits
  | digits => readDigits bound .tooLarge 0 digits

/-- A number of 64 bits with its sign. -/
def readInteger (s : List Char) : Except NumeralFault Int :=
  match s with
  | [] => .error .empty
  | ['-'] => .error .invalidDigit
  | '-' :: digits => (readDigits (UInt64.size / 2) .tooSmall 0 digits).map fun n => -(n : Int)
  | digits => (readNatural (UInt64.size / 2 - 1) digits).map fun n => (n : Int)

def parseUInt32 (s : String) : Except NumeralFault UInt32 :=
  (readNatural (UInt32.size - 1) s.toList).map UInt32.ofNat

def parseUInt64 (s : String) : Except NumeralFault UInt64 :=
  (readNatural (UInt64.size - 1) s.toList).map UInt64.ofNat

def parseInt64 (s : String) : Except NumeralFault Int64 :=
  (readInteger s.toList).map Int64.ofInt

def decimalChars (n : Int) : List Char :=
  if n < 0 then '-' :: Nat.toDigits 10 n.natAbs else Nat.toDigits 10 n.natAbs

def decimal (n : Int) : String := String.ofList (decimalChars n)

/-- As many numbers as 128 bits can tell apart. -/
def wideSize : Nat := UInt64.size * UInt64.size

/-- The least value that is nearer to infinity than to the largest double. -/
def beyondDoubles : Nat := Nat.pow 2 1024 - Nat.pow 2 970

/-- The value `n * 10 ^ e` is nearer to infinity than to the largest double. -/
def pastDoubles (n : Nat) (e : Int) : Bool :=
  let size : Int := (Nat.toDigits 10 n).length
  if n = 0 || size + e < 300 then false
  else if 320 < size + e then true
  else if 0 ≤ e then beyondDoubles ≤ n * Nat.pow 10 e.toNat
  else beyondDoubles * Nat.pow 10 (-e).toNat ≤ n

def hexValue? (c : Char) : Option Nat :=
  if c.isDigit then some (c.toNat - 48)
  else if 'a' ≤ c ∧ c ≤ 'f' then some (c.toNat - 87)
  else if 'A' ≤ c ∧ c ≤ 'F' then some (c.toNat - 55)
  else none

/-- The number that the first characters spell, if they are that many digits. -/
def hexNumber? (width : Nat) (s : List Char) : Option Nat := do
  let digits ← (s.take width).mapM hexValue?
  if digits.length = width then some (digits.foldl (fun n d => 16 * n + d) 0) else none

/-- Surrogates and numbers past the last code point are no characters. -/
def codePoint? (width : Nat) (s : List Char) : Option Char := do
  let n ← hexNumber? width s
  if n.isValidChar then some (Char.ofNat n) else none

end LeagueRoster.Text
