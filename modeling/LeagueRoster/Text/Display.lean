import LeagueRoster.Text.Numeral

/-!
Text as a report shows it. Of an amount the sign stands in front of the dollar, and a single player
is not plural. Columns are measured in characters: a text too long for its column loses its end to
an ellipsis of three dots, and a short one is filled up with blanks, on the right or on the left.
Styles are ANSI sequences: the codes in front, one sequence each, and a reset behind. With styling
off a text stays as it is.
-/
namespace LeagueRoster.Text

def money (amount : Int) : String :=
  if amount < 0 then "-$" ++ decimal amount.natAbs else "$" ++ decimal amount

def playerCount (count : Nat) : String :=
  if count = 1 then "1 player" else decimal count ++ " players"

/-- At most so many characters, but never less than the ellipsis once something is cut. -/
def truncate (s : String) (width : Nat) : String :=
  if s.toList.length ≤ width then s
  else if width < 3 then "..."
  else String.ofList (s.toList.take (width - 3) ++ ['.', '.', '.'])

def blanks (count : Nat) : String := String.ofList (List.replicate count ' ')

def padRight (width : Nat) (s : String) : String := s ++ blanks (width - s.toList.length)

def padLeft (width : Nat) (s : String) : String := blanks (width - s.toList.length) ++ s

inductive Styling where
  | off
  | on
  deriving Repr, DecidableEq

inductive Style where
  | bold
  | dim
  | red
  | green
  | yellow
  | cyan
  deriving Repr, DecidableEq

def Style.code : Style → Nat
  | bold => 1
  | dim => 2
  | red => 31
  | green => 32
  | yellow => 33
  | cyan => 36

def ansiSequence (code : Nat) : List Char := '\x1b' :: '[' :: Nat.toDigits 10 code ++ ['m']

def ansiReset : List Char := ansiSequence 0

def paint (styling : Styling) (styles : List Style) (s : String) : String :=
  match styling with
  | .off => s
  | .on =>
    String.ofList ((styles.flatMap fun style => ansiSequence style.code) ++ s.toList ++ ansiReset)

/-- Takes a style up again behind each reset within a text. -/
def resume (style : List Char) : List Char → List Char
  | [] => []
  | '\x1b' :: '[' :: '0' :: 'm' :: rest => ansiReset ++ style ++ resume style rest
  | c :: rest => c :: resume style rest

/-- Paint that a reset within the text does not end. -/
def paintThrough (styling : Styling) (style : Style) (s : String) : String :=
  match styling with
  | .off => s
  | .on => paint .on [style] (String.ofList (resume (ansiSequence style.code) s.toList))

end LeagueRoster.Text
