import LeagueRoster.Text.Numeral

/-!
An instant as text: date and time of day in UTC by the Gregorian calendar, with as many groups
of three decimals of a second as it needs.
-/
namespace LeagueRoster.Text

def daysOfYear (year : Nat) : Nat :=
  if year % 4 = 0 && (year % 100 ≠ 0 || year % 400 = 0) then 366 else 365

def daysOfMonth (year month : Nat) : Nat :=
  if month = 2 then daysOfYear year - 337
  else if month = 4 || month = 6 || month = 9 || month = 11 then 30
  else 31

/-- The year, and the day in it counted from zero, so many days after the start of a year. -/
def yearOf : Nat → Nat → Nat → Nat × Nat
  | 0, year, days => (year, days)
  | fuel + 1, year, days =>
    if days < daysOfYear year then (year, days) else yearOf fuel (year + 1) (days - daysOfYear year)

def monthOf (year : Nat) : Nat → Nat → Nat → Nat × Nat
  | 0, month, days => (month, days)
  | fuel + 1, month, days =>
    if days < daysOfMonth year month then (month, days)
    else monthOf year fuel (month + 1) (days - daysOfMonth year month)

def padded (width n : Nat) : String :=
  let digits := Nat.toDigits 10 n
  String.ofList (List.replicate (width - digits.length) '0' ++ digits)

def secondFraction (nanoseconds : Nat) : String :=
  if nanoseconds = 0 then ""
  else if nanoseconds % 1000000 = 0 then "." ++ padded 3 (nanoseconds / 1000000)
  else if nanoseconds % 1000 = 0 then "." ++ padded 6 (nanoseconds / 1000)
  else "." ++ padded 9 nanoseconds

/-- The instant so many seconds and nanoseconds after the start of 1970. -/
def instant (seconds nanoseconds : Nat) : String :=
  let days := seconds / 86400
  let (year, days) := yearOf days 1970 days
  let (month, day) := monthOf year 11 1 days
  let rest := seconds % 86400
  padded 4 year ++ "-" ++ padded 2 month ++ "-" ++ padded 2 (day + 1) ++ "T" ++
    padded 2 (rest / 3600) ++ ":" ++ padded 2 (rest / 60 % 60) ++ ":" ++ padded 2 (rest % 60) ++
    secondFraction nanoseconds ++ "Z"

end LeagueRoster.Text
