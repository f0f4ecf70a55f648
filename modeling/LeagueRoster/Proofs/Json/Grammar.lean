import LeagueRoster.Proofs.Json.Spelling

/-!
The grammar of JSON, apart from any reader of it. A value of the grammar denotes a datum: the texts
and numbers in it as far as they can be represented, and the containers as deep as the levels that
are left. Blanks stand around every token of a container.
-/
namespace LeagueRoster.Datum.JsonText

open Json (AllBlank Padded)

def IsDigits (s : List Char) : Prop := s ≠ [] ∧ ∀ c ∈ s, c.isDigit

/-- The digits in front of a point. A zero that stands first stands alone. -/
def IsWhole (s : List Char) : Prop := IsDigits s ∧ (s.head? = some '0' → s = ['0'])

inductive IsFraction : List Char → List Char → Prop
  | absent : IsFraction [] []
  | present {digits : List Char} (h : IsDigits digits) : IsFraction ('.' :: digits) digits

inductive IsSign : List Char → Int → Prop
  | absent : IsSign [] 1
  | plus : IsSign ['+'] 1
  | minus : IsSign ['-'] (-1)

inductive IsExponent : List Char → Option Int → Prop
  | absent : IsExponent [] none
  | present {mark : Char} {signText digits : List Char} {sign : Int}
      (hmark : mark = 'e' ∨ mark = 'E') (hsign : IsSign signText sign) (h : IsDigits digits) :
      IsExponent (mark :: (signText ++ digits)) (some (sign * (Nat.ofDigitChars 10 digits 0 : Nat)))

/-- A number without its sign, to be read as one that has or has not a minus in front. -/
inductive IsUnsigned (negative : Bool) : List Char → Datum → Prop
  | mk {whole point fraction power : List Char} {exponent : Option Int} (hwhole : IsWhole whole)
      (hpoint : IsFraction point fraction) (hpower : IsExponent power exponent) :
      IsUnsigned negative (whole ++ (point ++ power)) (numberOf negative whole fraction exponent)

inductive IsNumber : List Char → Datum → Prop
  | plain {s : List Char} {d : Datum} (h : IsUnsigned false s d) : IsNumber s d
  | minus {s : List Char} {d : Datum} (h : IsUnsigned true s d) : IsNumber ('-' :: s) d

/-- What stands between two quotes, piece by piece. -/
inductive IsQuoted : List Char → List Piece → Prop
  | nil : IsQuoted [] []
  | plain {c : Char} {s : List Char} {ps : List Piece} (hquote : c ≠ '"') (hslash : c ≠ '\\')
      (hcode : 0x20 ≤ c.toNat) (h : IsQuoted s ps) : IsQuoted (c :: s) (.char c :: ps)
  | letter {e c : Char} {s : List Char} {ps : List Piece} (he : escaped? e = some c)
      (h : IsQuoted s ps) : IsQuoted ('\\' :: e :: s) (.char c :: ps)
  | number {a b c d : Char} {n : Nat} {s : List Char} {ps : List Piece}
      (hn : Text.hexNumber? 4 [a, b, c, d] = some n) (h : IsQuoted s ps) :
      IsQuoted ('\\' :: 'u' :: a :: b :: c :: d :: s) (.unit n :: ps)

/-- A text in its quotes. -/
def IsText (ps : List Piece) (s : List Char) : Prop :=
  ∃ body, IsQuoted body ps ∧ s = '"' :: body ++ ['"']

mutual

/-- A value, of which that many levels of containers can be represented. -/
inductive IsValue : Nat → List Char → Datum → Prop
  | null {levels : Nat} : IsValue levels ['n', 'u', 'l', 'l'] .null
  | yes {levels : Nat} : IsValue levels ['t', 'r', 'u', 'e'] (.bool true)
  | no {levels : Nat} : IsValue levels ['f', 'a', 'l', 's', 'e'] (.bool false)
  | text {levels : Nat} {s : List Char} {ps : List Piece} (h : IsText ps s) :
      IsValue levels s (textOf ps)
  | number {levels : Nat} {s : List Char} {d : Datum} (h : IsNumber s d) : IsValue levels s d
  | seq {levels : Nat} {s : List Char} {ds : List Datum} (h : IsItems (levels - 1) s ds) :
      IsValue levels ('[' :: s ++ [']']) (if levels = 0 then .unreadable else .seq ds)
  | map {levels : Nat} {s : List Char} {es : List (Datum × Datum)}
      (h : IsEntries (levels - 1) s es) :
      IsValue levels ('{' :: s ++ ['}']) (if levels = 0 then .unreadable else .map es)

/-- The items of a sequence, with commas between them. -/
inductive IsItems : Nat → List Char → List Datum → Prop
  | none {levels : Nat} {w : List Char} (hw : AllBlank w) : IsItems levels w []
  | last {levels : Nat} {w t w' : List Char} {d : Datum} (hw : AllBlank w)
      (ht : IsValue levels t d) (hw' : AllBlank w') : IsItems levels (w ++ t ++ w') [d]
  | more {levels : Nat} {w t w' u : List Char} {d d' : Datum} {ds : List Datum} (hw : AllBlank w)
      (ht : IsValue levels t d) (hw' : AllBlank w') (hu : IsItems levels u (d' :: ds)) :
      IsItems levels (w ++ t ++ w' ++ ',' :: u) (d :: d' :: ds)

/-- The entries of a map, with commas between them and a colon behind every key. -/
inductive IsEntries : Nat → List Char → List (Datum × Datum) → Prop
  | none {levels : Nat} {w : List Char} (hw : AllBlank w) : IsEntries levels w []
  | last {levels : Nat} {name t : List Char} {w w' : List Char} {ps : List Piece} {d : Datum}
      (hname : Padded (IsText ps) name)
      (hw : AllBlank w) (ht : IsValue levels t d) (hw' : AllBlank w') :
      IsEntries levels (name ++ ':' :: (w ++ t ++ w')) [(textOf ps, d)]
  | more {levels : Nat} {name t : List Char} {w w' u : List Char} {ps : List Piece} {d : Datum}
      {e : Datum × Datum} {es : List (Datum × Datum)}
      (hname : Padded (IsText ps) name)
      (hw : AllBlank w) (ht : IsValue levels t d) (hw' : AllBlank w')
      (hu : IsEntries levels u (e :: es)) :
      IsEntries levels (name ++ ':' :: (w ++ t ++ w' ++ ',' :: u)) ((textOf ps, d) :: e :: es)

end

end LeagueRoster.Datum.JsonText

namespace LeagueRoster

open Datum.JsonText

/-- The text is a JSON document of the datum: a value that stands, blanks apart, alone. A container
can be represented down to 127 levels. -/
def Datum.IsDocument (d : Datum) (text : String) : Prop :=
  Json.Padded (fun t => IsValue 127 t d) text.toList

end LeagueRoster
