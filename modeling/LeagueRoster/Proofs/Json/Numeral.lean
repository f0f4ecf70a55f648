import LeagueRoster.Proofs.Json.Grammar
import LeagueRoster.Proofs.Text.Decimal

/-!
The reader of numbers takes a number of the grammar, and takes it whole (`number?_append`,
`isNumber_of_number?`), if what follows does not continue it. The decimal digits of a whole number
are one, which is read back if it fits 64 bits, with or without a sign
(`numberRead_of_representable`).
-/
namespace LeagueRoster.Datum.JsonText

/-- A row of digits ends in front of the text. -/
def DigitsEnd (rest : List Char) : Prop := ∀ c ∈ rest.head?, c.isDigit = false

/-- A number ends in front of the text. -/
def Delimited (rest : List Char) : Prop :=
  ∀ c ∈ rest.head?, c.isDigit = false ∧ c ≠ '.' ∧ c ≠ 'e' ∧ c ≠ 'E'

theorem digitsEnd_of_delimited {rest : List Char} (h : Delimited rest) : DigitsEnd rest :=
  fun c hc => (h c hc).1

theorem digitsEnd_cons {c : Char} (h : c.isDigit = false) (s : List Char) : DigitsEnd (c :: s) := by
  intro c' hc'
  obtain rfl : c = c' := Option.some.inj hc'
  exact h

section Parts

variable {s rest : List Char}

theorem spanDigits_append {digits : List Char} (hdigits : ∀ c ∈ digits, c.isDigit)
    (h : DigitsEnd rest) : spanDigits (digits ++ rest) = (digits, rest) := by
  unfold spanDigits
  rw [List.takeWhile_append_of_pos hdigits, List.dropWhile_append_of_pos hdigits]
  cases rest with
  | nil => simp
  | cons c rest =>
    have hc : c.isDigit = false := h c rfl
    simp [hc]

theorem eq_append_of_spanDigits {digits : List Char} (h : spanDigits s = (digits, rest)) :
    (∀ c ∈ digits, c.isDigit) ∧ s = digits ++ rest := by
  obtain ⟨rfl, rfl⟩ := Prod.mk.inj h
  exact ⟨List.all_eq_true.mp List.all_takeWhile, List.takeWhile_append_dropWhile.symm⟩

theorem wholeDigits?_append {whole : List Char} (hwhole : IsWhole whole) (h : DigitsEnd rest) :
    wholeDigits? (whole ++ rest) = some (whole, rest) := by
  obtain ⟨⟨hne, hdigits⟩, hzero⟩ := hwhole
  unfold wholeDigits?
  rw [spanDigits_append hdigits h]
  split
  · next heq => exact absurd (Prod.mk.inj heq).1 hne
  · next heq =>
    rw [(Prod.mk.inj heq).1] at hzero
    exact absurd (hzero rfl) (by simp)
  · rfl

theorem isWhole_of_wholeDigits? {whole : List Char} (h : wholeDigits? s = some (whole, rest)) :
    IsWhole whole ∧ s = whole ++ rest := by
  unfold wholeDigits? at h
  split at h
  · exact absurd h (by simp)
  · exact absurd h (by simp)
  · next hempty hzero =>
    obtain ⟨hdigits, hs⟩ := eq_append_of_spanDigits (Option.some.inj h)
    rw [Option.some.inj h] at hempty hzero
    refine ⟨⟨⟨?_, hdigits⟩, ?_⟩, hs⟩
    · rintro rfl
      exact hempty _ rfl
    · intro hhead
      match whole, hhead with
      | [_], rfl => rfl
      | _ :: _ :: _, rfl => exact absurd rfl (hzero _ _ _)

theorem fraction?_append {point fraction : List Char} (hpoint : IsFraction point fraction)
    (h : DigitsEnd rest) (hdot : ∀ c ∈ rest.head?, c ≠ '.') :
    fraction? (point ++ rest) = some (fraction, rest) := by
  cases hpoint with
  | absent =>
    rw [List.nil_append]
    unfold fraction?
    split
    · exact absurd rfl (hdot '.' rfl)
    · rfl
  | present hdigits =>
    obtain ⟨hne, hdigits⟩ := hdigits
    rw [List.cons_append, fraction?, spanDigits_append hdigits h]
    split
    · next heq => exact absurd (Prod.mk.inj heq).1 hne
    · next heq => rw [← (Prod.mk.inj heq).1, ← (Prod.mk.inj heq).2]

theorem isFraction_of_fraction? {fraction : List Char} (h : fraction? s = some (fraction, rest)) :
    ∃ point, IsFraction point fraction ∧ s = point ++ rest := by
  unfold fraction? at h
  split at h
  · split at h
    · exact absurd h (by simp)
    · next hempty heq =>
      obtain ⟨rfl, rfl⟩ := Prod.mk.inj (Option.some.inj h)
      obtain ⟨hdigits, hs⟩ := eq_append_of_spanDigits heq
      exact ⟨_, .present ⟨hempty, hdigits⟩, by rw [hs, List.cons_append]⟩
  · obtain ⟨rfl, rfl⟩ := Prod.mk.inj (Option.some.inj h)
    exact ⟨[], .absent, rfl⟩

/-- The sign in front of the digits of an exponent. -/
def splitSign (s : List Char) : Int × List Char :=
  match s with
  | '-' :: rest => (-1, rest)
  | '+' :: rest => (1, rest)
  | _ => (1, s)

/-- What stands behind the mark of an exponent. -/
def power? (s : List Char) : Option (Option Int × List Char) :=
  match spanDigits (splitSign s).2 with
  | ([], _) => none
  | (digits, rest) =>
    some (some ((splitSign s).1 * (Nat.ofDigitChars 10 digits 0 : Nat)), rest)

theorem exponent?_mark {mark : Char} (h : mark = 'e' ∨ mark = 'E') (s : List Char) :
    exponent? (mark :: s) = power? s := by
  rcases h with rfl | rfl <;> rfl

theorem exponent?_of_ne_mark (h : ∀ c ∈ s.head?, c ≠ 'e' ∧ c ≠ 'E') :
    exponent? s = some (none, s) := by
  unfold exponent?
  split
  · exact absurd rfl (h 'e' rfl).1
  · exact absurd rfl (h 'E' rfl).2
  · rfl

theorem splitSign_append {signText : List Char} {sign : Int} (hsign : IsSign signText sign)
    (hs : ∀ c ∈ s.head?, c.isDigit) : splitSign (signText ++ s) = (sign, s) := by
  cases hsign with
  | plus => rfl
  | minus => rfl
  | absent =>
    rw [List.nil_append]
    unfold splitSign
    split
    · exact absurd (hs '-' rfl) (by decide)
    · exact absurd (hs '+' rfl) (by decide)
    · rfl

theorem isSign_of_splitSign {sign : Int} (h : splitSign s = (sign, rest)) :
    ∃ signText, IsSign signText sign ∧ s = signText ++ rest := by
  unfold splitSign at h
  split at h
  all_goals obtain ⟨rfl, rfl⟩ := Prod.mk.inj h
  · exact ⟨_, .minus, rfl⟩
  · exact ⟨_, .plus, rfl⟩
  · exact ⟨_, .absent, rfl⟩

theorem exponent?_append {power : List Char} {exponent : Option Int}
    (hpower : IsExponent power exponent) (h : Delimited rest) :
    exponent? (power ++ rest) = some (exponent, rest) := by
  cases hpower with
  | absent => exact exponent?_of_ne_mark fun c hc => (h c hc).2.2
  | present hmark hsign hdigits =>
    next mark signText digits sign =>
    obtain ⟨hne, hdigits⟩ := hdigits
    have hhead : ∀ c ∈ (digits ++ rest).head?, c.isDigit := by
      intro c hc
      rw [List.head?_append, List.head?_eq_some_head hne, Option.some_or] at hc
      exact hdigits c (Option.some.inj hc ▸ List.head_mem hne)
    rw [List.cons_append, exponent?_mark hmark, power?, List.append_assoc,
      splitSign_append hsign hhead, spanDigits_append hdigits (digitsEnd_of_delimited h)]
    split
    · next heq => exact absurd (Prod.mk.inj heq).1 hne
    · next heq => rw [← (Prod.mk.inj heq).1, ← (Prod.mk.inj heq).2]

theorem isExponent_of_exponent? {exponent : Option Int} (h : exponent? s = some (exponent, rest)) :
    ∃ power, IsExponent power exponent ∧ s = power ++ rest := by
  by_cases hmark : ∃ mark t, s = mark :: t ∧ (mark = 'e' ∨ mark = 'E')
  · obtain ⟨mark, t, rfl, hmark⟩ := hmark
    rw [exponent?_mark hmark, power?] at h
    split at h
    · exact absurd h (by simp)
    · next hempty heq =>
      obtain ⟨rfl, rfl⟩ := Prod.mk.inj (Option.some.inj h)
      have hsplit : splitSign t = ((splitSign t).1, (splitSign t).2) := rfl
      obtain ⟨signText, hsign, ht⟩ := isSign_of_splitSign hsplit
      obtain ⟨hdigits, hspan⟩ := eq_append_of_spanDigits heq
      refine ⟨_, .present hmark hsign ⟨hempty, hdigits⟩, ?_⟩
      rw [List.cons_append, List.append_assoc, ← hspan, ← ht]
  · have hother : ∀ c ∈ s.head?, c ≠ 'e' ∧ c ≠ 'E' := by
      intro c hc
      obtain ⟨t, rfl⟩ := List.head?_eq_some_iff.mp hc
      exact not_or.mp fun hc => hmark ⟨c, t, rfl, hc⟩
    rw [exponent?_of_ne_mark hother] at h
    obtain ⟨rfl, rfl⟩ := Prod.mk.inj (Option.some.inj h)
    exact ⟨[], .absent, rfl⟩

end Parts

/-- What is behind the sign of a number. -/
def unsigned? (negative : Bool) (s : List Char) : Option (Datum × List Char) := do
  let (whole, s) ← wholeDigits? s
  let (fraction, s) ← fraction? s
  let (exponent, s) ← exponent? s
  return (numberOf negative whole fraction exponent, s)

theorem number?_minus (s : List Char) : number? ('-' :: s) = unsigned? true s := rfl

theorem number?_of_ne_minus {s : List Char} (h : ∀ c ∈ s.head?, c ≠ '-') :
    number? s = unsigned? false s := by
  unfold number?
  split
  · next heq =>
    split at heq
    · exact absurd rfl (h '-' rfl)
    · rw [← (Prod.mk.inj heq).1, ← (Prod.mk.inj heq).2]
      rfl

/-- A fraction, and an exponent, start with a sign of their own. -/
theorem digitsEnd_power {power rest : List Char} {exponent : Option Int}
    (hpower : IsExponent power exponent) (h : Delimited rest) : DigitsEnd (power ++ rest) ∧
      ∀ c ∈ (power ++ rest).head?, c ≠ '.' := by
  cases hpower with
  | absent => exact ⟨digitsEnd_of_delimited h, fun c hc => (h c hc).2.1⟩
  | present hmark hsign hdigits =>
    rw [List.cons_append]
    rcases hmark with rfl | rfl
    · exact ⟨digitsEnd_cons (by decide) _, by simp⟩
    · exact ⟨digitsEnd_cons (by decide) _, by simp⟩

theorem digitsEnd_point {point fraction s : List Char} (hpoint : IsFraction point fraction)
    (h : DigitsEnd s) : DigitsEnd (point ++ s) := by
  cases hpoint with
  | absent => exact h
  | present hdigits => exact digitsEnd_cons (by decide) _

theorem unsigned?_append {negative : Bool} {s rest : List Char} {d : Datum}
    (hs : IsUnsigned negative s d) (h : Delimited rest) :
    unsigned? negative (s ++ rest) = some (d, rest) := by
  cases hs with
  | mk hwhole hpoint hpower =>
    obtain ⟨hend, hdot⟩ := digitsEnd_power hpower h
    simp only [unsigned?, List.append_assoc,
      wholeDigits?_append hwhole (digitsEnd_point hpoint hend), fraction?_append hpoint hend hdot,
      exponent?_append hpower h, Option.bind_eq_bind, Option.bind_some, Option.pure_def]

theorem isUnsigned_of_unsigned? {negative : Bool} {s rest : List Char} {d : Datum}
    (h : unsigned? negative s = some (d, rest)) :
    ∃ t, IsUnsigned negative t d ∧ s = t ++ rest := by
  simp only [unsigned?, Option.bind_eq_bind, Option.pure_def, Option.bind_eq_some_iff] at h
  obtain ⟨⟨whole, s₁⟩, hwhole, ⟨fraction, s₂⟩, hfraction, ⟨exponent, s₃⟩, hexponent, hd⟩ := h
  obtain ⟨rfl, rfl⟩ := Prod.mk.inj (Option.some.inj hd)
  obtain ⟨hdigits, rfl⟩ := isWhole_of_wholeDigits? hwhole
  obtain ⟨point, hpoint, rfl⟩ := isFraction_of_fraction? hfraction
  obtain ⟨power, hpower, rfl⟩ := isExponent_of_exponent? hexponent
  exact ⟨_, .mk hdigits hpoint hpower, by simp only [List.append_assoc]⟩

theorem exists_cons_of_isUnsigned {negative : Bool} {s : List Char} {d : Datum}
    (h : IsUnsigned negative s d) : ∃ c rest, s = c :: rest ∧ c.isDigit := by
  cases h with
  | mk hwhole hpoint hpower =>
    obtain ⟨⟨hne, hdigits⟩, -⟩ := hwhole
    obtain ⟨c, digits, rfl⟩ := List.exists_cons_of_ne_nil hne
    exact ⟨c, _, rfl, hdigits c List.mem_cons_self⟩

/-- The first character of a number, which is neither blank nor a token of another value. -/
theorem exists_cons_of_isNumber {s : List Char} {d : Datum} (h : IsNumber s d) :
    ∃ c rest, s = c :: rest ∧ (c = '-' ∨ c.isDigit) := by
  cases h with
  | plain h =>
    obtain ⟨c, rest, hs, hc⟩ := exists_cons_of_isUnsigned h
    exact ⟨c, rest, hs, Or.inr hc⟩
  | minus h => exact ⟨'-', _, rfl, Or.inl rfl⟩

/-- A number of the grammar is read to its end. -/
theorem number?_append {s rest : List Char} {d : Datum} (hs : IsNumber s d) (h : Delimited rest) :
    number? (s ++ rest) = some (d, rest) := by
  cases hs with
  | plain hs =>
    obtain ⟨c, t, rfl, hc⟩ := exists_cons_of_isUnsigned hs
    have hminus : ∀ c' ∈ ((c :: t) ++ rest).head?, c' ≠ '-' := by
      intro c' hc' hminus
      obtain rfl : c = c' := Option.some.inj hc'
      rw [hminus] at hc
      exact absurd hc (by decide)
    rw [number?_of_ne_minus hminus, unsigned?_append hs h]
  | minus hs => rw [List.cons_append, number?_minus, unsigned?_append hs h]

/-- What is read as a number is one of the grammar. -/
theorem isNumber_of_number? {s rest : List Char} {d : Datum} (h : number? s = some (d, rest)) :
    ∃ t, IsNumber t d ∧ s = t ++ rest := by
  by_cases hminus : ∃ t, s = '-' :: t
  · obtain ⟨t, rfl⟩ := hminus
    rw [number?_minus] at h
    obtain ⟨u, hu, rfl⟩ := isUnsigned_of_unsigned? h
    exact ⟨_, .minus hu, rfl⟩
  · have hother : ∀ c ∈ s.head?, c ≠ '-' := by
      rintro c hc rfl
      exact hminus (List.head?_eq_some_iff.mp hc)
    rw [number?_of_ne_minus hother] at h
    obtain ⟨u, hu, rfl⟩ := isUnsigned_of_unsigned? h
    exact ⟨_, .plain hu, rfl⟩

section Decimal

/-- The numbers that are read in full: those of 64 bits, signed or not. -/
def Representable (n : Int) : Prop := -((UInt64.size / 2 : Nat) : Int) ≤ n ∧ n < UInt64.size

theorem head?_toDigits_ne_zero {n : Nat} (h : n ≠ 0) : (Nat.toDigits 10 n).head? ≠ some '0' := by
  induction n using Nat.strongRecOn with
  | ind n ih =>
    by_cases hsmall : n < 10
    · have hdigit : ∀ d < 10, d ≠ 0 → Nat.digitChar d ≠ '0' := by decide
      rw [Nat.toDigits_of_lt_base hsmall, List.head?_cons]
      exact fun heq => hdigit n hsmall h (Option.some.inj heq)
    · have hne : Nat.toDigits 10 (n / 10) ≠ [] := Nat.toDigits_ne_nil
      rw [Nat.toDigits_of_base_le (by decide) (Nat.not_lt.mp hsmall), List.head?_append,
        List.head?_eq_some_head hne, Option.some_or, ← List.head?_eq_some_head hne]
      exact ih (n / 10) (by omega) (by omega)

theorem isWhole_toDigits (n : Nat) : IsWhole (Nat.toDigits 10 n) := by
  refine ⟨⟨Nat.toDigits_ne_nil, fun _ => Text.isDigit_of_mem_toDigits⟩, ?_⟩
  intro hhead
  by_cases hzero : n = 0
  · subst hzero
    rfl
  · exact absurd hhead (head?_toDigits_ne_zero hzero)

theorem isUnsigned_toDigits (negative : Bool) (n : Nat) :
    IsUnsigned negative (Nat.toDigits 10 n) (numberOf negative (Nat.toDigits 10 n) [] none) := by
  have h : IsUnsigned negative (Nat.toDigits 10 n ++ ([] ++ []))
      (numberOf negative (Nat.toDigits 10 n) [] none) :=
    .mk (isWhole_toDigits n) .absent .absent
  rwa [List.append_nil, List.append_nil] at h

/-- What the digits of a whole number are read as, whether it is kept in full or not. -/
def numberRead (n : Int) : Datum := numberOf (n < 0) (Nat.toDigits 10 n.natAbs) [] none

theorem isNumber_decimalChars (n : Int) : IsNumber (Text.decimalChars n) (numberRead n) := by
  unfold Text.decimalChars numberRead
  by_cases hneg : n < 0
  · rw [if_pos hneg, decide_eq_true hneg]
    exact .minus (isUnsigned_toDigits true n.natAbs)
  · rw [if_neg hneg, decide_eq_false hneg]
    exact .plain (isUnsigned_toDigits false n.natAbs)

theorem numberOf_toDigits_of_nonneg {n : Nat} (h : n < UInt64.size) :
    numberOf false (Nat.toDigits 10 n) [] none = .int n := by
  simp [numberOf, Nat.ofDigitChars_ten_toDigits, h]

theorem numberOf_toDigits_of_neg {n : Nat} (hzero : n ≠ 0) (h : n ≤ UInt64.size / 2) :
    numberOf true (Nat.toDigits 10 n) [] none = .int (-n) := by
  simp [numberOf, Nat.ofDigitChars_ten_toDigits, hzero, h]

theorem numberRead_of_representable {n : Int} (h : Representable n) : numberRead n = .int n := by
  obtain ⟨hlow, hhigh⟩ := h
  unfold numberRead
  by_cases hneg : n < 0
  · rw [decide_eq_true hneg, numberOf_toDigits_of_neg (by omega) (by omega),
      Int.ofNat_natAbs_of_nonpos (by omega), Int.neg_neg]
  · rw [decide_eq_false hneg, numberOf_toDigits_of_nonneg (by omega),
      Int.natAbs_of_nonneg (by omega)]

end Decimal

end LeagueRoster.Datum.JsonText
