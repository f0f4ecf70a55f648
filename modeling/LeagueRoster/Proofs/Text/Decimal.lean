import LeagueRoster.Proofs.Text.Blank

/-!
Which texts are read as whole numbers. A numeral is a row of decimal digits, one at least, and a
plus sign may stand in front. A numeral is read exactly when its value is within the bound
(`readNatural_eq_ok_iff`): a value that leaves the range on the way never comes back. With a minus
sign in front it counts below zero; a number of 64 bits is read from all of its spellings, of which
the decimal one has no sign but a minus and no zero in front (`isInteger_decimalChars`).
-/
namespace LeagueRoster.Text

/-- A numeral for `n`. -/
def IsNumeral (s : List Char) (n : Nat) : Prop :=
  ∃ sign digits, s = sign ++ digits ∧ (sign = [] ∨ sign = ['+']) ∧ digits ≠ [] ∧
    (∀ d ∈ digits, d.isDigit) ∧ Nat.ofDigitChars 10 digits 0 = n

theorem not_isDigit_plus : ¬ '+'.isDigit := by decide

theorem toNat_of_isDigit {c : Char} (h : c.isDigit) :
    '0'.toNat ≤ c.toNat ∧ c.toNat ≤ '9'.toNat := by
  simp only [Char.isDigit, Bool.and_eq_true, decide_eq_true_eq, ge_iff_le,
    UInt32.le_iff_toNat_le] at h
  exact h

theorem not_isBlank_of_isNumeral {s : List Char} {n : Nat} (h : IsNumeral s n) {c : Char}
    (hc : c ∈ s) : ¬isBlank c := by
  obtain ⟨sign, digits, rfl, hsign, -, hdigits, -⟩ := h
  rcases List.mem_append.mp hc with hc | hc
  · rcases hsign with rfl | rfl
    · exact absurd hc List.not_mem_nil
    · rw [List.mem_singleton.mp hc]
      exact not_isBlank_of_le (Nat.le_refl _) (by decide)
  · obtain ⟨hlow, hhigh⟩ := toNat_of_isDigit (hdigits c hc)
    exact not_isBlank_of_le (Nat.le_trans (by decide) hlow) hhigh

theorem digit?_of_isDigit {c : Char} (h : c.isDigit) : digit? c = some (c.toNat - '0'.toNat) :=
  if_pos h

theorem digit?_of_not_isDigit {c : Char} (h : ¬c.isDigit) : digit? c = none :=
  if_neg h

theorem le_ofDigitChars (digits : List Char) (value : Nat) :
    value ≤ Nat.ofDigitChars 10 digits value := by
  induction digits generalizing value with
  | nil => exact Nat.le_refl value
  | cons c rest ih =>
    have hrest := ih (10 * value + (c.toNat - '0'.toNat))
    rw [Nat.ofDigitChars_cons]
    omega

theorem readDigits_eq_ok_iff {bound value n : Nat} {excess : NumeralFault} {s : List Char}
    (hvalue : value ≤ bound) :
    readDigits bound excess value s = .ok n ↔
      (∀ d ∈ s, d.isDigit) ∧ Nat.ofDigitChars 10 s value = n ∧ n ≤ bound := by
  induction s generalizing value with
  | nil =>
    rw [readDigits, Nat.ofDigitChars_nil, Except.ok.injEq]
    constructor
    · rintro rfl
      exact ⟨fun d hd => absurd hd List.not_mem_nil, rfl, hvalue⟩
    · rintro ⟨-, heq, -⟩
      exact heq
  | cons c rest ih =>
    rw [List.forall_mem_cons, Nat.ofDigitChars_cons]
    by_cases hc : c.isDigit
    · simp only [readDigits, digit?_of_isDigit hc]
      by_cases hbound : bound < 10 * value + (c.toNat - '0'.toNat)
      · have hgrows := le_ofDigitChars rest (10 * value + (c.toNat - '0'.toNat))
        rw [if_pos hbound]
        constructor
        · intro h
          exact absurd h (by simp)
        · rintro ⟨-, rfl, hn⟩
          omega
      · rw [if_neg hbound, ih (Nat.not_lt.mp hbound)]
        simp only [hc, true_and]
    · simp [readDigits, digit?_of_not_isDigit hc, hc]

theorem readNatural_plus {bound : Nat} {digits : List Char} (h : digits ≠ []) :
    readNatural bound ('+' :: digits) = readDigits bound .tooLarge 0 digits := by
  cases digits with
  | nil => exact absurd rfl h
  | cons d rest => rfl

theorem readNatural_of_ne_plus {bound : Nat} {c : Char} (h : c ≠ '+') (rest : List Char) :
    readNatural bound (c :: rest) = readDigits bound .tooLarge 0 (c :: rest) := by
  unfold readNatural
  split
  · next heq => exact absurd heq (by simp)
  · next heq => exact absurd (List.cons.inj heq).1 h
  · next heq => exact absurd (List.cons.inj heq).1 h
  · rfl

theorem readNatural_eq_ok_iff {bound n : Nat} {s : List Char} :
    readNatural bound s = .ok n ↔ IsNumeral s n ∧ n ≤ bound := by
  constructor
  · intro h
    cases s with
    | nil => exact absurd h (by simp [readNatural])
    | cons c rest =>
      by_cases hplus : c = '+'
      · subst hplus
        have hrest : rest ≠ [] := by
          rintro rfl
          exact absurd h (by simp [readNatural])
        rw [readNatural_plus hrest, readDigits_eq_ok_iff (Nat.zero_le bound)] at h
        exact ⟨⟨['+'], rest, rfl, Or.inr rfl, hrest, h.1, h.2.1⟩, h.2.2⟩
      · rw [readNatural_of_ne_plus hplus, readDigits_eq_ok_iff (Nat.zero_le bound)] at h
        exact ⟨⟨[], c :: rest, rfl, Or.inl rfl, by simp, h.1, h.2.1⟩, h.2.2⟩
  · rintro ⟨⟨sign, digits, rfl, hsign, hne, hdigits, hvalue⟩, hn⟩
    have hread : readDigits bound .tooLarge 0 digits = .ok n :=
      (readDigits_eq_ok_iff (Nat.zero_le bound)).mpr ⟨hdigits, hvalue, hn⟩
    rcases hsign with rfl | rfl
    · obtain ⟨c, rest, rfl⟩ := List.exists_cons_of_ne_nil hne
      have hplus : c ≠ '+' := by
        rintro rfl
        exact not_isDigit_plus (hdigits '+' List.mem_cons_self)
      rw [List.nil_append, readNatural_of_ne_plus hplus, hread]
    · rw [List.singleton_append, readNatural_plus hne, hread]

theorem map_eq_ok_iff {ε α β : Type} {f : α → β} {x : Except ε α} {b : β} :
    x.map f = .ok b ↔ ∃ a, x = .ok a ∧ f a = b := by
  cases x with
  | error fault => simp [Except.map]
  | ok a => simp [Except.map]

/-- A type that counts from zero up to a size is read from its numerals and from nothing else. -/
theorem map_readNatural_eq_ok_iff {β : Type} {size : Nat} {ofNat : Nat → β} {toNat : β → Nat}
    (hofNat : ∀ v, ofNat (toNat v) = v) (htoNat : ∀ n, n < size → toNat (ofNat n) = n)
    (hsize : ∀ v, toNat v < size) {s : List Char} {v : β} :
    (readNatural (size - 1) s).map ofNat = .ok v ↔ IsNumeral s (toNat v) := by
  rw [map_eq_ok_iff]
  have hv := hsize v
  constructor
  · rintro ⟨n, hread, rfl⟩
    obtain ⟨hnumeral, hn⟩ := readNatural_eq_ok_iff.mp hread
    rwa [htoNat n (by omega)]
  · intro h
    exact ⟨toNat v, readNatural_eq_ok_iff.mpr ⟨h, by omega⟩, hofNat v⟩

theorem parseUInt32_eq_ok_iff {s : String} {v : UInt32} :
    parseUInt32 s = .ok v ↔ IsNumeral s.toList v.toNat :=
  map_readNatural_eq_ok_iff (fun _ => UInt32.ofNat_toNat) (fun _ h => UInt32.toNat_ofNat_of_lt' h)
    fun v => v.toNat_lt

theorem parseUInt64_eq_ok_iff {s : String} {v : UInt64} :
    parseUInt64 s = .ok v ↔ IsNumeral s.toList v.toNat :=
  map_readNatural_eq_ok_iff (fun _ => UInt64.ofNat_toNat) (fun _ h => UInt64.toNat_ofNat_of_lt' h)
    fun v => v.toNat_lt

/-- A spelling of `n` with its sign. -/
def IsInteger (s : List Char) (n : Int) : Prop :=
  (∃ m : Nat, IsNumeral s m ∧ n = m) ∨
    ∃ digits, s = '-' :: digits ∧ digits ≠ [] ∧ (∀ d ∈ digits, d.isDigit) ∧
      n = -(Nat.ofDigitChars 10 digits 0 : Nat)

theorem not_isNumeral_minus {digits : List Char} {n : Nat} : ¬IsNumeral ('-' :: digits) n := by
  rintro ⟨sign, rest, heq, rfl | rfl, -, hdigits, -⟩
  · have hminus : '-' ∈ rest := by
      rw [List.nil_append] at heq
      rw [← heq]
      exact List.mem_cons_self
    exact absurd (hdigits '-' hminus) (by decide)
  · exact absurd (List.cons.inj heq).1 (by decide)

theorem readInteger_minus {digits : List Char} (h : digits ≠ []) :
    readInteger ('-' :: digits) =
      (readDigits (UInt64.size / 2) .tooSmall 0 digits).map fun n : Nat => -(n : Int) := by
  cases digits with
  | nil => exact absurd rfl h
  | cons d rest =>
    rw [readInteger]
    · cases readDigits (UInt64.size / 2) .tooSmall 0 (d :: rest) <;> rfl
    · simp

theorem readInteger_of_ne_minus {c : Char} (h : c ≠ '-') (rest : List Char) :
    readInteger (c :: rest) =
      (readNatural (UInt64.size / 2 - 1) (c :: rest)).map fun n : Nat => (n : Int) := by
  unfold readInteger
  split
  · next heq => exact absurd heq (by simp)
  · next heq => exact absurd (List.cons.inj heq).1 h
  · next heq => exact absurd (List.cons.inj heq).1 h
  · cases readNatural (UInt64.size / 2 - 1) (c :: rest) <;> rfl

/-- A number of 64 bits is read from its spellings and from nothing else. -/
theorem readInteger_eq_ok_iff {s : List Char} {n : Int} :
    readInteger s = .ok n ↔
      IsInteger s n ∧ -((UInt64.size / 2 : Nat) : Int) ≤ n ∧ n < (UInt64.size / 2 : Nat) := by
  have hsize : 0 < UInt64.size / 2 := by decide
  cases s with
  | nil =>
    constructor
    · intro h
      exact absurd h (by simp [readInteger])
    · rintro ⟨⟨m, ⟨sign, digits, heq, -, hne, -⟩, -⟩ | ⟨digits, heq, -⟩, -⟩
      · exact absurd (List.append_eq_nil_iff.mp heq.symm).2 hne
      · exact absurd heq (by simp)
  | cons c rest =>
    by_cases hminus : c = '-'
    · subst hminus
      by_cases hrest : rest = []
      · subst hrest
        constructor
        · intro h
          exact absurd h (by simp [readInteger])
        · rintro ⟨⟨m, hm, -⟩ | ⟨digits, heq, hne, -⟩, -⟩
          · exact absurd hm not_isNumeral_minus
          · exact absurd (List.cons.inj heq).2.symm hne
      · rw [readInteger_minus hrest, map_eq_ok_iff]
        constructor
        · rintro ⟨m, hread, rfl⟩
          obtain ⟨hdigits, hvalue, hm⟩ := (readDigits_eq_ok_iff (Nat.zero_le _)).mp hread
          exact ⟨Or.inr ⟨rest, rfl, hrest, hdigits, by rw [hvalue]⟩, by omega, by omega⟩
        · rintro ⟨⟨m, hm, -⟩ | ⟨digits, heq, -, hdigits, rfl⟩, hlow, -⟩
          · exact absurd hm not_isNumeral_minus
          · obtain rfl : rest = digits := (List.cons.inj heq).2
            exact ⟨_, (readDigits_eq_ok_iff (Nat.zero_le _)).mpr ⟨hdigits, rfl, by omega⟩, rfl⟩
    · rw [readInteger_of_ne_minus hminus, map_eq_ok_iff]
      constructor
      · rintro ⟨m, hread, rfl⟩
        obtain ⟨hm, hbound⟩ := readNatural_eq_ok_iff.mp hread
        exact ⟨Or.inl ⟨m, hm, rfl⟩, by omega, by omega⟩
      · rintro ⟨⟨m, hm, rfl⟩ | ⟨digits, heq, -⟩, -, hhigh⟩
        · exact ⟨m, readNatural_eq_ok_iff.mpr ⟨hm, by omega⟩, rfl⟩
        · exact absurd (List.cons.inj heq).1 hminus

theorem parseInt64_eq_ok_iff {s : String} {v : Int64} :
    parseInt64 s = .ok v ↔ IsInteger s.toList v.toInt := by
  have hlow : -((UInt64.size / 2 : Nat) : Int) ≤ v.toInt := v.le_toInt
  have hhigh : v.toInt < (UInt64.size / 2 : Nat) := v.toInt_lt
  unfold parseInt64
  rw [map_eq_ok_iff]
  constructor
  · rintro ⟨n, hread, rfl⟩
    obtain ⟨hn, hl, hh⟩ := readInteger_eq_ok_iff.mp hread
    rwa [Int64.toInt_ofInt_of_le hl hh]
  · intro h
    exact ⟨v.toInt, readInteger_eq_ok_iff.mpr ⟨h, hlow, hhigh⟩, v.ofInt_toInt⟩

theorem isDigit_of_mem_toDigits {n : Nat} {c : Char} (h : c ∈ Nat.toDigits 10 n) : c.isDigit :=
  Nat.isDigit_of_mem_toDigits (by decide) (by decide) h

theorem isDigit_or_minus_of_mem_decimalChars {n : Int} {c : Char} (h : c ∈ decimalChars n) :
    c.isDigit ∨ c = '-' := by
  unfold decimalChars at h
  split at h
  · rcases List.mem_cons.mp h with rfl | h
    · exact Or.inr rfl
    · exact Or.inl (isDigit_of_mem_toDigits h)
  · exact Or.inl (isDigit_of_mem_toDigits h)

theorem not_mem_decimalChars {c : Char} (hc : c ≠ '-' ∧ c.isDigit = false) (n : Int) :
    c ∉ decimalChars n := by
  intro h
  rcases isDigit_or_minus_of_mem_decimalChars h with h | h
  · exact absurd h (by simp [hc.2])
  · exact hc.1 h

/-- The decimal spelling of a number spells it. -/
theorem isInteger_decimalChars (n : Int) : IsInteger (decimalChars n) n := by
  have hdigits : ∀ d ∈ Nat.toDigits 10 n.natAbs, d.isDigit := fun _ => isDigit_of_mem_toDigits
  have hvalue : Nat.ofDigitChars 10 (Nat.toDigits 10 n.natAbs) 0 = n.natAbs :=
    Nat.ofDigitChars_ten_toDigits
  unfold decimalChars
  split
  · exact Or.inr ⟨_, rfl, Nat.toDigits_ne_nil, hdigits, by omega⟩
  · refine Or.inl ⟨n.natAbs, ?_, by omega⟩
    exact ⟨[], _, rfl, Or.inl rfl, Nat.toDigits_ne_nil, hdigits, hvalue⟩

end LeagueRoster.Text
