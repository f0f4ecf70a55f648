import LeagueRoster.Proofs.Text.Decimal
import LeagueRoster.Text.Display

/-!
What a painted text shows once its escape sequences are deleted (`unpaint`). Painting puts whole
sequences around a text, so a text without escapes is all that its paint shows (`displays_paint`).
`Displays` says what a text shows in front of anything that may follow it, and therefore holds of
texts that are put together of such parts.
-/
namespace LeagueRoster.Text

/-- Where a scan of a text stands: in what is shown, behind an escape, or in the control sequence
that an escape and a bracket open. -/
inductive Scan where
  | shown
  | escaped
  | control
  deriving Repr, DecidableEq

/-- What is shown of the characters. A control sequence goes on to the first character from `@` to
`~`, any other sequence to the first one that is not from blank to `/`. -/
def unpaintChars : Scan → List Char → List Char
  | _, [] => []
  | .shown, c :: rest =>
    if c = '\x1b' then unpaintChars .escaped rest else c :: unpaintChars .shown rest
  | .escaped, c :: rest =>
    if c = '[' then unpaintChars .control rest
    else if ' ' ≤ c ∧ c ≤ '/' then unpaintChars .escaped rest
    else unpaintChars .shown rest
  | .control, c :: rest =>
    if '@' ≤ c ∧ c ≤ '~' then unpaintChars .shown rest else unpaintChars .control rest

/-- The text without its escape sequences. -/
def unpaint (s : String) : String := String.ofList (unpaintChars .shown s.toList)

/-- Without its escape sequences the first text is the second one, whatever follows. -/
def Displays (painted shown : String) : Prop :=
  ∀ rest, unpaintChars .shown (painted.toList ++ rest) =
    shown.toList ++ unpaintChars .shown rest

theorem Displays.unpaint_eq {painted shown : String} (h : Displays painted shown) :
    unpaint painted = shown := by
  have hchars := h []
  rw [List.append_nil, unpaintChars, List.append_nil] at hchars
  rw [unpaint, hchars, String.ofList_toList]

theorem Displays.append {painted₁ painted₂ shown₁ shown₂ : String} (h₁ : Displays painted₁ shown₁)
    (h₂ : Displays painted₂ shown₂) : Displays (painted₁ ++ painted₂) (shown₁ ++ shown₂) := by
  intro rest
  rw [String.toList_append, String.toList_append, List.append_assoc, h₁, h₂, List.append_assoc]

theorem displays_ite {p : Prop} [Decidable p] {painted₁ painted₂ shown₁ shown₂ : String}
    (h₁ : Displays painted₁ shown₁) (h₂ : Displays painted₂ shown₂) :
    Displays (if p then painted₁ else painted₂) (if p then shown₁ else shown₂) := by
  split
  · exact h₁
  · exact h₂

theorem displays_join {α : Type} {painted shown : α → String} {items : List α}
    (h : ∀ a ∈ items, Displays (painted a) (shown a)) :
    Displays (String.join (items.map painted)) (String.join (items.map shown)) := by
  induction items with
  | nil =>
    intro rest
    rfl
  | cons a items ih =>
    rw [List.forall_mem_cons] at h
    rw [List.map_cons, List.map_cons, String.join_cons, String.join_cons]
    exact h.1.append (ih h.2)

section Sequences

variable (rest : List Char)

theorem unpaintChars_append {s : List Char} (h : '\x1b' ∉ s) :
    unpaintChars .shown (s ++ rest) = s ++ unpaintChars .shown rest := by
  induction s with
  | nil => rfl
  | cons c s ih =>
    rw [List.mem_cons, not_or] at h
    rw [List.cons_append, unpaintChars, if_neg (Ne.symm h.1), ih h.2, List.cons_append]

/-- Digits do not end a control sequence. -/
theorem unpaintChars_digits {digits : List Char} (h : ∀ d ∈ digits, d.isDigit) :
    unpaintChars .control (digits ++ rest) = unpaintChars .control rest := by
  induction digits with
  | nil => rfl
  | cons d digits ih =>
    rw [List.forall_mem_cons] at h
    have hopen : ¬('@' ≤ d ∧ d ≤ '~') := by
      rintro ⟨hlow, -⟩
      have hdigit : d ≤ '9' := of_decide_eq_true (Bool.and_eq_true_iff.mp h.1).2
      exact absurd (Char.le_trans hlow hdigit) (by decide)
    rw [List.cons_append, unpaintChars, if_neg hopen, ih h.2]

theorem unpaintChars_ansiSequence (code : Nat) :
    unpaintChars .shown (ansiSequence code ++ rest) = unpaintChars .shown rest := by
  have hdigits : ∀ d ∈ Nat.toDigits 10 code, d.isDigit := fun _ => isDigit_of_mem_toDigits
  calc unpaintChars .shown (ansiSequence code ++ rest)
    _ = unpaintChars .control (Nat.toDigits 10 code ++ 'm' :: rest) := by
      simp [ansiSequence, unpaintChars]
    _ = unpaintChars .control ('m' :: rest) := unpaintChars_digits _ hdigits
    _ = unpaintChars .shown rest := if_pos (by decide)

theorem unpaintChars_styles (styles : List Style) :
    unpaintChars .shown ((styles.flatMap fun style => ansiSequence style.code) ++ rest) =
      unpaintChars .shown rest := by
  induction styles with
  | nil => rfl
  | cons style styles ih =>
    rw [List.flatMap_cons, List.append_assoc, unpaintChars_ansiSequence, ih]

end Sequences

/-- The text holds no escape. -/
def EscapeFree (s : String) : Prop := '\x1b' ∉ s.toList

instance : DecidablePred EscapeFree := fun s => inferInstanceAs (Decidable ('\x1b' ∉ s.toList))

theorem displays_self {s : String} (h : EscapeFree s) : Displays s s :=
  fun rest => unpaintChars_append rest h

/-- A painted text shows the text, whatever the styles are. -/
theorem displays_paint (styling : Styling) (styles : List Style) {s : String} (h : EscapeFree s) :
    Displays (paint styling styles s) s := by
  cases styling with
  | off => exact displays_self h
  | on =>
    intro rest
    rw [paint, String.toList_ofList, List.append_assoc, List.append_assoc, unpaintChars_styles,
      unpaintChars_append _ h, ansiReset, unpaintChars_ansiSequence]

/-- Without a reset in a text there is nothing to take up again. -/
theorem resume_of_escapeFree (style : List Char) {s : List Char} (h : '\x1b' ∉ s) :
    resume style s = s := by
  fun_induction resume style s with
  | case1 => rfl
  | case2 rest ih => exact absurd List.mem_cons_self h
  | case3 c rest _ ih => rw [ih fun hrest => h (List.mem_cons_of_mem c hrest)]

theorem displays_paintThrough (styling : Styling) (style : Style) {s : String}
    (h : EscapeFree s) : Displays (paintThrough styling style s) s := by
  cases styling with
  | off => exact displays_self h
  | on =>
    rw [paintThrough, resume_of_escapeFree _ h, String.ofList_toList]
    exact displays_paint .on [style] h

section EscapeFree

variable {s : String}

@[simp] theorem escapeFree_append (s t : String) :
    EscapeFree (s ++ t) ↔ EscapeFree s ∧ EscapeFree t := by
  simp only [EscapeFree, String.toList_append, List.mem_append, not_or]

@[simp] theorem escapeFree_decimal (n : Int) : EscapeFree (decimal n) := by
  rw [EscapeFree, decimal, String.toList_ofList]
  exact not_mem_decimalChars (by decide) n

@[simp] theorem escapeFree_money (amount : Int) : EscapeFree (money amount) := by
  unfold money
  split
  · rw [escapeFree_append]
    exact ⟨by decide, escapeFree_decimal _⟩
  · rw [escapeFree_append]
    exact ⟨by decide, escapeFree_decimal _⟩

@[simp] theorem escapeFree_playerCount (count : Nat) : EscapeFree (playerCount count) := by
  unfold playerCount
  split
  · decide
  · rw [escapeFree_append]
    exact ⟨escapeFree_decimal _, by decide⟩

theorem escapeFree_replicate {c : Char} (hc : '\x1b' ≠ c) (count : Nat) :
    EscapeFree (String.ofList (List.replicate count c)) := by
  rw [EscapeFree, String.toList_ofList, List.mem_replicate]
  exact fun h => hc h.2

@[simp] theorem escapeFree_blanks (count : Nat) : EscapeFree (blanks count) :=
  escapeFree_replicate (by decide) count

theorem displays_empty : Displays "" "" := fun _ => rfl

theorem displays_blank : Displays " " " " := displays_self (by decide)

theorem displays_break : Displays "\n" "\n" := displays_self (by decide)

theorem EscapeFree.padRight (h : EscapeFree s) (width : Nat) : EscapeFree (padRight width s) :=
  (escapeFree_append _ _).mpr ⟨h, escapeFree_blanks _⟩

theorem EscapeFree.padLeft (h : EscapeFree s) (width : Nat) : EscapeFree (padLeft width s) :=
  (escapeFree_append _ _).mpr ⟨escapeFree_blanks _, h⟩

theorem EscapeFree.truncate (h : EscapeFree s) (width : Nat) : EscapeFree (truncate s width) := by
  unfold Text.truncate
  split
  · exact h
  split
  · decide
  · rw [EscapeFree, String.toList_ofList, List.mem_append, not_or]
    exact ⟨fun hmem => h (List.mem_of_mem_take hmem), by decide⟩

end EscapeFree

end LeagueRoster.Text
