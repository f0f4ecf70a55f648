import LeagueRoster.Config.Override
import LeagueRoster.Proofs.Text.Decimal
import Mathlib.Data.List.Forall2

/-!
Which texts are values of a setting. Numbers and phases have spellings, with blanks around them
if need be, and the penalty share stops at one hundred; a text is read exactly when it is such a
spelling, and then as the value it spells (`read_eq_ok_iff`). The flag has four words for yes, in
any letter case, and reads every other text as no. A text that is refused is quoted in the
complaint about it (`complaint_of_read`).
-/
namespace LeagueRoster

def Text.lowercase (s : String) : String := String.ofList (s.toList.flatMap Text.lower)

/-- The words for a phase, in lowercase and with underscores for hyphens. -/
def SeasonPhase.words : SeasonPhase → List String
  | keeper => ["keeper"]
  | preseason => ["preseason", "pre_season"]
  | regularSeason => ["regular_season", "regular"]
  | postSeason => ["post_season", "postseason", "playoffs"]

/-- The characters spell a word: the letters may be of either case, and an underscore a hyphen. -/
def Text.SpellsWord (word : String) (s : List Char) : Prop :=
  List.Forall₂ (fun c letter => c ≠ '-' ∧ letter = c ∨ c = '-' ∧ letter = '_')
    (s.flatMap lower) word.toList

namespace SeasonPhase

/-- The characters spell a word for the phase. -/
def SpelledBy (phase : SeasonPhase) (s : List Char) : Prop :=
  ∃ word ∈ phase.words, Text.SpellsWord word s

theorem not_isBlank_of_word {phase : SeasonPhase} {word : String} (hword : word ∈ phase.words)
    {letter : Char} (hletter : letter ∈ word.toList) : ¬Text.isBlank letter := by
  have hwords : ∀ phase : SeasonPhase, (phase.words.all fun word => word.toList.all fun letter =>
      !Text.isBlank letter) = true := by
    intro phase
    cases phase <;> decide +kernel
  have hclear := List.all_eq_true.mp (List.all_eq_true.mp (hwords phase) word hword) letter hletter
  simpa using hclear

theorem spellsWord_iff {word : String} {s : List Char} :
    Text.SpellsWord word s ↔
      ((s.flatMap Text.lower).map fun c => if c = '-' then '_' else c) = word.toList := by
  have hletter : (fun c letter : Char => c ≠ '-' ∧ letter = c ∨ c = '-' ∧ letter = '_') =
      fun c letter => (if c = '-' then '_' else c) = letter := by
    funext c letter
    by_cases hc : c = '-' <;> simp [hc, eq_comm]
  rw [← List.forall₂_eq_eq_eq, List.forall₂_map_left_iff, Text.SpellsWord, hletter]

theorem not_isBlank_of_spelledBy {phase : SeasonPhase} {s : List Char} (h : phase.SpelledBy s)
    {c : Char} (hc : c ∈ s) : ¬Text.isBlank c := by
  intro hblank
  obtain ⟨word, hword, hspelled⟩ := h
  have hlower : c ∈ s.flatMap Text.lower := by
    refine List.mem_flatMap.mpr ⟨c, hc, ?_⟩
    rw [Text.lower_of_isBlank hblank]
    exact List.mem_singleton_self c
  have hhyphen : c ≠ '-' := by
    rintro rfl
    exact absurd hblank (by decide)
  have hletter : c ∈ word.toList := by
    rw [← spellsWord_iff.mp hspelled]
    exact List.mem_map.mpr ⟨c, hlower, if_neg hhyphen⟩
  exact not_isBlank_of_word hword hletter hblank

theorem parse?_eq_some_iff_mem {raw : String} {phase : SeasonPhase} :
    parse? raw = some phase ↔ normalSpelling raw ∈ phase.words := by
  unfold parse?
  generalize normalSpelling raw = s
  dsimp only
  split
  · next h =>
    subst h
    cases phase <;> decide
  split
  · next h => rcases h with rfl | rfl <;> cases phase <;> decide
  split
  · next h => rcases h with rfl | rfl <;> cases phase <;> decide
  split
  · next h => rcases h with rfl | rfl | rfl <;> cases phase <;> decide
  · next hkeeper hpreseason hregular hpost =>
    rw [not_or] at hpreseason hregular
    rw [not_or, not_or] at hpost
    cases phase <;> simp [words, hkeeper, hpreseason, hregular, hpost]

/-- A phase is read from the spellings of its words, with blanks around them if need be. -/
theorem parse?_eq_some_iff {raw : String} {phase : SeasonPhase} :
    parse? raw = some phase ↔ Text.AmidBlanks phase.SpelledBy raw := by
  have hspelling : ∀ word, normalSpelling raw = word ↔
      Text.SpellsWord word (Text.trimChars raw.toList) := by
    intro word
    rw [spellsWord_iff, normalSpelling, ← String.toList_inj, String.toList_ofList]
  rw [parse?_eq_some_iff_mem, Text.amidBlanks_iff fun s hs c hc => not_isBlank_of_spelledBy hs hc]
  simp only [SpelledBy, ← hspelling, exists_eq_right']

end SeasonPhase

namespace Setting

def yesWords : List String := ["1", "true", "yes", "on"]

/-- The text of its variable is read as the value `v` of a setting. -/
def Reads (raw : String) : (s : Setting) → s.Value → Prop
  | cap _, v => Text.AmidBlanks (Text.IsNumeral · (UInt32.toNat v)) raw
  | dropPenaltyPercent, v =>
    Text.AmidBlanks (Text.IsNumeral · (UInt32.toNat v)) raw ∧ UInt32.toNat v ≤ 100
  | limit _, v | nameWidth, v => Text.AmidBlanks (Text.IsNumeral · (UInt64.toNat v)) raw
  | defaultPhase, v => Text.AmidBlanks (SeasonPhase.SpelledBy v) raw
  | showPositions, v => v = true ↔ Text.lowercase raw ∈ yesWords

/-- What is said of a text that is no numeral of its setting. -/
def NumeralComplaint (s : Setting) (raw text : String) : Prop :=
  ∃ fault : Text.NumeralFault,
    text = "invalid " ++ s.variableName ++ " value " ++ raw ++ ": " ++ fault.message

/-- What is said of a text that is no value of its setting. -/
def Complaint (raw text : String) : Setting → Prop
  | dropPenaltyPercent =>
    NumeralComplaint dropPenaltyPercent raw text ∨
      ∃ n : Nat, Text.AmidBlanks (Text.IsNumeral · n) raw ∧ 100 < n ∧
        text = dropPenaltyPercent.variableName ++ " must be between 0 and 100, got " ++
          Text.decimal n
  | defaultPhase => text = SeasonPhase.invalidMessage raw
  | showPositions => False
  | s => NumeralComplaint s raw text

section Number

variable {α : Type} {parse : String → Except Text.NumeralFault α} {s : Setting} {raw : String}

theorem readNumber_eq_ok_iff {source : String} {v : α} :
    readNumber parse source raw = .ok v ↔ parse (Text.trim raw) = .ok v := by
  unfold readNumber
  cases parse (Text.trim raw) <;> simp

theorem numeralComplaint_of_readNumber {text : String}
    (h : readNumber parse s.variableName raw = .error text) : NumeralComplaint s raw text := by
  unfold readNumber at h
  cases hparse : parse (Text.trim raw) with
  | ok v => simp [hparse] at h
  | error fault =>
    simp only [hparse, Except.error.injEq] at h
    exact ⟨fault, h.symm⟩

end Number

variable {s : Setting} {raw text : String}

theorem isNumeral_trim_iff {n : Nat} :
    Text.IsNumeral (Text.trim raw).toList n ↔ Text.AmidBlanks (Text.IsNumeral · n) raw := by
  rw [Text.amidBlanks_iff fun _ h _ => Text.not_isBlank_of_isNumeral h, Text.trim,
    String.toList_ofList]

theorem readUInt32_eq_ok_iff {source : String} {v : UInt32} :
    readNumber Text.parseUInt32 source raw = .ok v ↔
      Text.AmidBlanks (Text.IsNumeral · v.toNat) raw := by
  rw [readNumber_eq_ok_iff, Text.parseUInt32_eq_ok_iff, isNumeral_trim_iff]

theorem readUInt64_eq_ok_iff {source : String} {v : UInt64} :
    readNumber Text.parseUInt64 source raw = .ok v ↔
      Text.AmidBlanks (Text.IsNumeral · v.toNat) raw := by
  rw [readNumber_eq_ok_iff, Text.parseUInt64_eq_ok_iff, isNumeral_trim_iff]

theorem readPhase_eq_ok_iff {phase : SeasonPhase} :
    readPhase raw = .ok phase ↔ Text.AmidBlanks phase.SpelledBy raw := by
  rw [← SeasonPhase.parse?_eq_some_iff]
  unfold readPhase
  cases SeasonPhase.parse? raw <;> simp

theorem eq_of_readPhase_error (h : readPhase raw = .error text) :
    text = SeasonPhase.invalidMessage raw := by
  unfold readPhase at h
  split at h
  · exact absurd h (by simp)
  · exact (Except.error.inj h).symm

theorem readFlag_iff : readFlag raw = true ↔ Text.lowercase raw ∈ yesWords :=
  List.contains_iff_mem

theorem ok_readFlag_eq_ok_iff {v : Bool} :
    (Except.ok (readFlag raw) : Except String Bool) = .ok v ↔
      (v = true ↔ Text.lowercase raw ∈ yesWords) := by
  rw [Except.ok.injEq, ← readFlag_iff, Bool.eq_iff_iff]
  exact iff_comm

theorem checkPercent_eq_ok_iff {source : String} {percent v : UInt32} :
    checkPercent source percent = .ok v ↔ percent = v ∧ v.toNat ≤ 100 := by
  unfold checkPercent
  by_cases hlarge : 100 < percent
  · have hnat : 100 < percent.toNat := UInt32.lt_iff_toNat_lt.mp hlarge
    rw [if_pos hlarge]
    constructor
    · intro h
      exact absurd h (by simp)
    · rintro ⟨rfl, hsmall⟩
      omega
  · have hnat : ¬100 < percent.toNat := fun h => hlarge (UInt32.lt_iff_toNat_lt.mpr h)
    rw [if_neg hlarge, Except.ok.injEq]
    constructor
    · rintro rfl
      exact ⟨rfl, Nat.not_lt.mp hnat⟩
    · exact And.left

theorem lt_of_checkPercent_error {source : String} {percent : UInt32}
    (h : checkPercent source percent = .error text) :
    100 < percent.toNat ∧
      text = source ++ " must be between 0 and 100, got " ++ Text.decimal percent.toNat := by
  unfold checkPercent at h
  by_cases hlarge : 100 < percent
  · rw [if_pos hlarge] at h
    exact ⟨UInt32.lt_iff_toNat_lt.mp hlarge, (Except.error.inj h).symm⟩
  · rw [if_neg hlarge] at h
    exact absurd h (by simp)

/-- The penalty share is read as a number and then checked. -/
def readPercent (raw : String) : Except String UInt32 :=
  (readNumber Text.parseUInt32 dropPenaltyPercent.variableName raw).bind
    (checkPercent dropPenaltyPercent.variableName)

theorem readPercent_eq_ok_iff {v : UInt32} :
    readPercent raw = .ok v ↔
      Text.AmidBlanks (Text.IsNumeral · v.toNat) raw ∧ v.toNat ≤ 100 := by
  unfold readPercent
  rw [← readUInt32_eq_ok_iff]
  cases readNumber Text.parseUInt32 dropPenaltyPercent.variableName raw with
  | ok percent => rw [Except.bind, checkPercent_eq_ok_iff, Except.ok.injEq]
  | error fault => simp [Except.bind]

theorem complaint_of_readPercent (h : readPercent raw = .error text) :
    dropPenaltyPercent.Complaint raw text := by
  unfold readPercent at h
  cases hread : readNumber Text.parseUInt32 dropPenaltyPercent.variableName raw with
  | ok percent =>
    rw [hread, Except.bind] at h
    obtain ⟨hlarge, htext⟩ := lt_of_checkPercent_error h
    exact Or.inr ⟨percent.toNat, readUInt32_eq_ok_iff.mp hread, hlarge, htext⟩
  | error fault =>
    rw [hread, Except.bind] at h
    obtain rfl : fault = text := Except.error.inj h
    exact Or.inl (numeralComplaint_of_readNumber hread)

theorem read_eq_ok_iff {v : s.Value} : s.read raw = .ok v ↔ s.Reads raw v := by
  cases s with
  | cap phase => exact @readUInt32_eq_ok_iff raw (cap phase).variableName v
  | dropPenaltyPercent => exact @readPercent_eq_ok_iff raw v
  | limit which => exact @readUInt64_eq_ok_iff raw (limit which).variableName v
  | defaultPhase => exact @readPhase_eq_ok_iff raw v
  | nameWidth => exact @readUInt64_eq_ok_iff raw nameWidth.variableName v
  | showPositions => exact @ok_readFlag_eq_ok_iff raw v

theorem complaint_of_read (h : s.read raw = .error text) : s.Complaint raw text := by
  cases s with
  | cap phase => exact @numeralComplaint_of_readNumber _ Text.parseUInt32 (cap phase) raw text h
  | dropPenaltyPercent => exact complaint_of_readPercent h
  | limit which => exact @numeralComplaint_of_readNumber _ Text.parseUInt64 (limit which) raw text h
  | defaultPhase => exact eq_of_readPhase_error h
  | nameWidth => exact @numeralComplaint_of_readNumber _ Text.parseUInt64 nameWidth raw text h
  | showPositions => exact absurd h (by simp [read])

end Setting

end LeagueRoster
