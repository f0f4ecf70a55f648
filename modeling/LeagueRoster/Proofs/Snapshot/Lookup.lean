import LeagueRoster.Proofs.Text.Decimal
import LeagueRoster.Snapshot

/-!
Which team a query finds. A team answers to a text that spells its id, or its name in letters of
either case, and the first team that answers to the trimmed query is meant
(`findTeam_eq_ok_iff`); the lookup fails when no team does, and then lists the names of all of
them. Queries are trimmed and names are not, so that a listed name with a blank at one of its ends
need not find anything (`hintUsable_iff`). The id of a team finds that team, unless an earlier one
is named by the same digits (`findTeam_decimal_id`).
-/
namespace LeagueRoster.Snapshot

open Text (trim decimal IsInteger)

/-- The text spells the id of the team or, letter case of ASCII letters apart, its name. -/
def AnswersTo (team : Team) (text : String) : Prop :=
  IsInteger text.toList team.id.toInt ∨
    team.name.toList.map Char.toLower = text.toList.map Char.toLower

theorem isMeant_iff {text : String} {team : Team} :
    isMeant text team = true ↔ AnswersTo team text := by
  have hname : sameName team.name text = true ↔
      team.name.toList.map Char.toLower = text.toList.map Char.toLower := beq_iff_eq
  rw [isMeant, Bool.or_eq_true, hname, AnswersTo, ← Text.parseInt64_eq_ok_iff]
  apply or_congr_left
  cases Text.parseInt64 text with
  | ok id =>
    rw [Except.ok.injEq, beq_iff_eq]
    exact eq_comm
  | error fault => simp

section Lookup

variable {s : Snapshot} {query : String}

theorem findTeam_of_find? {team : Team}
    (h : s.teams.find? (isMeant (trim query)) = some team) : s.findTeam query = .ok team := by
  simp only [findTeam, h]

theorem findTeam_of_find?_none (h : s.teams.find? (isMeant (trim query)) = none) :
    s.findTeam query = .error (.teamNotFound (trim query) (s.teams.map Team.name)) := by
  simp only [findTeam, h]

/-- The first team that answers to the trimmed query is found. -/
theorem findTeam_eq_ok_iff {team : Team} :
    s.findTeam query = .ok team ↔ ∃ front back, s.teams = front ++ team :: back ∧
      AnswersTo team (trim query) ∧ ∀ other ∈ front, ¬AnswersTo other (trim query) := by
  have hfind : s.findTeam query = .ok team ↔
      s.teams.find? (isMeant (trim query)) = some team := by
    constructor
    · intro h
      cases hfound : s.teams.find? (isMeant (trim query)) with
      | some found =>
        rw [findTeam_of_find? hfound] at h
        rw [Except.ok.inj h]
      | none =>
        rw [findTeam_of_find?_none hfound] at h
        exact absurd h (by simp)
    · exact findTeam_of_find?
  rw [hfind, List.find?_eq_some_iff_append, isMeant_iff]
  simp only [Bool.not_eq_true', Bool.eq_false_iff, ne_eq, isMeant_iff]
  constructor
  · rintro ⟨hteam, front, back, hteams, hfront⟩
    exact ⟨front, back, hteams, hteam, hfront⟩
  · rintro ⟨front, back, hteams, hteam, hfront⟩
    exact ⟨hteam, front, back, hteams, hfront⟩

theorem findTeam_eq_error_iff {fault : Fault} :
    s.findTeam query = .error fault ↔
      fault = .teamNotFound (trim query) (s.teams.map Team.name) ∧
        ∀ team ∈ s.teams, ¬AnswersTo team (trim query) := by
  have hnone : s.teams.find? (isMeant (trim query)) = none ↔
      ∀ team ∈ s.teams, ¬AnswersTo team (trim query) := by
    rw [List.find?_eq_none]
    simp only [isMeant_iff]
  rw [← hnone]
  constructor
  · intro h
    cases hfound : s.teams.find? (isMeant (trim query)) with
    | some team =>
      rw [findTeam_of_find? hfound] at h
      exact absurd h (by simp)
    | none =>
      rw [findTeam_of_find?_none hfound] at h
      exact ⟨(Except.error.inj h).symm, rfl⟩
  · rintro ⟨rfl, h⟩
    exact findTeam_of_find?_none h

theorem exists_findTeam_iff :
    (∃ team, s.findTeam query = .ok team) ↔ ∃ team ∈ s.teams, AnswersTo team (trim query) := by
  constructor
  · rintro ⟨team, h⟩
    obtain ⟨front, back, hteams, hteam, -⟩ := findTeam_eq_ok_iff.mp h
    rw [hteams]
    exact ⟨team, List.mem_append_right _ List.mem_cons_self, hteam⟩
  · rintro ⟨team, hmem, hteam⟩
    cases hfind : s.findTeam query with
    | ok found => exact ⟨found, rfl⟩
    | error fault => exact absurd hteam ((findTeam_eq_error_iff.mp hfind).2 team hmem)

end Lookup

section Hint

/-- Every name that a failed lookup lists finds a team when it is asked for as it is listed. -/
def HintUsable (s : Snapshot) (query : String) : Prop :=
  ∀ asked available, s.findTeam query = .error (.teamNotFound asked available) →
    ∀ name ∈ available, ∃ team, s.findTeam name = .ok team

theorem answersTo_name (team : Team) : AnswersTo team team.name := Or.inr rfl

/-- Exactly when the hint of a lookup can be followed: the lookup does not fail in the first
place, or every name either has no blanks at its ends or belongs, without them, to some team. -/
theorem hintUsable_iff (s : Snapshot) (query : String) :
    HintUsable s query ↔
      (∃ team, s.findTeam query = .ok team) ∨
        ∀ team ∈ s.teams, trim team.name = team.name ∨
          ∃ other ∈ s.teams, AnswersTo other (trim team.name) := by
  cases hfind : s.findTeam query with
  | ok found =>
    constructor
    · intro _
      exact Or.inl ⟨found, rfl⟩
    · intro _ asked available h
      exact absurd (hfind.symm.trans h) (by simp)
  | error fault =>
    obtain ⟨hfault, -⟩ := findTeam_eq_error_iff.mp hfind
    subst hfault
    constructor
    · intro h
      refine Or.inr ?_
      intro team hteam
      have hlisted : team.name ∈ s.teams.map Team.name := List.mem_map_of_mem hteam
      exact Or.inr (exists_findTeam_iff.mp (h _ _ hfind team.name hlisted))
    · rintro (⟨team, hteam⟩ | h) asked available hasked name hname
      · exact absurd hteam (by simp)
      · obtain ⟨-, rfl⟩ := Fault.teamNotFound.inj (Except.error.inj (hfind.symm.trans hasked))
        obtain ⟨team, hteam, rfl⟩ := List.mem_map.mp hname
        rw [exists_findTeam_iff]
        rcases h team hteam with htrim | hother
        · rw [htrim]
          exact ⟨team, hteam, answersTo_name team⟩
        · exact hother

/-- A name with a blank in front is listed, but does not find its team. -/
theorem not_hintUsable_blank :
    let s : Snapshot := ⟨[{ id := 1, name := " Kai" }]⟩
    s.findTeam "Dan" = .error (.teamNotFound "Dan" [" Kai"]) ∧
      s.findTeam " Kai" = .error (.teamNotFound "Kai" [" Kai"]) ∧ ¬HintUsable s "Dan" := by
  intro s
  have hdan : s.findTeam "Dan" = .error (.teamNotFound "Dan" [" Kai"]) := by rfl
  have hkai : s.findTeam " Kai" = .error (.teamNotFound "Kai" [" Kai"]) := by rfl
  refine ⟨hdan, hkai, ?_⟩
  intro h
  obtain ⟨team, hteam⟩ := h _ _ hdan " Kai" List.mem_cons_self
  exact absurd (hkai.symm.trans hteam) (by simp)

end Hint

section Id

theorem isDigit_or_minus_of_mem_decimal {n : Int} {c : Char} (h : c ∈ (decimal n).toList) :
    c.isDigit ∨ c = '-' := by
  rw [decimal, String.toList_ofList] at h
  exact Text.isDigit_or_minus_of_mem_decimalChars h

theorem toNat_le_of_isDigit_or_minus {c : Char} (h : c.isDigit ∨ c = '-') :
    45 ≤ c.toNat ∧ c.toNat ≤ 57 := by
  rcases h with h | rfl
  · obtain ⟨hlow, hhigh⟩ := Text.toNat_of_isDigit h
    exact ⟨Nat.le_trans (by decide) hlow, hhigh⟩
  · decide

/-- No other character becomes a digit or a hyphen in lowercase. -/
theorem eq_of_toLower_eq {c d : Char} (hd : d.isDigit ∨ d = '-') (h : c.toLower = d.toLower) :
    c = d := by
  have hcode := toNat_le_of_isDigit_or_minus hd
  have hfixed : d.toLower = d := by
    refine dif_neg ?_
    rintro ⟨hlow, -⟩
    have hupper : 65 ≤ d.toNat := UInt32.le_iff_toNat_le.mp hlow
    omega
  rw [hfixed] at h
  unfold Char.toLower at h
  split at h
  · next hupper =>
    have hlow : 65 ≤ c.val.toNat := UInt32.le_iff_toNat_le.mp hupper.1
    have hhigh : c.val.toNat ≤ 90 := UInt32.le_iff_toNat_le.mp hupper.2
    have hval : (c.val + ('a'.val - 'A'.val)).toNat = d.toNat := congrArg Char.toNat h
    rw [UInt32.toNat_add] at hval
    have hshift : ('a'.val - 'A'.val).toNat = 32 := by decide
    omega
  · exact h

theorem trim_decimal (n : Int) : trim (decimal n) = decimal n := by
  apply Text.trim_of_forall_not_isBlank
  intro c hc
  obtain ⟨hlow, hhigh⟩ := toNat_le_of_isDigit_or_minus (isDigit_or_minus_of_mem_decimal hc)
  exact Text.not_isBlank_of_le (Nat.le_trans (by decide) hlow) hhigh

theorem eq_of_map_toLower_eq {cs ds : List Char} (hds : ∀ d ∈ ds, d.isDigit ∨ d = '-')
    (h : cs.map Char.toLower = ds.map Char.toLower) : cs = ds := by
  induction ds generalizing cs with
  | nil => exact List.map_eq_nil_iff.mp h
  | cons d ds ih =>
    obtain ⟨c, cs, rfl, hc, hcs⟩ := List.map_eq_cons_iff.mp h
    rw [List.forall_mem_cons] at hds
    rw [eq_of_toLower_eq hds.1 hc, ih hds.2 hcs]

theorem isInteger_decimal (n : Int) : IsInteger (decimal n).toList n := by
  rw [decimal, String.toList_ofList]
  exact Text.isInteger_decimalChars n

/-- A team with another id answers to an id only if it is named by its digits. -/
theorem answersTo_decimal_iff {other : Team} {id : Int64} (hid : other.id ≠ id) :
    AnswersTo other (decimal id.toInt) ↔ other.name = decimal id.toInt := by
  constructor
  · rintro (hspelled | hname)
    · have hown := Text.parseInt64_eq_ok_iff.mpr (isInteger_decimal id.toInt)
      rw [← Text.parseInt64_eq_ok_iff] at hspelled
      exact absurd (Except.ok.inj (hspelled.symm.trans hown)) hid
    · apply String.toList_injective
      exact eq_of_map_toLower_eq (fun _ => isDigit_or_minus_of_mem_decimal) hname
  · intro hname
    exact Or.inr (congrArg (fun s => s.toList.map Char.toLower) hname)

/-- The team that is found by the digits of an id, of a team and of those listed before it. -/
def firstNamed (front : List Team) (team : Team) : Team :=
  (front.find? fun other => other.name = decimal team.id.toInt).getD team

theorem firstNamed_eq_iff {front : List Team} {team : Team}
    (hother : ∀ other ∈ front, other.id ≠ team.id) :
    firstNamed front team = team ↔ ∀ other ∈ front, other.name ≠ decimal team.id.toInt := by
  unfold firstNamed
  cases hfind : front.find? fun other => other.name = decimal team.id.toInt with
  | none =>
    constructor
    · intro _ other hmem
      simpa using List.find?_eq_none.mp hfind other hmem
    · intro _
      rfl
  | some found =>
    have hmem := List.mem_of_find?_eq_some hfind
    have hname : found.name = decimal team.id.toInt := by simpa using List.find?_some hfind
    constructor
    · intro h
      exact absurd (congrArg Team.id h) (hother found hmem)
    · intro h
      exact absurd hname (h found hmem)

theorem findTeam_firstNamed {s : Snapshot} {front back : List Team} {team : Team}
    (hteams : s.teams = front ++ team :: back) (hother : ∀ other ∈ front, other.id ≠ team.id) :
    s.findTeam (decimal team.id.toInt) = .ok (firstNamed front team) := by
  rw [findTeam_eq_ok_iff, trim_decimal, firstNamed]
  cases hfind : front.find? fun other => other.name = decimal team.id.toInt with
  | none =>
    refine ⟨front, back, hteams, Or.inl (isInteger_decimal team.id.toInt), ?_⟩
    intro other hmem
    rw [answersTo_decimal_iff (hother other hmem)]
    simpa using List.find?_eq_none.mp hfind other hmem
  | some found =>
    obtain ⟨hname, early, late, rfl, hearly⟩ := List.find?_eq_some_iff_append.mp hfind
    refine ⟨early, late ++ team :: back, by simp [hteams], ?_, ?_⟩
    · rw [Option.getD_some, answersTo_decimal_iff (hother found (by simp))]
      simpa using hname
    · intro other hmem
      rw [answersTo_decimal_iff (hother other (List.mem_append_left _ hmem))]
      simpa using hearly other hmem

/-- Where no two teams share an id, the id of a team always finds a team: the first one in front
of it that is named by the same digits, and the team itself exactly when there is none. -/
theorem findTeam_decimal_id {s : Snapshot} {front back : List Team} {team : Team}
    (hids : (s.teams.map Team.id).Nodup) (hteams : s.teams = front ++ team :: back) :
    s.findTeam (decimal team.id.toInt) = .ok (firstNamed front team) ∧
      (s.findTeam (decimal team.id.toInt) = .ok team ↔
        ∀ other ∈ front, other.name ≠ decimal team.id.toInt) := by
  have hother : ∀ other ∈ front, other.id ≠ team.id := by
    rw [hteams, List.map_append, List.map_cons] at hids
    intro other hmem
    exact (List.nodup_append.mp hids).2.2 _ (List.mem_map_of_mem hmem) _ List.mem_cons_self
  have hfound := findTeam_firstNamed hteams hother
  refine ⟨hfound, ?_⟩
  rw [hfound, Except.ok.injEq]
  exact firstNamed_eq_iff hother

/-- A name that looks like the id of the team in front of it, and a negative id. -/
theorem findTeam_decimal_id_behind_kai :
    let kai : Team := { id := 1, name := "Kai" }
    let dan : Team := { id := -2, name := "1" }
    let s : Snapshot := ⟨[kai, dan]⟩
    (s.teams.map Team.id).Nodup ∧ s.teams = [kai] ++ dan :: [] ∧
      s.findTeam (decimal dan.id.toInt) = .ok dan ∧
      s.findTeam (decimal kai.id.toInt) = .ok kai := by
  intro kai dan s
  have hids : (s.teams.map Team.id).Nodup := by decide
  have hbehind : s.teams = [kai] ++ dan :: [] := rfl
  have hinFront : s.teams = [] ++ kai :: [dan] := rfl
  have hname : ∀ other ∈ [kai], other.name ≠ decimal dan.id.toInt := by decide
  have hnone : ∀ other ∈ ([] : List Team), other.name ≠ decimal kai.id.toInt := by simp
  exact ⟨hids, hbehind, (findTeam_decimal_id hids hbehind).2.mpr hname,
    (findTeam_decimal_id hids hinFront).2.mpr hnone⟩

/-- An earlier team that is named by the id of a later one is found in its place. -/
theorem findTeam_shadowed_id :
    let shadow : Team := { id := 1, name := "2" }
    let dan : Team := { id := 2, name := "Dan" }
    let s : Snapshot := ⟨[shadow, dan]⟩
    (s.teams.map Team.id).Nodup ∧ dan ∈ s.teams ∧
      s.findTeam (decimal dan.id.toInt) = .ok shadow ∧
      s.findTeam (decimal dan.id.toInt) ≠ .ok dan := by
  intro shadow dan s
  have hfirst : firstNamed [shadow] dan = shadow := by decide
  have hother : ∀ other ∈ [shadow], other.id ≠ dan.id := by decide
  have hteams : s.teams = [shadow] ++ dan :: [] := rfl
  have hfound : s.findTeam (decimal dan.id.toInt) = .ok shadow := by
    rw [findTeam_firstNamed hteams hother, hfirst]
  refine ⟨by decide, by decide, hfound, ?_⟩
  rw [hfound]
  intro h
  exact absurd (congrArg Team.id (Except.ok.inj h)) (by decide)

end Id

end LeagueRoster.Snapshot
