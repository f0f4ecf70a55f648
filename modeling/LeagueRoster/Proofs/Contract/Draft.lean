import LeagueRoster.Contract.Draft
import Mathlib.Data.List.DropRight

/-!
What has become of a fresh contract after a run of edits. Of each term the last edit that gives it
decides, and what is once on the injured reserve stays there. The name on display is the last one
given since a league player was put behind the contract, or else the name this player came with.
A league player refers to the real player it is linked to all the while (`drafted_edits`).
-/
namespace LeagueRoster

/-- The reference of a league player is to the real player it is linked to, if to any. -/
def Player.Linked : Player → Prop
  | .league p => p.realPlayerId = p.realPlayer.map RealPlayer.id
  | .real _ => True

theorem Player.Linked.rename {p : Player} (h : p.Linked) (name : String) :
    (p.rename name).Linked := by
  rcases p with ⟨_, _, _, _, _ | _⟩ | _ <;> exact h

namespace Contract

namespace Edit

def salary? : Edit → Option UInt16
  | .salary amount => some amount
  | _ => none

def year? : Edit → Option UInt16
  | .year number => some number
  | _ => none

def status? : Edit → Option ContractStatus
  | .status value => some value
  | _ => none

def name? : Edit → Option String
  | .rename name => some name
  | _ => none

/-- What is shown of a player as an edit puts it behind the contract. -/
def profile? : Edit → Option Profile
  | .leaguePlayer name linked => some (linked.elim { name } RealPlayer.profile)
  | _ => none

def bringsPlayer : Edit → Bool
  | .leaguePlayer _ _ => true
  | _ => false

end Edit

variable {α : Type} {read : Contract → α} {given : Edit → Option α} {flag : Contract → Bool}
  {raises : Edit → Bool} {c : Contract}

/-- What the last edit gives that gives anything, or else what there was before. -/
def lastGiven (given : Edit → Option α) (steps : List Edit) (before : α) : α :=
  (steps.filterMap given).getLastD before

/-- The edits behind the last one that puts a player behind the contract, or all if none does. -/
def sincePlayer (steps : List Edit) : List Edit := steps.rtakeWhile fun e => !e.bringsPlayer

@[simp]
theorem lastGiven_concat (given : Edit → Option α) (steps : List Edit) (e : Edit) (before : α) :
    lastGiven given (steps ++ [e]) before = (given e).getD (lastGiven given steps before) := by
  unfold lastGiven
  cases h : given e <;> simp [h]

theorem sincePlayer_concat (steps : List Edit) (e : Edit) :
    sincePlayer (steps ++ [e]) = if e.bringsPlayer then [] else sincePlayer steps ++ [e] := by
  cases h : e.bringsPlayer <;> simp [sincePlayer, h]

theorem edits_concat (c : Contract) (steps : List Edit) (e : Edit) :
    c.edits (steps ++ [e]) = (c.edits steps).edit e := by
  rw [edits, List.foldl_concat]
  rfl

/-- An edit changes what is read to what it gives, and leaves it alone if it gives nothing. -/
def GivenBy (read : Contract → α) (given : Edit → Option α) : Prop :=
  ∀ c e, read (c.edit e) = (given e).getD (read c)

theorem GivenBy.edits (h : GivenBy read given) (c : Contract) (steps : List Edit) :
    read (c.edits steps) = lastGiven given steps (read c) := by
  induction steps using List.reverseRecOn with
  | nil => rfl
  | append_singleton steps e ih => rw [edits_concat, h, ih, lastGiven_concat]

theorem givenBy_salary : GivenBy salary Edit.salary? := by
  intro c e
  cases e <;> rfl

theorem givenBy_year : GivenBy year Edit.year? := by
  intro c e
  cases e <;> rfl

theorem givenBy_status : GivenBy status Edit.status? := by
  intro c e
  cases e <;> rfl

/-- What no edit gives is kept. -/
theorem GivenBy.edits_none (h : GivenBy read fun _ => none) (c : Contract) (steps : List Edit) :
    read (c.edits steps) = read c := by
  rw [h.edits, lastGiven, List.filterMap_none]
  rfl

theorem givenBy_id : GivenBy id fun _ => none := by
  intro c e
  cases e <;> rfl

theorem givenBy_kind : GivenBy kind fun _ => none := by
  intro c e
  cases e <;> rfl

/-- Some edits raise a flag, and none takes it down. -/
def RaisedBy (flag : Contract → Bool) (raises : Edit → Bool) : Prop :=
  ∀ c e, flag (c.edit e) = (flag c || raises e)

theorem RaisedBy.edits (h : RaisedBy flag raises) (c : Contract) (steps : List Edit) :
    flag (c.edits steps) = (flag c || steps.any raises) := by
  induction steps using List.reverseRecOn with
  | nil => simp [Contract.edits]
  | append_singleton steps e ih => simp [edits_concat, h _ e, ih, Bool.or_assoc]

theorem raisedBy_injuredReserve :
    RaisedBy injuredReserve fun e => decide (e = .injuredReserve) := by
  intro c e
  cases e <;> simp [edit]

theorem raisedBy_isLeague : RaisedBy (fun c => c.player.isLeague) Edit.bringsPlayer := by
  intro c e
  cases e with
  | leaguePlayer name linked => simp [edit, Edit.bringsPlayer, Player.isLeague]
  | _ => simp [edit, Edit.bringsPlayer]

theorem profile_edit_rename (c : Contract) (name : String) :
    (c.edit (.rename name)).profile = { c.profile with name } :=
  c.player.profile_rename name

theorem profile_edit_leaguePlayer (c : Contract) (name : String) (linked : Option RealPlayer) :
    (c.edit (.leaguePlayer name linked)).profile = linked.elim { name } RealPlayer.profile := by
  cases linked <;> rfl

/-- Position, team and photo are those of the last player put behind the contract; its name gives
way to a later one only. -/
theorem profile_edits (c : Contract) (steps : List Edit) :
    let player := lastGiven Edit.profile? steps c.profile
    (c.edits steps).profile =
      { player with name := lastGiven Edit.name? (sincePlayer steps) player.name } := by
  induction steps using List.reverseRecOn with
  | nil => rfl
  | append_singleton steps e ih =>
    rw [edits_concat, lastGiven_concat, sincePlayer_concat]
    cases e with
    | rename name =>
      rw [profile_edit_rename, ih]
      simp [Edit.bringsPlayer, Edit.profile?, Edit.name?]
    | leaguePlayer name linked =>
      -- The names given before were those of another player.
      rw [profile_edit_leaguePlayer]
      rfl
    | _ =>
      simp only [Edit.bringsPlayer, Bool.false_eq_true, if_false, lastGiven_concat, Edit.profile?,
        Edit.name?, Option.getD_none]
      exact ih

theorem linked_edit (h : c.player.Linked) (e : Edit) : (c.edit e).player.Linked := by
  cases e with
  | rename name => exact h.rename name
  | leaguePlayer name linked => rfl
  | _ => exact h

theorem linked_edits (h : c.player.Linked) (steps : List Edit) :
    (c.edits steps).player.Linked := by
  induction steps generalizing c with
  | nil => exact h
  | cons e rest ih => exact ih (linked_edit h e)

/-- What is shown of the player behind a contract that began fresh, if nobody had renamed it. -/
def playerProfile (id : Int64) (steps : List Edit) : Profile :=
  lastGiven Edit.profile? steps { name := "Player " ++ Text.decimal id.toInt }

/-- A fresh contract after some edits. -/
structure Drafted (id : Int64) (kind : ContractKind) (steps : List Edit) (c : Contract) :
    Prop where
  id_eq : c.id = id
  kind_eq : c.kind = kind
  salary : c.salary = lastGiven Edit.salary? steps 1
  year : c.year = lastGiven Edit.year? steps 1
  status : c.status = lastGiven Edit.status? steps .active
  injuredReserve : c.injuredReserve = true ↔ .injuredReserve ∈ steps
  displayName : c.displayName =
    lastGiven Edit.name? (sincePlayer steps) (playerProfile id steps).name
  profile : c.profile = { playerProfile id steps with name := c.displayName }
  isLeague : c.player.isLeague = true ↔ ∃ e ∈ steps, e.bringsPlayer = true
  linked : c.player.Linked

/-- What an edit of a fresh contract says holds until a later one says otherwise. -/
theorem drafted_edits (id : Int64) (kind : ContractKind) (steps : List Edit) :
    Drafted id kind steps ((fresh id kind).edits steps) := by
  have hprofile := profile_edits (fresh id kind) steps
  have hname := congrArg Profile.name hprofile
  constructor
  case id_eq => exact givenBy_id.edits_none (fresh id kind) steps
  case kind_eq => exact givenBy_kind.edits_none (fresh id kind) steps
  case salary => exact givenBy_salary.edits (fresh id kind) steps
  case year => exact givenBy_year.edits (fresh id kind) steps
  case status => exact givenBy_status.edits (fresh id kind) steps
  case injuredReserve =>
    rw [raisedBy_injuredReserve.edits]
    simp [fresh]
  case displayName => exact hname
  case profile =>
    rw [displayName, hname]
    exact hprofile
  case isLeague =>
    rw [raisedBy_isLeague.edits (fresh id kind) steps]
    simp [fresh, Player.isLeague]
  case linked => exact linked_edits (c := fresh id kind) trivial steps

/-- A league player brings the name of the real one it is linked to, and renaming reaches that. -/
example :
    let linked : RealPlayer := { id := 1, name := "V. Wembanyama", position := some "C" }
    let c := (fresh 9 .rookie).edits
      [.rename "Mikal Bridges", .salary 5, .leaguePlayer "Draft Stash" (some linked), .salary 7]
    c.displayName = "V. Wembanyama" ∧ c.salary = 7 ∧
      (c.edit (.rename "Victor Wembanyama")).player = .league
        { id := 9, name := "Draft Stash", realPlayerId := some 1
          realPlayer := some { linked with name := "Victor Wembanyama" } } := by
  decide

end Contract

end LeagueRoster
