import LeagueRoster.Page
import LeagueRoster.Proofs.Cap.Penalty
import LeagueRoster.Proofs.Limits.Violations

/-!
Contracts that no longer count. A replaced or expired contract is on no list that a page is
made from unless it is a development contract, and a dropped contract of a kind off the cap
costs nothing. Both may be added to a team anywhere and its page stays as it is, down to the
messages (`ofTeam_interspersed`).
-/
namespace LeagueRoster

open Roster

/-- The second list is the first with entries of a sort added at any places. -/
inductive Interspersed {α : Type} (added : α → Prop) : List α → List α → Prop
  | nil : Interspersed added [] []
  | keep (a : α) {l l' : List α} : Interspersed added l l' → Interspersed added (a :: l) (a :: l')
  | add {a : α} {l l' : List α} : added a → Interspersed added l l' → Interspersed added l (a :: l')

/-- Replaced or expired, and no development contract. -/
def IsDead (c : Contract) : Prop :=
  (c.status = .replaced ∨ c.status = .expired) ∧
    c.kind ≠ .rookieDevelopment ∧ c.kind ≠ .rookieDevelopmentInternational

instance : DecidablePred IsDead := fun c =>
  inferInstanceAs (Decidable ((c.status = .replaced ∨ c.status = .expired) ∧
    c.kind ≠ .rookieDevelopment ∧ c.kind ≠ .rookieDevelopmentInternational))

section Selection

variable {α : Type} {added : α → Prop} {l l' : List α}

theorem Interspersed.refl (l : List α) : Interspersed added l l := by
  induction l with
  | nil => exact .nil
  | cons a rest ih => exact .keep a ih

/-- A selection that takes none of the added entries is the same before and after. -/
theorem Interspersed.filter_eq (h : Interspersed added l l') {p : α → Bool}
    (hp : ∀ a, added a → p a = false) : l'.filter p = l.filter p := by
  induction h with
  | nil => rfl
  | keep a _ ih => rw [List.filter_cons, List.filter_cons, ih]
  | add ha _ ih =>
    rw [List.filter_cons_of_neg, ih]
    simp [hp _ ha]

end Selection

section Dead

variable {c : Contract} (h : IsDead c)
include h

theorem IsDead.isActive_eq : c.isActive = false := by
  obtain ⟨hstatus | hstatus, -⟩ := h <;> simp [Contract.isActive, hstatus]

theorem IsDead.classify_eq : classify c = none := by
  have hkind : c.kind.isRookieDevelopment = false := by
    obtain ⟨-, hdomestic, hinternational⟩ := h
    cases hc : c.kind <;> simp_all [ContractKind.isRookieDevelopment]
  simp [classify, hkind, h.isActive_eq]

end Dead

section Roster

variable {contracts contracts' : List Contract} (h : Interspersed IsDead contracts contracts')
include h

theorem members_interspersed (g : RosterGroup) : members g contracts' = members g contracts := by
  apply h.filter_eq
  intro c hc
  simp [hc.classify_eq]

theorem ofContracts_interspersed : ofContracts contracts' = ofContracts contracts := by
  simp only [ofContracts, members_interspersed h]

theorem keeperViolations_interspersed (limits : RosterLimits) (cap : TeamCap) :
    keeperViolations contracts' limits cap = keeperViolations contracts limits cap := by
  have hkept : keptContracts contracts' = keptContracts contracts :=
    h.filter_eq fun c hc => by simp [hc.isActive_eq]
  have hfound : nonKeepableContracts contracts' = nonKeepableContracts contracts :=
    h.filter_eq fun c hc => by simp [hc.isActive_eq]
  simp only [keeperViolations, nonKeepableViolation, hkept, hfound]

theorem seasonViolations_interspersed (phase : SeasonPhase) (limits : RosterLimits)
    (cap : TeamCap) :
    seasonViolations contracts' phase limits cap = seasonViolations contracts phase limits cap := by
  have hinjured : injuredReserveSlots contracts' = injuredReserveSlots contracts :=
    congrArg List.length (h.filter_eq fun c hc => by simp [hc.isActive_eq])
  simp only [seasonViolations, ofContracts_interspersed h, hinjured]

theorem violations_interspersed (phase : SeasonPhase) (limits : RosterLimits) (cap : TeamCap) :
    violations contracts' phase limits cap = violations contracts phase limits cap := by
  cases phase with
  | keeper => exact keeperViolations_interspersed h limits cap
  | preseason | regularSeason | postSeason => exact seasonViolations_interspersed h _ limits cap

end Roster

theorem TeamCap.penaltySum_interspersed {dropped dropped' : List Contract}
    (h : Interspersed (fun c => c.kind.countsTowardCap = false) dropped dropped')
    (percent : UInt32) : penaltySum dropped' percent = penaltySum dropped percent := by
  induction h with
  | nil => rfl
  | keep c _ ih => rw [penaltySum_cons, penaltySum_cons, ih]
  | add hc _ ih =>
    rw [penaltySum_cons, ih, dropPenalty, hc]
    exact Nat.zero_add _

theorem TeamCap.forPhase_interspersed {dropped dropped' : List Contract}
    (h : Interspersed (fun c => c.kind.countsTowardCap = false) dropped dropped')
    (phase : SeasonPhase) (caps : SalaryCaps) :
    forPhase phase caps dropped' = forPhase phase caps dropped :=
  forPhase_of_penaltySum_eq (penaltySum_interspersed h _) phase

/-- Dead contracts among those of a team, and contracts off the cap among those it dropped, in
any number and at any places, leave every field of its page unchanged. -/
theorem ofTeam_interspersed (team : Team) {contracts dropped : List Contract}
    (hcontracts : Interspersed IsDead team.contracts contracts)
    (hdropped : Interspersed (fun c => c.kind.countsTowardCap = false) team.droppedContracts
      dropped) (phase : SeasonPhase) (config : Config) (viewer : Viewer) :
    RosterPage.ofTeam { team with contracts, droppedContracts := dropped } phase config viewer =
      RosterPage.ofTeam team phase config viewer := by
  simp only [RosterPage.ofTeam, TeamCap.forPhase_interspersed hdropped,
    ofContracts_interspersed hcontracts, violations_interspersed hcontracts, Summary.ofRoster]

/-- A veteran whose contract ran out on injured reserve, a replaced free agent, and a dropped
contract of the development squad. -/
theorem ofTeam_interspersed_crowdedTeam :
    let contract (id : Int64) (kind : ContractKind) : Contract :=
      { id, kind, salary := 90, year := 2, player := .real { id, name := "Gone" } }
    let expired := { contract 20 .veteran with status := .expired, injuredReserve := true }
    let replaced := { contract 21 .freeAgent with status := .replaced }
    let team : Team :=
      { id := 4, name := "Kai", contracts := crowdedTeam
        droppedContracts := [contract 50 .rookie] }
    let contracts := expired :: (crowdedTeam.take 2 ++ replaced :: crowdedTeam.drop 2)
    let dropped := [contract 50 .rookie, contract 51 .rookieDevelopment]
    Interspersed IsDead team.contracts contracts ∧
      Interspersed (fun c => c.kind.countsTowardCap = false) team.droppedContracts dropped ∧
      RosterPage.ofTeam { team with contracts, droppedContracts := dropped } .keeper {} {} =
        RosterPage.ofTeam team .keeper {} {} := by
  intro contract expired replaced team contracts dropped
  have hcontracts : Interspersed IsDead team.contracts contracts :=
    .add (by decide) (.keep _ (.keep _ (.add (by decide) (.refl _))))
  have hdropped : Interspersed (fun c => c.kind.countsTowardCap = false) team.droppedContracts
      dropped := .keep _ (.add rfl .nil)
  exact ⟨hcontracts, hdropped, ofTeam_interspersed team hcontracts hdropped .keeper {} {}⟩

end LeagueRoster
