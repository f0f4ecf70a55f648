import LeagueRoster.Roster
import Mathlib.Data.List.Perm.Basic

/-!
The groups of a roster hold the contracts that are shown and nothing else. Each contract goes
to the one group it is classified for, as often as it occurs in the input; sorting a group
moves its contracts and neither adds nor drops one. The counts of the groups and of the
contracts left out therefore add up to the input (`size_add_countP_none`).
-/
namespace LeagueRoster.Roster

/-- The three kinds of contracts that play. -/
def SquadKind (kind : ContractKind) : Prop :=
  kind = .rookie ∨ kind = .rookieExtension ∨ kind = .veteran

instance : DecidablePred SquadKind := fun kind =>
  inferInstanceAs (Decidable (kind = .rookie ∨ kind = .rookieExtension ∨ kind = .veteran))

/-- The contracts of the active squad, told by their own fields. -/
def OnSquad (c : Contract) : Prop :=
  c.status = .active ∧ c.injuredReserve = false ∧ SquadKind c.kind

instance : DecidablePred OnSquad := fun c =>
  inferInstanceAs (Decidable (c.status = .active ∧ c.injuredReserve = false ∧ SquadKind c.kind))

theorem isActiveOnTeam_iff (kind : ContractKind) : kind.isActiveOnTeam ↔ SquadKind kind := by
  cases kind <;> decide

theorem not_isRookieDevelopment_of_isActiveOnTeam {kind : ContractKind} (h : kind.isActiveOnTeam) :
    kind.isRookieDevelopment = false := by
  revert h
  cases kind <;> decide

theorem domestic_iff (kind : ContractKind) :
    (kind.isRookieDevelopment && !kind.isInternational) ↔ kind = .rookieDevelopment := by
  cases kind <;> decide

theorem international_iff (kind : ContractKind) :
    (kind.isRookieDevelopment && kind.isInternational) ↔
      kind = .rookieDevelopmentInternational := by
  cases kind <;> decide

theorem isActive_iff (c : Contract) : c.isActive ↔ c.status = .active := by
  simp only [Contract.isActive, decide_eq_true_eq]

theorem classify_eq_active_iff (c : Contract) : classify c = some .active ↔ OnSquad c := by
  rw [OnSquad, ← isActiveOnTeam_iff, ← isActive_iff]
  have hapart := @not_isRookieDevelopment_of_isActiveOnTeam c.kind
  unfold classify
  cases c.injuredReserve <;> grind

theorem classify_eq_injuredReserve_iff (c : Contract) :
    classify c = some .injuredReserve ↔
      c.status = .active ∧ c.injuredReserve = true ∧ SquadKind c.kind := by
  rw [← isActiveOnTeam_iff, ← isActive_iff]
  have hapart := @not_isRookieDevelopment_of_isActiveOnTeam c.kind
  unfold classify
  cases c.injuredReserve <;> grind

theorem classify_eq_rookieDevelopment_iff (c : Contract) :
    classify c = some .rookieDevelopment ↔ c.kind.isRookieDevelopment := by
  unfold classify
  cases c.injuredReserve <;> grind

theorem group_perm (contracts : List Contract) (g : RosterGroup) :
    ((ofContracts contracts).group g).Perm (members g contracts) := by
  cases g with
  | active => exact List.mergeSort_perm _ _
  | injuredReserve => exact List.Perm.refl _
  | rookieDevelopment => exact List.mergeSort_perm _ _

theorem members_middle_of_eq {g : RosterGroup} {c : Contract} (h : classify c = some g)
    (front back : List Contract) :
    members g (front ++ c :: back) = members g front ++ c :: members g back := by
  simp [members, h]

theorem members_middle_of_ne {g : RosterGroup} {c : Contract} (h : classify c ≠ some g)
    (front back : List Contract) :
    members g (front ++ c :: back) = members g front ++ members g back := by
  simp [members, h]

theorem mem_members {contracts : List Contract} {g : RosterGroup} {c : Contract} :
    c ∈ members g contracts ↔ c ∈ contracts ∧ classify c = some g := by
  simp only [members, List.mem_filter, decide_eq_true_eq]

theorem mem_group {contracts : List Contract} {g : RosterGroup} {c : Contract} :
    c ∈ (ofContracts contracts).group g ↔ c ∈ contracts ∧ classify c = some g :=
  (group_perm contracts g).mem_iff.trans mem_members

theorem count_members (contracts : List Contract) (g : RosterGroup) (c : Contract) :
    (members g contracts).count c = if classify c = some g then contracts.count c else 0 := by
  split
  · next h => exact List.count_filter (by simpa using h)
  · next h =>
    apply List.count_eq_zero_of_not_mem
    intro hc
    exact h (mem_members.mp hc).2

theorem length_group (contracts : List Contract) (g : RosterGroup) :
    ((ofContracts contracts).group g).length =
      contracts.countP fun c => classify c = some g := by
  rw [(group_perm contracts g).length_eq, members, List.countP_eq_length_filter]

theorem size_eq_countP (contracts : List Contract) :
    (ofContracts contracts).size =
      contracts.countP (fun c => classify c = some .active) +
        contracts.countP (fun c => classify c = some .injuredReserve) +
        contracts.countP (fun c => classify c = some .rookieDevelopment) := by
  rw [← length_group, ← length_group, ← length_group]
  rfl

/-- One more contract raises one of the four counts by one, and the size of the input too. -/
theorem size_add_countP_none (contracts : List Contract) :
    (ofContracts contracts).size + contracts.countP (fun c => classify c = none) =
      contracts.length := by
  rw [size_eq_countP]
  induction contracts with
  | nil => rfl
  | cons c rest ih =>
    simp only [List.countP_cons, List.length_cons]
    cases classify c with
    | none =>
      simp
      omega
    | some g =>
      cases g <;> simp <;> omega

/-- Nothing is lost, shown twice or shown in a wrong place, however often a contract or its id
is repeated; injured reserve keeps the order of the input. -/
theorem ofContracts_conserves (contracts : List Contract) :
    (∀ g, ((ofContracts contracts).group g).Perm
        (contracts.filter fun c => classify c = some g)) ∧
      (∀ g c, ((ofContracts contracts).group g).count c =
        if classify c = some g then contracts.count c else 0) ∧
      (∀ c, classify c = none → ∀ g, c ∉ (ofContracts contracts).group g) ∧
      (ofContracts contracts).injuredReserve =
        contracts.filter (fun c => classify c = some .injuredReserve) ∧
      (ofContracts contracts).size + contracts.countP (fun c => classify c = none) =
        contracts.length := by
  refine ⟨group_perm contracts, ?_, ?_, rfl, size_add_countP_none contracts⟩
  · intro g c
    rw [(group_perm contracts g).count_eq, count_members]
  · intro c hc g hmem
    have hg := (mem_group.mp hmem).2
    rw [hc] at hg
    simp at hg

end LeagueRoster.Roster
