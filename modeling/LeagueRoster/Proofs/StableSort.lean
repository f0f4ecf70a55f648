import Mathlib.Data.List.Induction
import Mathlib.Data.List.Perm.Basic

/-!
Stable sorting by a comparison in which different entries may tie. The entries that tie with
one of them form a class, and a stable sort leaves each class as the input has it. Together
with the order between the classes this leaves one list only (`eq_of_stableOrder`), so a list
is recognized as the sorted one by its properties (`eq_mergeSort_iff`). Three laws of sorting
follow: parts of which one stands before the other are sorted apart (`mergeSort_eq_append`),
an entry that leaves the input moves no other (`exists_mergeSort_middle`), and a last entry of
the input goes behind all that do not compare greater (`exists_mergeSort_concat`).
-/
namespace LeagueRoster.StableSort

variable {α : Type} {cmp : α → α → Ordering}

/-- The entries that tie with `a`, in the order of the list. -/
def tied (cmp : α → α → Ordering) (a : α) (l : List α) : List α :=
  l.filter fun b => cmp a b = .eq

/-- The entries of `input` in increasing order, those that tie in the order of `input`. -/
structure StableOrder (cmp : α → α → Ordering) (input out : List α) : Prop where
  perm : out.Perm input
  sorted : out.Pairwise fun a b => (cmp a b).isLE
  ties : ∀ a, tied cmp a out = tied cmp a input

theorem tied_cons_of_eq {a b : α} (h : cmp a b = .eq) (l : List α) :
    tied cmp a (b :: l) = b :: tied cmp a l := by
  simp [tied, h]

theorem tied_cons_of_ne {a b : α} (h : cmp a b ≠ .eq) (l : List α) :
    tied cmp a (b :: l) = tied cmp a l := by
  simp [tied, h]

theorem tied_cons_self [Std.ReflCmp cmp] (a : α) (l : List α) :
    tied cmp a (a :: l) = a :: tied cmp a l :=
  tied_cons_of_eq Std.ReflCmp.compare_self l

theorem tied_tail_eq {a b : α} {l₁ l₂ : List α} (h : tied cmp a (b :: l₁) = tied cmp a (b :: l₂)) :
    tied cmp a l₁ = tied cmp a l₂ := by
  simp only [tied, List.filter_cons] at h ⊢
  split at h
  · exact (List.cons.inj h).2
  · exact h

theorem mem_tied {a b : α} {l : List α} : b ∈ tied cmp a l ↔ b ∈ l ∧ cmp a b = .eq := by
  simp only [tied, List.mem_filter, decide_eq_true_eq]

theorem tied_append (a : α) (l₁ l₂ : List α) :
    tied cmp a (l₁ ++ l₂) = tied cmp a l₁ ++ tied cmp a l₂ :=
  List.filter_append l₁ l₂

theorem self_mem_of_tied_cons {a : α} {l₁ l₂ : List α} [Std.ReflCmp cmp]
    (h : tied cmp a (a :: l₁) = tied cmp a l₂) : a ∈ l₂ := by
  have ha : a ∈ tied cmp a l₂ := by
    rw [← h, tied_cons_self]
    exact List.mem_cons_self
  exact (mem_tied.mp ha).1

theorem isLE_head {a b : α} {l : List α} [Std.ReflCmp cmp]
    (h : (a :: l).Pairwise fun x y => (cmp x y).isLE) (hb : b ∈ a :: l) : (cmp a b).isLE := by
  rcases List.mem_cons.mp hb with rfl | hb
  · simp [Std.ReflCmp.compare_self]
  · exact (List.pairwise_cons.mp h).1 b hb

/-- A stable order in terms of what may stand before an entry and what is level with it. -/
theorem stableOrder_iff {before same : α → α → Prop} [∀ a, DecidablePred (same a)]
    (hbefore : ∀ a b, (cmp a b).isLE ↔ before a b) (hsame : ∀ a b, cmp a b = .eq ↔ same a b)
    {input out : List α} :
    StableOrder cmp input out ↔ out.Perm input ∧ out.Pairwise before ∧
      ∀ a, out.filter (fun b => same a b) = input.filter fun b => same a b := by
  have hsorted : (out.Pairwise fun a b => (cmp a b).isLE) ↔ out.Pairwise before := by
    simp only [hbefore]
  have hties : ∀ (a : α) (l : List α), tied cmp a l = l.filter fun b => same a b := by
    intro a l
    simp only [tied, hsame]
  constructor
  · intro h
    refine ⟨h.perm, hsorted.mp h.sorted, ?_⟩
    intro a
    rw [← hties, ← hties, h.ties a]
  · rintro ⟨hperm, hpairwise, hfilter⟩
    refine ⟨hperm, hsorted.mpr hpairwise, ?_⟩
    intro a
    rw [hties, hties, hfilter a]

/-- Only the order of the entries of the list matters for sorting it. -/
theorem mergeSort_congr {cmp' : α → α → Ordering} {l : List α}
    (h : ∀ a ∈ l, ∀ b ∈ l, cmp a b = cmp' a b) :
    (l.mergeSort fun a b => (cmp a b).isLE) = l.mergeSort fun a b => (cmp' a b).isLE := by
  have hmap : (l.mergeSort fun a b => (cmp a b).isLE).map id =
      (l.map id).mergeSort fun a b => (cmp' a b).isLE :=
    List.map_mergeSort fun a ha b hb => congrArg Ordering.isLE (h a ha b hb)
  rwa [List.map_id, List.map_id] at hmap

section TotalOrder

variable [Std.TransCmp cmp]

/-- A sorted list is known from its classes of ties: the heads of two such lists tie, so they
lead the same class. -/
theorem eq_of_tied_eq {l₁ l₂ : List α} (h₁ : l₁.Pairwise fun a b => (cmp a b).isLE)
    (h₂ : l₂.Pairwise fun a b => (cmp a b).isLE) (h : ∀ a, tied cmp a l₁ = tied cmp a l₂) :
    l₁ = l₂ := by
  induction l₁ generalizing l₂ with
  | nil =>
    cases l₂ with
    | nil => rfl
    | cons y t₂ => exact absurd (self_mem_of_tied_cons (h y).symm) List.not_mem_nil
  | cons x t₁ ih =>
    cases l₂ with
    | nil => exact absurd (self_mem_of_tied_cons (h x)) List.not_mem_nil
    | cons y t₂ =>
      have hx : x ∈ y :: t₂ := self_mem_of_tied_cons (h x)
      have hy : y ∈ x :: t₁ := self_mem_of_tied_cons (h y).symm
      have htie : cmp x y = .eq :=
        Std.OrientedCmp.isLE_antisymm (isLE_head h₁ hy) (isLE_head h₂ hx)
      have hclass := h x
      rw [tied_cons_self, tied_cons_of_eq htie] at hclass
      obtain rfl : x = y := (List.cons.inj hclass).1
      have htail : t₁ = t₂ := ih h₁.tail h₂.tail fun a => tied_tail_eq (h a)
      rw [htail]

theorem eq_of_stableOrder {input l₁ l₂ : List α} (h₁ : StableOrder cmp input l₁)
    (h₂ : StableOrder cmp input l₂) : l₁ = l₂ := by
  apply eq_of_tied_eq h₁.sorted h₂.sorted
  intro a
  rw [h₁.ties a, h₂.ties a]

theorem tied_of_tie {a b : α} (h : cmp a b = .eq) (l : List α) : tied cmp a l = tied cmp b l := by
  simp only [tied, Std.TransCmp.congr_left h]

/-- Entries compared by what a function makes of them. -/
theorem transCmp_comap {β : Type} (f : β → α) : Std.TransCmp fun a b => cmp (f a) (f b) where
  eq_swap := by
    intro a b
    exact Std.OrientedCmp.eq_swap
  isLE_trans := by
    intro a b c hab hbc
    exact Std.TransCmp.isLE_trans hab hbc

theorem isLE_trans (a b c : α) (hab : (cmp a b).isLE) (hbc : (cmp b c).isLE) :
    (cmp a c).isLE := Std.TransCmp.isLE_trans hab hbc

theorem isLE_total (a b : α) : (cmp a b).isLE || (cmp b a).isLE := by
  have hswap : cmp b a = (cmp a b).swap := Std.OrientedCmp.eq_swap
  rw [hswap]
  cases cmp a b <;> rfl

theorem pairwise_mergeSort (l : List α) :
    (l.mergeSort fun a b => (cmp a b).isLE).Pairwise fun a b => (cmp a b).isLE :=
  List.pairwise_mergeSort isLE_trans isLE_total l

theorem isLE_of_mem_tied {a b c : α} {l : List α} (hb : b ∈ tied cmp a l) (hc : c ∈ tied cmp a l) :
    (cmp b c).isLE := by
  have hba : cmp b a = .eq := Std.OrientedCmp.eq_symm (mem_tied.mp hb).2
  have hbc : cmp b c = .eq := Std.TransCmp.eq_trans hba (mem_tied.mp hc).2
  simp [hbc]

/-- A class of ties is a sorted part of the list, which the sort keeps as it is. -/
theorem tied_mergeSort (a : α) (l : List α) :
    tied cmp a (l.mergeSort fun a b => (cmp a b).isLE) = tied cmp a l := by
  have hsorted : (tied cmp a l).Pairwise fun x y => (cmp x y).isLE :=
    List.pairwise_iff_forall_sublist.mpr fun hsub =>
      isLE_of_mem_tied (hsub.subset (by simp)) (hsub.subset (by simp))
  have hsub : (tied cmp a l).Sublist (l.mergeSort fun a b => (cmp a b).isLE) :=
    List.sublist_mergeSort isLE_trans isLE_total hsorted List.filter_sublist
  have hclass : (tied cmp a l).Sublist
      (tied cmp a (l.mergeSort fun a b => (cmp a b).isLE)) := by
    simpa only [tied, List.filter_filter, Bool.and_self] using hsub.filter fun b => cmp a b = .eq
  have hlength : (tied cmp a l).length =
      (tied cmp a (l.mergeSort fun a b => (cmp a b).isLE)).length :=
    ((List.mergeSort_perm l _).filter _).length_eq.symm
  exact (hclass.eq_of_length hlength).symm

theorem stableOrder_mergeSort (l : List α) :
    StableOrder cmp l (l.mergeSort fun a b => (cmp a b).isLE) :=
  ⟨List.mergeSort_perm l _, pairwise_mergeSort l, fun a => tied_mergeSort a l⟩

theorem eq_mergeSort_iff {input out : List α} :
    out = input.mergeSort (fun a b => (cmp a b).isLE) ↔ StableOrder cmp input out := by
  constructor
  · rintro rfl
    exact stableOrder_mergeSort input
  · intro h
    exact eq_of_stableOrder h (stableOrder_mergeSort input)

section FirstClass

variable {first : α → Bool} (hfirst : ∀ a b, first a → first b = false → cmp a b = .lt)
include hfirst

/-- Entries that tie are on the same side of a cut that the order respects. -/
theorem first_eq_of_tied {a b : α} (htie : cmp a b = .eq) : first a = first b := by
  cases ha : first a with
  | true =>
    cases hb : first b with
    | true => rfl
    | false => simp [hfirst a b ha hb] at htie
  | false =>
    cases hb : first b with
    | true =>
      have hba : cmp b a = .eq := Std.OrientedCmp.eq_symm htie
      simp [hfirst b a hb ha] at hba
    | false => rfl

/-- If some entries stand before all others, the two parts can be sorted apart. -/
theorem mergeSort_eq_append (l : List α) :
    (l.mergeSort fun a b => (cmp a b).isLE) =
      ((l.filter first).mergeSort fun a b => (cmp a b).isLE) ++
        (l.filter fun a => !first a).mergeSort fun a b => (cmp a b).isLE := by
  symm
  apply eq_mergeSort_iff.mpr
  refine ⟨?_, ?_, ?_⟩
  · exact ((List.mergeSort_perm _ _).append (List.mergeSort_perm _ _)).trans
      (List.filter_append_perm first l)
  · refine List.pairwise_append.mpr ⟨pairwise_mergeSort _, pairwise_mergeSort _, ?_⟩
    intro a ha b hb
    rw [List.mem_mergeSort, List.mem_filter] at ha hb
    have hlast : first b = false := by simpa using hb.2
    simp [hfirst a b ha.2 hlast]
  · intro a
    rw [tied_append, tied_mergeSort, tied_mergeSort]
    have hside : ∀ b ∈ tied cmp a l, first b = first a := by
      intro b hb
      exact (first_eq_of_tied hfirst (mem_tied.mp hb).2).symm
    have hswap : ∀ p : α → Bool, tied cmp a (l.filter p) = (tied cmp a l).filter p := by
      intro p
      simp only [tied, List.filter_filter, Bool.and_comm]
    rw [hswap, hswap]
    cases ha : first a with
    | true =>
      rw [List.filter_eq_self.mpr, List.filter_eq_nil_iff.mpr, List.append_nil]
      · intro b hb
        simp [hside b hb, ha]
      · intro b hb
        rw [hside b hb, ha]
    | false =>
      rw [List.filter_eq_nil_iff.mpr, List.filter_eq_self.mpr, List.nil_append]
      · intro b hb
        simp [hside b hb, ha]
      · intro b hb
        simp [hside b hb, ha]

end FirstClass

/-- An entry that leaves the input leaves its place in the order, and nothing else moves. Its
place is behind the entries that tie with it and come earlier in the input. -/
theorem StableOrder.erase_middle {front back l₁ l₂ : List α} {c : α}
    (h : StableOrder cmp (front ++ c :: back) (l₁ ++ c :: l₂))
    (hplace : tied cmp c l₁ = tied cmp c front) : StableOrder cmp (front ++ back) (l₁ ++ l₂) := by
  refine ⟨?_, ?_, ?_⟩
  · exact (List.perm_middle.symm.trans (h.perm.trans List.perm_middle)).cons_inv
  · exact h.sorted.sublist ((List.sublist_cons_self c l₂).append_left l₁)
  · intro a
    have hties := h.ties a
    rw [tied_append, tied_append] at hties ⊢
    by_cases htie : cmp a c = .eq
    · rw [tied_cons_of_eq htie, tied_cons_of_eq htie, tied_of_tie htie l₁,
        tied_of_tie htie front, hplace, List.append_cancel_left_eq] at hties
      rw [tied_of_tie htie l₁, tied_of_tie htie front, hplace, (List.cons.inj hties).2]
    · rwa [tied_cons_of_ne htie, tied_cons_of_ne htie] at hties

/-- Every entry of the input has such a place in the sorted list. -/
theorem exists_mergeSort_middle (front back : List α) (c : α) :
    ∃ l₁ l₂, ((front ++ c :: back).mergeSort fun a b => (cmp a b).isLE) = l₁ ++ c :: l₂ ∧
      ((front ++ back).mergeSort fun a b => (cmp a b).isLE) = l₁ ++ l₂ ∧
      tied cmp c l₁ = tied cmp c front := by
  have hsorts : StableOrder cmp (front ++ c :: back)
      ((front ++ c :: back).mergeSort fun a b => (cmp a b).isLE) := stableOrder_mergeSort _
  have hclass : tied cmp c ((front ++ c :: back).mergeSort fun a b => (cmp a b).isLE) =
      tied cmp c front ++ c :: tied cmp c back := by
    rw [hsorts.ties, tied_append, tied_cons_self]
  obtain ⟨l, r, hsplit, hl, hr⟩ := List.filter_eq_append_iff.mp hclass
  obtain ⟨m, l₂, rfl, hm, -, -⟩ := List.filter_eq_cons_iff.mp hr
  have hplace : tied cmp c (l ++ m) = tied cmp c front := by
    rw [tied_append, tied, tied, hl, List.filter_eq_nil_iff.mpr hm, List.append_nil]
  rw [← List.append_assoc] at hsplit
  rw [hsplit] at hsorts
  exact ⟨l ++ m, l₂, hsplit, (eq_mergeSort_iff.mpr (hsorts.erase_middle hplace)).symm, hplace⟩

/-- A last entry of the input goes behind all entries that do not compare greater and before all
that do: an entry behind it that tied with it would have come after it in the input. -/
theorem exists_mergeSort_concat (l : List α) (c : α) :
    ∃ front back, (l.mergeSort fun a b => (cmp a b).isLE) = front ++ back ∧
      ((l ++ [c]).mergeSort fun a b => (cmp a b).isLE) = front ++ c :: back ∧
      (∀ b ∈ front, (cmp b c).isLE) ∧ ∀ b ∈ back, cmp b c = .gt := by
  obtain ⟨front, back, hafter, hbefore, hplace⟩ := @exists_mergeSort_middle _ cmp _ l [] c
  rw [List.append_nil] at hbefore
  have hsorted : ((l ++ [c]).mergeSort fun a b => (cmp a b).isLE).Pairwise
      fun a b => (cmp a b).isLE := pairwise_mergeSort (l ++ [c])
  rw [hafter, List.pairwise_append, List.pairwise_cons] at hsorted
  obtain ⟨-, ⟨hback, -⟩, hfront⟩ := hsorted
  have hties : tied cmp c back = [] := by
    have hclass : tied cmp c front ++ tied cmp c back = tied cmp c front := by
      rw [← tied_append, ← hbefore, tied_mergeSort, hplace]
    simpa using hclass
  refine ⟨front, back, hbefore, hafter, fun b hb => hfront b hb c List.mem_cons_self, ?_⟩
  intro b hb
  have hne : cmp c b ≠ .eq := by
    intro htie
    have hmem : b ∈ tied cmp c back := mem_tied.mpr ⟨hb, htie⟩
    rw [hties] at hmem
    exact List.not_mem_nil hmem
  have hlt : cmp c b = .lt := by
    have hle := hback b hb
    rw [Ordering.isLE_iff_eq_lt_or_eq_eq] at hle
    exact hle.resolve_right hne
  exact Std.OrientedCmp.gt_of_lt hlt

/-- Sorted arrangements of the same entries show the same keys in the same places, also where
entries that tie have changed places. -/
theorem map_eq_of_perm_of_sorted {β : Type} {key : α → β}
    (hkey : ∀ a b, cmp a b = .eq ↔ key a = key b) {l₁ l₂ : List α} (hperm : l₁.Perm l₂)
    (h₁ : l₁.Pairwise fun a b => (cmp a b).isLE) (h₂ : l₂.Pairwise fun a b => (cmp a b).isLE) :
    l₁.map key = l₂.map key := by
  let le (x y : β) : Prop := ∃ a b, key a = x ∧ key b = y ∧ (cmp a b).isLE
  have hsorted : ∀ {l : List α}, (l.Pairwise fun a b => (cmp a b).isLE) →
      (l.map key).Pairwise le := by
    intro l hl
    rw [List.pairwise_map]
    exact hl.imp fun {a b} hab => ⟨a, b, rfl, rfl, hab⟩
  have hantisymm : ∀ x y, x ∈ l₁.map key → y ∈ l₂.map key → le x y → le y x → x = y := by
    rintro x y - - ⟨a, b, rfl, rfl, hab⟩ ⟨b', a', hb, ha, hba⟩
    have hbb : (cmp b b').isLE := by simp [(hkey b b').mpr hb.symm]
    have haa : (cmp a' a).isLE := by simp [(hkey a' a).mpr ha]
    have hback : (cmp b a).isLE := isLE_trans b b' a hbb (isLE_trans b' a' a hba haa)
    exact (hkey a b).mp (Std.OrientedCmp.isLE_antisymm hab hback)
  exact List.Perm.eq_of_pairwise hantisymm (hsorted h₁) (hsorted h₂) (hperm.map key)

theorem map_mergeSort_eq_of_perm {β : Type} {key : α → β}
    (hkey : ∀ a b, cmp a b = .eq ↔ key a = key b) {l₁ l₂ : List α} (hperm : l₁.Perm l₂) :
    (l₁.mergeSort fun a b => (cmp a b).isLE).map key =
      (l₂.mergeSort fun a b => (cmp a b).isLE).map key := by
  have hsorts : (l₁.mergeSort fun a b => (cmp a b).isLE).Perm
      (l₂.mergeSort fun a b => (cmp a b).isLE) :=
    (List.mergeSort_perm l₁ _).trans (hperm.trans (List.mergeSort_perm l₂ _).symm)
  exact map_eq_of_perm_of_sorted hkey hsorts (pairwise_mergeSort l₁) (pairwise_mergeSort l₂)

end TotalOrder

end LeagueRoster.StableSort
