import BubaPaint.Decision.SimulatedLedger

/-!
# Charges on the two buckets

The active bucket of a family is for its live charges, the pending one for those that only wait for
their settlement. Reserving, releasing in part or whole and closing a market keep the two apart. A
release meant for a settling charge drains the active bucket first: it is right only if the family
has no live charge.
-/

namespace BubaPaint

open List

/-- The active buckets hold what is charged live, the pending ones what is settling. -/
structure SplitBalanced (reserves : Reserves) (live settling : List Charge) : Prop where
  coherent : reserves.Coherent
  totalled : reserves.Totalled
  nonneg : ∀ charge ∈ live ++ settling, 0 ≤ charge.2
  active : ∀ family, reserves.activeReservedCapitalByFamily family = charged family live
  pending : ∀ family,
    reserves.pendingSettlementReservedCapitalByFamily family = charged family settling

theorem splitBalanced_empty : SplitBalanced .empty [] [] where
  coherent := Reserves.coherent_empty
  totalled := Reserves.totalled_empty
  nonneg := by simp
  active _ := rfl
  pending _ := rfl

namespace SplitBalanced

variable {reserves : Reserves} {live live' settling settling' : List Charge}
  {strategy : String} {amount rest : ℚ} {family : StrategyFamily}

theorem perm (h : SplitBalanced reserves live settling) (hlive : live.Perm live')
    (hsettling : settling.Perm settling') : SplitBalanced reserves live' settling' where
  coherent := h.coherent
  totalled := h.totalled
  nonneg charge hcharge := h.nonneg charge ((hlive.append hsettling).mem_iff.mpr hcharge)
  active family := (h.active family).trans (charged_perm hlive family)
  pending family := (h.pending family).trans (charged_perm hsettling family)

section Head

variable (h : SplitBalanced reserves ((strategy, amount) :: live) settling)

include h

theorem nonneg_head : 0 ≤ amount :=
  h.nonneg (strategy, amount) (mem_append_left _ mem_cons_self)

theorem nonneg_tail : ∀ charge ∈ live ++ settling, 0 ≤ charge.2 :=
  fun charge hcharge => h.nonneg charge (mem_cons_of_mem _ hcharge)

theorem le_active :
    amount ≤ reserves.activeReservedCapitalByFamily (familyForStrategy strategy) := by
  have hrest : 0 ≤ charged (familyForStrategy strategy) live :=
    charged_nonneg (fun charge hcharge =>
      h.nonneg_tail charge (mem_append_left _ hcharge)) _
  rw [h.active, charged_cons, if_pos rfl]
  linarith

end Head

theorem addReserved (h : SplitBalanced reserves live settling) (hamount : 0 ≤ amount)
    (hfamily : familyForStrategy strategy = family) :
    SplitBalanced (reserves.addReserved family amount) ((strategy, amount) :: live) settling where
  coherent := h.coherent.addReserved family hamount
  totalled := h.totalled.addReserved family
  nonneg := forall_mem_cons.mpr ⟨hamount, h.nonneg⟩
  active other := by
    rw [Reserves.active_addReserved, Reserves.addEntry_apply, h.active, charged_cons, hfamily,
      add_comm]
  pending := h.pending

theorem charged_of_family {charges : List Charge}
    (hfamily : ∀ charge ∈ charges, familyForStrategy charge.1 = family) (other : StrategyFamily) :
    charged other charges = if other = family then (charges.map (·.2)).sum else 0 := by
  induction charges with
  | nil => simp
  | cons charge rest ih =>
    have hfirst := hfamily charge mem_cons_self
    have hrest := ih fun next hnext => hfamily next (mem_cons_of_mem _ hnext)
    rw [charged_cons, hrest, hfirst, map_cons, sum_cons]
    split <;> simp

theorem addCharges (h : SplitBalanced reserves live settling) {charges : List Charge}
    (hfamily : ∀ charge ∈ charges, familyForStrategy charge.1 = family)
    (hnonneg : ∀ charge ∈ charges, 0 ≤ charge.2) :
    SplitBalanced (reserves.addReserved family (charges.map (·.2)).sum) (charges ++ live)
      settling where
  coherent := h.coherent.addReserved family (sum_nonneg (forall_mem_map.mpr hnonneg))
  totalled := h.totalled.addReserved family
  nonneg charge hcharge := by
    rw [append_assoc, mem_append] at hcharge
    rcases hcharge with hnew | hold
    · exact hnonneg charge hnew
    · exact h.nonneg charge hold
  active other := by
    rw [Reserves.active_addReserved, Reserves.addEntry_apply, h.active, charged_append,
      charged_of_family hfamily, add_comm]
  pending := h.pending

/-- Releasing a part of a live charge leaves the rest of it. -/
theorem lower (h : SplitBalanced reserves ((strategy, amount) :: live) settling)
    (hrest : 0 ≤ rest) (hle : rest ≤ amount) :
    SplitBalanced (reserves.releaseFromFamilyBuckets (amount - rest) (familyForStrategy strategy))
      ((strategy, rest) :: live) settling := by
  have hpart : 0 ≤ amount - rest := sub_nonneg.mpr hle
  have hwhole := h.le_active
  have hmin : min (amount - rest)
      (reserves.activeReservedCapitalByFamily (familyForStrategy strategy)) = amount - rest :=
    min_eq_left (by linarith)
  constructor
  · exact h.coherent.releaseFromFamilyBuckets _ hpart
  · exact h.totalled.releaseFromFamilyBuckets _ h.coherent
  · exact forall_mem_cons.mpr ⟨hrest, h.nonneg_tail⟩
  · intro other
    rw [Reserves.active_releaseFromFamilyBuckets _ _ h.coherent hpart, hmin, h.active,
      charged_cons, charged_cons]
    split
    · simp only
      linarith
    · linarith
  · intro other
    rw [Reserves.pending_releaseFromFamilyBuckets _ _ h.coherent, hmin, sub_self,
      min_eq_left (h.coherent.pending_nonneg _), ite_self, sub_zero, h.pending]

theorem spend (h : SplitBalanced reserves ((strategy, amount) :: live) settling)
    (hrest : 0 ≤ rest) (hle : rest ≤ amount) :
    SplitBalanced
      (if amount > rest then
        reserves.releaseFromFamilyBuckets (amount - rest) (familyForStrategy strategy)
      else reserves)
      ((strategy, rest) :: live) settling := by
  split
  · exact h.lower hrest hle
  · rename_i hsame
    rw [le_antisymm hle (not_lt.mp hsame)]
    exact h

theorem drop (h : SplitBalanced reserves ((strategy, 0) :: live) settling) :
    SplitBalanced reserves live settling where
  coherent := h.coherent
  totalled := h.totalled
  nonneg := h.nonneg_tail
  active other := by simpa using h.active other
  pending := h.pending

/-- Releasing a whole live charge takes it back. -/
theorem release (h : SplitBalanced reserves ((strategy, amount) :: live) settling) :
    SplitBalanced (reserves.releaseFromFamilyBuckets amount (familyForStrategy strategy)) live
      settling := by
  have hlowered := h.lower le_rfl h.nonneg_head
  rw [sub_zero] at hlowered
  exact hlowered.drop

/-- When its market closes, a live charge starts to settle. -/
theorem transition (h : SplitBalanced reserves ((strategy, amount) :: live) settling) :
    SplitBalanced
      (reserves.transitionFamilyReserveToPending amount (familyForStrategy strategy)) live
      ((strategy, amount) :: settling) := by
  have hamount := h.nonneg_head
  have hmin : min amount
      (reserves.activeReservedCapitalByFamily (familyForStrategy strategy)) = amount :=
    min_eq_left h.le_active
  constructor
  · exact h.coherent.transitionFamilyReserveToPending _ hamount
  · exact h.totalled.transitionFamilyReserveToPending _ h.coherent
  · intro charge hcharge
    apply h.nonneg charge
    exact perm_middle.mem_iff.mp hcharge
  · intro other
    rw [Reserves.active_transitionFamilyReserveToPending _ _ h.coherent hamount, hmin, h.active,
      charged_cons]
    simp
  · intro other
    rw [Reserves.pending_transitionFamilyReserveToPending _ _ h.coherent hamount, hmin, h.pending,
      charged_cons, add_comm]

/-- A settled charge leaves the pending bucket exactly if it is nothing or its family has no live
charge: the active bucket is drained first. -/
theorem settle_iff (h : SplitBalanced reserves live ((strategy, amount) :: settling)) :
    SplitBalanced (reserves.releaseFromFamilyBuckets amount (familyForStrategy strategy)) live
        settling ↔ amount = 0 ∨ charged (familyForStrategy strategy) live = 0 := by
  have hnonneg := fun charge hcharge => h.nonneg charge (mem_append_left _ hcharge)
  have hlive : 0 ≤ charged (familyForStrategy strategy) live := charged_nonneg hnonneg _
  have hamount : 0 ≤ amount :=
    h.nonneg (strategy, amount) (mem_append_right _ mem_cons_self)
  have hactive := fun other =>
    Reserves.active_releaseFromFamilyBuckets (familyForStrategy strategy) other h.coherent hamount
  have hsettling : 0 ≤ charged (familyForStrategy strategy) settling := by
    apply charged_nonneg
    intro charge hcharge
    exact h.nonneg charge (mem_append_right _ (mem_cons_of_mem _ hcharge))
  constructor
  · intro hsettled
    have hsame := hactive (familyForStrategy strategy)
    rw [hsettled.active, h.active, if_pos rfl] at hsame
    have hmin : min amount (charged (familyForStrategy strategy) live) = 0 := by linarith
    rcases min_choice amount (charged (familyForStrategy strategy) live) with hleft | hright
    · exact .inl (hleft ▸ hmin)
    · exact .inr (hright ▸ hmin)
  · intro hnothing
    have hmin : min amount (reserves.activeReservedCapitalByFamily (familyForStrategy strategy)) =
        0 := by
      rw [h.active]
      rcases hnothing with hzero | hzero
      · rw [hzero, min_eq_left hlive]
      · rw [hzero, min_eq_right hamount]
    constructor
    · exact h.coherent.releaseFromFamilyBuckets _ hamount
    · exact h.totalled.releaseFromFamilyBuckets _ h.coherent
    · intro charge hcharge
      apply h.nonneg charge
      exact perm_middle.mem_iff.mpr (mem_cons_of_mem _ hcharge)
    · intro other
      rw [hactive, hmin, ite_self, sub_zero, h.active]
    · intro other
      rw [Reserves.pending_releaseFromFamilyBuckets _ _ h.coherent, hmin, sub_zero, h.pending,
        h.pending, charged_cons, charged_cons, if_pos rfl, min_eq_left (by linarith)]
      split
      · simp
      · simp

end SplitBalanced

end BubaPaint
