import BubaPaint.Config
import Mathlib.Tactic.Linarith
import Mathlib.Tactic.Positivity

/-!
# Reserved capital

The bankroll keeps what it has reserved in two buckets for each strategy family: one for markets
that are still active and one for trades that wait for settlement. The raw totals beside them are
rebuilt from the buckets after every change.

Main results:

- Theorem `bucket_releaseFromFamilyBuckets`: a release takes what the buckets of its family hold.
-/

namespace BubaPaint

/-- Stable strategy families used by the portfolio router and sleeve accounting. -/
inductive StrategyFamily where
  | latencyArb
  | spreadCapture
  | calmPersistence
  deriving DecidableEq

namespace StrategyFamily

def asStr : StrategyFamily → String
  | .latencyArb => "latency-arb"
  | .spreadCapture => "spread-capture"
  | .calmPersistence => "calm-persistence"

/-- Map one persisted strategy name to its portfolio family. -/
def fromStrategyName (strategy : String) : Option StrategyFamily :=
  if strategy = "latency-arb" then some .latencyArb
  else if strategy = "spread-capture" then some .spreadCapture
  else if strategy = "calm-persistence" then some .calmPersistence
  else none

@[simp]
theorem fromStrategyName_asStr (family : StrategyFamily) :
    fromStrategyName family.asStr = some family := by
  cases family <;> decide

end StrategyFamily

/-- Infer the portfolio family from one persisted strategy name. -/
def familyForStrategy (strategy : String) : StrategyFamily :=
  (StrategyFamily.fromStrategyName strategy).getD .latencyArb

@[simp]
theorem familyForStrategy_asStr (family : StrategyFamily) :
    familyForStrategy family.asStr = family := by
  simp [familyForStrategy]

/-! ## Buckets -/

/-- The reserved capital of a bankroll. A family without an entry holds nothing. -/
structure Reserves where
  activeReservedCapital : ℚ
  pendingSettlementReservedCapital : ℚ
  reservedCapital : ℚ
  activeReservedCapitalByFamily : StrategyFamily → ℚ
  pendingSettlementReservedCapitalByFamily : StrategyFamily → ℚ
  reservedCapitalByFamily : StrategyFamily → ℚ

namespace Reserves

def empty : Reserves where
  activeReservedCapital := 0
  pendingSettlementReservedCapital := 0
  reservedCapital := 0
  activeReservedCapitalByFamily := fun _ => 0
  pendingSettlementReservedCapitalByFamily := fun _ => 0
  reservedCapitalByFamily := fun _ => 0

def bucket (reserves : Reserves) (family : StrategyFamily) : ℚ :=
  reserves.activeReservedCapitalByFamily family +
    reserves.pendingSettlementReservedCapitalByFamily family

def addEntry (map : StrategyFamily → ℚ) (family : StrategyFamily) (amount : ℚ) :
    StrategyFamily → ℚ :=
  Function.update map family (map family + amount)

/-- Take from one entry of a map by families, down to nothing. -/
def takeEntry (map : StrategyFamily → ℚ) (family : StrategyFamily) (amount : ℚ) :
    StrategyFamily → ℚ :=
  Function.update map family (max (map family - amount) 0)

/-- Rebuild the legacy raw reserve totals from the active and pending buckets. -/
def syncRawReservedTotals (reserves : Reserves) : Reserves :=
  { reserves with
    reservedCapital :=
      reserves.activeReservedCapital + reserves.pendingSettlementReservedCapital
    reservedCapitalByFamily := reserves.bucket }

/-- Return whether legacy callers mutated the raw reserve total without the split buckets. -/
def rawReserveStateIsManuallyOverridden (reserves : Reserves) : Bool :=
  let splitTotal := reserves.activeReservedCapital + reserves.pendingSettlementReservedCapital
  decide (|reserves.reservedCapital - splitTotal| > 1 / 10 ^ 9)

/-- Return whether one family's legacy raw reserve total no longer matches the split buckets. -/
def rawReserveStateIsManuallyOverriddenForFamily (reserves : Reserves)
    (family : StrategyFamily) : Bool :=
  reserves.rawReserveStateIsManuallyOverridden ||
    decide (|reserves.reservedCapitalByFamily family - reserves.bucket family| > 1 / 10 ^ 9)

/-- Add newly reserved notional to the global and family-scoped counters. -/
def addReserved (reserves : Reserves) (family : StrategyFamily) (amount : ℚ) : Reserves :=
  syncRawReservedTotals
    { reserves with
      activeReservedCapital := reserves.activeReservedCapital + amount
      activeReservedCapitalByFamily :=
        addEntry reserves.activeReservedCapitalByFamily family amount }

/-- Add newly settling notional to the global and family-scoped counters. -/
def addPending (reserves : Reserves) (family : StrategyFamily) (amount : ℚ) : Reserves :=
  syncRawReservedTotals
    { reserves with
      pendingSettlementReservedCapital := reserves.pendingSettlementReservedCapital + amount
      pendingSettlementReservedCapitalByFamily :=
        addEntry reserves.pendingSettlementReservedCapitalByFamily family amount }

/-- Consume up to `amount` from one family's active-market reserve bucket. -/
def consumeFamilyActiveReserve (reserves : Reserves) (amount : ℚ) (family : StrategyFamily) :
    ℚ × Reserves :=
  let current := reserves.activeReservedCapitalByFamily family
  let released := min amount current
  if released > 0 then
    (released,
      { reserves with
        activeReservedCapital := max (reserves.activeReservedCapital - released) 0
        activeReservedCapitalByFamily :=
          takeEntry reserves.activeReservedCapitalByFamily family released })
  else
    (released, reserves)

/-- Consume up to `amount` from one family's pending-settlement reserve bucket. -/
def consumeFamilyPendingReserve (reserves : Reserves) (amount : ℚ) (family : StrategyFamily) :
    ℚ × Reserves :=
  let current := reserves.pendingSettlementReservedCapitalByFamily family
  let released := min amount current
  if released > 0 then
    (released,
      { reserves with
        pendingSettlementReservedCapital :=
          max (reserves.pendingSettlementReservedCapital - released) 0
        pendingSettlementReservedCapitalByFamily :=
          takeEntry reserves.pendingSettlementReservedCapitalByFamily family released })
  else
    (released, reserves)

/-- Release reserve for one family from active first, then pending settlement. -/
def releaseFromFamilyBuckets (reserves : Reserves) (amount : ℚ) (family : StrategyFamily) :
    Reserves :=
  if reserves.rawReserveStateIsManuallyOverriddenForFamily family then
    { reserves with
      reservedCapital := max (reserves.reservedCapital - amount) 0
      reservedCapitalByFamily := takeEntry reserves.reservedCapitalByFamily family amount }
  else
    let (activeReleased, reserves) := reserves.consumeFamilyActiveReserve amount family
    let remaining := max (amount - activeReleased) 0
    if remaining > 0 then
      (reserves.consumeFamilyPendingReserve remaining family).2.syncRawReservedTotals
    else
      reserves.syncRawReservedTotals

/-- Move one family's raw reserve from active-market risk into pending settlement. -/
def transitionFamilyReserveToPending (reserves : Reserves) (amount : ℚ)
    (family : StrategyFamily) : Reserves :=
  if reserves.rawReserveStateIsManuallyOverriddenForFamily family then
    reserves
  else
    let (moved, reserves) := reserves.consumeFamilyActiveReserve amount family
    if moved ≤ 0 then
      reserves
    else
      reserves.addPending family moved

/-- No bucket is overdrawn, and the raw totals are those of the buckets. -/
structure Coherent (reserves : Reserves) : Prop where
  active_nonneg : ∀ family, 0 ≤ reserves.activeReservedCapitalByFamily family
  pending_nonneg : ∀ family, 0 ≤ reserves.pendingSettlementReservedCapitalByFamily family
  total : reserves.reservedCapital =
    reserves.activeReservedCapital + reserves.pendingSettlementReservedCapital
  byFamily : ∀ family, reserves.reservedCapitalByFamily family = reserves.bucket family

theorem coherent_empty : empty.Coherent :=
  ⟨fun _ => le_rfl, fun _ => le_rfl, by simp [empty], fun _ => by simp [empty, bucket]⟩

section Coherent

variable {reserves : Reserves} {amount : ℚ} (family other : StrategyFamily)

theorem Coherent.bucket_nonneg (h : reserves.Coherent) : 0 ≤ reserves.bucket family :=
  add_nonneg (h.active_nonneg family) (h.pending_nonneg family)

theorem Coherent.not_overridden (h : reserves.Coherent) :
    reserves.rawReserveStateIsManuallyOverriddenForFamily family = false := by
  simp [rawReserveStateIsManuallyOverriddenForFamily, rawReserveStateIsManuallyOverridden,
    h.total, h.byFamily]

theorem coherent_syncRawReservedTotals
    (hactive : ∀ family, 0 ≤ reserves.activeReservedCapitalByFamily family)
    (hpending : ∀ family, 0 ≤ reserves.pendingSettlementReservedCapitalByFamily family) :
    reserves.syncRawReservedTotals.Coherent :=
  ⟨hactive, hpending, rfl, fun _ => rfl⟩

@[simp]
theorem bucket_syncRawReservedTotals :
    reserves.syncRawReservedTotals.bucket family = reserves.bucket family :=
  rfl

@[simp]
theorem active_syncRawReservedTotals :
    reserves.syncRawReservedTotals.activeReservedCapitalByFamily =
      reserves.activeReservedCapitalByFamily :=
  rfl

@[simp]
theorem pending_syncRawReservedTotals :
    reserves.syncRawReservedTotals.pendingSettlementReservedCapitalByFamily =
      reserves.pendingSettlementReservedCapitalByFamily :=
  rfl

theorem addEntry_apply (map : StrategyFamily → ℚ) :
    addEntry map family amount other = map other + if other = family then amount else 0 := by
  unfold addEntry
  by_cases h : other = family
  · simp [h]
  · simp [h]

theorem takeEntry_apply (map : StrategyFamily → ℚ) (h : amount ≤ map family) :
    takeEntry map family amount other = map other - if other = family then amount else 0 := by
  unfold takeEntry
  by_cases hother : other = family
  · simp [hother, h]
  · simp [hother]

@[simp]
theorem active_addReserved :
    (reserves.addReserved family amount).activeReservedCapitalByFamily =
      addEntry reserves.activeReservedCapitalByFamily family amount :=
  rfl

@[simp]
theorem pending_addReserved :
    (reserves.addReserved family amount).pendingSettlementReservedCapitalByFamily =
      reserves.pendingSettlementReservedCapitalByFamily :=
  rfl

@[simp]
theorem active_addPending :
    (reserves.addPending family amount).activeReservedCapitalByFamily =
      reserves.activeReservedCapitalByFamily :=
  rfl

@[simp]
theorem pending_addPending :
    (reserves.addPending family amount).pendingSettlementReservedCapitalByFamily =
      addEntry reserves.pendingSettlementReservedCapitalByFamily family amount :=
  rfl

/-- Reserving adds to the buckets of one family. -/
theorem bucket_addReserved :
    (reserves.addReserved family amount).bucket other =
      reserves.bucket other + if other = family then amount else 0 := by
  simp only [bucket, active_addReserved, pending_addReserved, addEntry_apply]
  linarith

theorem bucket_addPending :
    (reserves.addPending family amount).bucket other =
      reserves.bucket other + if other = family then amount else 0 := by
  simp only [bucket, active_addPending, pending_addPending, addEntry_apply]
  linarith

variable {map : StrategyFamily → ℚ}

theorem addEntry_nonneg (hmap : ∀ family, 0 ≤ map family) (hamount : 0 ≤ amount) :
    0 ≤ addEntry map family amount other := by
  have h := hmap other
  rw [addEntry_apply]
  split <;> linarith

theorem Coherent.addReserved (h : reserves.Coherent) (hamount : 0 ≤ amount) :
    (reserves.addReserved family amount).Coherent := by
  apply coherent_syncRawReservedTotals
  · exact fun other => addEntry_nonneg family other h.active_nonneg hamount
  · exact h.pending_nonneg

theorem Coherent.addPending (h : reserves.Coherent) (hamount : 0 ≤ amount) :
    (reserves.addPending family amount).Coherent := by
  apply coherent_syncRawReservedTotals
  · exact h.active_nonneg
  · exact fun other => addEntry_nonneg family other h.pending_nonneg hamount

/-! ## Releasing -/

theorem sub_min_nonneg (hmap : ∀ family, 0 ≤ map family) :
    0 ≤ map other - if other = family then min amount (map family) else 0 := by
  split
  · rename_i hother
    rw [hother]
    exact sub_nonneg.mpr (min_le_right _ _)
  · rw [sub_zero]
    exact hmap other

theorem consumeFamilyActiveReserve_fst :
    (reserves.consumeFamilyActiveReserve amount family).1 =
      min amount (reserves.activeReservedCapitalByFamily family) := by
  unfold consumeFamilyActiveReserve
  simp only
  split <;> rfl

theorem min_eq_zero_of_not_pos {current : ℚ} (hamount : 0 ≤ amount) (hcurrent : 0 ≤ current)
    (h : ¬ min amount current > 0) : min amount current = 0 :=
  le_antisymm (not_lt.mp h) (le_min hamount hcurrent)

theorem active_consumeFamilyActiveReserve (hamount : 0 ≤ amount)
    (hcurrent : 0 ≤ reserves.activeReservedCapitalByFamily family) :
    (reserves.consumeFamilyActiveReserve amount family).2.activeReservedCapitalByFamily other =
      reserves.activeReservedCapitalByFamily other -
        if other = family then min amount (reserves.activeReservedCapitalByFamily family)
        else 0 := by
  unfold consumeFamilyActiveReserve
  simp only
  split
  · exact takeEntry_apply family other _ (min_le_right _ _)
  · rename_i hnone
    simp [min_eq_zero_of_not_pos hamount hcurrent hnone]

@[simp]
theorem pending_consumeFamilyActiveReserve :
    (reserves.consumeFamilyActiveReserve amount family).2.pendingSettlementReservedCapitalByFamily =
      reserves.pendingSettlementReservedCapitalByFamily := by
  unfold consumeFamilyActiveReserve
  simp only
  split <;> rfl

theorem pending_consumeFamilyPendingReserve (hamount : 0 ≤ amount)
    (hcurrent : 0 ≤ reserves.pendingSettlementReservedCapitalByFamily family) :
    (reserves.consumeFamilyPendingReserve amount
        family).2.pendingSettlementReservedCapitalByFamily other =
      reserves.pendingSettlementReservedCapitalByFamily other -
        if other = family then
          min amount (reserves.pendingSettlementReservedCapitalByFamily family) else 0 := by
  unfold consumeFamilyPendingReserve
  simp only
  split
  · exact takeEntry_apply family other _ (min_le_right _ _)
  · rename_i hnone
    simp [min_eq_zero_of_not_pos hamount hcurrent hnone]

@[simp]
theorem active_consumeFamilyPendingReserve :
    (reserves.consumeFamilyPendingReserve amount family).2.activeReservedCapitalByFamily =
      reserves.activeReservedCapitalByFamily := by
  unfold consumeFamilyPendingReserve
  simp only
  split <;> rfl

theorem active_releaseFromFamilyBuckets (h : reserves.Coherent) (hamount : 0 ≤ amount) :
    (reserves.releaseFromFamilyBuckets amount family).activeReservedCapitalByFamily other =
      reserves.activeReservedCapitalByFamily other -
        if other = family then min amount (reserves.activeReservedCapitalByFamily family)
        else 0 := by
  have hactive := active_consumeFamilyActiveReserve family other hamount (h.active_nonneg family)
  unfold releaseFromFamilyBuckets
  rw [h.not_overridden, if_neg Bool.false_ne_true]
  simp only
  split
  · rw [active_syncRawReservedTotals, active_consumeFamilyPendingReserve, hactive]
  · rw [active_syncRawReservedTotals, hactive]

theorem pending_releaseFromFamilyBuckets (h : reserves.Coherent) (amount : ℚ) :
    (reserves.releaseFromFamilyBuckets amount family).pendingSettlementReservedCapitalByFamily
        other =
      reserves.pendingSettlementReservedCapitalByFamily other -
        if other = family then
          min (amount - min amount (reserves.activeReservedCapitalByFamily family))
            (reserves.pendingSettlementReservedCapitalByFamily family) else 0 := by
  have hleft : 0 ≤ amount - min amount (reserves.activeReservedCapitalByFamily family) :=
    sub_nonneg.mpr (min_le_left _ _)
  unfold releaseFromFamilyBuckets
  rw [h.not_overridden, if_neg Bool.false_ne_true]
  simp only [consumeFamilyActiveReserve_fst, max_eq_left hleft]
  split
  · have hcurrent : 0 ≤ (reserves.consumeFamilyActiveReserve amount
        family).2.pendingSettlementReservedCapitalByFamily family := by
      rw [pending_consumeFamilyActiveReserve]
      exact h.pending_nonneg family
    rw [pending_syncRawReservedTotals, pending_consumeFamilyPendingReserve _ _ hleft hcurrent,
      pending_consumeFamilyActiveReserve]
  · rename_i hnone
    have hzero := le_antisymm (not_lt.mp hnone) hleft
    rw [pending_syncRawReservedTotals, pending_consumeFamilyActiveReserve, hzero,
      min_eq_left (h.pending_nonneg family), ite_self, sub_zero]

theorem min_add_min_sub (amount active : ℚ) {pending : ℚ} (hpending : 0 ≤ pending) :
    min amount active + min (amount - min amount active) pending =
      min amount (active + pending) := by
  rcases le_total amount active with h | h
  · rw [min_eq_left h, sub_self, min_eq_left hpending, min_eq_left (by linarith), add_zero]
  · rw [min_eq_right h]
    rcases le_total (amount - active) pending with h' | h'
    · rw [min_eq_left h', min_eq_left (by linarith)]
      linarith
    · rw [min_eq_right h', min_eq_right (by linarith)]

/-- Releasing takes from the buckets of one family what is there. -/
theorem bucket_releaseFromFamilyBuckets (h : reserves.Coherent) (hamount : 0 ≤ amount) :
    (reserves.releaseFromFamilyBuckets amount family).bucket other =
      reserves.bucket other -
        if other = family then min amount (reserves.bucket family) else 0 := by
  have hactive := active_releaseFromFamilyBuckets family other h hamount
  have hpending := pending_releaseFromFamilyBuckets family other h amount
  have hboth := min_add_min_sub amount (reserves.activeReservedCapitalByFamily family)
    (h.pending_nonneg family)
  simp only [bucket, hactive, hpending]
  split
  · linarith
  · linarith

theorem releaseFromFamilyBuckets_eq_sync (h : reserves.Coherent) (amount : ℚ) :
    ∃ rest : Reserves, reserves.releaseFromFamilyBuckets amount family =
      rest.syncRawReservedTotals := by
  unfold releaseFromFamilyBuckets
  rw [h.not_overridden, if_neg Bool.false_ne_true]
  simp only
  split
  · exact ⟨_, rfl⟩
  · exact ⟨_, rfl⟩

section Transition

variable (h : reserves.Coherent) (hamount : 0 ≤ amount)

include h hamount

theorem Coherent.releaseFromFamilyBuckets :
    (reserves.releaseFromFamilyBuckets amount family).Coherent := by
  obtain ⟨rest, hrest⟩ := releaseFromFamilyBuckets_eq_sync family h amount
  rw [hrest]
  apply coherent_syncRawReservedTotals
  · intro other
    have hactive := active_releaseFromFamilyBuckets family other h hamount
    rw [hrest, active_syncRawReservedTotals] at hactive
    rw [hactive]
    exact sub_min_nonneg family other h.active_nonneg
  · intro other
    have hpending := pending_releaseFromFamilyBuckets family other h amount
    rw [hrest, pending_syncRawReservedTotals] at hpending
    rw [hpending]
    exact sub_min_nonneg family other h.pending_nonneg

theorem active_transitionFamilyReserveToPending :
    (reserves.transitionFamilyReserveToPending amount family).activeReservedCapitalByFamily other =
      reserves.activeReservedCapitalByFamily other -
        if other = family then min amount (reserves.activeReservedCapitalByFamily family)
        else 0 := by
  have hactive := active_consumeFamilyActiveReserve family other hamount (h.active_nonneg family)
  unfold transitionFamilyReserveToPending
  rw [h.not_overridden, if_neg Bool.false_ne_true]
  simp only
  split
  · exact hactive
  · rw [active_addPending, hactive]

theorem pending_transitionFamilyReserveToPending :
    (reserves.transitionFamilyReserveToPending amount
        family).pendingSettlementReservedCapitalByFamily other =
      reserves.pendingSettlementReservedCapitalByFamily other +
        if other = family then min amount (reserves.activeReservedCapitalByFamily family)
        else 0 := by
  unfold transitionFamilyReserveToPending
  rw [h.not_overridden, if_neg Bool.false_ne_true]
  simp only [consumeFamilyActiveReserve_fst]
  split
  · rename_i hnone
    rw [pending_consumeFamilyActiveReserve,
      min_eq_zero_of_not_pos hamount (h.active_nonneg family) (not_lt.mpr hnone), ite_self,
      add_zero]
  · rw [pending_addPending, addEntry_apply, pending_consumeFamilyActiveReserve]

/-- Closing a market moves nothing in or out of the buckets of a family. -/
theorem bucket_transitionFamilyReserveToPending :
    (reserves.transitionFamilyReserveToPending amount family).bucket other =
      reserves.bucket other := by
  simp only [bucket, active_transitionFamilyReserveToPending family other h hamount,
    pending_transitionFamilyReserveToPending family other h hamount]
  linarith

end Transition

theorem consumeFamilyActiveReserve_of_not_pos
    (h : ¬ min amount (reserves.activeReservedCapitalByFamily family) > 0) :
    (reserves.consumeFamilyActiveReserve amount family).2 = reserves := by
  unfold consumeFamilyActiveReserve
  simp only [if_neg h]

theorem Coherent.transitionFamilyReserveToPending (h : reserves.Coherent) (hamount : 0 ≤ amount) :
    (reserves.transitionFamilyReserveToPending amount family).Coherent := by
  unfold Reserves.transitionFamilyReserveToPending
  rw [h.not_overridden, if_neg Bool.false_ne_true]
  simp only [consumeFamilyActiveReserve_fst]
  split
  · rename_i hnone
    rw [consumeFamilyActiveReserve_of_not_pos family (not_lt.mpr hnone)]
    exact h
  · rename_i hmoved
    apply coherent_syncRawReservedTotals
    · intro other
      have hleft := active_consumeFamilyActiveReserve family other hamount (h.active_nonneg family)
      rw [hleft]
      exact sub_min_nonneg family other h.active_nonneg
    · intro other
      apply addEntry_nonneg
      · intro other
        rw [pending_consumeFamilyActiveReserve]
        exact h.pending_nonneg other
      · exact (not_le.mp hmoved).le

end Coherent

end Reserves

end BubaPaint
