import BubaPaint.Decision.SimulatedLedger

/-!
# Releases without a family

A release that names no family drains the active buckets of all families in a stable order, then
their pending buckets. It takes exactly what is there.
-/

namespace BubaPaint

namespace Reserves

/-- Consume up to `amount` from one bucket of one family. -/
def consumeFamilyReserve (reserves : Reserves) (activeBucket : Bool) (amount : ℚ)
    (family : StrategyFamily) : ℚ × Reserves :=
  if activeBucket then reserves.consumeFamilyActiveReserve amount family
  else reserves.consumeFamilyPendingReserve amount family

/-- Consume from one family after the other until nothing remains. -/
def consumeAcross (activeBucket : Bool) : List StrategyFamily → ℚ → Reserves → ℚ × Reserves
  | [], remaining, reserves => (remaining, reserves)
  | family :: rest, remaining, reserves =>
    if remaining ≤ 0 then (remaining, reserves)
    else
      let (released, reserves) := reserves.consumeFamilyReserve activeBucket remaining family
      consumeAcross activeBucket rest (max (remaining - released) 0) reserves

/-- Consume reserve across every family in a stable order for family-less releases. -/
def consumeAcrossFamilies (reserves : Reserves) (amount : ℚ) (activeBucket : Bool) : ℚ × Reserves :=
  consumeAcross activeBucket [.latencyArb, .spreadCapture, .calmPersistence] (max amount 0) reserves

/-- Release reserve from the active bucket first, then pending settlement. -/
def releaseFromGlobalBuckets (reserves : Reserves) (amount : ℚ) : Reserves :=
  if reserves.rawReserveStateIsManuallyOverridden then
    { reserves with reservedCapital := max (reserves.reservedCapital - amount) 0 }
  else
    let (remaining, reserves) := reserves.consumeAcrossFamilies amount true
    if remaining > 0 then
      (reserves.consumeAcrossFamilies remaining false).2.syncRawReservedTotals
    else
      reserves.syncRawReservedTotals

/-! ## Buckets -/

theorem consumeFamilyPendingReserve_fst (reserves : Reserves) (amount : ℚ)
    (family : StrategyFamily) :
    (reserves.consumeFamilyPendingReserve amount family).1 =
      min amount (reserves.pendingSettlementReservedCapitalByFamily family) := by
  unfold consumeFamilyPendingReserve
  dsimp only
  split <;> rfl

def bucketOf (reserves : Reserves) : Bool → StrategyFamily → ℚ
  | true => reserves.activeReservedCapitalByFamily
  | false => reserves.pendingSettlementReservedCapitalByFamily

/-- No bucket is overdrawn, and the totals of the buckets are sums over the families. -/
structure Solid (reserves : Reserves) : Prop where
  nonneg : ∀ activeBucket family, 0 ≤ reserves.bucketOf activeBucket family
  totalled : reserves.Totalled

theorem Coherent.solid {reserves : Reserves} (h : reserves.Coherent)
    (htotalled : reserves.Totalled) : reserves.Solid where
  nonneg activeBucket := by
    cases activeBucket with
    | true => exact h.active_nonneg
    | false => exact h.pending_nonneg
  totalled := htotalled

variable {map : StrategyFamily → ℚ}

theorem familySum_nonneg (hmap : ∀ family, 0 ≤ map family) : 0 ≤ familySum map :=
  (hmap .latencyArb).trans (le_familySum .latencyArb hmap)

theorem familySum_sub_single (family : StrategyFamily) (amount : ℚ) :
    familySum (fun other => map other - if other = family then amount else 0) =
      familySum map - amount := by
  cases family <;> simp [familySum] <;> ring

namespace Solid

variable {reserves : Reserves} {amount remaining : ℚ} (activeBucket : Bool)

theorem coherent_sync (h : reserves.Solid) : reserves.syncRawReservedTotals.Coherent :=
  coherent_syncRawReservedTotals (h.nonneg true) (h.nonneg false)

theorem consumeFamilyReserve_takes (h : reserves.Solid) (hamount : 0 ≤ amount)
    (family : StrategyFamily) :
    let result := reserves.consumeFamilyReserve activeBucket amount family
    result.1 = min amount (reserves.bucketOf activeBucket family) ∧
      result.2.Totalled ∧
      (∀ other, result.2.bucketOf activeBucket other =
        reserves.bucketOf activeBucket other - if other = family then result.1 else 0) ∧
      result.2.bucketOf (!activeBucket) = reserves.bucketOf (!activeBucket) := by
  cases activeBucket with
  | true =>
    have hfirst : (reserves.consumeFamilyActiveReserve amount family).1 =
        min amount (reserves.activeReservedCapitalByFamily family) :=
      consumeFamilyActiveReserve_fst family
    refine ⟨hfirst, h.totalled.consumeFamilyActiveReserve family (h.nonneg true), ?_, ?_⟩
    · intro other
      refine (active_consumeFamilyActiveReserve family other hamount
        (h.nonneg true family)).trans ?_
      rw [← hfirst]
      rfl
    · exact pending_consumeFamilyActiveReserve family
  | false =>
    have hfirst := reserves.consumeFamilyPendingReserve_fst amount family
    refine ⟨hfirst, h.totalled.consumeFamilyPendingReserve family (h.nonneg false), ?_, ?_⟩
    · intro other
      refine (pending_consumeFamilyPendingReserve family other hamount
        (h.nonneg false family)).trans ?_
      rw [← hfirst]
      rfl
    · exact active_consumeFamilyPendingReserve family

theorem consumeFamilyReserve (h : reserves.Solid) (hamount : 0 ≤ amount) (family : StrategyFamily) :
    (reserves.consumeFamilyReserve activeBucket amount family).2.Solid := by
  obtain ⟨hfirst, htotalled, htaken, hkept⟩ :=
    h.consumeFamilyReserve_takes activeBucket hamount family
  refine ⟨fun bucket other => ?_, htotalled⟩
  rcases Bool.eq_or_eq_not bucket activeBucket with hsame | hother
  · rw [hsame, htaken, hfirst]
    exact sub_min_nonneg family other (h.nonneg activeBucket)
  · rw [hother, hkept]
    exact h.nonneg _ other

/-- The loop over the families takes the amount, or all that the given families hold. -/
theorem consumeAcross (h : reserves.Solid) (hremaining : 0 ≤ remaining)
    (families : List StrategyFamily) :
    let result := Reserves.consumeAcross activeBucket families remaining reserves
    result.2.Solid ∧ 0 ≤ result.1 ∧ result.1 ≤ remaining ∧
      result.2.bucketOf (!activeBucket) = reserves.bucketOf (!activeBucket) ∧
      familySum (result.2.bucketOf activeBucket) =
        familySum (reserves.bucketOf activeBucket) - (remaining - result.1) ∧
      (∀ family, result.2.bucketOf activeBucket family ≤ reserves.bucketOf activeBucket family) ∧
      (0 < result.1 → ∀ family ∈ families, result.2.bucketOf activeBucket family = 0) := by
  induction families generalizing reserves remaining with
  | nil =>
    refine ⟨h, hremaining, le_rfl, rfl, ?_, fun _ => le_rfl, by simp⟩
    simp [Reserves.consumeAcross]
  | cons family rest ih =>
    unfold Reserves.consumeAcross
    split
    · rename_i hnone
      refine ⟨h, hremaining, le_rfl, rfl, by simp, fun _ => le_rfl, fun hpos => ?_⟩
      exact absurd hpos (not_lt.mpr hnone)
    · obtain ⟨hfirst, -, htaken, hkept⟩ :=
        h.consumeFamilyReserve_takes activeBucket hremaining family
      have hsolid := h.consumeFamilyReserve activeBucket hremaining family
      generalize reserves.consumeFamilyReserve activeBucket remaining family = taken at *
      rcases taken with ⟨released, after⟩
      dsimp only at *
      have hle : released ≤ remaining := hfirst ▸ min_le_left _ _
      rw [max_eq_left (sub_nonneg.mpr hle)]
      obtain ⟨hend, hleft, hless, hother, hsum, hbelow, hempty⟩ :=
        ih hsolid (sub_nonneg.mpr hle)
      have hafter : after.bucketOf activeBucket = fun other =>
          reserves.bucketOf activeBucket other - if other = family then released else 0 :=
        funext htaken
      have hreleased : 0 ≤ released := hfirst ▸ le_min hremaining (h.nonneg _ family)
      refine ⟨hend, hleft, by linarith, hother.trans hkept, ?_, ?_, ?_⟩
      · rw [hsum, hafter, familySum_sub_single]
        ring
      · intro other
        have htaken := htaken other
        have hnext := hbelow other
        split at htaken <;> linarith
      · intro hpos
        refine List.forall_mem_cons.mpr ⟨?_, hempty hpos⟩
        -- what remains in the end remained after this family, so it was drained
        have hdrained : released = reserves.bucketOf activeBucket family := by
          rcases min_choice remaining (reserves.bucketOf activeBucket family) with hall | hrest
          · linarith
          · rw [hfirst, hrest]
        have htaken := htaken family
        rw [if_pos rfl, hdrained, sub_self] at htaken
        exact le_antisymm (htaken ▸ hbelow family) (hend.nonneg _ family)

theorem consumeAcrossFamilies (h : reserves.Solid) (hamount : 0 ≤ amount) :
    let total := familySum (reserves.bucketOf activeBucket)
    let result := reserves.consumeAcrossFamilies amount activeBucket
    result.2.Solid ∧ result.1 = amount - min amount total ∧
      result.2.bucketOf (!activeBucket) = reserves.bucketOf (!activeBucket) ∧
      familySum (result.2.bucketOf activeBucket) = total - min amount total := by
  obtain ⟨hend, hleft, hless, hother, hsum, -, hempty⟩ := h.consumeAcross activeBucket hamount
    [.latencyArb, .spreadCapture, .calmPersistence]
  unfold Reserves.consumeAcrossFamilies
  rw [max_eq_left hamount]
  generalize Reserves.consumeAcross activeBucket [.latencyArb, .spreadCapture, .calmPersistence]
    amount reserves = result at *
  rcases result with ⟨left, after⟩
  dsimp only at *
  have hmin : min amount (familySum (reserves.bucketOf activeBucket)) = amount - left := by
    rcases hleft.eq_or_lt with hnone | hpos
    · rw [← hnone, sub_zero]
      apply min_eq_left
      have hrest : 0 ≤ familySum (after.bucketOf activeBucket) :=
        familySum_nonneg (hend.nonneg activeBucket)
      linarith
    · have hzero : familySum (after.bucketOf activeBucket) = 0 := by
        apply familySum_eq_zero
        intro family
        exact hempty hpos family (by cases family <;> simp)
      rw [min_eq_right (by linarith)]
      linarith
  refine ⟨hend, by linarith, hother, by linarith⟩

end Solid

/-- Coherent reserves whose totals are sums over the families. -/
structure Sound (reserves : Reserves) : Prop where
  coherent : reserves.Coherent
  totalled : reserves.Totalled

theorem sound_empty : empty.Sound :=
  ⟨coherent_empty, totalled_empty⟩

namespace Sound

variable {reserves : Reserves} {amount : ℚ}

theorem reservedCapital_eq (h : reserves.Sound) :
    reserves.reservedCapital = familySum reserves.bucket := by
  rw [h.coherent.total, h.totalled.active, h.totalled.pending]
  simp only [familySum, bucket]
  ring

theorem familySum_active (h : reserves.Sound) :
    familySum (reserves.bucketOf true) = reserves.activeReservedCapital :=
  h.totalled.active.symm

theorem familySum_pending (h : reserves.Sound) :
    familySum (reserves.bucketOf false) = reserves.pendingSettlementReservedCapital :=
  h.totalled.pending.symm

/-- A release without a family takes the amount, or all that is reserved. -/
theorem releaseFromGlobalBuckets (h : reserves.Sound) (hamount : 0 ≤ amount) :
    (reserves.releaseFromGlobalBuckets amount).Sound ∧
      (reserves.releaseFromGlobalBuckets amount).reservedCapital =
        reserves.reservedCapital - min amount reserves.reservedCapital := by
  have hsolid := h.coherent.solid h.totalled
  obtain ⟨hactive, hleft, hkept, hsum⟩ := hsolid.consumeAcrossFamilies true hamount
  have hsplit := min_add_min_sub amount reserves.activeReservedCapital
    (h.familySum_pending ▸ familySum_nonneg (hsolid.nonneg false))
  have hoverridden : reserves.rawReserveStateIsManuallyOverridden = false := by
    simp [rawReserveStateIsManuallyOverridden, h.coherent.total]
  unfold Reserves.releaseFromGlobalBuckets
  rw [hoverridden, if_neg Bool.false_ne_true, h.coherent.total, ← hsplit]
  rw [h.familySum_active] at hleft hsum
  generalize reserves.consumeAcrossFamilies amount true = consumed at *
  rcases consumed with ⟨left, after⟩
  dsimp only at *
  have hpendingSame : after.pendingSettlementReservedCapital =
      reserves.pendingSettlementReservedCapital := by
    rw [hactive.totalled.pending, h.totalled.pending]
    exact congrArg familySum hkept
  have hactiveAfter : after.activeReservedCapital =
      reserves.activeReservedCapital - min amount reserves.activeReservedCapital :=
    hactive.totalled.active.trans hsum
  split
  · rename_i hpos
    obtain ⟨hpending, -, hkept', hsum'⟩ := hactive.consumeAcrossFamilies false hpos.le
    have hactiveSame : (after.consumeAcrossFamilies left false).2.activeReservedCapital =
        after.activeReservedCapital := by
      rw [hpending.totalled.active, hactive.totalled.active]
      exact congrArg familySum hkept'
    have hpendingAfter :
        (after.consumeAcrossFamilies left false).2.pendingSettlementReservedCapital =
          after.pendingSettlementReservedCapital -
            min left after.pendingSettlementReservedCapital := by
      rw [hpending.totalled.pending, hactive.totalled.pending]
      exact hsum'
    refine ⟨⟨hpending.coherent_sync, hpending.totalled.syncRawReservedTotals⟩, ?_⟩
    unfold syncRawReservedTotals
    rw [hactiveSame, hpendingAfter, hactiveAfter, hpendingSame, hleft]
    ring
  · rename_i hnone
    have hzero : amount - min amount reserves.activeReservedCapital = 0 :=
      le_antisymm (hleft ▸ not_lt.mp hnone) (sub_nonneg.mpr (min_le_left _ _))
    have hpendingNonneg : 0 ≤ reserves.pendingSettlementReservedCapital :=
      h.familySum_pending ▸ familySum_nonneg (hsolid.nonneg false)
    refine ⟨⟨hactive.coherent_sync, hactive.totalled.syncRawReservedTotals⟩, ?_⟩
    unfold syncRawReservedTotals
    rw [hactiveAfter, hpendingSame, hzero, min_eq_left hpendingNonneg]
    ring

end Sound

end Reserves

end BubaPaint
