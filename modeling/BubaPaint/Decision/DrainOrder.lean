import BubaPaint.Decision.GlobalReleases

/-!
# Which family a release drains

A release that names no family drains the active buckets in a stable order. It takes from one
family alone exactly if the families before it hold nothing.
-/

namespace BubaPaint

/-- The families that a release without a family drains first. -/
def StrategyFamily.earlier : StrategyFamily → List StrategyFamily
  | .latencyArb => []
  | .spreadCapture => [.latencyArb]
  | .calmPersistence => [.latencyArb, .spreadCapture]

theorem StrategyFamily.exists_later (family : StrategyFamily) :
    ∃ later, [.latencyArb, .spreadCapture, .calmPersistence] =
      family.earlier ++ family :: later := by
  cases family with
  | latencyArb => exact ⟨[.spreadCapture, .calmPersistence], rfl⟩
  | spreadCapture => exact ⟨[.calmPersistence], rfl⟩
  | calmPersistence => exact ⟨[], rfl⟩

theorem StrategyFamily.not_mem_earlier (family : StrategyFamily) : family ∉ family.earlier := by
  cases family <;> decide

theorem StrategyFamily.mem_earlier_trans {family first other : StrategyFamily}
    (hfirst : first ∈ family.earlier) (hother : other ∈ first.earlier) :
    other ∈ family.earlier := by
  cases family <;> cases first <;> simp_all [earlier]

theorem StrategyFamily.exists_first {family : StrategyFamily} {p : StrategyFamily → Prop}
    (h : ∃ other ∈ family.earlier, p other) :
    ∃ first ∈ family.earlier, p first ∧ ∀ other ∈ first.earlier, ¬ p other := by
  cases family with
  | latencyArb => simp [earlier] at h
  | spreadCapture => simpa [earlier] using h
  | calmPersistence =>
    by_cases hlatency : p .latencyArb
    · exact ⟨.latencyArb, by simp [earlier], hlatency, by simp [earlier]⟩
    · have hspread : p .spreadCapture := by simpa [earlier, hlatency] using h
      exact ⟨.spreadCapture, by simp [earlier], hspread, by simpa [earlier] using hlatency⟩

namespace Reserves

variable {reserves : Reserves} {amount remaining : ℚ} {family : StrategyFamily}

theorem active_addReserved_of_earlier {other : StrategyFamily} (hother : other ∈ family.earlier)
    (reserves : Reserves) (amount : ℚ) :
    (reserves.addReserved family amount).activeReservedCapitalByFamily other =
      reserves.activeReservedCapitalByFamily other := by
  have hne : other ≠ family := fun heq => family.not_mem_earlier (heq ▸ hother)
  rw [active_addReserved, addEntry_apply, if_neg hne, add_zero]

/-! ## The loop over the families -/

variable (later families : List StrategyFamily)

theorem active_consumeAcross_pending (remaining : ℚ) (reserves : Reserves) :
    (consumeAcross false families remaining reserves).2.activeReservedCapitalByFamily =
      reserves.activeReservedCapitalByFamily := by
  induction families generalizing remaining reserves with
  | nil => rfl
  | cons next rest ih =>
    unfold consumeAcross
    by_cases hnone : remaining ≤ 0
    · rw [if_pos hnone]
    · rw [if_neg hnone]
      refine (ih _ _).trans ?_
      exact active_consumeFamilyPendingReserve next

theorem consumeAcross_active_le (hremaining : 0 ≤ remaining)
    (hactive : ∀ other, 0 ≤ reserves.activeReservedCapitalByFamily other) :
    let result := consumeAcross true families remaining reserves
    (∀ other, 0 ≤ result.2.activeReservedCapitalByFamily other) ∧
      (∀ other, result.2.activeReservedCapitalByFamily other ≤
        reserves.activeReservedCapitalByFamily other) ∧
      result.2.pendingSettlementReservedCapitalByFamily =
        reserves.pendingSettlementReservedCapitalByFamily := by
  induction families generalizing remaining reserves with
  | nil => exact ⟨hactive, fun _ => le_rfl, rfl⟩
  | cons next rest ih =>
    unfold consumeAcross
    by_cases hnone : remaining ≤ 0
    · rw [if_pos hnone]
      exact ⟨hactive, fun _ => le_rfl, rfl⟩
    rw [if_neg hnone]
    have htaken := fun other =>
      active_consumeFamilyActiveReserve next other hremaining (hactive next)
    have hless : ∀ other, 0 ≤ reserves.activeReservedCapitalByFamily other -
        if other = next then min remaining (reserves.activeReservedCapitalByFamily next) else 0 :=
      fun other => sub_min_nonneg next other hactive
    have hnext : ∀ other, 0 ≤ (reserves.consumeFamilyActiveReserve remaining
        next).2.activeReservedCapitalByFamily other := by
      intro other
      rw [htaken]
      exact hless other
    rcases ih (le_max_right _ _) hnext with ⟨hnonneg, hle, hpending⟩
    refine ⟨hnonneg, fun other => (hle other).trans ?_, hpending.trans ?_⟩
    · show (reserves.consumeFamilyActiveReserve remaining next).2.activeReservedCapitalByFamily
        other ≤ _
      rw [htaken]
      have hmin : 0 ≤ min remaining (reserves.activeReservedCapitalByFamily next) :=
        le_min hremaining (hactive next)
      split <;> linarith
    · exact pending_consumeFamilyActiveReserve next

theorem consumeAcross_cons_of_empty (rest : List StrategyFamily) (hremaining : 0 < remaining)
    (hempty : reserves.activeReservedCapitalByFamily family = 0) :
    consumeAcross true (family :: rest) remaining reserves =
      consumeAcross true rest remaining reserves := by
  have hnone : ¬ min remaining (reserves.activeReservedCapitalByFamily family) > 0 := by
    rw [hempty, min_eq_right hremaining.le]
    exact lt_irrefl 0
  have hsame := consumeFamilyActiveReserve_of_not_pos family hnone
  have hreleased : (reserves.consumeFamilyActiveReserve remaining family).1 = 0 := by
    rw [consumeFamilyActiveReserve_fst, hempty, min_eq_right hremaining.le]
  conv_lhs => unfold consumeAcross
  rw [if_neg (not_le.mpr hremaining)]
  unfold consumeFamilyReserve
  simp only [if_true, hsame, hreleased, sub_zero, max_eq_left hremaining.le]

theorem consumeAcross_append_of_empty (before rest : List StrategyFamily)
    (hremaining : 0 < remaining)
    (hempty : ∀ other ∈ before, reserves.activeReservedCapitalByFamily other = 0) :
    consumeAcross true (before ++ rest) remaining reserves =
      consumeAcross true rest remaining reserves := by
  induction before with
  | nil => rfl
  | cons next before ih =>
    have hnext := hempty next List.mem_cons_self
    rw [List.cons_append, consumeAcross_cons_of_empty _ hremaining hnext]
    exact ih fun other hother => hempty other (List.mem_cons_of_mem _ hother)

theorem consumeAcross_zero (activeBucket : Bool) (families : List StrategyFamily)
    (reserves : Reserves) : consumeAcross activeBucket families 0 reserves = (0, reserves) := by
  cases families with
  | nil => rfl
  | cons next rest =>
    unfold consumeAcross
    rw [if_pos le_rfl]

theorem consumeAcross_of_enough (hremaining : 0 < remaining)
    (henough : remaining ≤ reserves.activeReservedCapitalByFamily family) :
    consumeAcross true (family :: later) remaining reserves =
      (0, (reserves.consumeFamilyActiveReserve remaining family).2) := by
  have hreleased : (reserves.consumeFamilyActiveReserve remaining family).1 = remaining := by
    rw [consumeFamilyActiveReserve_fst, min_eq_left henough]
  unfold consumeAcross
  rw [if_neg (not_le.mpr hremaining)]
  unfold consumeFamilyReserve
  simp only [if_true, hreleased, sub_self, max_self, consumeAcross_zero]

theorem consumeAcross_lt (hremaining : 0 < remaining)
    (hactive : ∀ other, 0 ≤ reserves.activeReservedCapitalByFamily other)
    (hholds : 0 < reserves.activeReservedCapitalByFamily family) :
    (consumeAcross true (family :: later) remaining reserves).2.activeReservedCapitalByFamily
        family < reserves.activeReservedCapitalByFamily family := by
  have htaken := fun other =>
    active_consumeFamilyActiveReserve family other hremaining.le (hactive family)
  have hnext : ∀ other, 0 ≤ (reserves.consumeFamilyActiveReserve remaining
      family).2.activeReservedCapitalByFamily other := by
    intro other
    rw [htaken]
    exact sub_min_nonneg family other hactive
  unfold consumeAcross
  rw [if_neg (not_le.mpr hremaining)]
  refine ((consumeAcross_active_le later (le_max_right _ _) hnext).2.1 family).trans_lt ?_
  rw [htaken, if_pos rfl]
  have hshare : 0 < min remaining (reserves.activeReservedCapitalByFamily family) :=
    lt_min hremaining hholds
  linarith

/-- No active bucket is overdrawn, and the raw total was rebuilt from the buckets. -/
structure Settled (reserves : Reserves) : Prop where
  active_nonneg : ∀ other, 0 ≤ reserves.activeReservedCapitalByFamily other
  rebuilt : reserves.rawReserveStateIsManuallyOverridden = false

theorem not_overridden_sync (reserves : Reserves) :
    reserves.syncRawReservedTotals.rawReserveStateIsManuallyOverridden = false := by
  simp [rawReserveStateIsManuallyOverridden, syncRawReservedTotals]

theorem settled_addReserved (hactive : ∀ other, 0 ≤ reserves.activeReservedCapitalByFamily other)
    (hamount : 0 ≤ amount) (family : StrategyFamily) :
    (reserves.addReserved family amount).Settled where
  active_nonneg := fun other => addEntry_nonneg family other hactive hamount
  rebuilt := not_overridden_sync _

theorem Settled.active_release (h : reserves.Settled) (hamount : 0 ≤ amount) :
    (reserves.releaseFromGlobalBuckets amount).activeReservedCapitalByFamily =
      (consumeAcross true [.latencyArb, .spreadCapture, .calmPersistence] amount
        reserves).2.activeReservedCapitalByFamily := by
  unfold releaseFromGlobalBuckets consumeAcrossFamilies
  rw [h.rebuilt, if_neg Bool.false_ne_true, max_eq_left hamount]
  dsimp only
  split
  · exact active_consumeAcross_pending _ _ _
  · rfl

theorem Settled.release_le (h : reserves.Settled) (hamount : 0 ≤ amount) :
    (reserves.releaseFromGlobalBuckets amount).Settled ∧
      ∀ other, (reserves.releaseFromGlobalBuckets amount).activeReservedCapitalByFamily other ≤
        reserves.activeReservedCapitalByFamily other := by
  have hloop := consumeAcross_active_le [.latencyArb, .spreadCapture, .calmPersistence] hamount
    h.active_nonneg
  have hbuckets := h.active_release hamount
  refine ⟨⟨?_, ?_⟩, ?_⟩
  · rw [hbuckets]
    exact hloop.1
  · unfold releaseFromGlobalBuckets
    rw [h.rebuilt, if_neg Bool.false_ne_true]
    dsimp only
    split
    · exact not_overridden_sync _
    · exact not_overridden_sync _
  · rw [hbuckets]
    exact hloop.2.1

/-- A release takes from one family alone if the families before it hold nothing. -/
theorem Settled.release (h : reserves.Settled) (hamount : 0 < amount)
    (hempty : ∀ other ∈ family.earlier, reserves.activeReservedCapitalByFamily other = 0)
    (henough : amount ≤ reserves.activeReservedCapitalByFamily family) :
    (∀ other, (reserves.releaseFromGlobalBuckets amount).activeReservedCapitalByFamily other =
        reserves.activeReservedCapitalByFamily other - if other = family then amount else 0) ∧
      (reserves.releaseFromGlobalBuckets amount).pendingSettlementReservedCapitalByFamily =
        reserves.pendingSettlementReservedCapitalByFamily := by
  rcases family.exists_later with ⟨later, horder⟩
  have hloop : consumeAcross true [.latencyArb, .spreadCapture, .calmPersistence] amount reserves =
      (0, (reserves.consumeFamilyActiveReserve amount family).2) := by
    rw [horder, consumeAcross_append_of_empty _ _ hamount hempty,
      consumeAcross_of_enough later hamount henough]
  constructor
  · intro other
    rw [h.active_release hamount.le, hloop,
      active_consumeFamilyActiveReserve family other hamount.le (h.active_nonneg family),
      min_eq_left henough]
  · unfold releaseFromGlobalBuckets consumeAcrossFamilies
    rw [h.rebuilt, if_neg Bool.false_ne_true, max_eq_left hamount.le, hloop]
    dsimp only
    rw [if_neg (lt_irrefl 0)]
    exact pending_consumeFamilyActiveReserve family

/-- A release takes from the first family that holds something. -/
theorem Settled.release_lt (h : reserves.Settled) (hamount : 0 < amount)
    (hempty : ∀ other ∈ family.earlier, reserves.activeReservedCapitalByFamily other = 0)
    (hholds : 0 < reserves.activeReservedCapitalByFamily family) :
    (reserves.releaseFromGlobalBuckets amount).activeReservedCapitalByFamily family <
      reserves.activeReservedCapitalByFamily family := by
  rcases family.exists_later with ⟨later, horder⟩
  rw [h.active_release hamount.le, horder, consumeAcross_append_of_empty _ _ hamount hempty]
  exact consumeAcross_lt later hamount h.active_nonneg hholds

end Reserves

end BubaPaint
