import BubaPaint.Decision.ReserveRuns

/-!
# What reservations may take

A reservation is sized under five caps, floored to whole tokens and possibly raised to a minimum
bet. What it takes stays under each of them, and what all of them take stays under the open-exposure
ceiling.

Main results:

- Theorem `reservations_capped`: each reservation stays under its caps, and a run under the ceiling.
-/

namespace BubaPaint

open Effects

/-- A cost stays under every cap of a bankroll. -/
structure Capped (bankroll : BankrollManager) (family : StrategyFamily) (config : Config)
    (cost : ℚ) : Prop where
  free : cost ≤ bankroll.currentBalance - bankroll.effectiveReservedCapital config
  usd : cost ≤ config.maxPositionUsd
  fraction : cost ≤ bankroll.currentBalance * config.maxPositionUsdFraction
  sleeve : ∀ fraction ∈ explicitFamilySleeveFraction family config,
    cost ≤ bankroll.currentBalance * fraction - bankroll.effectiveReservedForFamily family config
  headroom : ∀ ceiling ∈ config.openExposureCeilingUsd,
    bankroll.activeReservedCapital + bankroll.pendingSettlementReservedCapital + cost ≤ ceiling

theorem le_capAt {amount cost : ℚ} {bound : Option ℚ} :
    cost ≤ capAt amount bound ↔ cost ≤ amount ∧ ∀ limit ∈ bound, cost ≤ limit := by
  cases bound with
  | none => simp [capAt]
  | some limit => simp [capAt]

theorem le_of_le_max_zero {amount cost : ℚ} (hpos : 0 < cost) (hle : cost ≤ max amount 0) :
    cost ≤ amount := by
  rcases le_max_iff.mp hle with h | h
  · exact h
  · exact absurd hpos (not_lt.mpr h)

namespace BankrollManager

variable {bankroll : BankrollManager} {family : StrategyFamily} {config : Config} {cost : ℚ}

theorem capped_of_le_availableCapital (hpos : 0 < cost)
    (hle : cost ≤ bankroll.availableCapital family config) :
    Capped bankroll family config cost := by
  unfold availableCapital availableSingleBudget at hle
  obtain ⟨hbelow, hheadroom⟩ := le_capAt.mp hle
  obtain ⟨hbudget, hfree⟩ := le_min_iff.mp hbelow
  obtain ⟨hcaps, hsleeve⟩ := le_capAt.mp (le_of_le_max_zero hpos hbudget)
  simp only [le_min_iff] at hcaps
  refine ⟨hfree, hcaps.1.2, hcaps.1.1.2, ?_, ?_⟩
  · intro fraction hfraction
    exact le_of_le_max_zero hpos (hsleeve _ (Option.mem_map_of_mem _ hfraction))
  · intro ceiling hceiling
    have hroom := le_of_le_max_zero hpos (hheadroom _ (Option.mem_map_of_mem _ hceiling))
    linarith

theorem floor_mul_le {amount price : ℚ} (hprice : 0 < price) :
    (⌊amount / price⌋ : ℚ) * price ≤ amount :=
  (le_div_iff₀ hprice).mp (Int.floor_le _)

theorem singleTokenCount_le {entryPrice reservePrice confidence : ℚ} {strategy : String}
    (hprice : 0 < reservePrice)
    (hpos : 0 < bankroll.singleTokenCount entryPrice reservePrice confidence strategy family
      config) :
    bankroll.singleTokenCount entryPrice reservePrice confidence strategy family config *
        reservePrice ≤ bankroll.availableCapital family config := by
  unfold singleTokenCount at hpos ⊢
  dsimp only at hpos ⊢
  split at hpos
  · exact absurd hpos (lt_irrefl 0)
  rename_i havailable
  rw [if_neg havailable]
  split at hpos
  · exact absurd hpos (lt_irrefl 0)
  rename_i hfraction
  rw [if_neg hfraction]
  have hfloored : ∀ other : ℚ, other ≤ bankroll.availableCapital family config →
      (⌊other / reservePrice⌋ : ℚ) * reservePrice ≤ bankroll.availableCapital family config :=
    fun other hother => (floor_mul_le hprice).trans hother
  have hnotional : ∀ kelly first second : ℚ,
      min (min (min kelly (bankroll.availableCapital family config)) first) second ≤
        bankroll.availableCapital family config := by
    intro kelly first second
    exact (min_le_left _ _).trans ((min_le_left _ _).trans (min_le_right _ _))
  split
  · split
    -- the raise to the minimum bet is checked against what is available
    · rename_i hraised
      exact hraised.1
    · exact hfloored _ (hnotional _ _ _)
  · exact hfloored _ (hnotional _ _ _)

@[simp]
theorem currentBalance_canTrade (config : Config) (nowMs : ℕ) :
    (bankroll.canTrade config nowMs).2.currentBalance = bankroll.currentBalance := by
  unfold canTrade rearmDdPause
  dsimp only
  repeat' split
  all_goals rfl

theorem capped_canTrade {nowMs : ℕ}
    (h : Capped (bankroll.canTrade config nowMs).2 family config cost) :
    Capped bankroll family config cost := by
  have hreserves := bankroll.toReserves_canTrade config nowMs
  have hbalance := bankroll.currentBalance_canTrade config nowMs
  generalize (bankroll.canTrade config nowMs).2 = after at *
  rcases bankroll with ⟨reserves⟩
  rcases after with ⟨reserves'⟩
  cases hreserves
  cases hbalance
  exact ⟨h.free, h.usd, h.fraction, h.sleeve, h.headroom⟩

/-- A single-side reservation takes nothing, or its tokens at the reserve price, under every cap. -/
theorem reserveCapitalWithReservePrice_capped (bankroll : BankrollManager)
    (entryPrice reservePrice confidence : ℚ) (strategy : String) (family : StrategyFamily)
    (config : Config) (nowMs : ℕ) :
    let result := bankroll.reserveCapitalWithReservePrice entryPrice reservePrice confidence
      strategy family config nowMs
    0 < result.1 → Capped bankroll family config (result.1 * reservePrice) := by
  unfold reserveCapitalWithReservePrice
  dsimp only
  split
  · exact fun hpos => absurd hpos (lt_irrefl 0)
  split
  · exact fun hpos => absurd hpos (lt_irrefl 0)
  rename_i hprices
  push Not at hprices
  have hprice : 0 < reservePrice := hprices.2.2.1
  split
  · exact fun hpos => absurd hpos (lt_irrefl 0)
  · intro hpos
    apply capped_canTrade
    exact capped_of_le_availableCapital (mul_pos hpos hprice) (singleTokenCount_le hprice hpos)

/-- A spread reservation takes nothing, or pairs at both asks, under every cap. -/
theorem reserveSpreadCapitalForFamily_capped (bankroll : BankrollManager) (upAsk downAsk : ℚ)
    (family : StrategyFamily) (config : Config) (nowMs : ℕ) :
    let result := bankroll.reserveSpreadCapitalForFamily upAsk downAsk family config nowMs
    0 < result.1.1 → Capped bankroll family config (result.1.1 * (upAsk + downAsk)) := by
  unfold reserveSpreadCapitalForFamily
  dsimp only
  split
  · exact fun hpos => absurd hpos (lt_irrefl 0)
  split
  · exact fun hpos => absurd hpos (lt_irrefl 0)
  rename_i hprices
  push Not at hprices
  have hpair : 0 < upAsk + downAsk := add_pos hprices.1 hprices.2.1
  split
  · exact fun hpos => absurd hpos (lt_irrefl 0)
  split
  · exact fun hpos => absurd hpos (lt_irrefl 0)
  · intro hpos
    apply capped_canTrade
    exact capped_of_le_availableCapital (mul_pos hpos hpair) (floor_mul_le hpair)

end BankrollManager

/-! ## Reserves that are released -/

namespace Reserves

/-- What is committed: all open exposure, active or waiting for settlement. -/
def committed (reserves : Reserves) : ℚ :=
  reserves.activeReservedCapital + reserves.pendingSettlementReservedCapital

@[simp]
theorem committed_addReserved (reserves : Reserves) (family : StrategyFamily) (amount : ℚ) :
    (reserves.addReserved family amount).committed = reserves.committed + amount := by
  change reserves.activeReservedCapital + amount + reserves.pendingSettlementReservedCapital = _
  unfold committed
  ring

namespace Sound

variable {reserves : Reserves} {amount : ℚ} (family : StrategyFamily)

theorem reservedCapital_eq_committed (h : reserves.Sound) :
    reserves.reservedCapital = reserves.committed :=
  h.coherent.total

theorem sync_eq (h : reserves.Sound) : reserves.syncRawReservedTotals = reserves := by
  have htotal := h.coherent.total
  have hbyFamily : reserves.reservedCapitalByFamily = reserves.bucket := by
    ext other
    exact h.coherent.byFamily other
  unfold syncRawReservedTotals
  rw [← htotal, ← hbyFamily]

theorem consumeFamilyActiveReserve_of_neg (hamount : amount < 0) :
    reserves.consumeFamilyActiveReserve amount family =
      (min amount (reserves.activeReservedCapitalByFamily family), reserves) := by
  have hnone : ¬ min amount (reserves.activeReservedCapitalByFamily family) > 0 :=
    not_lt.mpr ((min_le_left _ _).trans hamount.le)
  unfold consumeFamilyActiveReserve
  rw [if_neg hnone]

theorem releaseFromFamilyBuckets_of_neg (h : reserves.Sound) (hamount : amount < 0) :
    reserves.releaseFromFamilyBuckets amount family = reserves := by
  have hleast : min amount (reserves.activeReservedCapitalByFamily family) = amount :=
    min_eq_left (hamount.le.trans (h.coherent.active_nonneg family))
  unfold Reserves.releaseFromFamilyBuckets
  rw [h.coherent.not_overridden, if_neg Bool.false_ne_true,
    consumeFamilyActiveReserve_of_neg family hamount, hleast]
  simp [h.sync_eq]

theorem transitionFamilyReserveToPending_of_neg (h : reserves.Sound) (hamount : amount < 0) :
    reserves.transitionFamilyReserveToPending amount family = reserves := by
  have hleast : min amount (reserves.activeReservedCapitalByFamily family) ≤ 0 :=
    (min_le_left _ _).trans hamount.le
  unfold Reserves.transitionFamilyReserveToPending
  rw [h.coherent.not_overridden, if_neg Bool.false_ne_true,
    consumeFamilyActiveReserve_of_neg family hamount]
  dsimp only
  rw [if_pos hleast]

theorem releaseFromGlobalBuckets_of_neg (h : reserves.Sound) (hamount : amount < 0) :
    reserves.releaseFromGlobalBuckets amount = reserves := by
  have hoverridden : reserves.rawReserveStateIsManuallyOverridden = false :=
    h.bucketsSound.not_overridden
  unfold Reserves.releaseFromGlobalBuckets Reserves.consumeAcrossFamilies
  rw [hoverridden, if_neg Bool.false_ne_true, max_eq_right hamount.le]
  simp [consumeAcross, h.sync_eq]

theorem committed_releaseFromFamilyBuckets_le (h : reserves.Sound) (hamount : 0 ≤ amount) :
    (reserves.releaseFromFamilyBuckets amount family).committed ≤ reserves.committed := by
  have hafter := h.releaseFromFamilyBuckets family hamount
  have hbucket : (reserves.releaseFromFamilyBuckets amount family).bucket =
      fun other => reserves.bucket other -
        if other = family then min amount (reserves.bucket family) else 0 := by
    ext other
    exact bucket_releaseFromFamilyBuckets family other h.coherent hamount
  have htaken : 0 ≤ min amount (reserves.bucket family) :=
    le_min hamount (h.coherent.bucket_nonneg family)
  rw [← hafter.reservedCapital_eq_committed, ← h.reservedCapital_eq_committed,
    hafter.reservedCapital_eq, h.reservedCapital_eq, hbucket, familySum_sub_single]
  linarith

end Sound

end Reserves

variable {bankroll : BankrollManager} {config : Config}

theorem ReserveMove.committed_apply_le (h : bankroll.toReserves.Sound) (move : ReserveMove) :
    (move.apply bankroll).toReserves.Sound ∧
      (move.apply bankroll).toReserves.committed ≤ bankroll.toReserves.committed := by
  rcases lt_or_ge move.amount 0 with hneg | hamount
  · have hsame : (move.apply bankroll).toReserves = bankroll.toReserves := by
      cases move with
      | release amount => exact h.releaseFromGlobalBuckets_of_neg hneg
      | releaseForFamily amount family => exact h.releaseFromFamilyBuckets_of_neg family hneg
      | transition amount strategy =>
        exact h.transitionFamilyReserveToPending_of_neg (familyForStrategy strategy) hneg
    rw [hsame]
    exact ⟨h, le_rfl⟩
  · have hafter := ((ReserveAction.move move).sound_apply h hamount).1
    refine ⟨hafter, ?_⟩
    cases move with
    | release amount =>
      obtain ⟨hsound, htotal⟩ := h.releaseFromGlobalBuckets hamount
      have hnonneg : 0 ≤ bankroll.toReserves.reservedCapital := by
        rw [h.reservedCapital_eq]
        exact Reserves.familySum_nonneg fun family => h.coherent.bucket_nonneg family
      have htaken := le_min hamount hnonneg
      rw [hsound.reservedCapital_eq_committed, h.reservedCapital_eq_committed] at htotal
      rw [h.reservedCapital_eq_committed] at htaken
      exact htotal.trans_le (sub_le_self _ htaken)
    | releaseForFamily amount family =>
      exact h.committed_releaseFromFamilyBuckets_le family hamount
    | transition amount strategy =>
      have htotal := h.total_transitionFamilyReserveToPending (familyForStrategy strategy) hamount
      rw [(h.transitionFamilyReserveToPending (familyForStrategy strategy)
        hamount).reservedCapital_eq_committed, h.reservedCapital_eq_committed] at htotal
      exact htotal.le

/-! ## Runs -/

/-- Reservations and moves between the buckets. -/
inductive BankrollAction where
  | reserve (entryPrice reservePrice confidence : ℚ) (strategy : String)
      (family : StrategyFamily) (nowMs : ℕ)
  | reserveSpread (upAsk downAsk : ℚ) (family : StrategyFamily) (nowMs : ℕ)
  | move (kind : ReserveMove)

/-- Reserve or move. -/
def BankrollAction.apply (config : Config) (action : BankrollAction)
    (bankroll : BankrollManager) : BankrollManager :=
  match action with
  | .reserve entryPrice reservePrice confidence strategy family nowMs =>
    (bankroll.reserveCapitalWithReservePrice entryPrice reservePrice confidence strategy family
      config nowMs).2
  | .reserveSpread upAsk downAsk family nowMs =>
    (bankroll.reserveSpreadCapitalForFamily upAsk downAsk family config nowMs).2
  | .move kind => kind.apply bankroll

def bankrollSystem (config : Config) : System BankrollManager BankrollAction Unit where
  step bankroll action := some (action.apply config bankroll)
  record _ _ _ _ := ()

/-- The checks of a configuration at startup that concern the open-exposure ceiling. -/
def Config.validateOpenExposure (config : Config) : Except String Unit :=
  if config.openExposureCeilingUsd.isSome then
    if ¬ 0 < config.liveMaxOpenNotionalUsd then
      .error "LIVE_MAX_OPEN_NOTIONAL_USD must be a positive finite number when the open-exposure ceiling is enforced"
    else if ¬ 0 < config.liveSessionCashCapUsd then
      .error "LIVE_SESSION_CASH_CAP_USD must be a positive finite number when the open-exposure ceiling is enforced"
    else
      .ok ()
  else
    .ok ()

theorem Config.ceiling_pos (hvalid : config.validateOpenExposure = .ok ()) {ceiling : ℚ}
    (hceiling : ceiling ∈ config.openExposureCeilingUsd) : 0 < ceiling := by
  have hsome : config.openExposureCeilingUsd.isSome := Option.isSome_of_mem hceiling
  unfold validateOpenExposure at hvalid
  rw [if_pos hsome] at hvalid
  split at hvalid
  · cases hvalid
  rename_i hnotional
  split at hvalid
  · cases hvalid
  rename_i hcash
  unfold openExposureCeilingUsd at hceiling
  split at hceiling
  · rw [← Option.some.inj hceiling]
    exact lt_min (not_not.mp hnotional) (not_not.mp hcash)
  · cases hceiling

/-- What is committed is under the ceiling. -/
structure UnderCeiling (config : Config) (reserves : Reserves) : Prop where
  sound : reserves.Sound
  ceiling : ∀ ceiling ∈ config.openExposureCeilingUsd, reserves.committed ≤ ceiling

/-- A reservation under every cap stays under the ceiling. -/
theorem UnderCeiling.addReserved {family : StrategyFamily} {cost : ℚ}
    (h : UnderCeiling config bankroll.toReserves) (hcost : 0 ≤ cost)
    (hcapped : Capped bankroll family config cost) :
    UnderCeiling config (bankroll.toReserves.addReserved family cost) where
  sound := h.sound.addReserved family hcost
  ceiling ceiling hceiling := by
    rw [Reserves.committed_addReserved]
    exact hcapped.headroom ceiling hceiling

/-- Every action stays under the ceiling. -/
theorem UnderCeiling.apply (h : UnderCeiling config bankroll.toReserves) (action : BankrollAction) :
    UnderCeiling config (action.apply config bankroll).toReserves := by
  cases action with
  | reserve entryPrice reservePrice confidence strategy family nowMs =>
    have hcapped := bankroll.reserveCapitalWithReservePrice_capped entryPrice reservePrice
      confidence strategy family config nowMs
    rcases bankroll.reserveCapitalWithReservePrice_spec entryPrice reservePrice confidence
      strategy family config nowMs with ⟨-, hsame⟩ | ⟨hpos, -, hprice, hadded⟩
    · exact hsame ▸ h
    · exact hadded ▸ h.addReserved (mul_pos hpos hprice).le (hcapped hpos)
  | reserveSpread upAsk downAsk family nowMs =>
    have hcapped := bankroll.reserveSpreadCapitalForFamily_capped upAsk downAsk family config nowMs
    rcases bankroll.reserveSpreadCapitalForFamily_spec upAsk downAsk family config nowMs with
      ⟨-, hsame⟩ | ⟨hpos, -, hup, hdown, hadded⟩
    · exact hsame ▸ h
    · exact hadded ▸ h.addReserved (mul_pos hpos (add_pos hup hdown)).le (hcapped hpos)
  | move kind =>
    obtain ⟨hsound, hless⟩ := kind.committed_apply_le h.sound
    exact ⟨hsound, fun ceiling hceiling => hless.trans (h.ceiling ceiling hceiling)⟩

/-- A successful reservation adds a cost that stays under every cap. -/
def ReservesCapped (bankroll : BankrollManager) (family : StrategyFamily) (config : Config)
    (tokens cost : ℚ) (after : BankrollManager) : Prop :=
  0 < tokens →
    after.toReserves = bankroll.toReserves.addReserved family cost ∧
      Capped bankroll family config cost

/-- A successful reservation of any bankroll, whatever its state, takes at most what is free, the
position limits and the headroom of the sleeve; and along every run that starts without reserves
the open exposure stays under the ceiling. -/
theorem reservations_capped (config : Config) :
    (∀ (bankroll : BankrollManager) (entryPrice reservePrice confidence : ℚ) (strategy : String)
      (family : StrategyFamily) (nowMs : ℕ),
      let result := bankroll.reserveCapitalWithReservePrice entryPrice reservePrice confidence
        strategy family config nowMs
      ReservesCapped bankroll family config result.1 (result.1 * reservePrice) result.2) ∧
    (∀ (bankroll : BankrollManager) (upAsk downAsk : ℚ) (family : StrategyFamily) (nowMs : ℕ),
      let result := bankroll.reserveSpreadCapitalForFamily upAsk downAsk family config nowMs
      result.1.2 = result.1.1 ∧
        ReservesCapped bankroll family config result.1.1 (result.1.1 * (upAsk + downAsk))
          result.2) ∧
    (config.validateOpenExposure = .ok () → ∀ start : BankrollManager,
      start.toReserves = .empty → ∀ bankroll : BankrollManager,
      (bankrollSystem config).Run (fun _ _ _ _ => True) ((), start) () bankroll →
      ∀ ceiling ∈ config.openExposureCeilingUsd,
        bankroll.activeReservedCapital + bankroll.pendingSettlementReservedCapital ≤ ceiling) := by
  refine ⟨?_, ?_, ?_⟩
  · intro bankroll entryPrice reservePrice confidence strategy family nowMs result hpos
    have hcapped := bankroll.reserveCapitalWithReservePrice_capped entryPrice reservePrice
      confidence strategy family config nowMs hpos
    rcases bankroll.reserveCapitalWithReservePrice_spec entryPrice reservePrice confidence
      strategy family config nowMs with ⟨hnone, -⟩ | ⟨-, -, -, hadded⟩
    · exact absurd (hnone ▸ hpos : (0 : ℚ) < 0) (lt_irrefl 0)
    · exact ⟨hadded, hcapped⟩
  · intro bankroll upAsk downAsk family nowMs
    have hcapped := bankroll.reserveSpreadCapitalForFamily_capped upAsk downAsk family config nowMs
    rcases bankroll.reserveSpreadCapitalForFamily_spec upAsk downAsk family config nowMs with
      ⟨hnone, -⟩ | ⟨hunits, hsame, -, -, hadded⟩
    · exact ⟨by rw [hnone], fun hpos => absurd hpos (by simp [hnone])⟩
    · exact ⟨hsame, fun hpos => ⟨hadded, hcapped hpos⟩⟩
  · intro hvalid start hempty bankroll hrun
    have hunder : UnderCeiling config bankroll.toReserves := by
      refine hrun.invariant (fun _ bankroll => UnderCeiling config bankroll.toReserves) ?_ ?_
      · refine ⟨hempty ▸ Reserves.sound_empty, fun ceiling hceiling => ?_⟩
        rw [hempty]
        simpa [Reserves.committed, Reserves.empty] using (Config.ceiling_pos hvalid hceiling).le
      · intro _ before action after hbefore hstep _
        cases hstep
        exact hbefore.apply action
    exact hunder.ceiling

/-- A reservation that fills the ceiling, its market closed, and a second one that finds no room. -/
theorem reservations_capped_sample :
    ∃ bankroll : BankrollManager,
      bankroll.activeReservedCapital = 0 ∧
        bankroll.pendingSettlementReservedCapital = 99 / 2 ∧
        bankroll.activeReservedCapital + bankroll.pendingSettlementReservedCapital ≤ 50 := by
  have hfollow : ((bankrollSystem sampleConfig).follow (fun _ _ _ _ => true)
      [.reserve (1 / 2) (11 / 20) (9 / 10) "latency-arb" .latencyArb 1000,
        .move (.transition (99 / 2) "latency-arb"),
        .reserveSpread (2 / 5) (2 / 5) .spreadCapture 2000]
      ((), .newInMemory 1000 1000 sampleConfig)).any (fun reached =>
        decide (reached.2.activeReservedCapital = 0 ∧
          reached.2.pendingSettlementReservedCapital = 99 / 2)) = true := by
    decide +kernel
  obtain ⟨_, bankroll, hrun, hproperty⟩ := System.exists_run_of_follow hfollow
    fun _ _ _ _ _ => trivial
  obtain ⟨hactive, hpending⟩ := of_decide_eq_true hproperty
  exact ⟨bankroll, hactive, hpending,
    (reservations_capped sampleConfig).2.2 rfl _ rfl bankroll hrun 50 (by decide +kernel)⟩

end BubaPaint
