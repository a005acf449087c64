import BubaPaint.Library.Timelines
import BubaPaint.Replay.PositionManager

/-!
# Fees of settled trades

Both engines take the fee of a trade when its market is settled. A simulated run takes the fee
parameters of the end of the window, the decision engine those of the moment it learns of the
outcome. The two differ for the crypto profile when its parameters change in between.

Main results:

- Theorem `settlement_timeless_iff`: when the time of a settlement does not matter.
-/

namespace BubaPaint

open Effects List

/-! ## What a settlement takes and gives -/

/-- The fee and the profit of one settled trade. -/
structure SettledAmounts where
  tradeId : ℤ
  feeAmount : ℚ
  pnlNet : ℚ
  deriving DecidableEq

def TradeResult.amounts (result : TradeResult) : SettledAmounts where
  tradeId := result.tradeId
  feeAmount := result.feeAmount
  pnlNet := result.pnlNet

/-- The fee and the profit of a trade under given fee parameters. A trade without an id is not
settled. -/
def settlementAmounts (feeParams : FeeParams) (outcome : SignalDirection)
    (trade : SimulatedTrade) : Option SettledAmounts :=
  trade.id.map fun tradeId =>
    let settlementPrice := if trade.side = outcome then 1 else 0
    let feeAmount := computeTakerFee trade.entryPrice trade.size feeParams.feeRate
      feeParams.exponent
    { tradeId
      feeAmount
      pnlNet := (settlementPrice - trade.entryPrice) * trade.size - feeAmount }

/-- The fees and profits that the decision engine settles a market with. -/
def RuntimeDecisionEngine.settles {σ : Type} (engine : RuntimeDecisionEngine σ)
    (window : MarketWindow) (outcome : SignalDirection) (nowMs : ℕ) : List SettledAmounts :=
  (tradeResults (engine.authoritativeResolution window outcome nowMs).1.persistenceEvents).map
    fun entry => entry.2.amounts

/-- The fees and profits that a simulated run settles a market with. -/
def PaperState.settles (state : PaperState) (window : MarketWindow) (outcome : SignalDirection)
    (config : Config) (nowMs : ℕ) : List SettledAmounts :=
  (state.resolveWindowWithOutcome window outcome config nowMs).1.map fun entry => entry.2.amounts

namespace RuntimeDecisionEngine

variable {σ : Type}

theorem tradeResults_settleTrade (feeParams : FeeParams) (outcome : SignalDirection) (nowMs : ℕ)
    (pass : DecisionPass σ) (trade : SimulatedTrade) :
    (tradeResults (settleTrade feeParams outcome nowMs pass trade).persistenceEvents).map
        (fun entry => entry.2.amounts) =
      (tradeResults pass.persistenceEvents).map (fun entry => entry.2.amounts) ++
        (settlementAmounts feeParams outcome trade).toList := by
  unfold settleTrade settlementAmounts
  cases trade.id with
  | none => simp
  | some tradeId =>
    simp only [DecisionPass.emit, tradeResults, filterMap_append, map_append,
      Option.map_some, Option.toList_some]
    congr 1
    simp only [filterMap_cons, filterMap_nil, map_cons, map_nil,
      TradeResult.amounts, tradeResult, BankrollManager.applyTradeResultInMemory]
    ring_nf

/-- The decision engine settles each trade of the market under the fee parameters of the moment it
learns of the outcome. -/
theorem tradeResults_authoritativeResolution (engine : RuntimeDecisionEngine σ)
    (window : MarketWindow) (outcome : SignalDirection) (nowMs : ℕ) :
    engine.settles window outcome nowMs =
      (engine.exposure.removeMarket window.marketId).1.filterMap
        (settlementAmounts (resolveFeeParams engine.config (some window) nowMs) outcome) := by
  let feeParams := resolveFeeParams engine.config (some window) nowMs
  have hfold : ∀ (trades : List SimulatedTrade) (pass : DecisionPass σ),
      (tradeResults (trades.foldl (settleTrade feeParams outcome nowMs) pass).persistenceEvents).map
          (fun entry => entry.2.amounts) =
        (tradeResults pass.persistenceEvents).map (fun entry => entry.2.amounts) ++
          trades.filterMap (settlementAmounts feeParams outcome) := by
    intro trades
    induction trades with
    | nil => simp
    | cons trade rest ih =>
      intro pass
      rw [foldl_cons, ih, tradeResults_settleTrade, append_assoc]
      congr 1
      rw [filterMap_cons]
      cases settlementAmounts feeParams outcome trade <;> rfl
  exact hfold _ _

end RuntimeDecisionEngine

namespace PaperState

theorem results_settleTrade (window : MarketWindow) (outcome : SignalDirection) (config : Config)
    (nowMs : ℕ) (settled : List (SimulatedTrade × TradeResult) × PaperState)
    (trade : SimulatedTrade) :
    (settleTrade window outcome config nowMs settled trade).1.map (fun entry => entry.2.amounts) =
      settled.1.map (fun entry => entry.2.amounts) ++
        (settlementAmounts (resolveFeeParams config (some window) window.endTime) outcome
          trade).toList := by
  unfold settleTrade settlementAmounts
  cases trade.id with
  | none => simp
  | some tradeId => simp [TradeResult.amounts, confirmedResult]

/-- A simulated run settles each trade of the market under the fee parameters of the end of the
window. -/
theorem results_resolveWindowWithOutcome (state : PaperState) (window : MarketWindow)
    (outcome : SignalDirection) (config : Config) (nowMs : ℕ) :
    state.settles window outcome config nowMs =
      (state.db.getOpenTradesForMarket window.marketId).filterMap
        (settlementAmounts (resolveFeeParams config (some window) window.endTime) outcome) := by
  have hfold : ∀ (trades : List SimulatedTrade)
      (settled : List (SimulatedTrade × TradeResult) × PaperState),
      (trades.foldl (settleTrade window outcome config nowMs) settled).1.map
          (fun entry => entry.2.amounts) =
        settled.1.map (fun entry => entry.2.amounts) ++ trades.filterMap
          (settlementAmounts (resolveFeeParams config (some window) window.endTime) outcome) := by
    intro trades
    induction trades with
    | nil => simp
    | cons trade rest ih =>
      intro settled
      rw [foldl_cons, ih, results_settleTrade, append_assoc, filterMap_cons]
      congr 1
      cases settlementAmounts (resolveFeeParams config (some window) window.endTime) outcome
        trade <;> rfl
  exact hfold _ _

end PaperState

/-! ## When the time matters -/

/-- Whether the fee parameters of a market follow the crypto schedule. -/
def followsCryptoSchedule (config : Config) (window : MarketWindow) : Bool :=
  !config.takerFeeOverrideExplicit && window.feesEnabled != some false &&
    (marketFeeScheduleParams window).isNone && isCryptoProfile window.feeProfile

/-- A trade pays one fee at the end of its window and at a later time: its market does not follow
the crypto schedule, the schedule does not change in between, or no fee is due at all. -/
def FeeSteady (config : Config) (window : MarketWindow) (nowMs : ℕ) (trade : SimulatedTrade) :
    Prop :=
  followsCryptoSchedule config window = true → window.endTime < cryptoFeeChangeoverMs →
    cryptoFeeChangeoverMs ≤ nowMs → trade.entryPrice ≤ 0 ∨ 1 ≤ trade.entryPrice ∨ trade.size ≤ 0

instance (config : Config) (window : MarketWindow) (nowMs : ℕ) (trade : SimulatedTrade) :
    Decidable (FeeSteady config window nowMs trade) := by
  unfold FeeSteady
  infer_instance

section Times

variable {config : Config} {window : MarketWindow} {nowMs : ℕ}

theorem resolveFeeParams_eq_of_not_follows (h : followsCryptoSchedule config window = false)
    (first second : ℕ) :
    resolveFeeParams config (some window) first = resolveFeeParams config (some window) second := by
  unfold resolveFeeParams
  simp only [followsCryptoSchedule] at h
  split
  · rfl
  split
  · rfl
  cases hschedule : (some window).bind marketFeeScheduleParams with
  | some params => rfl
  | none =>
    dsimp only
    split
    · rename_i hoverride henabled hcrypto
      simp_all
    · rfl

theorem resolveFeeParams_of_follows (h : followsCryptoSchedule config window = true)
    (timestampMs : ℕ) :
    resolveFeeParams config (some window) timestampMs = cryptoFeeParams timestampMs := by
  unfold resolveFeeParams
  simp only [followsCryptoSchedule, Bool.and_eq_true, Option.isNone_iff_eq_none] at h
  obtain ⟨⟨⟨hoverride, henabled⟩, hschedule⟩, hcrypto⟩ := h
  simp_all

theorem cryptoFee_ne {price shares : ℚ} (hpositive : 0 < price) (hbelow : price < 1)
    (hshares : 0 < shares) :
    computeTakerFee price shares (7 / 100) 1 ≠ computeTakerFee price shares (1 / 4) 2 := by
  have hdue : ∀ rate : ℚ, 0 < rate →
      ¬(price ≤ 0 ∨ price ≥ 1 ∨ shares ≤ 0 ∨ rate ≤ 0) := by
    intro rate hrate
    simp [hpositive, hbelow, hshares, hrate]
  have hvariance : 0 < price * (1 - price) := mul_pos hpositive (sub_pos.mpr hbelow)
  have hquarter : price * (1 - price) ≤ 1 / 4 := by nlinarith [sq_nonneg (price - 1 / 2)]
  have hscale : 0 < shares * price * (price * (1 - price)) :=
    mul_pos (mul_pos hshares hpositive) hvariance
  unfold computeTakerFee
  rw [if_neg (hdue _ (by norm_num)), if_neg (hdue _ (by norm_num))]
  simp only [feeExponent]
  intro hsame
  norm_num at hsame
  nlinarith

theorem settlementAmounts_eq_iff_fee {trade : SimulatedTrade} (hid : trade.id.isSome)
    (outcome : SignalDirection) (first second : FeeParams) :
    settlementAmounts first outcome trade = settlementAmounts second outcome trade ↔
      computeTakerFee trade.entryPrice trade.size first.feeRate first.exponent =
        computeTakerFee trade.entryPrice trade.size second.feeRate second.exponent := by
  obtain ⟨tradeId, htradeId⟩ := Option.isSome_iff_exists.mp hid
  unfold settlementAmounts
  rw [htradeId]
  simp only [Option.map_some, Option.some.injEq, SettledAmounts.mk.injEq, true_and]
  constructor
  · exact fun h => h.1
  · intro h
    rw [h]
    exact ⟨rfl, rfl⟩

/-- The fee of a trade at the end of its window is the one at a later time if and only if the change
of the schedule does not fall in between, or does not concern it. -/
theorem settlementAmounts_eq_iff {trade : SimulatedTrade} (hid : trade.id.isSome)
    (outcome : SignalDirection) (hlater : window.endTime ≤ nowMs) :
    settlementAmounts (resolveFeeParams config (some window) nowMs) outcome trade =
        settlementAmounts (resolveFeeParams config (some window) window.endTime) outcome trade ↔
      FeeSteady config window nowMs trade := by
  rw [settlementAmounts_eq_iff_fee hid]
  by_cases hfollows : followsCryptoSchedule config window = true
  · rw [resolveFeeParams_of_follows hfollows, resolveFeeParams_of_follows hfollows]
    unfold FeeSteady cryptoFeeParams
    by_cases hbefore : window.endTime < cryptoFeeChangeoverMs
    · by_cases hafter : cryptoFeeChangeoverMs ≤ nowMs
      · rw [if_pos hafter, if_neg (not_le.mpr hbefore)]
        constructor
        · intro hsame _ _ _
          by_contra hdue
          push Not at hdue
          exact cryptoFee_ne hdue.1 hdue.2.1 hdue.2.2 hsame
        · intro hnone
          have hfree := hnone hfollows hbefore hafter
          unfold computeTakerFee
          rw [if_pos (by tauto), if_pos (by tauto)]
      · rw [if_neg hafter, if_neg (not_le.mpr hbefore)]
        simp [hafter]
    · rw [if_pos (by omega), if_pos (by omega)]
      simp [hbefore]
  · rw [Bool.not_eq_true] at hfollows
    rw [resolveFeeParams_eq_of_not_follows hfollows nowMs window.endTime]
    simp [FeeSteady, hfollows]

theorem isSome_settlementAmounts (feeParams : FeeParams) (outcome : SignalDirection)
    (trade : SimulatedTrade) :
    (settlementAmounts feeParams outcome trade).isSome = trade.id.isSome := by
  unfold settlementAmounts
  rw [Option.isSome_map]

theorem filterMap_settlementAmounts_iff (trades : List SimulatedTrade) (outcome : SignalDirection)
    (hlater : window.endTime ≤ nowMs) :
    trades.filterMap (settlementAmounts (resolveFeeParams config (some window) nowMs) outcome) =
        trades.filterMap
          (settlementAmounts (resolveFeeParams config (some window) window.endTime) outcome) ↔
      ∀ trade ∈ trades, trade.id.isSome → FeeSteady config window nowMs trade := by
  rw [filterMap_eq_filterMap_iff fun trade _ => by
    rw [isSome_settlementAmounts, isSome_settlementAmounts]]
  refine forall₂_congr fun trade _ => ?_
  by_cases hid : trade.id.isSome = true
  · simp only [hid, settlementAmounts_eq_iff hid outcome hlater, forall_const]
  · have hnone : trade.id = none := by simpa using hid
    simp [settlementAmounts, hnone]

end Times

section Settlement

variable {σ : Type}

/-- The trades of a market settle with one fee and one profit each: in the decision engine at two
times and in a simulated run at any time. -/
def SettledAlike (engine : RuntimeDecisionEngine σ) (state : PaperState) (window : MarketWindow)
    (outcome : SignalDirection) (nowMs nowMs' : ℕ) : Prop :=
  engine.settles window outcome nowMs = engine.settles window outcome nowMs' ∧
    ∀ paperMs,
      engine.settles window outcome nowMs = state.settles window outcome engine.config paperMs ∧
        engine.settles window outcome nowMs' =
          state.settles window outcome engine.config paperMs

/-- Both engines settle the open trades of a market alike at any time after its end if and only if
the crypto schedule does not change in between, or concerns none of the trades. Amounts are exact
rationals here: the doubles of the two engines can differ in their last bits. -/
theorem settlement_timeless_iff (engine : RuntimeDecisionEngine σ) (state : PaperState)
    (window : MarketWindow) (outcome : SignalDirection) (nowMs nowMs' : ℕ)
    (htrades : state.db.getOpenTradesForMarket window.marketId =
      (engine.exposure.removeMarket window.marketId).1)
    (hlater : window.endTime ≤ nowMs) (hlater' : window.endTime ≤ nowMs') :
    SettledAlike engine state window outcome nowMs nowMs' ↔
      ∀ trade ∈ (engine.exposure.removeMarket window.marketId).1, trade.id.isSome →
        FeeSteady engine.config window nowMs trade ∧
          FeeSteady engine.config window nowMs' trade := by
  unfold SettledAlike
  simp only [RuntimeDecisionEngine.tradeResults_authoritativeResolution,
    PaperState.results_resolveWindowWithOutcome, htrades, forall_const,
    filterMap_settlementAmounts_iff _ outcome hlater,
    filterMap_settlementAmounts_iff _ outcome hlater']
  constructor
  · rintro ⟨-, hfirst, hsecond⟩ trade htrade hid
    exact ⟨hfirst trade htrade hid, hsecond trade htrade hid⟩
  · intro h
    have hfirst := fun trade htrade hid => (h trade htrade hid).1
    have hsecond := fun trade htrade hid => (h trade htrade hid).2
    refine ⟨?_, hfirst, hsecond⟩
    rw [(filterMap_settlementAmounts_iff _ outcome hlater).mpr hfirst,
      (filterMap_settlementAmounts_iff _ outcome hlater').mpr hsecond]

end Settlement

def sampleCryptoWindow (endTime : ℕ) : MarketWindow :=
  { sampleWindow "market" endTime with feeProfile := some "crypto" }

def sampleOpenTrade : SimulatedTrade where
  id := some 1
  timestamp := 1000
  marketId := "market"
  strategy := "latency-arb"
  side := .up
  tokenId := "up"
  entryPrice := 2 / 5
  size := 10
  status := .open
  signalId := some 1
  requestedPrice := some (2 / 5)
  requestedSize := some 10
  filledSize := some 10
  avgFillPrice := some (2 / 5)
  fillStatus := some "filled"
  fillLatencyMs := some 25
  executionMode := some "paper"
  fillPrice := some (2 / 5)

def sampleTradeEngine (endTime : ℕ) : RuntimeDecisionEngine SampleStrategy :=
  .new { sampleConfig with executionMode := .paper, takerFeeOverrideExplicit := false }
    [SampleStrategy.mk .up]
    { sampleSeed with
      unresolvedExposures :=
        [{ tradeId := 1
           marketId := "market"
           strategy := "latency-arb"
           entryPrice := 2 / 5
           size := 10
           marketEndTime := endTime }]
      openTrades := [{ trade := sampleOpenTrade, marketEndTime := endTime }] }

def sampleTradeState (endTime : ℕ) : PaperState where
  engine := .new
  db := (ResultsDb.new.openTrade sampleOpenTrade).2
  bankroll := (sampleTradeEngine endTime).bankroll

/-- An outcome that is seen one second or one minute after the window settles alike. -/
theorem settlement_timeless_sample :
    SettledAlike (sampleTradeEngine 10000) (sampleTradeState 10000) (sampleCryptoWindow 10000) .up
      11000 70000 := by
  refine (settlement_timeless_iff (sampleTradeEngine 10000) (sampleTradeState 10000)
    (sampleCryptoWindow 10000) .up 11000 70000 ?_ ?_ ?_).mpr ?_
  · decide +kernel
  · decide
  · decide
  · decide +kernel

/-- A window ends one second before the schedule changes: an outcome that is seen two seconds later
takes another fee than a simulated run, and than one that is seen at once. -/
theorem late_outcome_changes_fee :
    ¬ ∀ (engine : RuntimeDecisionEngine SampleStrategy) (state : PaperState)
        (window : MarketWindow) (outcome : SignalDirection) (nowMs nowMs' : ℕ),
      state.db.getOpenTradesForMarket window.marketId =
        (engine.exposure.removeMarket window.marketId).1 →
      window.endTime ≤ nowMs → window.endTime ≤ nowMs' →
      SettledAlike engine state window outcome nowMs nowMs' := by
  intro h
  have halike := h (sampleTradeEngine (cryptoFeeChangeoverMs - 1000))
    (sampleTradeState (cryptoFeeChangeoverMs - 1000))
    (sampleCryptoWindow (cryptoFeeChangeoverMs - 1000)) .up (cryptoFeeChangeoverMs - 1000)
    (cryptoFeeChangeoverMs + 1000) (by decide +kernel) (by decide) (by decide)
  have hfees := congrArg (fun amounts => amounts.map SettledAmounts.feeAmount) halike.1
  revert hfees
  decide +kernel

end BubaPaint
