import BubaPaint.Replay.Causality
import BubaPaint.Replay.SettlementFees
import BubaPaint.Strategies.SpreadCapture

/-!
# Hedged batches

A batch of the spread capture buys both sides, so whichever wins, a pair pays out one dollar. The
strategy weighs this against the fees of the configuration, a settlement against those of the
window. Where the window charges more, a batch that the strategy finds can lose.

Main results:

- Theorem `pairProfits_iff`: when a pair pays more than it costs.
- Theorem `hedged_batch_profits_iff`: when a batch of the strategy does.
-/

namespace BubaPaint

def settledResult (window : MarketWindow) (outcome : SignalDirection) (config : Config)
    (trade : SimulatedTrade) : Option (SimulatedTrade × TradeResult) :=
  trade.id.map fun tradeId =>
    let feeParams := resolveFeeParams config (some window) window.endTime
    (trade, PaperState.confirmedResult trade tradeId (if trade.side = outcome then 1 else 0)
      (computeTakerFee trade.entryPrice trade.size feeParams.feeRate feeParams.exponent))

section Settlements

variable (state : PaperState) (window : MarketWindow) (outcome : SignalDirection) (config : Config)
  (nowMs : ℕ)

theorem PaperState.resolveWindowWithOutcome_results :
    (state.resolveWindowWithOutcome window outcome config nowMs).1 =
      (state.db.getOpenTradesForMarket window.marketId).filterMap
        (settledResult window outcome config) := by
  have hfold : ∀ (trades : List SimulatedTrade)
      (settled : List (SimulatedTrade × TradeResult) × PaperState),
      (trades.foldl (settleTrade window outcome config nowMs) settled).1 =
        settled.1 ++ trades.filterMap (settledResult window outcome config) := by
    intro trades
    induction trades with
    | nil => simp
    | cons trade rest ih =>
      intro settled
      rw [List.foldl_cons, ih]
      unfold settleTrade settledResult
      cases hid : trade.id with
      | none => simp [hid]
      | some tradeId => simp [hid]
  exact hfold _ _

end Settlements

/-- Two trades of equal size at the asks of a pair, one on each side. -/
structure HedgedPair (up down : SimulatedTrade) (upAsk downAsk : ℚ) : Prop where
  stored : up.id.isSome ∧ down.id.isSome
  sides : up.side = .up ∧ down.side = .down
  entries : up.entryPrice = upAsk ∧ down.entryPrice = downAsk
  sizes : up.size = down.size
  positive : 0 < up.size

/-- Two open trades are settled with a profit in sum, whichever side wins. -/
def PairProfits (state : PaperState) (window : MarketWindow) (config : Config) (nowMs : ℕ)
    (up down : SimulatedTrade) : Prop :=
  ∀ outcome, ∃ upResult downResult,
    (up, upResult) ∈ (state.resolveWindowWithOutcome window outcome config nowMs).1 ∧
    (down, downResult) ∈ (state.resolveWindowWithOutcome window outcome config nowMs).1 ∧
    0 < upResult.pnlNet + downResult.pnlNet

/-- The fees that a window charges for one share of each leg are less than what the asks leave
below one dollar. -/
def FeesCovered (config : Config) (window : MarketWindow) (upAsk downAsk : ℚ) : Prop :=
  let feeParams := resolveFeeParams config (some window) window.endTime
  computeTakerFee upAsk 1 feeParams.feeRate feeParams.exponent +
    computeTakerFee downAsk 1 feeParams.feeRate feeParams.exponent < 1 - upAsk - downAsk

/-- Fees are proportional to the number of shares. -/
theorem computeTakerFee_eq_mul {shares : ℚ} (hshares : 0 < shares) (price feeRate : ℚ)
    (exponent : ℕ) :
    computeTakerFee price shares feeRate exponent =
      shares * computeTakerFee price 1 feeRate exponent := by
  unfold computeTakerFee
  by_cases hfree : price ≤ 0 ∨ price ≥ 1 ∨ feeRate ≤ 0
  · rw [if_pos (by tauto), if_pos (by tauto), mul_zero]
  · push Not at hfree
    rw [if_neg (by push Not; exact ⟨hfree.1, hfree.2.1, hshares, hfree.2.2⟩),
      if_neg (by push Not; exact ⟨hfree.1, hfree.2.1, one_pos, hfree.2.2⟩)]
    ring

variable {state : PaperState} {window : MarketWindow} {config : Config} {nowMs : ℕ}
  {up down : SimulatedTrade} {upAsk downAsk : ℚ}

/-- A hedged pair earns its size times what the asks and the fees leave of one dollar. -/
theorem pnlNet_pair (hpair : HedgedPair up down upAsk downAsk) (outcome : SignalDirection)
    {upResult downResult : TradeResult}
    (hup : settledResult window outcome config up = some (up, upResult))
    (hdown : settledResult window outcome config down = some (down, downResult)) :
    upResult.pnlNet + downResult.pnlNet = up.size *
      (1 - upAsk - downAsk -
        (computeTakerFee upAsk 1 (resolveFeeParams config (some window) window.endTime).feeRate
            (resolveFeeParams config (some window) window.endTime).exponent +
          computeTakerFee downAsk 1 (resolveFeeParams config (some window) window.endTime).feeRate
            (resolveFeeParams config (some window) window.endTime).exponent)) := by
  obtain ⟨upId, hupId⟩ := Option.isSome_iff_exists.mp hpair.stored.1
  obtain ⟨downId, hdownId⟩ := Option.isSome_iff_exists.mp hpair.stored.2
  simp only [settledResult, hupId, hdownId, Option.map_some, Option.some.injEq, Prod.mk.injEq,
    true_and] at hup hdown
  have hdownSize : 0 < down.size := hpair.sizes ▸ hpair.positive
  rw [← hup, ← hdown]
  simp only [PaperState.confirmedResult, hpair.entries.1, hpair.entries.2, hpair.sides.1,
    hpair.sides.2, computeTakerFee_eq_mul hpair.positive, computeTakerFee_eq_mul hdownSize]
  rw [← hpair.sizes]
  cases outcome <;> simp <;> ring

/-- A hedged pair earns if and only if the fees of its window are covered. -/
theorem pairProfits_iff (hpair : HedgedPair up down upAsk downAsk)
    (hup : up ∈ state.db.getOpenTradesForMarket window.marketId)
    (hdown : down ∈ state.db.getOpenTradesForMarket window.marketId) :
    PairProfits state window config nowMs up down ↔ FeesCovered config window upAsk downAsk := by
  have hsettled (outcome : SignalDirection) {trade : SimulatedTrade} {result : TradeResult}
      (hmem : (trade, result) ∈
        (state.resolveWindowWithOutcome window outcome config nowMs).1) :
      settledResult window outcome config trade = some (trade, result) := by
    rw [PaperState.resolveWindowWithOutcome_results] at hmem
    obtain ⟨other, -, hother⟩ := List.mem_filterMap.mp hmem
    obtain ⟨tradeId, htradeId, hentry⟩ := Option.map_eq_some_iff.mp hother
    cases hentry
    exact hother
  have hearns (outcome : SignalDirection) {upResult downResult : TradeResult}
      (hupResult : settledResult window outcome config up = some (up, upResult))
      (hdownResult : settledResult window outcome config down = some (down, downResult)) :
      0 < upResult.pnlNet + downResult.pnlNet ↔ FeesCovered config window upAsk downAsk := by
    rw [pnlNet_pair hpair outcome hupResult hdownResult, mul_pos_iff_of_pos_left hpair.positive,
      sub_pos]
    rfl
  constructor
  · intro hprofits
    obtain ⟨upResult, downResult, hupMem, hdownMem, hpositive⟩ := hprofits .up
    exact (hearns .up (hsettled .up hupMem) (hsettled .up hdownMem)).mp hpositive
  · intro hcovered outcome
    have hexists {trade : SimulatedTrade} (hid : trade.id.isSome)
        (hopen : trade ∈ state.db.getOpenTradesForMarket window.marketId) :
        ∃ result, settledResult window outcome config trade = some (trade, result) ∧
          (trade, result) ∈ (state.resolveWindowWithOutcome window outcome config nowMs).1 := by
      obtain ⟨tradeId, htradeId⟩ := Option.isSome_iff_exists.mp hid
      refine ⟨_, by rw [settledResult, htradeId]; rfl, ?_⟩
      rw [PaperState.resolveWindowWithOutcome_results]
      exact List.mem_filterMap.mpr ⟨trade, hopen, by rw [settledResult, htradeId]; rfl⟩
    obtain ⟨upResult, hupResult, hupMem⟩ := hexists hpair.stored.1 hup
    obtain ⟨downResult, hdownResult, hdownMem⟩ := hexists hpair.stored.2 hdown
    exact ⟨upResult, downResult, hupMem, hdownMem,
      (hearns outcome hupResult hdownResult).mpr hcovered⟩

/-- Costs that are estimated are not negative. -/
theorem estimateSlippage_nonneg (book : TopOfBook) (simOrderLatencyMs : ℕ)
    (quoteAge : Option ℕ) : 0 ≤ estimateSlippage book simOrderLatencyMs quoteAge := by
  unfold estimateSlippage
  have hspread : 0 ≤ max ((book.bestAsk - book.bestBid) / 2) 0 := le_max_right _ _
  positivity

theorem getD_slippage_nonneg (book : Option TopOfBook) (simOrderLatencyMs : ℕ)
    (quoteAge : Option ℕ) :
    0 ≤ (book.map fun book => estimateSlippage book simOrderLatencyMs quoteAge).getD 0 := by
  cases book with
  | none => exact le_rfl
  | some book => exact estimateSlippage_nonneg book simOrderLatencyMs quoteAge

/-- Without a market the fees are those of the configuration. -/
theorem resolveFeeParams_none (config : Config) (timestampMs : ℕ) :
    resolveFeeParams config none timestampMs = configFeeParams config := by
  unfold resolveFeeParams
  split <;> rfl

/-- A batch of the strategy leaves a profit if and only if the fees of its window are covered, and
it does if the window charges the fees of the configuration. -/
theorem hedged_batch_profits_iff (sqrt : ℚ → ℚ) (signalState : SignalState)
    (openPrice : Option ℚ) (momentum : ℚ) (now : ℕ) (timeUs : Option ℕ)
    (ctx : FullStrategyContext) (config : StrategyConfig) (window : MarketWindow)
    (strategy : SpreadCaptureStrategy) (upSignal downSignal : Signal) (state : PaperState)
    (up down : SimulatedTrade) (nowMs : ℕ)
    (hfeatures : ctx.features = (computeFeatures sqrt signalState (some window) openPrice momentum
      now timeUs config.toConfig).1)
    (hbatch : (strategy.evaluate ctx config now).1 = .batch [upSignal, downSignal])
    (hpair : HedgedPair up down upSignal.upAsk downSignal.downAsk)
    (hup : up ∈ state.db.getOpenTradesForMarket window.marketId)
    (hdown : down ∈ state.db.getOpenTradesForMarket window.marketId) :
    (PairProfits state window config.toConfig nowMs up down ↔
      FeesCovered config.toConfig window upSignal.upAsk downSignal.downAsk) ∧
    (resolveFeeParams config.toConfig (some window) window.endTime =
        configFeeParams config.toConfig →
      PairProfits state window config.toConfig nowMs up down) := by
  refine ⟨pairProfits_iff hpair hup hdown, fun hsame => (pairProfits_iff hpair hup hdown).mpr ?_⟩
  have hfound : ∀ rejection, (strategy.evaluate ctx config now).1 ≠ .rejected rejection := by
    simp [hbatch]
  obtain ⟨upBook, downBook, decision, htradeable, hdecision, hsignals⟩ :=
    SpreadCaptureStrategy.evaluate_of_ne_rejected hfound
  rw [hbatch] at hsignals
  cases hsignals
  have hedge := (SpreadCaptureStrategy.buildDecision_eq_ok hdecision).2
  have hslippage : 0 ≤ ctx.features.expectedUpSlippage.getD 0 +
      ctx.features.expectedDownSlippage.getD 0 := by
    rw [hfeatures]
    exact add_nonneg (getD_slippage_nonneg _ _ _) (getD_slippage_nonneg _ _ _)
  rw [resolveFeeParams_none] at hedge
  simp only [spreadNetEdge, if_neg (not_le.mpr (one_pos (α := ℚ))), one_mul] at hedge
  unfold FeesCovered
  rw [hsame]
  dsimp only [SpreadCaptureStrategy.legSignal]
  linarith

def sampleQuotes (quote : ℚ) : SignalState :=
  let leg (book : TopOfBook) : TopOfBook := { book with bestBid := quote, bestAsk := quote }
  { SignalState.new with
    bookState := { up := (sampleBook 1000).up.map leg, down := (sampleBook 1000).down.map leg } }

def sampleQuotesContext (quote : ℚ) (window : Option MarketWindow) (config : Config) :
    FullStrategyContext where
  binancePrice := 100
  binanceMomentum := 0
  chainlinkPrice := none
  bookState := (sampleQuotes quote).bookState
  windowOpenPrice := none
  windowTimeRemainingMs := 9000
  nowUs := none
  features := (computeFeatures id (sampleQuotes quote) window none 0 1000 none config).1

def sampleHedgeConfig : StrategyConfig :=
  { sampleBacktestOptions.config.toStrategyConfig with
    takerFeeRate := 7 / 100
    takerFeeOverrideExplicit := false }

def sampleFeeWindow (rate : ℚ) : MarketWindow :=
  { sampleWindow "market" 10000 with
    feeSchedule := some { rate := some rate, exponent := some 1 } }

def sampleLegTrade (tradeId : ℤ) (side : SignalDirection) : SimulatedTrade :=
  { sampleOpenTrade with
    id := some tradeId
    side := side
    entryPrice := 12 / 25 }

def sampleHedge : PaperState :=
  let db := (ResultsDb.new.openTrade (sampleLegTrade 1 .up)).2
  { sampleTradeState 10000 with db := (db.openTrade (sampleLegTrade 2 .down)).2 }

def sampleHedgeSignal (direction : SignalDirection) : Signal where
  timestamp := 1000
  strategy := "spread-capture"
  direction := direction
  confidence := 1
  upAsk := 12 / 25
  downAsk := 12 / 25

theorem hedgedPair_sample :
    HedgedPair (sampleLegTrade 1 .up) (sampleLegTrade 2 .down) (12 / 25) (12 / 25) where
  stored := ⟨rfl, rfl⟩
  sides := ⟨rfl, rfl⟩
  entries := ⟨rfl, rfl⟩
  sizes := rfl
  positive := by decide

def SampleBatchFound (window : MarketWindow) : Prop :=
  (({} : SpreadCaptureStrategy).evaluate
      (sampleQuotesContext (12 / 25) (some window) sampleHedgeConfig.toConfig)
      sampleHedgeConfig 1000).1 = .batch [sampleHedgeSignal .up, sampleHedgeSignal .down]

instance (window : MarketWindow) : Decidable (SampleBatchFound window) :=
  inferInstanceAs (Decidable (_ = _))

instance (config : Config) (window : MarketWindow) (upAsk downAsk : ℚ) :
    Decidable (FeesCovered config window upAsk downAsk) :=
  inferInstanceAs (Decidable (_ < _))

/-- A window that charges one percent leaves a profit. -/
theorem hedged_batch_profits_sample :
    PairProfits sampleHedge (sampleFeeWindow (1 / 100)) sampleHedgeConfig.toConfig 11000
      (sampleLegTrade 1 .up) (sampleLegTrade 2 .down) :=
  (hedged_batch_profits_iff id (sampleQuotes (12 / 25)) none 0 1000 none _ sampleHedgeConfig
    (sampleFeeWindow (1 / 100)) {} (sampleHedgeSignal .up) (sampleHedgeSignal .down) sampleHedge
    (sampleLegTrade 1 .up) (sampleLegTrade 2 .down) 11000 rfl
    (show SampleBatchFound (sampleFeeWindow (1 / 100)) by decide +kernel)
    hedgedPair_sample (by decide +kernel) (by decide +kernel)).1.mpr (by decide +kernel)

/-- The batch is found all the same in a window that charges a quarter, and loses there. -/
theorem high_fee_batch_loses :
    SampleBatchFound (sampleFeeWindow (1 / 4)) ∧
      HedgedPair (sampleLegTrade 1 .up) (sampleLegTrade 2 .down) (12 / 25) (12 / 25) ∧
      sampleHedge.db.getOpenTradesForMarket (sampleFeeWindow (1 / 4)).marketId =
        [sampleLegTrade 1 .up, sampleLegTrade 2 .down] ∧
      ¬ PairProfits sampleHedge (sampleFeeWindow (1 / 4)) sampleHedgeConfig.toConfig 11000
        (sampleLegTrade 1 .up) (sampleLegTrade 2 .down) := by
  refine ⟨by decide +kernel, hedgedPair_sample, by decide +kernel, ?_⟩
  rw [pairProfits_iff hedgedPair_sample (by decide +kernel) (by decide +kernel)]
  decide +kernel

end BubaPaint
