import BubaPaint.Strategies.Context

/-!
# The latency arbitrage

A strategy that bets on Binance moves the odds have not followed yet. Its threshold adapts to the
momentum seen lately. The samples of its rejections and the evidence of its signals are left out.
-/

namespace BubaPaint

def momentumBufferSize : ℕ := 1800

/-- The state of the latency arbitrage. -/
structure LatencyArbStrategy where
  lastSignalTime : ℕ
  momentumBuffer : List ℚ
  momentumTimestamps : List ℕ
  adaptiveThreshold : ℚ
  adaptiveWindowMs : ℕ
  lastThresholdCalc : ℕ

/-- Hold the current best asks of both market sides. -/
structure PriceLevels where
  upAsk : ℚ
  downAsk : ℚ

/-- Hold the selected side with the confidence of its signal. -/
structure LatencyArbDecision where
  direction : SignalDirection
  confidence : ℚ

def clampBetween (low high value : ℚ) : ℚ :=
  if value < low then low else if high < value then high else value

namespace LatencyArbStrategy

def new (initialThreshold : ℚ) : LatencyArbStrategy where
  lastSignalTime := 0
  momentumBuffer := []
  momentumTimestamps := []
  adaptiveThreshold := initialThreshold
  adaptiveWindowMs := 1800000
  lastThresholdCalc := 0

/-- Builds one explicit rejected result for live diagnostics. -/
def reject (reason : StrategyRejectionReason) : StrategyResult :=
  .rejected { strategy := "latency-arb", reason }

def recordMomentumSample (strategy : LatencyArbStrategy) (momentum : ℚ) (now : ℕ) :
    LatencyArbStrategy :=
  let buffer := strategy.momentumBuffer ++ [|momentum|]
  let timestamps := strategy.momentumTimestamps ++ [now]
  if buffer.length > momentumBufferSize then
    { strategy with momentumBuffer := buffer.tail, momentumTimestamps := timestamps.tail }
  else { strategy with momentumBuffer := buffer, momentumTimestamps := timestamps }

/-- Returns adaptive threshold. -/
def getAdaptiveThreshold (strategy : LatencyArbStrategy) (now : ℕ) (baseThreshold : ℚ) :
    ℚ × LatencyArbStrategy :=
  if now - strategy.lastThresholdCalc < 10000 then (strategy.adaptiveThreshold, strategy)
  else
    let missing := strategy.momentumBuffer.length - strategy.momentumTimestamps.length
    let timestamps := strategy.momentumTimestamps ++ List.replicate missing now
    let first := (timestamps.findIdx? fun ts => now - ts ≤ strategy.adaptiveWindowMs).getD
      strategy.momentumBuffer.length
    let window := strategy.momentumBuffer.drop first
    let threshold :=
      if window.length < 60 then baseThreshold
      else max baseThreshold ((window.insertionSort (· ≤ ·)).getD (window.length * 85 / 100) 0)
    (threshold,
      { strategy with
        lastThresholdCalc := now
        momentumTimestamps := timestamps
        adaptiveThreshold := threshold })

/-- Return whether the current feature snapshot is fresh enough to trade. -/
def featuresAreFresh (ctx : FullStrategyContext) (config : StrategyConfig) : Bool :=
  ctx.features.binanceAgeMs.all (· ≤ config.maxSignalFeedAgeMs) &&
    ctx.features.bookStalenessMs.all (· ≤ config.maxBookStalenessMs) &&
    ctx.features.quoteAgeMs.all (· ≤ config.maxQuoteAgeMs)

/-- Estimate the external directional bias from the open drift and short returns. -/
def externalBiasScore (ctx : FullStrategyContext) (threshold : ℚ) : ℚ :=
  let shortReturn := (ctx.features.return250ms.or
    (ctx.features.return500ms.or ctx.features.return1000ms)).getD ctx.binanceMomentum
  let openDrift := ctx.features.distanceFromOpenBps.getD 0 / 10000
  let basisAdjustment := -ctx.features.chainlinkBasisBps.getD 0 / 10000
  let normalizedThreshold := max threshold (1 / 10 ^ 6)
  ctx.binanceMomentum / normalizedThreshold * (45 / 100) +
    shortReturn / normalizedThreshold * (35 / 100) +
    openDrift / normalizedThreshold * (15 / 100) +
    basisAdjustment / normalizedThreshold * (5 / 100)

/-- Estimate the directional stale-price edge against the current market odds. -/
def stalePriceEdge (ctx : FullStrategyContext) (direction : SignalDirection) (threshold : ℚ) :
    Option ℚ := do
  let openPrice ← ctx.windowOpenPrice
  let drift := (ctx.binancePrice - openPrice) / max openPrice 1
  let directionalBias := clampBetween (-1 / 4) (1 / 4) (drift / max threshold (1 / 10 ^ 6))
  let up ← ctx.bookState.up
  let down ← ctx.bookState.down
  match direction with
  | .up => some (1 / 2 + directionalBias - up.bestAsk)
  | .down => some (1 / 2 - directionalBias - down.bestAsk)

/-- Pick the direction that clears the current ask and stale-price gates. -/
def selectDirection (config : StrategyConfig) (externalBias : ℚ) (priceLevels : PriceLevels)
    (upEdge downEdge : ℚ) : Option SignalDirection :=
  if externalBias > 1 ∧ priceLevels.upAsk < config.latencyArbMaxAsk ∧ 0 < upEdge then some .up
  else if externalBias < -1 ∧ priceLevels.downAsk < config.latencyArbMaxAsk ∧ 0 < downEdge then
    some .down
  else none

/-- Compute the net edge for the selected side after its expected fee and slippage. -/
def expectedEdge (ctx : FullStrategyContext) (upEdge downEdge : ℚ) : SignalDirection → ℚ
  | .up =>
    upEdge - ctx.features.expectedUpFee.getD 0 - ctx.features.expectedUpSlippage.getD 0
  | .down =>
    downEdge - ctx.features.expectedDownFee.getD 0 - ctx.features.expectedDownSlippage.getD 0

/-- Validates one evaluation and extracts the current tradable price levels. -/
def priceLevelsForEvaluation (strategy : LatencyArbStrategy) (ctx : FullStrategyContext)
    (config : StrategyConfig) (now : ℕ) : Except StrategyResult PriceLevels :=
  if ctx.windowTimeRemainingMs < config.minWindowTimeMs then .error (reject .windowTooLate)
  else
    match ctx.bookState.up, ctx.bookState.down with
    | some up, some down =>
      if !featuresAreFresh ctx config then .error (reject .featuresStale)
      else if now - strategy.lastSignalTime < config.latencyArbCooldownMs then
        .error (reject .cooldownActive)
      else if up.bestAsk ≤ 0 ∨ down.bestAsk ≤ 0 then .error (reject .nonPositiveQuotes)
      else .ok { upAsk := up.bestAsk, downAsk := down.bestAsk }
    | _, _ => .error (reject .bookUnavailable)

/-- Converts one validated quote snapshot into a signal decision. -/
def buildDecision (strategy : LatencyArbStrategy) (ctx : FullStrategyContext)
    (config : StrategyConfig) (now : ℕ) (priceLevels : PriceLevels) :
    Except StrategyResult LatencyArbDecision × LatencyArbStrategy :=
  let (threshold, strategy) :=
    strategy.getAdaptiveThreshold now config.latencyArbMomentumThreshold
  let externalBias := externalBiasScore ctx threshold
  let upEdge := (stalePriceEdge ctx .up threshold).getD 0
  let downEdge := (stalePriceEdge ctx .down threshold).getD 0
  (match selectDirection config externalBias priceLevels upEdge downEdge with
    | none => .error (reject .directionNotSelected)
    | some direction =>
      let entryAsk :=
        match direction with
        | .up => priceLevels.upAsk
        | .down => priceLevels.downAsk
      let edge := expectedEdge ctx upEdge downEdge direction
      if entryAsk < config.latencyArbMinAsk then .error (reject .entryAskBelowMin)
      else if edge ≤ 0 then .error (reject .expectedEdgeNonPositive)
      else
        let scoreStrength :=
          match direction with
          | .up => externalBias
          | .down => -externalBias
        .ok
          { direction
            confidence := clampBetween 0 1 (35 / 100 + 20 / 100 * scoreStrength + edge * 4) },
    strategy)

/-- Evaluates the current book and momentum snapshot for a latency-arb signal. -/
def evaluate (strategy : LatencyArbStrategy) (ctx : FullStrategyContext)
    (config : StrategyConfig) (now : ℕ) : StrategyResult × LatencyArbStrategy :=
  let strategy := { strategy with adaptiveWindowMs := config.latencyArbAdaptiveWindowMs }
  let strategy := strategy.recordMomentumSample ctx.binanceMomentum now
  match strategy.priceLevelsForEvaluation ctx config now with
  | .error rejection => (rejection, strategy)
  | .ok priceLevels =>
    match strategy.buildDecision ctx config now priceLevels with
    | (.error rejection, strategy) => (rejection, strategy)
    | (.ok decision, strategy) =>
      (.single
        { timestamp := now
          strategy := "latency-arb"
          direction := decision.direction
          confidence := decision.confidence
          upAsk := priceLevels.upAsk
          downAsk := priceLevels.downAsk },
        { strategy with lastSignalTime := now })

variable {strategy strategy' : LatencyArbStrategy} {ctx : FullStrategyContext}
variable {config : StrategyConfig} {now : ℕ} {levels : PriceLevels} {result : StrategyResult}

theorem eq_reject_of_priceLevelsForEvaluation
    (h : strategy.priceLevelsForEvaluation ctx config now = .error result) :
    ∃ reason, result = reject reason := by
  unfold priceLevelsForEvaluation at h
  repeat' split at h
  all_goals first | exact ⟨_, (Except.error.inj h).symm⟩ | cases h

theorem eq_reject_of_buildDecision
    (h : strategy.buildDecision ctx config now levels = (.error result, strategy')) :
    ∃ reason, result = reject reason := by
  simp only [buildDecision, Prod.mk.injEq] at h
  replace h := h.1
  repeat' split at h
  all_goals first | exact ⟨_, (Except.error.inj h).symm⟩ | cases h

end LatencyArbStrategy

instance : FullStrategy LatencyArbStrategy where
  family _ := .latencyArb
  evaluate := LatencyArbStrategy.evaluate

instance : LawfulFullStrategy LatencyArbStrategy where
  labelled strategy ctx config now := by
    change (strategy.evaluate ctx config now).1.LabelledBy .latencyArb
    unfold LatencyArbStrategy.evaluate
    dsimp only
    split
    · rename_i hlevels
      obtain ⟨reason, rfl⟩ := LatencyArbStrategy.eq_reject_of_priceLevelsForEvaluation hlevels
      exact labelledBy_rejected _ _
    split
    · rename_i hdecision
      obtain ⟨reason, rfl⟩ := LatencyArbStrategy.eq_reject_of_buildDecision hdecision
      exact labelledBy_rejected _ _
    · exact labelledBy_single rfl

end BubaPaint
