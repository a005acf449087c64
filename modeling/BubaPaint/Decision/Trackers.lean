import BubaPaint.Decision.Types

/-!
# Fees, regimes and trackers

The parts the decision engine consults between a strategy's answer and an order: the fee
parameters of a market, the portfolio regime, the circuit breaker, the trend filter and the
tracker of rejected evaluations. Samples of rejections are left out; only counts are kept.
-/

namespace BubaPaint

def cryptoFeeChangeoverMs : ℕ :=
  1774828800000

/-- The fee curve of one market. -/
structure FeeParams where
  feeRate : ℚ
  exponent : ℕ
  deriving DecidableEq

def cryptoFeeParams (timestampMs : ℕ) : FeeParams :=
  if timestampMs ≥ cryptoFeeChangeoverMs then { feeRate := 7 / 100, exponent := 1 }
  else { feeRate := 1 / 4, exponent := 2 }

/-- Parse live market fee metadata into normalized fee parameters. -/
def marketFeeScheduleParams (market : MarketWindow) : Option FeeParams := do
  let schedule ← market.feeSchedule
  let feeRate ← schedule.rate
  return { feeRate := feeRate, exponent := schedule.exponent.getD 1 }

def configFeeParams (config : Config) : FeeParams where
  feeRate := config.takerFeeRate
  exponent := config.takerFeeExponent

/-- Whether a fee profile is the crypto one, in any letter case. -/
def isCryptoProfile (profile : Option String) : Bool :=
  profile.any fun profile => profile.toLower == "crypto"

def resolveFeeParams (config : Config) (market : Option MarketWindow) (timestampMs : ℕ) :
    FeeParams :=
  if config.takerFeeOverrideExplicit then configFeeParams config
  else if market.any fun market => market.feesEnabled == some false then
    { feeRate := 0, exponent := 1 }
  else
    match market.bind marketFeeScheduleParams with
    | some params => params
    | none =>
      if isCryptoProfile (market.bind fun market => market.feeProfile) then
        cryptoFeeParams timestampMs
      else
        configFeeParams config

/-- The power a fee variance is raised to: exponents beyond a signed 32-bit integer become two. -/
def feeExponent (exponent : ℕ) : ℕ :=
  if exponent < 2 ^ 31 then exponent else 2

def computeTakerFee (price shares feeRate : ℚ) (exponent : ℕ) : ℚ :=
  if price ≤ 0 ∨ price ≥ 1 ∨ shares ≤ 0 ∨ feeRate ≤ 0 then 0
  else
    let variance := price * (1 - price)
    shares * price * feeRate * variance ^ feeExponent exponent

def spreadNetEdge (upPrice downPrice shares feeRate : ℚ) (exponent : ℕ) : ℚ :=
  if shares ≤ 0 then 0
  else
    let gross := shares * (1 - upPrice - downPrice)
    let fees := computeTakerFee upPrice shares feeRate exponent +
      computeTakerFee downPrice shares feeRate exponent
    gross - fees

/-- Coarse market regimes used to decide which strategy family is eligible. -/
inductive PortfolioRegime where
  | dislocation
  | structuralPair
  | calm
  deriving DecidableEq

/-- Return whether the current snapshot looks like a structural pair opportunity. -/
def looksLikeStructuralPair (ctx : StrategyContext) (config : Config) : Bool :=
  match ctx.features.totalAsk, ctx.features.upAsk, ctx.features.downAsk with
  | some totalAsk, some upAsk, some downAsk =>
    let skewOk := ctx.features.interLegSkewMs.all fun skew =>
      decide (skew ≤ config.spreadCaptureMaxLegSkewMs)
    let churnOk := ctx.features.polymarketQuoteChurnPerS.all fun churn =>
      decide (churn ≤ config.spreadCaptureMaxQuoteChurnPerS)
    decide (upAsk ≥ config.spreadCaptureMinAsk) && decide (downAsk ≥ config.spreadCaptureMinAsk) &&
      decide (totalAsk ≤ config.spreadCaptureThreshold) && skewOk && churnOk
  | _, _, _ => false

/-- Return whether the current snapshot looks like a calm-market opportunity. -/
def looksLikeCalmRegime (ctx : StrategyContext) (config : Config) : Bool :=
  if ctx.windowTimeRemainingMs < config.calmPersistenceMinWindowTimeMs ∨
      ctx.windowTimeRemainingMs > config.calmPersistenceMaxWindowTimeMs then
    false
  else
    let volOk := ctx.features.realizedVol15sBps.any fun vol =>
      decide (vol ≤ config.calmPersistenceMaxRealizedVol15sBps)
    let crossesOk := ctx.features.openCrosses30s.any fun crosses =>
      decide (crosses ≤ config.calmPersistenceMaxOpenCrosses30s)
    let churnOk := ctx.features.polymarketQuoteChurnPerS.all fun churn =>
      decide (churn ≤ config.calmPersistenceMaxQuoteChurnPerS)
    volOk && crossesOk && churnOk

/-- Detect the portfolio regime implied by the current feature snapshot. -/
def detectRegime (ctx : StrategyContext) (config : Config) : PortfolioRegime :=
  if looksLikeStructuralPair ctx config then .structuralPair
  else if looksLikeCalmRegime ctx config then .calm
  else .dislocation

/-- Return whether one strategy family is eligible inside the provided regime. -/
def familyMatchesRegime : StrategyFamily → PortfolioRegime → Bool
  | .latencyArb, .dislocation => true
  | .spreadCapture, .structuralPair => true
  | .calmPersistence, .calm => true
  | _, _ => false

/-- Select the single eligible family from the current candidate set. -/
def selectFamilyForCandidates (ctx : StrategyContext) (config : Config)
    (candidates : List StrategyFamily) : Option StrategyFamily :=
  candidates.find? fun family => familyMatchesRegime family (detectRegime ctx config)

/-- Pauses trading for a configurable duration after a streak of consecutive losses. -/
structure CircuitBreaker where
  consecutiveLosses : ℕ
  pauseUntil : ℕ
  maxLosses : ℕ
  pauseMs : ℕ

namespace CircuitBreaker

def new (maxLosses pauseMs : ℕ) : CircuitBreaker where
  consecutiveLosses := 0
  pauseUntil := 0
  maxLosses := maxLosses
  pauseMs := pauseMs

/-- Record a trade result. The end of a pause is a `u64` sum, which wraps. -/
def recordResult (breaker : CircuitBreaker) (won : Bool) (now : ℕ) : CircuitBreaker :=
  if won then { breaker with consecutiveLosses := 0 }
  else if breaker.consecutiveLosses + 1 ≥ breaker.maxLosses then
    { breaker with pauseUntil := (now + breaker.pauseMs) % 2 ^ 64, consecutiveLosses := 0 }
  else
    { breaker with consecutiveLosses := breaker.consecutiveLosses + 1 }

/-- Returns `true` when the breaker is **not** paused (trading is allowed). -/
def canTrade (breaker : CircuitBreaker) (now : ℕ) : Bool :=
  decide (now ≥ breaker.pauseUntil)

end CircuitBreaker

/-- A single recorded trade outcome. -/
structure TrendOutcome where
  direction : SignalDirection
  won : Bool
  deriving DecidableEq

/-- Tracks recent trade outcomes per direction and computes a trend bias. -/
structure TrendTracker where
  recentOutcomes : List TrendOutcome
  windowSize : ℕ
  filterEnabled : Bool
  filterThreshold : ℚ

namespace TrendTracker

def new (windowSize : ℕ) (filterEnabled : Bool) (filterThreshold : ℚ) : TrendTracker where
  recentOutcomes := []
  windowSize := windowSize
  filterEnabled := filterEnabled
  filterThreshold := filterThreshold

/-- Record a trade outcome. Older outcomes beyond the window are dropped from the front. -/
def recordOutcome (tracker : TrendTracker) (direction : SignalDirection) (won : Bool) :
    TrendTracker :=
  let recentOutcomes := tracker.recentOutcomes ++ [{ direction := direction, won := won }]
  { tracker with
    recentOutcomes :=
      if recentOutcomes.length > tracker.windowSize then recentOutcomes.tail
      else recentOutcomes }

/-- The share of one direction's outcomes that were won, one half if it has none. -/
def winRate (tracker : TrendTracker) (direction : SignalDirection) : ℚ :=
  let outcomes := tracker.recentOutcomes.filter fun outcome => outcome.direction == direction
  if 0 < outcomes.length then (outcomes.countP fun outcome => outcome.won) / outcomes.length
  else 1 / 2

def getTrendBias (tracker : TrendTracker) : ℚ :=
  if tracker.recentOutcomes.length < 3 then 0
  else tracker.winRate .up - tracker.winRate .down

/-- Returns `true` if the given direction should be suppressed based on the current trend bias. -/
def shouldSuppress (tracker : TrendTracker) (direction : SignalDirection) : Bool :=
  if !tracker.filterEnabled then false
  else
    match direction with
    | .up => decide (tracker.getTrendBias < -tracker.filterThreshold)
    | .down => decide (tracker.getTrendBias > tracker.filterThreshold)

end TrendTracker

/-- A trend tracker that runs globally or for each family. A family without an entry has a new
tracker. -/
structure ScopedTrendTracker where
  global : TrendTracker
  perStrategy : StrategyFamily → TrendTracker
  isScoped : Bool

namespace ScopedTrendTracker

/-- Create one trend-tracker wrapper that can run either globally or per strategy. -/
def new (windowSize : ℕ) (filterEnabled : Bool) (filterThreshold : ℚ) (isScoped : Bool) :
    ScopedTrendTracker where
  global := .new windowSize filterEnabled filterThreshold
  perStrategy := fun _ => .new windowSize filterEnabled filterThreshold
  isScoped := isScoped

/-- Record one trade outcome either globally or for the provided family sleeve. -/
def recordOutcome (tracker : ScopedTrendTracker) (family : StrategyFamily)
    (direction : SignalDirection) (won : Bool) : ScopedTrendTracker :=
  if tracker.isScoped then
    { tracker with
      perStrategy := Function.update tracker.perStrategy family
        ((tracker.perStrategy family).recordOutcome direction won) }
  else
    { tracker with global := tracker.global.recordOutcome direction won }

/-- Return whether a signal should be suppressed under the active scope mode. -/
def shouldSuppress (tracker : ScopedTrendTracker) (family : StrategyFamily)
    (direction : SignalDirection) : Bool :=
  if tracker.isScoped then (tracker.perStrategy family).shouldSuppress direction
  else tracker.global.shouldSuppress direction

end ScopedTrendTracker

/-- What rejections are counted by. -/
structure StrategyRejectionKey where
  marketId : String
  strategy : String
  reason : StrategyRejectionReason
  deriving DecidableEq

/-- How often each rejection was seen, in the order of first sight. -/
structure StrategyRejectionTracker where
  aggregates : List (StrategyRejectionKey × ℕ)

namespace StrategyRejectionTracker

def new : StrategyRejectionTracker where
  aggregates := []

def bump (key : StrategyRejectionKey) :
    List (StrategyRejectionKey × ℕ) → List (StrategyRejectionKey × ℕ)
  | [] => [(key, 1)]
  | (other, count) :: rest =>
    if other = key then (other, count + 1) :: rest else (other, count) :: bump key rest

/-- Records one rejected strategy evaluation for the active market. -/
def record (tracker : StrategyRejectionTracker) (marketId : String)
    (rejection : StrategyRejection) : StrategyRejectionTracker where
  aggregates := bump
    { marketId := marketId, strategy := rejection.strategy, reason := rejection.reason }
    tracker.aggregates

/-- Converts one in-memory aggregate into the persisted summary row. -/
def buildSummaryRecord (timestampMs : ℕ) (aggregate : StrategyRejectionKey × ℕ) :
    StrategyRejectionSummaryRecord where
  timestampMs := timestampMs
  marketId := aggregate.1.marketId
  strategy := aggregate.1.strategy
  reason := aggregate.1.reason
  count := aggregate.2

/-- Drains all accumulated rejection summaries into persisted records. -/
def drainAll (tracker : StrategyRejectionTracker) (timestampMs : ℕ) :
    List StrategyRejectionSummaryRecord × StrategyRejectionTracker :=
  (tracker.aggregates.map (buildSummaryRecord timestampMs), new)

/-- Drains one market's accumulated rejection summaries into persisted records. -/
def drainMarket (tracker : StrategyRejectionTracker) (marketId : String) (timestampMs : ℕ) :
    List StrategyRejectionSummaryRecord × StrategyRejectionTracker :=
  let (drained, kept) := tracker.aggregates.partition fun aggregate =>
    aggregate.1.marketId == marketId
  (drained.map (buildSummaryRecord timestampMs), { aggregates := kept })

end StrategyRejectionTracker

end BubaPaint
