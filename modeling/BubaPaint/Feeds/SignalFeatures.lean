import BubaPaint.Feeds.SignalState

/-!
# Signal features

The features a strategy reads are computed from the signal state at one moment: returns, volatility
and crossings of the window's open over the recent Binance trades, the quotes of both books with
their ages, and the costs to expect of a trade. The square root of a double is a parameter.
-/

namespace BubaPaint

def returnHorizonsMs : ℕ × ℕ × ℕ := (250, 500, 1000)

def volHorizonsMs : ℕ × ℕ × ℕ := (5000, 15000, 30000)

def crossHorizonsMs : ℕ × ℕ := (10000, 30000)

/-- How complete a feature snapshot is. -/
inductive FeatureMode where
  | legacyCore
  | rawEventFull
  deriving DecidableEq

/-- All features. -/
structure FullFeatureSnapshot extends SignalFeatureSnapshot where
  featureMode : FeatureMode
  momentum30s : ℚ
  distanceFromOpenBps : Option ℚ
  return250ms : Option ℚ
  return500ms : Option ℚ
  return1000ms : Option ℚ
  chainlinkBasisBps : Option ℚ
  realizedVol5sBps : Option ℚ
  realizedVol30sBps : Option ℚ
  openCrosses10s : Option ℕ
  minSignedDistance10sBps : Option ℚ
  maxSignedDistance10sBps : Option ℚ
  minSignedDistance30sBps : Option ℚ
  maxSignedDistance30sBps : Option ℚ
  summedAskEdge : Option ℚ
  summedMidEdge : Option ℚ
  binanceAgeMs : Option ℕ
  chainlinkAgeMs : Option ℕ
  clobAgeMs : Option ℕ
  quoteAgeMs : Option ℕ
  bookStalenessMs : Option ℕ
  upEffectiveBookTsMs : Option ℕ
  downEffectiveBookTsMs : Option ℕ
  binanceSignedTradeImbalance : Option ℚ
  binanceBookImbalance : Option ℚ
  binanceDepthSweepCost : Option ℚ
  polymarketMicropriceSkew : Option ℚ
  eventToDecisionLagUs : Option ℕ
  expectedUpFee : Option ℚ
  expectedDownFee : Option ℚ
  expectedUpSlippage : Option ℚ
  expectedDownSlippage : Option ℚ

/-- Compute the weighted-average execution price for a set of depth levels. -/
def weightedAverage (levels : List (OrderLevel ℚ)) : Option ℚ :=
  let kept := levels.filter fun level => 0 < level.size
  let totalQty := (kept.map fun level => level.size).sum
  if totalQty ≤ 0 then none
  else some ((kept.map fun level => level.price * level.size).sum / totalQty)

/-- Compute a microprice from a single top-of-book snapshot. -/
def bookMicroprice (book : TopOfBook) : Option ℚ :=
  let totalSize := book.bidSize + book.askSize
  if totalSize ≤ 0 then none
  else some ((book.bestAsk * book.bidSize + book.bestBid * book.askSize) / totalSize)

/-- Return the current summed ask edge from the binary-market books. -/
def currentSummedAskEdge (bookState : BookState) : Option ℚ := do
  let up ← bookState.up
  let down ← bookState.down
  return 1 - up.bestAsk - down.bestAsk

/-- Return the current summed midpoint edge from the binary-market books. -/
def currentSummedMidEdge (bookState : BookState) : Option ℚ :=
  (currentSummedMidpoint bookState).map fun midpoint => 1 - midpoint

/-- Return the age of the stalest side in the current complete binary quote snapshot. -/
def quoteAgeMs (bookState : BookState) (nowMs : ℕ) : Option ℕ := do
  let up ← bookState.up
  let down ← bookState.down
  return nowMs - min (effectiveBookTimestamp up) (effectiveBookTimestamp down)

/-- Convert one price into a sign relative to the captured window open. -/
def signedPriceSide (price openPrice : ℚ) : Option ℤ :=
  if price ≤ 0 ∨ openPrice ≤ 0 then none
  else if 0 < price - openPrice then some 1
  else if price - openPrice < 0 then some (-1)
  else none

/-- Estimate one-leg slippage from spread, quote age and configured latency. -/
def estimateSlippage (book : TopOfBook) (simOrderLatencyMs : ℕ) (quoteAge : Option ℕ) : ℚ :=
  let halfSpread := max ((book.bestAsk - book.bestBid) / 2) 0
  let latencyPenalty := (simOrderLatencyMs : ℚ) / 200000
  let agePenalty := (quoteAge.getD 0 : ℚ) / 400000
  halfSpread + latencyPenalty + agePenalty

/-- The relative changes between neighbouring prices, where both are positive. -/
def priceReturns : List ℚ → List ℚ
  | prev :: next :: rest =>
    if prev ≤ 0 ∨ next ≤ 0 then priceReturns (next :: rest)
    else (next - prev) / prev :: priceReturns (next :: rest)
  | _ => []

/-- Count how often the sign changes along a list of prices. -/
def countCrosses (openPrice : ℚ) : Option ℤ → List ℚ → Option ℕ
  | _, [] => some 0
  | lastSign, price :: rest => do
      let sign ← signedPriceSide price openPrice
      let crosses ← countCrosses openPrice (some sign) rest
      return if lastSign.any fun prevSign => sign != prevSign then crosses + 1 else crosses

namespace SignalState

variable (state : SignalState) (nowMs horizonMs : ℕ)

def tradesSince : List TradeObservation :=
  state.binanceTrades.filter fun trade => nowMs - horizonMs ≤ trade.eventMs

/-- Return the relative Binance move for the requested horizon. -/
def returnOverMs : Option ℚ := do
  let latest ← state.binancePrice
  let base ← (state.binanceTrades.find? fun trade => nowMs - horizonMs ≤ trade.eventMs).or
    state.binanceTrades.head?
  if base.price ≤ 0 then none else some ((latest - base.price) / base.price)

/-- Return the signed-trade imbalance over the requested horizon. -/
def tradeImbalanceOverMs : Option ℚ := do
  let signed ← (state.tradesSince nowMs horizonMs).mapM fun trade => trade.signedQuantity
  let totalAbs := (signed.map fun quantity => |quantity|).sum
  if totalAbs ≤ 0 then none else some (signed.sum / totalAbs)

/-- Return the current Binance book imbalance from the latest top-of-book. -/
def bookImbalance : Option ℚ := do
  let book ← state.binanceBook
  let total := book.bidSize + book.askSize
  if total ≤ 0 then none else some ((book.bidSize - book.askSize) / total)

/-- Return an estimated sweep cost from the current shallow depth snapshot. -/
def depthSweepCost : Option ℚ := do
  let depth ← state.binanceDepth
  let book ← state.binanceBook
  let askCost ← weightedAverage depth.askLevels
  let bidCost ← weightedAverage depth.bidLevels
  let mid := (book.bestBid + book.bestAsk) / 2
  if mid ≤ 0 then none else some (|askCost - bidCost| / 2 / mid)

/-- Return the current quote-churn rate over the requested window. -/
def clobQuoteChurnPerS : Option ℚ :=
  let count := state.clobMidpoints.countP fun observation => nowMs - horizonMs ≤ observation.eventMs
  if count = 0 ∨ horizonMs = 0 then none else some (count / ((horizonMs : ℚ) / 1000))

def clobMicropriceSkew : Option ℚ := do
  let up ← state.bookState.up
  let down ← state.bookState.down
  let upPrice ← bookMicroprice up
  let downPrice ← bookMicroprice down
  return upPrice + downPrice - 1

/-- Return realized volatility in basis points over the requested horizon. -/
def realizedVolatilityBpsOverMs (sqrt : ℚ → ℚ) : Option ℚ :=
  let returns := priceReturns ((state.tradesSince nowMs horizonMs).map fun trade => trade.price)
  if returns.length = 0 then none
  else some (sqrt ((returns.map fun change => change * change).sum / returns.length) * 10000)

/-- Count sign changes versus the captured window open over the requested horizon. -/
def openCrossCountOverMs (windowOpenPrice : ℚ) : Option ℕ :=
  if windowOpenPrice ≤ 0 then none
  else countCrosses windowOpenPrice none
    ((state.tradesSince nowMs horizonMs).map fun trade => trade.price)

/-- Return the minimum and maximum signed distance from the window open over one horizon. -/
def signedDistanceRangeBpsOverMs (windowOpenPrice : ℚ) : Option (ℚ × ℚ) :=
  if windowOpenPrice ≤ 0 then none
  else
    match (state.tradesSince nowMs horizonMs).map fun trade =>
        (trade.price - windowOpenPrice) / windowOpenPrice * 10000 with
    | [] => none
    | distance :: rest => some (rest.foldl min distance, rest.foldl max distance)

end SignalState

/-- Compute the current basis-points distance from the captured window open. -/
def computeDistanceFromOpenBps (windowOpenPrice latestPrice : Option ℚ) : Option ℚ := do
  let openPrice ← windowOpenPrice
  let latest ← latestPrice
  if 0 < openPrice then some ((latest - openPrice) / openPrice * 10000) else none

/-- Compute the current Chainlink-versus-Binance basis in basis points. -/
def computeChainlinkBasisBps (binancePrice chainlinkPrice : Option ℚ) : Option ℚ := do
  let binance ← binancePrice
  let chainlink ← chainlinkPrice
  if 0 < chainlink then some ((binance - chainlink) / chainlink * 10000) else none

/-- Convert an optional event timestamp into current age in milliseconds. -/
def eventAgeMs (lastEventMs : Option ℕ) (nowMs : ℕ) : Option ℕ :=
  lastEventMs.map fun timestamp => nowMs - timestamp

/-- Compute the latest event-to-decision lag when microsecond timestamps exist. -/
def computeEventToDecisionLagUs (state : SignalState) (decisionTimeUs : Option ℕ) : Option ℕ := do
  let decisionUs ← decisionTimeUs
  let eventUs ← [state.binanceLastEventUs, state.chainlinkLastEventUs,
    state.clobLastEventUs].reduceOption.max?
  if eventUs ≤ decisionUs then some (decisionUs - eventUs) else none

def timestampDistance (first second : ℕ) : ℕ :=
  max first second - min first second

/-- Build a feature snapshot from the current shared market state, which drops what has grown
old. -/
def computeFeatures (sqrt : ℚ → ℚ) (state : SignalState) (window : Option MarketWindow)
    (windowOpenPrice : Option ℚ) (binanceMomentum : ℚ) (nowMs : ℕ) (decisionTimeUs : Option ℕ)
    (config : Config) : FullFeatureSnapshot × SignalState :=
  let state := state.prune nowMs
  let books := state.bookState
  let upAsk := books.up.map fun book => book.bestAsk
  let downAsk := books.down.map fun book => book.bestAsk
  let quoteAge := quoteAgeMs books nowMs
  let upTs := books.up.map effectiveBookTimestamp
  let downTs := books.down.map effectiveBookTimestamp
  let crosses (horizonMs : ℕ) := windowOpenPrice.bind (state.openCrossCountOverMs nowMs horizonMs)
  let range (horizonMs : ℕ) :=
    windowOpenPrice.bind (state.signedDistanceRangeBpsOverMs nowMs horizonMs)
  let volatility (horizonMs : ℕ) := state.realizedVolatilityBpsOverMs nowMs horizonMs sqrt
  let tradeImbalance := state.tradeImbalanceOverMs nowMs 1000
  let quoteChurn := state.clobQuoteChurnPerS nowMs 1000
  let lagUs := computeEventToDecisionLagUs state decisionTimeUs
  let feeParams := resolveFeeParams config window nowMs
  let fee (ask : Option ℚ) :=
    if books.up.isSome && books.down.isSome then
      ask.map fun price => computeTakerFee price 1 feeParams.feeRate feeParams.exponent
    else none
  let slippage (book : Option TopOfBook) :=
    book.map fun book => estimateSlippage book config.simOrderLatencyMs quoteAge
  -- the features that only captured events give
  let rawOnly := [tradeImbalance.isSome, state.bookImbalance.isSome, state.depthSweepCost.isSome,
    quoteChurn.isSome, state.clobMicropriceSkew.isSome, lagUs.isSome]
  ({ upAsk
     downAsk
     totalAsk := upAsk.bind fun up => downAsk.map fun down => up + down
     interLegSkewMs := upTs.bind fun up => downTs.map fun down => timestampDistance up down
     polymarketQuoteChurnPerS := quoteChurn
     realizedVol15sBps := volatility volHorizonsMs.2.1
     openCrosses30s := crosses crossHorizonsMs.2
     featureMode := if rawOnly.countP id ≥ 5 then .rawEventFull else .legacyCore
     momentum30s := binanceMomentum
     distanceFromOpenBps := computeDistanceFromOpenBps windowOpenPrice state.binancePrice
     return250ms := state.returnOverMs nowMs returnHorizonsMs.1
     return500ms := state.returnOverMs nowMs returnHorizonsMs.2.1
     return1000ms := state.returnOverMs nowMs returnHorizonsMs.2.2
     chainlinkBasisBps := computeChainlinkBasisBps state.binancePrice state.chainlinkPrice
     realizedVol5sBps := volatility volHorizonsMs.1
     realizedVol30sBps := volatility volHorizonsMs.2.2
     openCrosses10s := crosses crossHorizonsMs.1
     minSignedDistance10sBps := (range crossHorizonsMs.1).map fun bounds => bounds.1
     maxSignedDistance10sBps := (range crossHorizonsMs.1).map fun bounds => bounds.2
     minSignedDistance30sBps := (range crossHorizonsMs.2).map fun bounds => bounds.1
     maxSignedDistance30sBps := (range crossHorizonsMs.2).map fun bounds => bounds.2
     summedAskEdge := currentSummedAskEdge books
     summedMidEdge := currentSummedMidEdge books
     binanceAgeMs := eventAgeMs state.binanceLastEventMs nowMs
     chainlinkAgeMs := eventAgeMs state.chainlinkLastEventMs nowMs
     clobAgeMs := eventAgeMs state.clobLastEventMs nowMs
     quoteAgeMs := quoteAge
     bookStalenessMs := quoteAge
     upEffectiveBookTsMs := upTs
     downEffectiveBookTsMs := downTs
     binanceSignedTradeImbalance := tradeImbalance
     binanceBookImbalance := state.bookImbalance
     binanceDepthSweepCost := state.depthSweepCost
     polymarketMicropriceSkew := state.clobMicropriceSkew
     eventToDecisionLagUs := lagUs
     expectedUpFee := fee upAsk
     expectedDownFee := fee downAsk
     expectedUpSlippage := slippage books.up
     expectedDownSlippage := slippage books.down }, state)

/-- The price change over a rolling window. -/
structure MomentumCalculator where
  window : List (ℚ × ℕ)
  windowMs : ℕ

namespace MomentumCalculator

def new (windowMs : ℕ) : MomentumCalculator where
  window := []
  windowMs := windowMs

/-- Record a new price observation and prune stale entries that fall outside the rolling
window. -/
def push (momentum : MomentumCalculator) (price : ℚ) (timestamp : ℕ) : MomentumCalculator :=
  { momentum with
    window := (momentum.window ++ [(price, timestamp)]).dropWhile fun point =>
      point.2 < timestamp - momentum.windowMs }

/-- Return the relative price change from the oldest to the latest observation. -/
def get (momentum : MomentumCalculator) : ℚ :=
  match momentum.window.head?, momentum.window.getLast? with
  | some oldest, some latest =>
    if momentum.window.length < 2 ∨ oldest.1 ≤ 0 then 0
    else (latest.1 - oldest.1) / oldest.1
  | _, _ => 0

end MomentumCalculator

end BubaPaint
