import BubaPaint.Decision.Bankroll
import BubaPaint.Decision.Trackers

/-!
# Orders, trades and books

What the decision engine is fed with and what it emits, the trades it holds open, and the pure
checks it makes on orders and books.
-/

namespace BubaPaint

/-! ## Data -/

/-- One order that waits for its fill. -/
structure RuntimePendingOrder where
  signalId : ℤ
  signalTimestamp : ℕ
  marketId : String
  marketEndTime : ℕ
  strategy : String
  side : SignalDirection
  tokenId : String
  arrivalTs : ℕ
  requestedPrice : ℚ
  limitPrice : ℚ
  requestedSize : ℚ
  reservedCost : ℚ
  executionGroupId : Option String
  deriving DecidableEq

/-- One trade that is not settled yet. -/
structure OpenRuntimeTrade where
  trade : SimulatedTrade
  marketEndTime : ℕ
  pendingSettlement : Bool
  deriving DecidableEq

/-- The trades that are not settled yet. -/
structure InMemoryExposureState where
  openTrades : List OpenRuntimeTrade

/-- Runtime seed values loaded before the decision worker starts. -/
structure RuntimeDecisionSeed where
  startingBalance : ℚ
  currentBalance : ℚ
  unresolvedExposures : List UnresolvedTradeExposure
  openTrades : List OpenTradeSnapshot
  nowMs : ℕ

/-- One pure strategy evaluation request. -/
structure RuntimeDecisionRequest where
  decisionSequence : ℕ
  ctx : StrategyContext
  window : MarketWindow
  bookState : BookState
  nowMs : ℕ
  nowUs : Option ℕ
  liveTradingCanSubmit : Bool

/-- Counters of one run. -/
structure ExecutionStats where
  submittedOrders : ℕ
  filledOrders : ℕ
  partialFills : ℕ
  noFills : ℕ
  spreadLeggingFailures : ℕ
  residualPositions : ℕ
  totalRequestedSize : ℚ
  totalFilledSize : ℚ
  totalSlippage : ℚ
  totalFillLatencyMs : ℕ

/-- Nothing is counted yet. -/
def ExecutionStats.empty : ExecutionStats where
  submittedOrders := 0
  filledOrders := 0
  partialFills := 0
  noFills := 0
  spreadLeggingFailures := 0
  residualPositions := 0
  totalRequestedSize := 0
  totalFilledSize := 0
  totalSlippage := 0
  totalFillLatencyMs := 0

/-- Whether a due order was filled. -/
inductive OrderOutcomeDisposition where
  | filled
  | missed
  deriving DecidableEq

/-- What became of one due order. -/
structure ProcessedOrderOutcome where
  signalId : ℤ
  marketId : String
  strategy : String
  side : SignalDirection
  disposition : OrderOutcomeDisposition
  reason : Option String
  bestAsk : Option ℚ
  askSize : Option ℚ
  freshnessMs : Option ℕ
  requestedSize : ℚ
  filledSize : ℚ
  effectiveArrivalDelayMs : ℕ
  partialFill : Bool

/-- Why an order cannot be queued. -/
inductive QueueRejectionReason where
  | maxOpenPositions
  | duplicateOpenPosition
  | duplicatePendingOrder
  deriving DecidableEq

/-- Return the stable persisted label for one queue-rejection reason. -/
def QueueRejectionReason.asStr : QueueRejectionReason → String
  | .maxOpenPositions => "max_open_positions"
  | .duplicateOpenPosition => "duplicate_open_position"
  | .duplicatePendingOrder => "duplicate_pending_order"

/-- The result of one submission. -/
inductive SubmissionOutcome where
  | queued (signalIds : List ℤ) (orders : List QueuedOrderIntent)
  | rejected (signalIds : List ℤ) (reason : String)

def SubmissionOutcome.orders : SubmissionOutcome → List QueuedOrderIntent
  | .queued _ orders => orders
  | .rejected .. => []

/-- Operator-visible strategy events emitted without persistence side effects. -/
inductive RuntimeDecisionLogEvent where
  | suppressed (strategy : String) (direction : SignalDirection) (regime : PortfolioRegime)
  | singleSubmitted (strategy : String) (direction : SignalDirection) (regime : PortfolioRegime)
      (outcome : SubmissionOutcome)
  | batchSubmitted (strategy : String) (count : ℕ) (regime : PortfolioRegime)
      (outcome : SubmissionOutcome)

/-- Output emitted by one pure decision pass. -/
structure RuntimeDecisionOutput where
  decisionSequence : ℕ
  decisionInputAtMs : ℕ
  persistenceEvents : List LivePersistenceEvent
  liveOrders : List QueuedOrderIntent
  processedOutcomes : List ProcessedOrderOutcome
  logEvents : List RuntimeDecisionLogEvent
  submissionWindow : Option MarketWindow
  nowMs : ℕ

def decisionSignalEvent (request : RuntimeDecisionRequest)
    (orderSubmittedAtMs expectedArrivalAtMs : Option ℕ) (decisionStatus : String)
    (rejectionReason : Option String) (signalId : ℤ) : LivePersistenceEvent :=
  .signal
    { signalId := signalId
      marketId := request.window.marketId
      orderSubmittedAtMs := orderSubmittedAtMs
      expectedArrivalAtMs := expectedArrivalAtMs
      decisionStatus := decisionStatus
      rejectionReason := rejectionReason }

namespace InMemoryExposureState

/-- Build exposure state from storage snapshots loaded before runtime starts. -/
def fromSnapshots (snapshots : List OpenTradeSnapshot) (nowMs : ℕ) : InMemoryExposureState where
  openTrades := snapshots.map fun snapshot =>
    { trade := snapshot.trade
      marketEndTime := snapshot.marketEndTime
      pendingSettlement := decide (snapshot.marketEndTime ≤ nowMs) }

def addOpenTrade (exposure : InMemoryExposureState) (trade : SimulatedTrade)
    (marketEndTime : ℕ) : InMemoryExposureState where
  openTrades := exposure.openTrades ++
    [{ trade := trade, marketEndTime := marketEndTime, pendingSettlement := false }]

def queueRelevantCount (exposure : InMemoryExposureState) (config : Config) (nowMs : ℕ) : ℕ :=
  if config.pendingSettlementPolicyUnchecked.countsAsOpenPosition then
    exposure.openTrades.length
  else
    exposure.openTrades.countP fun entry =>
      !entry.pendingSettlement && decide (entry.marketEndTime > nowMs)

def duplicateOpen (exposure : InMemoryExposureState) (marketId strategy : String)
    (side : SignalDirection) (isBatch : Bool) : Bool :=
  exposure.openTrades.any fun entry =>
    entry.trade.marketId == marketId && entry.trade.strategy == strategy &&
      (!isBatch || entry.trade.side == side)

/-- Mark all open trades in one market as pending settlement. -/
def markPendingForMarket (exposure : InMemoryExposureState) (marketId : String) :
    List SimulatedTrade × InMemoryExposureState :=
  ((exposure.openTrades.filter fun entry =>
      entry.trade.marketId == marketId && !entry.pendingSettlement).map (·.trade),
    { openTrades := exposure.openTrades.map fun entry =>
        if entry.trade.marketId = marketId then { entry with pendingSettlement := true }
        else entry })

def removeMarket (exposure : InMemoryExposureState) (marketId : String) :
    List SimulatedTrade × InMemoryExposureState :=
  ((exposure.openTrades.filter fun entry => entry.trade.marketId == marketId).map (·.trade),
    { openTrades := exposure.openTrades.filter fun entry => entry.trade.marketId != marketId })

end InMemoryExposureState

/-! ## Orders -/

def i64Min : ℤ :=
  -2 ^ 63

def nextNegativeId (id : ℤ) : ℤ :=
  max (id - 1) i64Min

/-- The sum of two times that saturates at the largest unsigned 64-bit integer. -/
def saturatingAdd (time delay : ℕ) : ℕ :=
  min (time + delay) u64Max

def signalEntryAsk (signal : Signal) : ℚ :=
  match signal.direction with
  | .up => signal.upAsk
  | .down => signal.downAsk

/-- Resolve the single-order limit price used by the runtime decision engine. -/
def singleOrderLimitPrice (signal : Signal) (config : Config) : ℚ :=
  match familyForStrategy signal.strategy with
  | .calmPersistence => config.calmPersistenceMaxAsk
  | .latencyArb | .spreadCapture => config.latencyArbMaxAsk

def tokenIdForSignal (signal : Signal) (window : MarketWindow) : String :=
  match signal.direction with
  | .up => window.upTokenId
  | .down => window.downTokenId

/-- Convert one runtime order into a live submission intent. -/
def queuedOrderIntent (order : RuntimePendingOrder) : QueuedOrderIntent where
  signalId := order.signalId
  signalTimestamp := order.signalTimestamp
  marketId := order.marketId
  strategy := order.strategy
  side := order.side
  tokenId := order.tokenId
  arrivalTs := order.arrivalTs
  requestedPrice := order.requestedPrice
  limitPrice := order.limitPrice
  requestedSize := order.requestedSize
  reservedCost := order.reservedCost
  executionGroupId := order.executionGroupId

def buildSpreadOrder (signal : Signal) (signalId : ℤ) (window : MarketWindow) (arrivalTs : ℕ)
    (requestedSize : ℚ) (executionGroupId : Option String) : RuntimePendingOrder where
  signalId := signalId
  signalTimestamp := signal.timestamp
  marketId := window.marketId
  marketEndTime := window.endTime
  strategy := signal.strategy
  side := signal.direction
  tokenId := tokenIdForSignal signal window
  arrivalTs := arrivalTs
  requestedPrice := signalEntryAsk signal
  limitPrice := signalEntryAsk signal
  requestedSize := requestedSize
  reservedCost := requestedSize * signalEntryAsk signal
  executionGroupId := executionGroupId

/-- Build one in-memory and persisted trade row. -/
def buildTrade (order : RuntimePendingOrder) (tradeId : ℤ) (fillPrice filledSize : ℚ)
    (nowMs : ℕ) (executionMode : String) : SimulatedTrade where
  id := some tradeId
  timestamp := nowMs
  marketId := order.marketId
  strategy := order.strategy
  side := order.side
  tokenId := order.tokenId
  entryPrice := fillPrice
  size := filledSize
  status := .open
  signalId := some order.signalId
  requestedPrice := some order.limitPrice
  requestedSize := some order.requestedSize
  filledSize := some filledSize
  avgFillPrice := some fillPrice
  fillStatus := some (if filledSize < order.requestedSize then "partial" else "filled")
  fillReason := some "book_fill"
  fillLatencyMs := some (nowMs - order.signalTimestamp)
  executionGroupId := order.executionGroupId
  executionMode := some executionMode
  orderId := some s!"paper-{order.signalId}"
  fillPrice := some fillPrice

/-- Return the up/down leg pair from one spread batch when both sides are present. -/
def spreadLegs (signals : List Signal) : Option (Signal × Signal) := do
  let upSignal ← signals.find? fun signal => signal.direction == .up
  let downSignal ← signals.find? fun signal => signal.direction == .down
  return (upSignal, downSignal)

/-- Return the spread up/down pair and corresponding signal ids. -/
def spreadSignalPair (signals : List Signal) (signalIds : List ℤ) :
    Option (Signal × Signal × ℤ × ℤ) := do
  let upIndex ← signals.findIdx? fun signal => signal.direction == .up
  let downIndex ← signals.findIdx? fun signal => signal.direction == .down
  return (← signals[upIndex]?, ← signals[downIndex]?, ← signalIds[upIndex]?,
    ← signalIds[downIndex]?)

def spreadArrivalTs (signals : List Signal) (config : Config) (nowMs : ℕ) : ℕ :=
  ((signals.map fun signal => saturatingAdd signal.timestamp config.simOrderLatencyMs).max?).getD
    (saturatingAdd nowMs config.simOrderLatencyMs)

/-- Return whether one order size is illegal before queueing. -/
def submissionSizeRejectionReason (requestedSize requestedPrice marketMinSize minBetUsd : ℚ) :
    Option String :=
  if marketMinSize > 0 ∧ requestedSize < marketMinSize then
    some "below_market_min_size_on_submit"
  else if requestedSize * requestedPrice < minBetUsd then
    some "below_min_bet_on_submit"
  else
    none

/-- Return whether one spread bundle is illegal before queueing. -/
def spreadSubmissionRejectionReason (upSize downSize upPrice downPrice marketMinSize
    minBetUsd : ℚ) : Option String :=
  submissionSizeRejectionReason upSize upPrice marketMinSize minBetUsd <|>
    submissionSizeRejectionReason downSize downPrice marketMinSize minBetUsd

/-- Map duplicate queue reasons to calm strategy diagnostics. -/
def calmDuplicateRejectionReason : QueueRejectionReason → Option StrategyRejectionReason
  | .duplicateOpenPosition => some .duplicateOpenPosition
  | .duplicatePendingOrder => some .duplicatePendingOrder
  | .maxOpenPositions => none

def submissionLabel (outcome : SubmissionOutcome) : String × SignalDirection :=
  match outcome.orders with
  | [] => ("?", .up)
  | order :: _ => (order.strategy, order.side)

def sideBook (bookState : BookState) : SignalDirection → Option TopOfBook
  | .up => bookState.up
  | .down => bookState.down

/-- Return why the current book cannot fill one taker order. -/
def bookFillRejectionReason (book : TopOfBook) (nowMs : ℕ) (limitPrice : ℚ)
    (maxStalenessMs : ℕ) : Option String :=
  if nowMs - effectiveBookTimestamp book > maxStalenessMs then some "book_stale_on_arrival"
  else if book.bestAsk ≤ 0 then some "book_unavailable_on_arrival"
  else if book.bestAsk > limitPrice then some "limit_price_not_crossed_on_arrival"
  else if book.askSize ≤ 0 then some "zero_liquidity_on_arrival"
  else none

theorem ask_of_bookFillRejectionReason_eq_none {book : TopOfBook} {nowMs maxStalenessMs : ℕ}
    {limitPrice : ℚ} (h : bookFillRejectionReason book nowMs limitPrice maxStalenessMs = none) :
    0 < book.bestAsk ∧ book.bestAsk ≤ limitPrice := by
  unfold bookFillRejectionReason at h
  split at h
  · cases h
  split at h
  · cases h
  split at h
  · cases h
  · rename_i hpositive hlimit
    exact ⟨not_le.mp hpositive, not_lt.mp hlimit⟩

/-- Return whether a computed fill violates market or min-bet limits. -/
def fillSizeRejected (filledSize fillPrice marketMinSize minBetUsd : ℚ) : Bool :=
  decide (filledSize ≤ 0) || (decide (marketMinSize > 0) && decide (filledSize < marketMinSize)) ||
    decide (filledSize * fillPrice < minBetUsd)

theorem pos_of_fillSizeRejected_eq_false {filledSize fillPrice marketMinSize minBetUsd : ℚ}
    (h : fillSizeRejected filledSize fillPrice marketMinSize minBetUsd = false) :
    0 < filledSize := by
  simp only [fillSizeRejected, Bool.or_eq_false_iff, decide_eq_false_iff_not, not_le] at h
  exact h.1.1

/-- Return whether one price is aligned to the market tick size. -/
def priceIsTickAligned (price tickSize : ℚ) : Bool :=
  if tickSize ≤ 0 then true
  else
    let units := price / tickSize
    decide (|units - round units| < 1 / 10 ^ 9)

end BubaPaint
