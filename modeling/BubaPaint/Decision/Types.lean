import BubaPaint.Decision.Reserves

/-!
# Markets, signals and persistence events

The data the decision engine reads and emits. Only the fields of a signal that an order depends on
are kept; the evidence and metadata texts are left out.
-/

namespace BubaPaint

/-- Fee metadata of one market. -/
structure PolymarketFeeSchedule where
  rate : Option ℚ
  exponent : Option ℕ
  deriving DecidableEq

/-- One market window. The fee schedule is kept decoded; one that does not parse is none. -/
structure MarketWindow where
  marketId : String
  upTokenId : String
  downTokenId : String
  startTime : ℕ
  endTime : ℕ
  slug : String
  feeProfile : Option String := none
  (orderMinSize orderPriceMinTickSize : Option ℚ := none)
  feesEnabled : Option Bool := none
  feeSchedule : Option PolymarketFeeSchedule := none
  deriving DecidableEq

/-- The best quotes of one token. -/
structure TopOfBook where
  bestBid : ℚ
  bestAsk : ℚ
  bidSize : ℚ
  askSize : ℚ
  timestamp : ℕ
  observedAtMs : ℕ
  deriving DecidableEq

/-- The books of both sides. -/
structure BookState where
  up : Option TopOfBook
  down : Option TopOfBook
  deriving DecidableEq

/-- When a book was last known to be current. -/
def effectiveBookTimestamp (book : TopOfBook) : ℕ :=
  max book.observedAtMs book.timestamp

/-- The features the regime is detected from. -/
structure SignalFeatureSnapshot where
  upAsk : Option ℚ
  downAsk : Option ℚ
  totalAsk : Option ℚ
  interLegSkewMs : Option ℕ
  polymarketQuoteChurnPerS : Option ℚ
  realizedVol15sBps : Option ℚ
  openCrosses30s : Option ℕ

/-- What a strategy is evaluated on. -/
structure StrategyContext where
  bookState : BookState
  windowTimeRemainingMs : ℕ
  features : SignalFeatureSnapshot

/-- One signal of a strategy. -/
structure Signal where
  timestamp : ℕ
  strategy : String
  direction : SignalDirection
  confidence : ℚ
  upAsk : ℚ
  downAsk : ℚ
  deriving DecidableEq

/-- Why a strategy did not act. -/
inductive StrategyRejectionReason where
  | windowTooLate
  | bookUnavailable
  | featuresStale
  | legsOutOfSync
  | spreadBudgetTooSmall
  | blockedByRouter
  | cooldownActive
  | nonPositiveQuotes
  | directionNotSelected
  | entryAskBelowMin
  | entryAskAboveMax
  | calmWindowInactive
  | distanceBelowThreshold
  | volatilityTooHigh
  | openCrossesTooHigh
  | orderflowNotAligned
  | spreadThresholdNotMet
  | leggingRiskTooHigh
  | expectedEdgeNonPositive
  | expectedEdgeBelowMin
  | duplicateOpenPosition
  | duplicatePendingOrder
  deriving DecidableEq

/-- One structured rejection observation. -/
structure StrategyRejection where
  strategy : String
  reason : StrategyRejectionReason
  deriving DecidableEq

/-- What a strategy answers. -/
inductive StrategyResult where
  | none
  | rejected (rejection : StrategyRejection)
  | single (signal : Signal)
  | batch (signals : List Signal)
  deriving DecidableEq

def StrategyResult.signals : StrategyResult → List Signal
  | .none => []
  | .rejected _ => []
  | .single signal => [signal]
  | .batch signals => signals

/-- A trading strategy with a state of its own. -/
class Strategy (σ : Type) where
  /-- Returns the stable portfolio family used by routing and sleeves. -/
  family : σ → StrategyFamily
  /-- Evaluates the current market context and returns any generated signals. -/
  evaluate : σ → StrategyContext → Config → ℕ → StrategyResult × σ

/-- The strategies label their signals with their family, and only spread capture answers with a
batch. -/
class LawfulStrategy (σ : Type) [Strategy σ] : Prop where
  named : ∀ (strategy : σ) ctx config nowMs,
    ∀ signal ∈ (Strategy.evaluate strategy ctx config nowMs).1.signals,
      signal.strategy =
        (Strategy.family (Strategy.evaluate strategy ctx config nowMs).2).asStr
  batch : ∀ (strategy : σ) ctx config nowMs signals,
    (Strategy.evaluate strategy ctx config nowMs).1 = .batch signals →
      Strategy.family (Strategy.evaluate strategy ctx config nowMs).2 = .spreadCapture

/-- One order handed to the submission worker. -/
structure QueuedOrderIntent where
  signalId : ℤ
  signalTimestamp : ℕ
  marketId : String
  strategy : String
  side : SignalDirection
  tokenId : String
  arrivalTs : ℕ
  requestedPrice : ℚ
  limitPrice : ℚ
  requestedSize : ℚ
  reservedCost : ℚ
  executionGroupId : Option String
  deriving DecidableEq

/-- Terminal venue feedback for one live order known to have filled. -/
structure LiveOrderFillFeedback where
  signalId : ℤ
  fillPrice : ℚ
  filledSize : ℚ
  deriving DecidableEq

/-- The status of a trade row. -/
inductive TradeStatus where
  | open
  | closed
  | expired
  deriving DecidableEq

/-- One row of `simulated_trades`. -/
structure SimulatedTrade where
  id : Option ℤ := none
  timestamp : ℕ
  marketId : String
  strategy : String
  side : SignalDirection
  tokenId : String
  entryPrice : ℚ
  size : ℚ
  status : TradeStatus
  signalId : Option ℤ := none
  (requestedPrice requestedSize filledSize avgFillPrice : Option ℚ := none)
  (fillStatus fillReason : Option String := none)
  fillLatencyMs : Option ℕ := none
  (executionGroupId executionMode orderId : Option String := none)
  fillPrice : Option ℚ := none
  deriving DecidableEq

/-- An open trade together with the end of its market. -/
structure OpenTradeSnapshot where
  trade : SimulatedTrade
  marketEndTime : ℕ
  deriving DecidableEq

/-- The result a trade is closed with. -/
structure TradeResult where
  tradeId : ℤ
  exitPrice : ℚ
  settlementPrice : ℚ
  pnl0pct : ℚ
  pnl1pct : ℚ
  pnl2pct : ℚ
  pnl3pct : ℚ
  feeAmount : ℚ
  pnlNet : ℚ
  settlementStatus : String
  provisionalPnl : Option ℚ
  deriving DecidableEq

/-- Balance-log row emitted by the in-memory bankroll. -/
structure BalancePersistenceEvent where
  timestampMs : ℕ
  event : String
  tradeId : Option ℤ
  amount : ℚ
  balance : ℚ
  deriving DecidableEq

/-- How often a strategy was rejected in a market for one reason. -/
structure StrategyRejectionSummaryRecord where
  timestampMs : ℕ
  marketId : String
  strategy : String
  reason : StrategyRejectionReason
  count : ℕ
  deriving DecidableEq

/-- Runtime evidence that must be persisted away from the decision path. -/
inductive LivePersistenceEvent where
  | signal (evidence : LiveDecisionEvidence)
  | signalOutcome (signalId : ℤ) (processedAtMs : ℕ) (processedAtUs : Option ℕ)
      (effectiveArrivalDelayMs : ℕ) (decisionStatus : String) (rejectionReason : Option String)
  | openTrade (trade : SimulatedTrade)
  | closeTrade (tradeId : ℤ) (result : TradeResult) (balance : BalancePersistenceEvent)
  | marketClosed (marketId : String)
  | marketResolved (marketId outcome : String)
  | rejectionSummaries (rows : List StrategyRejectionSummaryRecord)
  | other (label : String)
  deriving DecidableEq

def balanceEventForTrade (tradeId : ℤ) (timestampMs : ℕ) (pnl balance : ℚ) :
    BalancePersistenceEvent where
  timestampMs := timestampMs
  event := "trade_close"
  tradeId := some tradeId
  amount := pnl
  balance := balance

def marketClosedEvent (window : MarketWindow) : LivePersistenceEvent :=
  .marketClosed window.marketId

end BubaPaint
