import BubaPaint.Decision.Orders
import BubaPaint.Feeds.Events

/-!
# Signal state

The market state the features are computed from: the last Binance and Chainlink prices, the recent
Binance trades, the books of both sides of the current market and the recent midpoints of these.
The live loop and the replay keep one each and update it with the same functions.
-/

namespace BubaPaint

/-- The Binance top of book. -/
structure BinanceBookTicker where
  bestBid : ℚ
  bestAsk : ℚ
  bidSize : ℚ
  askSize : ℚ
  timestamp : ℕ
  sequenceKey : Option String
  deriving DecidableEq

/-- A shallow Binance depth summary. -/
structure BinanceDepthSnapshot where
  bidLevels : List (OrderLevel ℚ)
  askLevels : List (OrderLevel ℚ)
  timestamp : ℕ
  sequenceKey : Option String

/-- One Binance trade. -/
structure TradeObservation where
  price : ℚ
  quantity : ℚ
  signedQuantity : Option ℚ
  eventMs : ℕ
  eventUs : Option ℕ
  deriving DecidableEq

/-- One summed midpoint of the books. -/
structure QuoteObservation where
  midpoint : ℚ
  eventMs : ℕ
  deriving DecidableEq

def tradeHistoryMs : ℕ := 30000

def quoteHistoryMs : ℕ := 1000

def BookState.empty : BookState where
  up := none
  down := none

@[simp]
theorem sideBook_empty (side : SignalDirection) : sideBook .empty side = none := by
  cases side <;> rfl

/-- Fill observed freshness from the raw source timestamp when it is missing. -/
def normalizeObservedTimestamp (book : TopOfBook) : TopOfBook :=
  if book.observedAtMs = 0 ∧ 0 < book.timestamp then { book with observedAtMs := book.timestamp }
  else book

theorem normalizeObservedTimestamp_of_eq {book : TopOfBook}
    (h : book.observedAtMs = book.timestamp) : normalizeObservedTimestamp book = book := by
  unfold normalizeObservedTimestamp
  split
  · omega
  · rfl

/-- Return the summed midpoint across the up and down books. -/
def currentSummedMidpoint (bookState : BookState) : Option ℚ := do
  let up ← bookState.up
  let down ← bookState.down
  return (up.bestBid + up.bestAsk) / 2 + (down.bestBid + down.bestAsk) / 2

/-- The tracked market state. -/
structure SignalState where
  binancePrice : Option ℚ := none
  (binanceLastEventMs binanceLastEventUs : Option ℕ := none)
  binanceTrades : List TradeObservation
  binanceBook : Option BinanceBookTicker := none
  binanceDepth : Option BinanceDepthSnapshot := none
  chainlinkPrice : Option ℚ := none
  (chainlinkLastEventMs chainlinkLastEventUs : Option ℕ := none)
  bookState : BookState
  (clobLastEventMs clobLastEventUs : Option ℕ := none)
  clobMidpoints : List QuoteObservation

namespace SignalState

def new : SignalState where
  binancePrice := none
  binanceLastEventMs := none
  binanceLastEventUs := none
  binanceTrades := []
  binanceBook := none
  binanceDepth := none
  chainlinkPrice := none
  chainlinkLastEventMs := none
  chainlinkLastEventUs := none
  bookState := .empty
  clobLastEventMs := none
  clobLastEventUs := none
  clobMidpoints := []

def prune (state : SignalState) (nowMs : ℕ) : SignalState :=
  { state with
    binanceTrades := state.binanceTrades.dropWhile (·.eventMs < nowMs - tradeHistoryMs)
    clobMidpoints := state.clobMidpoints.dropWhile (·.eventMs < nowMs - quoteHistoryMs) }

@[simp]
theorem bookState_prune (state : SignalState) (nowMs : ℕ) :
    (state.prune nowMs).bookState = state.bookState :=
  rfl

/-- Record a Binance trade update and prune stale trade history. -/
def updateBinanceTrade (state : SignalState) (price quantity : ℚ) (signedQuantity : Option ℚ)
    (eventTimeMs : ℕ) (eventMicros : Option ℕ) : SignalState :=
  prune { state with
    binancePrice := some price
    binanceLastEventMs := some eventTimeMs
    binanceLastEventUs := eventMicros
    binanceTrades := state.binanceTrades ++
      [{ price, quantity, signedQuantity, eventMs := eventTimeMs, eventUs := eventMicros }] }
    eventTimeMs

def updateBinanceBook (state : SignalState) (bestBid bestAsk bidSize askSize : ℚ) (eventMs : ℕ)
    (sequenceKey : Option String) : SignalState :=
  { state with
    binanceLastEventMs := some eventMs
    binanceBook := some { bestBid, bestAsk, bidSize, askSize, timestamp := eventMs, sequenceKey } }

def updateBinanceDepth (state : SignalState) (bidLevels askLevels : List (OrderLevel ℚ))
    (eventMs : ℕ) (sequenceKey : Option String) : SignalState :=
  { state with
    binanceLastEventMs := some eventMs
    binanceDepth := some { bidLevels, askLevels, timestamp := eventMs, sequenceKey } }

def updateChainlink (state : SignalState) (price : ℚ) (eventTimeMs : ℕ)
    (eventMicros : Option ℕ) : SignalState :=
  { state with
    chainlinkPrice := some price
    chainlinkLastEventMs := some eventTimeMs
    chainlinkLastEventUs := eventMicros }

section Frames

variable (state : SignalState) (eventMs : ℕ)

@[simp]
theorem bookState_updateBinanceTrade (price quantity : ℚ) (signedQuantity : Option ℚ)
    (eventMicros : Option ℕ) :
    (state.updateBinanceTrade price quantity signedQuantity eventMs eventMicros).bookState =
      state.bookState :=
  rfl

@[simp]
theorem bookState_updateBinanceBook (bestBid bestAsk bidSize askSize : ℚ)
    (sequenceKey : Option String) :
    (state.updateBinanceBook bestBid bestAsk bidSize askSize eventMs sequenceKey).bookState =
      state.bookState :=
  rfl

@[simp]
theorem bookState_updateBinanceDepth (bidLevels askLevels : List (OrderLevel ℚ))
    (sequenceKey : Option String) :
    (state.updateBinanceDepth bidLevels askLevels eventMs sequenceKey).bookState =
      state.bookState :=
  rfl

@[simp]
theorem bookState_updateChainlink (price : ℚ) (eventMicros : Option ℕ) :
    (state.updateChainlink price eventMs eventMicros).bookState = state.bookState :=
  rfl

end Frames

/-- The midpoints with a new one, which is left out if it repeats the last. -/
def recordMidpoint (midpoints : List QuoteObservation) (midpoint : ℚ) (eventMs : ℕ) :
    List QuoteObservation :=
  if midpoints.getLast?.all fun last => decide (|last.midpoint - midpoint| > f64Epsilon) then
    midpoints ++ [⟨midpoint, eventMs⟩]
  else midpoints

/-- Record a Polymarket top-of-book update and quote-churn history. -/
def updateClob (state : SignalState) (bookState : BookState) (eventTimeMs : ℕ)
    (eventMicros : Option ℕ) : SignalState :=
  let bookState : BookState :=
    { up := bookState.up.map normalizeObservedTimestamp
      down := bookState.down.map normalizeObservedTimestamp }
  prune { state with
    bookState
    clobLastEventMs := some eventTimeMs
    clobLastEventUs := eventMicros
    clobMidpoints :=
      match currentSummedMidpoint bookState with
      | some midpoint => recordMidpoint state.clobMidpoints midpoint eventTimeMs
      | none => state.clobMidpoints }
    eventTimeMs

@[simp]
theorem sideBook_updateClob (state : SignalState) (bookState : BookState) (eventTimeMs : ℕ)
    (eventMicros : Option ℕ) (side : SignalDirection) :
    sideBook (state.updateClob bookState eventTimeMs eventMicros).bookState side =
      (sideBook bookState side).map normalizeObservedTimestamp := by
  cases side <;> rfl

end SignalState

end BubaPaint
