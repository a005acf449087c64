import BubaPaint.Decision.OrderVerdicts
import BubaPaint.Library.Traces

/-!
# The trading desk

What a paper engine is for, without the ids it hands out and the place it keeps its trades: a desk
with queued orders, open positions and a bankroll. It is fed with approved signals, books, the ends
of windows and outcomes, and reports after each of them what it decided and what it holds.
-/

namespace BubaPaint

open Effects

def QueuedOrderIntent.terms (order : QueuedOrderIntent) : QueuedOrderIntent :=
  { order with
    signalId := 0
    executionGroupId := order.executionGroupId.map fun _ => "spread" }

def ProcessedOrderOutcome.terms (outcome : ProcessedOrderOutcome) : ProcessedOrderOutcome :=
  { outcome with signalId := 0 }

def SubmissionOutcome.terms : SubmissionOutcome → SubmissionOutcome
  | .queued _ orders => .queued [] (orders.map (·.terms))
  | .rejected _ reason => .rejected [] reason

/-- An open trade, without its id. -/
structure DeskPosition where
  marketId : String
  strategy : String
  side : SignalDirection
  entryPrice : ℚ
  size : ℚ
  deriving DecidableEq

def SimulatedTrade.deskPosition (trade : SimulatedTrade) : DeskPosition where
  marketId := trade.marketId
  strategy := trade.strategy
  side := trade.side
  entryPrice := trade.entryPrice
  size := trade.size

@[simp]
theorem orderVerdict_terms (config : Config) (currentWindow : Option MarketWindow)
    (bookState : BookState) (nowMs : ℕ) (order : QueuedOrderIntent) :
    orderVerdict config currentWindow bookState nowMs order.terms =
      orderVerdict config currentWindow bookState nowMs order :=
  rfl

theorem exists_findIdx?_of_find? {α : Type} {p : α → Bool} {xs : List α} {x : α}
    (h : xs.find? p = some x) : ∃ i, xs.findIdx? p = some i ∧ xs[i]? = some x := by
  obtain ⟨hp, i, hi, hx, hbefore⟩ := List.find?_eq_some_iff_getElem.mp h
  refine ⟨i, List.findIdx?_eq_some_iff_getElem.mpr ⟨hi, hx ▸ hp, ?_⟩, ?_⟩
  · intro j hj
    simpa using hbefore j hj
  · rw [List.getElem?_eq_getElem hi, hx]

theorem exists_spreadSignalPair {signals : List Signal} {upSignal downSignal : Signal}
    (hlegs : spreadLegs signals = some (upSignal, downSignal)) {signalIds : List ℤ}
    (hlength : signalIds.length = signals.length) :
    ∃ upSignalId downSignalId,
      spreadSignalPair signals signalIds =
        some (upSignal, downSignal, upSignalId, downSignalId) := by
  unfold spreadLegs at hlegs
  simp only [Option.bind_eq_bind, Option.pure_def, Option.bind_eq_some_iff, Option.some.injEq,
    Prod.mk.injEq] at hlegs
  obtain ⟨up, hup, down, hdown, rfl, rfl⟩ := hlegs
  obtain ⟨i, hi, hupAt⟩ := exists_findIdx?_of_find? hup
  obtain ⟨j, hj, hdownAt⟩ := exists_findIdx?_of_find? hdown
  have hiLength : i < signalIds.length := hlength ▸ (List.getElem?_eq_some_iff.mp hupAt).1
  have hjLength : j < signalIds.length := hlength ▸ (List.getElem?_eq_some_iff.mp hdownAt).1
  refine ⟨signalIds[i], signalIds[j], ?_⟩
  unfold spreadSignalPair
  simp [hi, hj, hupAt, hdownAt, hiLength, hjLength]

/-! ## Queueing -/

/-- The orders, the positions and the bankroll of a desk. -/
structure TradingDesk where
  orders : List QueuedOrderIntent
  positions : List DeskPosition
  bankroll : BankrollManager

/-- A position of the same market and strategy, and in a batch of the same side. -/
def DeskPosition.duplicates (window : MarketWindow) (isBatch : Bool) (signal : Signal)
    (position : DeskPosition) : Bool :=
  position.marketId == window.marketId && position.strategy == signal.strategy &&
    (!isBatch || position.side == signal.direction)

/-- An order of the same market and strategy, and in a batch of the same side. -/
def QueuedOrderIntent.duplicates (window : MarketWindow) (isBatch : Bool) (signal : Signal)
    (order : QueuedOrderIntent) : Bool :=
  order.marketId == window.marketId && order.strategy == signal.strategy &&
    (!isBatch || order.side == signal.direction)

def orderTerms (signal : Signal) (window : MarketWindow) (arrivalTs : ℕ)
    (limitPrice requestedSize : ℚ) (executionGroupId : Option String) : QueuedOrderIntent where
  signalId := 0
  signalTimestamp := signal.timestamp
  marketId := window.marketId
  strategy := signal.strategy
  side := signal.direction
  tokenId := tokenIdForSignal signal window
  arrivalTs := arrivalTs
  requestedPrice := signalEntryAsk signal
  limitPrice := limitPrice
  requestedSize := requestedSize
  reservedCost := requestedSize * limitPrice
  executionGroupId := executionGroupId

namespace TradingDesk

/-- How many positions count against the cap: all of them, or those of markets that have not
ended. -/
def counted (desk : TradingDesk) (config : Config) (ends : String → ℕ) (nowMs : ℕ) : ℕ :=
  if config.pendingSettlementPolicyUnchecked.countsAsOpenPosition then desk.positions.length
  else desk.positions.countP fun position => decide (nowMs < ends position.marketId)

def queueRejection (desk : TradingDesk) (config : Config) (ends : String → ℕ)
    (signals : List Signal) (window : MarketWindow) (isBatch : Bool) (requiredSlots nowMs : ℕ) :
    Option QueueRejectionReason :=
  if desk.counted config ends nowMs + desk.orders.length + requiredSlots >
      config.maxOpenPositions then
    some .maxOpenPositions
  else if signals.any fun signal =>
      desk.positions.any (DeskPosition.duplicates window isBatch signal) then
    some .duplicateOpenPosition
  else if signals.any fun signal =>
      desk.orders.any (QueuedOrderIntent.duplicates window isBatch signal) then
    some .duplicatePendingOrder
  else none

def release (desk : TradingDesk) (amount : ℚ) (strategy : String) : TradingDesk :=
  { desk with bankroll := desk.bankroll.releaseReservedForStrategy amount strategy }

/-- Queue one single-side order. -/
def submitSingle (desk : TradingDesk) (config : Config) (ends : String → ℕ) (signal : Signal)
    (window : MarketWindow) (nowMs : ℕ) : SubmissionOutcome × TradingDesk :=
  match desk.queueRejection config ends [signal] window false 1 nowMs with
  | some reason => (.rejected [] reason.asStr, desk)
  | none =>
    let requestedPrice := signalEntryAsk signal
    let limitPrice := singleOrderLimitPrice signal config
    let (requestedSize, bankroll) := desk.bankroll.reserveCapitalWithReservePrice
      requestedPrice limitPrice signal.confidence signal.strategy
      (familyForStrategy signal.strategy) config nowMs
    let desk := { desk with bankroll }
    if requestedSize ≤ 0 then
      (.rejected [] "strategy_sleeve_exhausted", desk)
    else
      match submissionSizeRejectionReason requestedSize requestedPrice
          (window.orderMinSize.getD 0) config.minBetUsd with
      | some reason =>
        (.rejected [] reason, desk.release (requestedSize * limitPrice) signal.strategy)
      | none =>
        let order := orderTerms signal window
          (saturatingAdd signal.timestamp config.simOrderLatencyMs) limitPrice requestedSize none
        (.queued [] [order], { desk with orders := desk.orders ++ [order] })

/-- Queue both legs of a spread. A batch without both legs queues nothing. -/
def submitSpread (desk : TradingDesk) (config : Config) (ends : String → ℕ)
    (signals : List Signal) (window : MarketWindow) (nowMs : ℕ) : SubmissionOutcome × TradingDesk :=
  match spreadLegs signals with
  | none => (.queued [] [], desk)
  | some (upSignal, downSignal) =>
    match desk.queueRejection config ends signals window true 2 nowMs with
    | some reason => (.rejected [] reason.asStr, desk)
    | none =>
      let feeParams := resolveFeeParams config (some window) window.endTime
      if spreadNetEdge upSignal.upAsk downSignal.downAsk 1 feeParams.feeRate
          feeParams.exponent ≤ 0 then
        (.rejected [] "net_edge", desk)
      else
        let ((upTokens, downTokens), bankroll) := desk.bankroll.reserveSpreadCapital
          upSignal.upAsk downSignal.downAsk config nowMs
        let desk := { desk with bankroll }
        if upTokens ≤ 0 ∨ downTokens ≤ 0 then
          (.rejected [] "strategy_sleeve_exhausted", desk)
        else
          match spreadSubmissionRejectionReason upTokens downTokens upSignal.upAsk
              downSignal.downAsk (window.orderMinSize.getD 0) config.minBetUsd with
          | some reason =>
            let reserved := upTokens * upSignal.upAsk + downTokens * downSignal.downAsk
            (.rejected [] reason, desk.release reserved upSignal.strategy)
          | none =>
            let arrivalTs := spreadArrivalTs signals config nowMs
            let orders :=
              [orderTerms upSignal window arrivalTs (signalEntryAsk upSignal) upTokens
                  (some "spread"),
                orderTerms downSignal window arrivalTs (signalEntryAsk downSignal) downTokens
                  (some "spread")]
            (.queued [] orders, { desk with orders := desk.orders ++ orders })

end TradingDesk

def missedOutcome (order : QueuedOrderIntent) (reason : String) (book : Option TopOfBook)
    (nowMs : ℕ) : ProcessedOrderOutcome where
  signalId := 0
  marketId := order.marketId
  strategy := order.strategy
  side := order.side
  disposition := .missed
  reason := some reason
  bestAsk := book.map (·.bestAsk)
  askSize := book.map (·.askSize)
  freshnessMs := book.map (bookAgeMs nowMs)
  requestedSize := order.requestedSize
  filledSize := 0
  effectiveArrivalDelayMs := nowMs - order.signalTimestamp
  partialFill := false

def filledOutcome (order : QueuedOrderIntent) (book : TopOfBook) (filledSize : ℚ) (nowMs : ℕ) :
    ProcessedOrderOutcome where
  signalId := 0
  marketId := order.marketId
  strategy := order.strategy
  side := order.side
  disposition := .filled
  reason := none
  bestAsk := some book.bestAsk
  askSize := some book.askSize
  freshnessMs := some (bookAgeMs nowMs book)
  requestedSize := order.requestedSize
  filledSize := filledSize
  effectiveArrivalDelayMs := nowMs - order.signalTimestamp
  partialFill := decide (filledSize < order.requestedSize)

/-- A desk on its way through its orders, with what it has reported. -/
structure DeskFills where
  desk : TradingDesk
  outcomes : List ProcessedOrderOutcome

/-- Take the next order. -/
def DeskFills.take (config : Config) (window : MarketWindow) (bookState : BookState) (nowMs : ℕ)
    (fills : DeskFills) (order : QueuedOrderIntent) : DeskFills :=
  match orderVerdict config (some window) bookState nowMs order with
  | .deferred =>
    { fills with desk := { fills.desk with orders := fills.desk.orders ++ [order] } }
  | .missed _ reason book =>
    { desk := fills.desk.release order.reservedCost order.strategy
      outcomes := fills.outcomes ++ [missedOutcome order reason book nowMs] }
  | .filled book filledSize =>
    let fillCost := filledSize * book.bestAsk
    let desk :=
      if order.reservedCost > fillCost then
        fills.desk.release (order.reservedCost - fillCost) order.strategy
      else fills.desk
    { desk :=
        { desk with
          positions := desk.positions ++
            [{ marketId := order.marketId
               strategy := order.strategy
               side := order.side
               entryPrice := book.bestAsk
               size := filledSize }] }
      outcomes := fills.outcomes ++ [filledOutcome order book filledSize nowMs] }

namespace TradingDesk

def processDueOrders (desk : TradingDesk) (config : Config) (window : MarketWindow)
    (bookState : BookState) (nowMs : ℕ) : List ProcessedOrderOutcome × TradingDesk :=
  let fills := desk.orders.foldl (DeskFills.take config window bookState nowMs)
    { desk := { desk with orders := [] }, outcomes := [] }
  (fills.outcomes, fills.desk)

def positionsIn (desk : TradingDesk) (marketId : String) : List DeskPosition :=
  desk.positions.filter fun position => position.marketId == marketId

/-- Move what one position has reserved to pending settlement. -/
def reclassify (bankroll : BankrollManager) (position : DeskPosition) : BankrollManager :=
  bankroll.transitionTradeToPendingSettlement (position.entryPrice * position.size)
    position.strategy

/-- Close a market: what its positions have reserved is pending settlement. -/
def closeMarket (desk : TradingDesk) (marketId : String) : TradingDesk :=
  { desk with bankroll := (desk.positionsIn marketId).foldl reclassify desk.bankroll }

/-- Book the result of one position. -/
def settle (feeParams : FeeParams) (outcome : SignalDirection) (bankroll : BankrollManager)
    (position : DeskPosition) : BankrollManager :=
  (bankroll.applyTradeResultInMemory position.entryPrice position.size
    (if position.side = outcome then 1 else 0)
    (computeTakerFee position.entryPrice position.size feeParams.feeRate feeParams.exponent)
    position.strategy).2

def resolveMarket (desk : TradingDesk) (marketId : String) (feeParams : FeeParams)
    (outcome : SignalDirection) : TradingDesk :=
  { desk with
    positions := desk.positions.filter fun position => position.marketId != marketId
    bankroll := (desk.positionsIn marketId).foldl (settle feeParams outcome) desk.bankroll }

end TradingDesk

/-- What a desk is fed with. -/
inductive DeskInput where
  | windowOpened (window : MarketWindow) (outcome : Option SignalDirection) (nowMs : ℕ)
  | single (signal : Signal) (request : RuntimeDecisionRequest)
  | spread (signals : List Signal) (request : RuntimeDecisionRequest)
  | booksMoved (request : RuntimeDecisionRequest)
  | windowClosed (window : MarketWindow) (nowMs : ℕ)
  | outcomeKnown (window : MarketWindow) (outcome : SignalDirection) (nowMs : ℕ)

/-- What a desk reports after an input. -/
structure DeskReport where
  submission : Option SubmissionOutcome
  outcomes : List ProcessedOrderOutcome
  desk : TradingDesk

namespace DeskInput

def window : DeskInput → MarketWindow
  | .windowOpened window .. | .windowClosed window _ | .outcomeKnown window .. => window
  | .single _ request | .spread _ request | .booksMoved request => request.window

def nowMs : DeskInput → ℕ
  | .windowOpened _ _ nowMs | .windowClosed _ nowMs | .outcomeKnown _ _ nowMs => nowMs
  | .single _ request | .spread _ request | .booksMoved request => request.nowMs

end DeskInput

/-- What a desk decides. -/
def TradingDesk.step (config : Config) (ends : String → ℕ) (desk : TradingDesk) :
    DeskInput → DeskReport × TradingDesk
  | .windowOpened .. => ({ submission := none, outcomes := [], desk }, desk)
  | .single signal request =>
    let (submission, desk) := desk.submitSingle config ends signal request.window request.nowMs
    ({ submission, outcomes := [], desk }, desk)
  | .spread signals request =>
    let (submission, desk) := desk.submitSpread config ends signals request.window request.nowMs
    ({ submission, outcomes := [], desk }, desk)
  | .booksMoved request =>
    let (outcomes, desk) :=
      desk.processDueOrders config request.window request.bookState request.nowMs
    ({ submission := none, outcomes, desk }, desk)
  | .windowClosed window _ =>
    let desk := desk.closeMarket window.marketId
    ({ submission := none, outcomes := [], desk }, desk)
  | .outcomeKnown window outcome _ =>
    let feeParams := resolveFeeParams config (some window) window.endTime
    let desk := desk.resolveMarket window.marketId feeParams outcome
    ({ submission := none, outcomes := [], desk }, desk)

/-- The time, the markets that were opened and those that were closed. -/
structure MarketLedger where
  nowMs : ℕ
  opened : List String
  closed : List String

def MarketLedger.next (ledger : MarketLedger) (input : DeskInput) : MarketLedger where
  nowMs := input.nowMs
  opened :=
    match input with
    | .windowOpened window .. => window.marketId :: ledger.opened
    | _ => ledger.opened
  closed :=
    match input with
    | .windowClosed window _ => window.marketId :: ledger.closed
    | _ => ledger.closed

/-- An input is allowed if time does not go back, a window ends when its market does, only windows
that were opened are traded, a batch has both legs, a market is closed once and not before its end,
and fees do not change between the end of a window and its settlement. -/
def DeskInput.Allowed (config : Config) (ends : String → ℕ) (ledger : MarketLedger)
    (input : DeskInput) : Prop :=
  ledger.nowMs ≤ input.nowMs ∧ input.window.endTime = ends input.window.marketId ∧
    match input with
    | .windowOpened .. => True
    | .single _ request | .booksMoved request => request.window.marketId ∈ ledger.opened
    | .spread signals request =>
      request.window.marketId ∈ ledger.opened ∧ (spreadLegs signals).isSome
    | .windowClosed window nowMs => window.marketId ∉ ledger.closed ∧ window.endTime ≤ nowMs
    | .outcomeKnown window _ nowMs =>
      resolveFeeParams config (some window) nowMs =
        resolveFeeParams config (some window) window.endTime

instance (config : Config) (ends : String → ℕ) (ledger : MarketLedger) (input : DeskInput) :
    Decidable (input.Allowed config ends ledger) := by
  unfold DeskInput.Allowed
  cases input with
  | _ =>
    dsimp only
    infer_instance

end BubaPaint
