import BubaPaint.Decision.Steps
import BubaPaint.Library.Runs

/-!
# Messages of the decision engine

What feedback of the venue, the close of a window and a resolution do to the books, and the runs of
an engine over messages in any order.
-/

namespace BubaPaint

open Effects List

/-- What the strategy worker hands to its engine. -/
inductive EngineMessage where
  | evaluate (request : RuntimeDecisionRequest)
  | liveFeedback (fills : List LiveOrderFillFeedback) (rejectedSignalIds : List ℤ) (nowMs : ℕ)
  | releaseReservations (releases : List (String × ℚ))
  | windowClosed (window : MarketWindow) (nowMs : ℕ)
  | authoritativeResolution (window : MarketWindow) (outcome : SignalDirection) (nowMs : ℕ)
  | flushAll (nowMs : ℕ)

namespace RuntimeDecisionEngine

variable {σ : Type} [Strategy σ]

def receive (engine : RuntimeDecisionEngine σ) : EngineMessage → RuntimeDecisionEngine σ
  | .evaluate request => (engine.evaluate request).2
  | .liveFeedback fills rejectedSignalIds nowMs =>
    engine.applyLiveSubmissionFeedback fills rejectedSignalIds nowMs
  | .releaseReservations releases => engine.releaseReservations releases
  | .windowClosed window nowMs => (engine.windowClosed window nowMs).2
  | .authoritativeResolution window outcome nowMs =>
    (engine.authoritativeResolution window outcome nowMs).2
  | .flushAll nowMs => (engine.flushAll nowMs).2

/-- The persistence events a message makes the engine emit. -/
def emitted (engine : RuntimeDecisionEngine σ) : EngineMessage → List LivePersistenceEvent
  | .evaluate request => (engine.evaluate request).1.persistenceEvents
  | .liveFeedback .. | .releaseReservations _ => []
  | .windowClosed window nowMs => (engine.windowClosed window nowMs).1.persistenceEvents
  | .authoritativeResolution window outcome nowMs =>
    (engine.authoritativeResolution window outcome nowMs).1.persistenceEvents
  | .flushAll nowMs => (engine.flushAll nowMs).1.persistenceEvents

/-- The runs of an engine over messages in any order, with a history of the steps. -/
def system {H : Type} (record : H → RuntimeDecisionEngine σ → EngineMessage → H) :
    System (RuntimeDecisionEngine σ) EngineMessage H where
  step engine message := some (engine.receive message)
  record h engine message _ := record h engine message

end RuntimeDecisionEngine

/-! ## Feedback of the venue -/

namespace RuntimeDecisionEngine

variable {σ : Type} (engine : RuntimeDecisionEngine σ)

theorem removePendingOrder_cases (signalId : ℤ) :
    (engine.removePendingOrder signalId = (none, engine) ∧
        ∀ order ∈ engine.pendingOrders, order.signalId ≠ signalId) ∨
      ∃ before order after, engine.pendingOrders = before ++ order :: after ∧
        order.signalId = signalId ∧ (∀ other ∈ before, other.signalId ≠ signalId) ∧
        engine.removePendingOrder signalId =
          (some order, { engine with pendingOrders := before ++ after }) := by
  unfold removePendingOrder
  cases hposition : engine.pendingOrders.findIdx? fun order => order.signalId == signalId with
  | none =>
    refine .inl ⟨rfl, fun order horder => ?_⟩
    have hmiss := List.findIdx?_eq_none_iff.mp hposition order horder
    exact beq_eq_false_iff_ne.mp hmiss
  | some position =>
    obtain ⟨hlt, hid, hbefore⟩ := List.findIdx?_eq_some_iff_getElem.mp hposition
    refine .inr ⟨engine.pendingOrders.take position, engine.pendingOrders[position],
      engine.pendingOrders.drop (position + 1), ?_, beq_iff_eq.mp hid, ?_, ?_⟩
    · rw [← drop_eq_getElem_cons hlt, take_append_drop]
    · intro other hother
      obtain ⟨i, hi, hat⟩ := mem_take_iff_getElem.mp hother
      have hmiss := hbefore i (lt_of_lt_of_le hi (min_le_left _ _))
      rw [hat] at hmiss
      simpa using hmiss
    · simp [List.getElem?_eq_getElem hlt, eraseIdx_eq_take_drop_succ]

/-- What a fill of the venue does: nothing if its order is not pending, else the order goes, and a
fill of a positive size at a positive price opens a trade. -/
theorem applyLiveFill_cases (nowMs : ℕ) (fill : LiveOrderFillFeedback) :
    (engine.applyLiveFill nowMs fill = engine ∧
        ∀ order ∈ engine.pendingOrders, order.signalId ≠ fill.signalId) ∨
      ∃ before order after, engine.pendingOrders = before ++ order :: after ∧
        order.signalId = fill.signalId ∧ (∀ other ∈ before, other.signalId ≠ fill.signalId) ∧
        (engine.applyLiveFill nowMs fill).config = engine.config ∧
        (((fill.filledSize ≤ 0 ∨ fill.fillPrice ≤ 0) ∧
            (engine.applyLiveFill nowMs fill).books =
              { engine.books with pendingOrders := before ++ after }) ∨
          (0 < fill.filledSize ∧ 0 < fill.fillPrice ∧
            (engine.applyLiveFill nowMs fill).books =
              { engine.books with
                pendingOrders := before ++ after
                openTrades := engine.books.openTrades ++
                  [{ trade := buildTrade order engine.nextTradeId fill.fillPrice fill.filledSize
                      nowMs "live"
                     marketEndTime := order.marketEndTime
                     pendingSettlement := false }]
                reserves :=
                  engine.books.reserves.releaseUnspent order (fill.filledSize * fill.fillPrice)
                nextTradeId := nextNegativeId engine.nextTradeId })) := by
  unfold applyLiveFill
  rcases engine.removePendingOrder_cases fill.signalId with
    ⟨hnone, hmiss⟩ | ⟨before, order, after, hpending, hid, hfirst, hsome⟩
  · rw [hnone]
    exact .inl ⟨rfl, hmiss⟩
  · rw [hsome]
    dsimp only
    refine .inr ⟨before, order, after, hpending, hid, hfirst, ?_⟩
    split
    · rename_i hempty
      exact ⟨rfl, .inl ⟨hempty, rfl⟩⟩
    · rename_i hfilled
      push Not at hfilled
      rw [releaseUnspent_eq]
      exact ⟨rfl, .inr ⟨hfilled.1, hfilled.2, rfl⟩⟩

end RuntimeDecisionEngine

theorem mem_of_mem_rest {before after : List RuntimePendingOrder}
    {order other : RuntimePendingOrder} (hother : other ∈ before ++ after) :
    other ∈ before ++ order :: after :=
  ((sublist_cons_self order after).append_left before).subset hother

namespace RuntimeDecisionEngine

variable {σ : Type}

def rejectedOrders (engine : RuntimeDecisionEngine σ) : List ℤ → List RuntimePendingOrder
  | [] => []
  | signalId :: rest =>
    (engine.removePendingOrder signalId).1.toList ++
      (engine.removePendingOrder signalId).2.rejectedOrders rest

def rejectOrders (engine : RuntimeDecisionEngine σ) (rejectedSignalIds : List ℤ) :
    RuntimeDecisionEngine σ :=
  rejectedSignalIds.foldl (fun engine signalId => (engine.removePendingOrder signalId).2) engine

variable (engine : RuntimeDecisionEngine σ) (rejectedSignalIds : List ℤ)

theorem applyLiveSubmissionFeedback_eq (fills : List LiveOrderFillFeedback)
    (rejectedSignalIds : List ℤ) (nowMs : ℕ) :
    engine.applyLiveSubmissionFeedback fills rejectedSignalIds nowMs =
      fills.foldl (applyLiveFill nowMs) (engine.rejectOrders rejectedSignalIds) :=
  rfl

theorem pendingOrders_removePendingOrder_subset (signalId : ℤ) :
    (engine.removePendingOrder signalId).2.pendingOrders ⊆ engine.pendingOrders := by
  rcases engine.removePendingOrder_cases signalId with
    ⟨hnone, -⟩ | ⟨before, order, after, hpending, -, -, hsome⟩
  · rw [hnone]
    exact List.Subset.refl _
  · rw [hsome, hpending]
    exact fun other hother => mem_of_mem_rest hother

theorem pendingOrders_rejectOrders_subset :
    (engine.rejectOrders rejectedSignalIds).pendingOrders ⊆ engine.pendingOrders := by
  induction rejectedSignalIds generalizing engine with
  | nil => exact List.Subset.refl _
  | cons signalId rest ih =>
    exact List.Subset.trans (ih _) (engine.pendingOrders_removePendingOrder_subset signalId)

theorem openTrades_rejectOrders :
    (engine.rejectOrders rejectedSignalIds).books.openTrades = engine.books.openTrades := by
  induction rejectedSignalIds generalizing engine with
  | nil => rfl
  | cons signalId rest ih =>
    have hrest := ih (engine.removePendingOrder signalId).2
    have hfirst : (engine.removePendingOrder signalId).2.books.openTrades =
        engine.books.openTrades := by
      rcases engine.removePendingOrder_cases signalId with
        ⟨hnone, -⟩ | ⟨before, order, after, -, -, -, hsome⟩
      · rw [hnone]
      · rw [hsome]
        rfl
    exact hrest.trans hfirst

theorem pendingOrders_applyLiveFill_subset (nowMs : ℕ) (fill : LiveOrderFillFeedback) :
    (engine.applyLiveFill nowMs fill).pendingOrders ⊆ engine.pendingOrders := by
  rcases engine.applyLiveFill_cases nowMs fill with
    ⟨hsame, -⟩ | ⟨before, order, after, hpending, -, -, -, ⟨-, hbooks⟩ | ⟨-, -, hbooks⟩⟩
  · rw [hsame]
    exact List.Subset.refl _
  all_goals
    have hrest := congrArg Books.pendingOrders hbooks
    simp only [books] at hrest
    rw [hrest, hpending]
    exact fun other hother => mem_of_mem_rest hother

end RuntimeDecisionEngine

/-! ## The end of a market -/

def LivePersistenceEvent.closedTradeId : LivePersistenceEvent → Option ℤ
  | .closeTrade tradeId _ _ => some tradeId
  | _ => none

def LivePersistenceEvent.openedTradeId : LivePersistenceEvent → Option ℤ
  | .openTrade trade => trade.id
  | _ => none

def closeMarket (marketId : String) (openTrades : List OpenRuntimeTrade) : List OpenRuntimeTrade :=
  openTrades.map fun entry =>
    if entry.trade.marketId = marketId then { entry with pendingSettlement := true } else entry

/-- The reserves after a trade has moved to pending settlement. -/
def Reserves.close (reserves : Reserves) (trade : SimulatedTrade) : Reserves :=
  reserves.transitionFamilyReserveToPending (trade.entryPrice * trade.size)
    (familyForStrategy trade.strategy)

/-- The reserves after a trade was settled. A trade without an id keeps its reserve. -/
def Reserves.settle (reserves : Reserves) (trade : SimulatedTrade) : Reserves :=
  if trade.id.isSome then
    reserves.releaseFromFamilyBuckets (trade.entryPrice * trade.size)
      (familyForStrategy trade.strategy)
  else
    reserves

namespace RuntimeDecisionEngine

variable {σ : Type} (engine : RuntimeDecisionEngine σ)

theorem books_releaseReservations (releases : List (String × ℚ)) :
    (engine.releaseReservations releases).books =
      { engine.books with
        reserves := releases.foldl
          (fun reserves release =>
            reserves.releaseFromFamilyBuckets release.2 (familyForStrategy release.1))
          engine.books.reserves } := by
  unfold releaseReservations
  induction releases generalizing engine with
  | nil => rfl
  | cons release rest ih =>
    rw [foldl_cons, ih, books_releaseReserved, foldl_cons]

variable (feeParams : FeeParams) (window : MarketWindow) (outcome : SignalDirection) (nowMs : ℕ)

/-- Closing a window marks the trades of its market and moves their reserves. -/
theorem books_windowClosed :
    (engine.windowClosed window nowMs).2.books =
      { engine.books with
        openTrades := closeMarket window.marketId engine.books.openTrades
        reserves := (engine.exposure.markPendingForMarket window.marketId).1.foldl Reserves.close
          engine.books.reserves } := by
  have hfold : ∀ (trades : List SimulatedTrade) (bankroll : BankrollManager),
      (trades.foldl (fun bankroll trade => bankroll.transitionTradeToPendingSettlement
        (trade.entryPrice * trade.size) trade.strategy) bankroll).toReserves =
        trades.foldl Reserves.close bankroll.toReserves := by
    intro trades
    induction trades with
    | nil => exact fun _ => rfl
    | cons trade rest ih => exact fun bankroll => ih _
  unfold windowClosed books
  rw [hfold]
  rfl

theorem isTrade_of_mem_summaryEvents {rows : List StrategyRejectionSummaryRecord}
    {event : LivePersistenceEvent} (hevent : event ∈ summaryEvents rows) :
    event.isTrade = false := by
  unfold summaryEvents at hevent
  split at hevent
  · cases hevent
  · rw [mem_singleton.mp hevent]
    rfl

theorem windowClosed_events :
    ∀ event ∈ (engine.windowClosed window nowMs).1.persistenceEvents, event.isTrade = false := by
  intro event hevent
  rcases mem_cons.mp hevent with rfl | hsummary
  · rfl
  · exact isTrade_of_mem_summaryEvents hsummary

theorem settleTrade_spec (pass : DecisionPass σ) (trade : SimulatedTrade) :
    let pass' := settleTrade feeParams outcome nowMs pass trade
    pass'.engine.books =
        { pass.engine.books with reserves := pass.engine.books.reserves.settle trade } ∧
      pass'.engine.config = pass.engine.config ∧
      ∃ events, pass'.persistenceEvents = pass.persistenceEvents ++ events ∧
        events.filterMap LivePersistenceEvent.closedTradeId = trade.id.toList ∧
        ∀ opened, .openTrade opened ∉ events := by
  unfold settleTrade Reserves.settle
  cases trade.id with
  | none => exact ⟨rfl, rfl, [], by simp, rfl, by simp⟩
  | some tradeId => exact ⟨rfl, rfl, [_], rfl, rfl, by simp⟩

theorem foldl_settleTrade (trades : List SimulatedTrade) (pass : DecisionPass σ) :
    let pass' := trades.foldl (settleTrade feeParams outcome nowMs) pass
    pass'.engine.books =
        { pass.engine.books with
          reserves := trades.foldl Reserves.settle pass.engine.books.reserves } ∧
      pass'.engine.config = pass.engine.config ∧
      ∃ events, pass'.persistenceEvents = pass.persistenceEvents ++ events ∧
        events.filterMap LivePersistenceEvent.closedTradeId = trades.filterMap (·.id) ∧
        ∀ opened, .openTrade opened ∉ events := by
  induction trades generalizing pass with
  | nil => exact ⟨rfl, rfl, [], by simp, rfl, by simp⟩
  | cons trade rest ih =>
    obtain ⟨hbooks, hconfig, events, hevents, hclosed, hopened⟩ :=
      settleTrade_spec feeParams outcome nowMs pass trade
    obtain ⟨hbooks', hconfig', events', hevents', hclosed', hopened'⟩ :=
      ih (settleTrade feeParams outcome nowMs pass trade)
    refine ⟨?_, hconfig'.trans hconfig, events ++ events', ?_, ?_, ?_⟩
    · rw [foldl_cons, hbooks', hbooks, foldl_cons]
    · rw [foldl_cons, hevents', hevents, append_assoc]
    · rw [filterMap_append, hclosed, hclosed', filterMap_cons]
      cases trade.id <;> rfl
    · intro trade' hmem
      exact (mem_append.mp hmem).elim (hopened trade') (hopened' trade')

/-- A resolution removes the trades of its market, releases their reserves and closes them. -/
theorem books_authoritativeResolution :
    let trades := (engine.exposure.removeMarket window.marketId).1
    let result := engine.authoritativeResolution window outcome nowMs
    result.2.books =
        { engine.books with
          openTrades := engine.books.openTrades.filter fun entry =>
            entry.trade.marketId != window.marketId
          reserves := trades.foldl Reserves.settle engine.books.reserves } ∧
      result.2.config = engine.config ∧
      result.1.persistenceEvents.filterMap LivePersistenceEvent.closedTradeId =
        trades.filterMap (·.id) ∧
      ∀ opened, .openTrade opened ∉ result.1.persistenceEvents := by
  obtain ⟨hbooks, hconfig, events, hevents, hclosed, hopened⟩ := foldl_settleTrade
    (resolveFeeParams engine.config (some window) nowMs) outcome nowMs
    (engine.exposure.removeMarket window.marketId).1
    ((DecisionPass.start
      { engine with exposure := (engine.exposure.removeMarket window.marketId).2 }).emit
        (.marketResolved window.marketId outcome.display))
  refine ⟨hbooks, hconfig, ?_, ?_⟩
  all_goals
    unfold authoritativeResolution eventsOutput output
    dsimp only
    rw [hevents]
  · exact hclosed
  · intro trade hmem
    rcases mem_append.mp hmem with hfirst | hrest
    · simp [DecisionPass.emit, DecisionPass.start] at hfirst
    · exact hopened trade hrest

end RuntimeDecisionEngine

/-- A strategy that buys one side of every market. -/
structure SampleStrategy where
  direction : SignalDirection

instance : Strategy SampleStrategy where
  family _ := .latencyArb
  evaluate strategy _ _ nowMs :=
    (.single
      { timestamp := nowMs, strategy := "latency-arb", direction := strategy.direction,
        confidence := 9 / 10, upAsk := 2 / 5, downAsk := 2 / 5 }, strategy)

instance : LawfulStrategy SampleStrategy where
  named := by
    intro strategy ctx config nowMs signal hsignal
    rw [mem_singleton.mp hsignal]
    rfl
  batch := by
    intro strategy ctx config nowMs signals hbatch
    cases hbatch

def sampleWindow (marketId : String) (endTime : ℕ) : MarketWindow where
  marketId := marketId
  upTokenId := "up"
  downTokenId := "down"
  startTime := 0
  endTime := endTime
  slug := marketId

def sampleBook (nowMs : ℕ) : BookState where
  up := some
    { bestBid := 0, bestAsk := 2 / 5, bidSize := 0, askSize := 100, timestamp := nowMs,
      observedAtMs := nowMs }
  down := some
    { bestBid := 0, bestAsk := 2 / 5, bidSize := 0, askSize := 100, timestamp := nowMs,
      observedAtMs := nowMs }

def sampleDecision (window : MarketWindow) (nowMs : ℕ) : RuntimeDecisionRequest where
  decisionSequence := 0
  ctx :=
    { bookState := sampleBook nowMs
      windowTimeRemainingMs := 0
      features :=
        { upAsk := none, downAsk := none, totalAsk := none, interLegSkewMs := none,
          polymarketQuoteChurnPerS := none, realizedVol15sBps := none, openCrosses30s := none } }
  window := window
  bookState := sampleBook nowMs
  nowMs := nowMs
  nowUs := none
  liveTradingCanSubmit := true

def sampleSeed : RuntimeDecisionSeed where
  startingBalance := 100
  currentBalance := 100
  unresolvedExposures := []
  openTrades := []
  nowMs := 0

end BubaPaint
