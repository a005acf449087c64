import BubaPaint.Replay.Runner

/-!
# What a backtest never reads back

The runner writes the outcome of a market into the results database when it enters the window, long
before it may know it. Nothing reads it back: a run on a database whose outcomes are struck out is
the same run.

Main results:

- Theorem `runStrategyCycle_blind`: a cycle on struck-out outcomes is the same cycle.
-/

namespace BubaPaint

open List

def MarketRow.blind (row : MarketRow) : MarketRow :=
  { row with outcome := none }

namespace ResultsDb

variable (db : ResultsDb) (window : MarketWindow) (marketId : String)

/-- The database with the outcomes of its markets struck out. -/
def blind : ResultsDb :=
  { db with markets := db.markets.map MarketRow.blind }

@[simp]
theorem blind_blind : db.blind.blind = db.blind := by
  simp [blind, MarketRow.blind]

@[simp]
theorem countActiveOpenTrades_blind (nowMs : ℕ) :
    db.blind.countActiveOpenTrades nowMs = db.countActiveOpenTrades nowMs := by
  unfold countActiveOpenTrades blind openTrades
  simp only [any_map]
  rfl

theorem blind_upsertMarket (outcome : Option SignalDirection) :
    (db.upsertMarket window outcome).blind = db.blind.upsertMarket window none := by
  have hknown : (db.blind.markets.any fun row => row.marketId == window.marketId) =
      db.markets.any fun row => row.marketId == window.marketId := by
    unfold blind
    rw [any_map]
    rfl
  have hrow : MarketRow.blind ∘ MarketRow.refresh window outcome =
      MarketRow.refresh window none ∘ MarketRow.blind := by
    ext row : 1
    by_cases hmarket : row.marketId = window.marketId
    · simp [MarketRow.refresh, MarketRow.blind, hmarket]
    · simp [MarketRow.refresh, MarketRow.blind, hmarket]
  unfold upsertMarket
  rw [hknown]
  split
  · simp only [blind, map_map, hrow]
  · simp [blind, MarketRow.blind]

theorem blind_setMarketStatus (status : MarketStatus) (outcome : Option SignalDirection) :
    (db.setMarketStatus marketId status outcome).blind =
      db.blind.setMarketStatus marketId status none := by
  unfold setMarketStatus blind
  simp only [map_map]
  congr 2
  ext row : 1
  by_cases hmarket : row.marketId = marketId
  · simp [MarketRow.blind, hmarket]
  · simp [MarketRow.blind, hmarket]

section Writes

variable (signal : Signal) (trade : SimulatedTrade) (result : TradeResult) (signalId : ℤ)
variable (submittedAtMs arrivalAtMs : Option ℕ)

@[simp]
theorem logSignalWithContext_blind :
    db.blind.logSignalWithContext signal marketId submittedAtMs arrivalAtMs =
      ((db.logSignalWithContext signal marketId submittedAtMs arrivalAtMs).1,
        (db.logSignalWithContext signal marketId submittedAtMs arrivalAtMs).2.blind) :=
  rfl

@[simp]
theorem upsertSignalTelemetry_blind (decisionStatus : String) (rejectionReason : Option String) :
    db.blind.upsertSignalTelemetry signalId submittedAtMs arrivalAtMs decisionStatus
        rejectionReason =
      (db.upsertSignalTelemetry signalId submittedAtMs arrivalAtMs decisionStatus
        rejectionReason).blind :=
  rfl

end Writes

end ResultsDb

namespace PaperState

variable (state : PaperState) (config : Config)

/-- The state with the outcomes of its markets struck out. -/
def blind : PaperState :=
  { state with db := state.db.blind }

variable (signal : Signal) (signalId : ℤ) (signals : List Signal) (signalIds : List ℤ)
variable (reason : String) (window : MarketWindow) (nowMs : ℕ) (order : PendingOrder)
variable (context : DueOrderContext)

theorem countQueueRelevantOpenTrades_blind :
    state.blind.countQueueRelevantOpenTrades config nowMs =
      state.countQueueRelevantOpenTrades config nowMs := by
  unfold countQueueRelevantOpenTrades blind
  rw [ResultsDb.countActiveOpenTrades_blind]
  rfl

@[simp]
theorem canQueueOrder_blind (isBatch : Bool) (requiredSlots nowMs : ℕ) :
    state.blind.canQueueOrder signal window isBatch requiredSlots config nowMs =
      state.canQueueOrder signal window isBatch requiredSlots config nowMs := by
  unfold canQueueOrder
  rw [countQueueRelevantOpenTrades_blind]
  rfl

@[simp]
theorem canQueueSpread_blind :
    state.blind.canQueueSpread signals window config nowMs =
      state.canQueueSpread signals window config nowMs := by
  unfold canQueueSpread
  rw [countQueueRelevantOpenTrades_blind]
  rfl

theorem mk_blind (engine : ExecutionEngine) (db : ResultsDb) (bankroll : BankrollManager) :
    ({ engine, db := db.blind, bankroll } : PaperState) =
      ({ engine, db, bankroll } : PaperState).blind :=
  rfl

@[simp]
theorem engine_blind : state.blind.engine = state.engine :=
  rfl

@[simp]
theorem db_blind : state.blind.db = state.db.blind :=
  rfl

@[simp]
theorem bankroll_blind : state.blind.bankroll = state.bankroll :=
  rfl

@[simp]
theorem rejectSingleSubmission_blind :
    state.blind.rejectSingleSubmission signalId reason =
      ((state.rejectSingleSubmission signalId reason).1,
        (state.rejectSingleSubmission signalId reason).2.blind) :=
  rfl

@[simp]
theorem releaseReserved_blind (amount : ℚ) (strategy : String) :
    state.blind.releaseReserved amount strategy = (state.releaseReserved amount strategy).blind :=
  rfl

@[simp]
theorem pushPendingOrder_blind :
    state.blind.pushPendingOrder order config = (state.pushPendingOrder order config).blind := by
  unfold pushPendingOrder
  split <;> rfl

@[simp]
theorem recordSubmittedOrder_blind :
    state.blind.recordSubmittedOrder order = (state.recordSubmittedOrder order).blind :=
  rfl

@[simp]
theorem queueSingleSubmission_blind (requestedPrice limitPrice requestedSize : ℚ) :
    state.blind.queueSingleSubmission signal signalId window requestedPrice limitPrice
        requestedSize config =
      ((state.queueSingleSubmission signal signalId window requestedPrice limitPrice requestedSize
          config).1,
        (state.queueSingleSubmission signal signalId window requestedPrice limitPrice
          requestedSize config).2.blind) := by
  simp [queueSingleSubmission, mk_blind]

theorem submitSingle_blind :
    state.blind.submitSingle signal window config nowMs =
      ((state.submitSingle signal window config nowMs).1,
        (state.submitSingle signal window config nowMs).2.blind) := by
  unfold submitSingle precheckSingleSubmission
  simp only [engine_blind, db_blind, bankroll_blind, ResultsDb.logSignalWithContext_blind,
    mk_blind, canQueueOrder_blind, rejectSingleSubmission_blind, releaseReserved_blind,
    queueSingleSubmission_blind]
  split
  · rfl
  split
  · rfl
  split <;> rfl

@[simp]
theorem logSpreadSignals_blind (arrivalTs : ℕ) (signals : List Signal) :
    state.blind.logSpreadSignals window arrivalTs signals =
      ((state.logSpreadSignals window arrivalTs signals).1,
        (state.logSpreadSignals window arrivalTs signals).2.blind) := by
  induction signals generalizing state with
  | nil => rfl
  | cons signal rest ih => simp [logSpreadSignals, mk_blind, ih]

@[simp]
theorem updateSpreadSignalMetrics_blind (arrivalTs : Option ℕ) (decisionStatus : String)
    (rejectionReason : Option String) :
    state.blind.updateSpreadSignalMetrics signals signalIds arrivalTs decisionStatus
        rejectionReason =
      (state.updateSpreadSignalMetrics signals signalIds arrivalTs decisionStatus
        rejectionReason).blind := by
  exact foldl_hom blind fun _ _ => rfl

@[simp]
theorem rejectSpreadSubmission_blind :
    state.blind.rejectSpreadSubmission signals signalIds reason =
      ((state.rejectSpreadSubmission signals signalIds reason).1,
        (state.rejectSpreadSubmission signals signalIds reason).2.blind) := by
  simp [rejectSpreadSubmission]

@[simp]
theorem queueSpreadSubmissionOrders_blind (upSignal downSignal : Signal)
    (upSignalId downSignalId : ℤ) (window : MarketWindow) (arrivalTs : ℕ)
    (upTokens downTokens : ℚ) :
    state.blind.queueSpreadSubmissionOrders upSignal downSignal upSignalId downSignalId window
        arrivalTs upTokens downTokens config =
      ((state.queueSpreadSubmissionOrders upSignal downSignal upSignalId downSignalId window
          arrivalTs upTokens downTokens config).1,
        (state.queueSpreadSubmissionOrders upSignal downSignal upSignalId downSignalId window
          arrivalTs upTokens downTokens config).2.blind) := by
  simp [queueSpreadSubmissionOrders, mk_blind]

theorem submitSpread_blind :
    state.blind.submitSpread signals window config nowMs =
      ((state.submitSpread signals window config nowMs).1,
        (state.submitSpread signals window config nowMs).2.blind) := by
  unfold submitSpread
  simp only [engine_blind, db_blind, bankroll_blind, logSpreadSignals_blind, mk_blind,
    canQueueSpread_blind, rejectSpreadSubmission_blind, releaseReserved_blind,
    queueSpreadSubmissionOrders_blind, updateSpreadSignalMetrics_blind]
  split
  · rfl
  split
  · rfl
  split
  · rfl
  split
  · rfl
  split <;> rfl

@[simp]
theorem rejectOrder_blind (miss : MissedOrderContext) :
    state.blind.rejectOrder order context miss =
      ((state.rejectOrder order context miss).1, (state.rejectOrder order context miss).2.blind) :=
  rfl

@[simp]
theorem fillDueOrder_blind (book : TopOfBook) (freshnessMs : Option ℕ) (filledSize : ℚ) :
    state.blind.fillDueOrder order context book freshnessMs filledSize config =
      ((state.fillDueOrder order context book freshnessMs filledSize config).1,
        (state.fillDueOrder order context book freshnessMs filledSize config).2.blind) := by
  unfold fillDueOrder releaseSurplus
  dsimp only
  split <;> rfl

@[simp]
theorem processDueOrder_blind :
    state.blind.processDueOrder order context config =
      ((state.processDueOrder order context config).1,
        (state.processDueOrder order context config).2.blind) := by
  unfold processDueOrder
  simp only [rejectOrder_blind, fillDueOrder_blind]
  split
  · rfl
  split
  · rfl
  split
  · rfl
  split
  · rfl
  split
  · rfl
  split <;> rfl

end PaperState

namespace PaperDueOrders

/-- The loop over due orders with the outcomes of markets struck out. -/
def blind (due : PaperDueOrders) : PaperDueOrders :=
  { due with state := due.state.blind }

theorem step_blind (context : DueOrderContext) (config : Config) (due : PaperDueOrders)
    (order : PendingOrder) :
    due.blind.step context config order = (due.step context config order).blind := by
  have horder := due.state.processDueOrder_blind config order context
  have hstate : due.blind.state = due.state.blind := rfl
  unfold step
  rw [hstate, horder]
  rcases due.state.processDueOrder order context config with ⟨disposition, state⟩
  cases disposition <;> rfl

end PaperDueOrders

namespace PaperState

variable (state : PaperState) (config : Config)

theorem processDueOrders_blind (context : DueOrderContext) :
    state.blind.processDueOrders context config =
      ((state.processDueOrders context config).1,
        (state.processDueOrders context config).2.blind) := by
  let finish (due : PaperDueOrders) : List SimulatedTrade × PaperState :=
    (due.opened, ({ due.state with engine.pendingOrders := due.remaining } :
      PaperState).recordLeggingFailures due.groupOutcomes)
  let start : PaperDueOrders :=
    { state := { state with engine.pendingOrders := [] }, remaining := [], opened := [],
      groupOutcomes := [] }
  have hloop : state.engine.pendingOrders.foldl (PaperDueOrders.step context config) start.blind =
      (state.engine.pendingOrders.foldl (PaperDueOrders.step context config) start).blind :=
    foldl_hom PaperDueOrders.blind fun due order =>
      PaperDueOrders.step_blind context config due order
  exact congrArg finish hloop

variable (window : MarketWindow) (outcome : SignalDirection) (nowMs : ℕ)

theorem blind_upsertMarket (outcome : Option SignalDirection) :
    ({ state with db := state.db.upsertMarket window outcome } : PaperState).blind =
      { state.blind with db := state.blind.db.upsertMarket window none } := by
  simp [blind, ResultsDb.blind_upsertMarket]

theorem blind_closeMarketAndReclassifyReserve :
    (state.closeMarketAndReclassifyReserve window).blind =
      state.blind.closeMarketAndReclassifyReserve window := by
  have hclosed : ({ state with db := state.db.resolveMarket window.marketId .closed } :
      PaperState).blind =
        { state.blind with db := state.blind.db.resolveMarket window.marketId .closed } := by
    simp [blind, ResultsDb.resolveMarket, ResultsDb.blind_setMarketStatus]
  unfold closeMarketAndReclassifyReserve
  rw [← hclosed]
  exact (foldl_hom blind fun _ _ => rfl).symm

theorem settleTrade_blind (settled : List (SimulatedTrade × TradeResult) × PaperState)
    (trade : SimulatedTrade) :
    settleTrade window outcome config nowMs (settled.1, settled.2.blind) trade =
      ((settleTrade window outcome config nowMs settled trade).1,
        (settleTrade window outcome config nowMs settled trade).2.blind) := by
  unfold settleTrade
  split <;> rfl

/-- Settling a market gives the same results, and the same state but for what is written of the
market. -/
theorem resolveWindowWithOutcome_blind :
    (state.blind.resolveWindowWithOutcome window outcome config nowMs).1 =
        (state.resolveWindowWithOutcome window outcome config nowMs).1 ∧
      (state.blind.resolveWindowWithOutcome window outcome config nowMs).2.blind =
        (state.resolveWindowWithOutcome window outcome config nowMs).2.blind := by
  have hloop : ∀ settled : List (SimulatedTrade × TradeResult) × PaperState,
      (state.db.getOpenTradesForMarket window.marketId).foldl
          (settleTrade window outcome config nowMs) (settled.1, settled.2.blind) =
        (((state.db.getOpenTradesForMarket window.marketId).foldl
            (settleTrade window outcome config nowMs) settled).1,
          ((state.db.getOpenTradesForMarket window.marketId).foldl
            (settleTrade window outcome config nowMs) settled).2.blind) :=
    fun settled => foldl_hom (fun settled => (settled.1, settled.2.blind))
      fun settled trade => settleTrade_blind config window outcome nowMs settled trade
  have hstart := hloop ([], state)
  have htrades : state.blind.db.getOpenTradesForMarket window.marketId =
      state.db.getOpenTradesForMarket window.marketId := rfl
  unfold resolveWindowWithOutcome
  rw [htrades, hstart]
  refine ⟨rfl, ?_⟩
  simp only [blind, ResultsDb.resolveMarketWithOutcome, ResultsDb.blind_setMarketStatus,
    ResultsDb.blind_blind]

end PaperState

namespace StrategyCycle

variable (cycle : StrategyCycle) (input : StrategyCycleInput)

/-- A cycle with the outcomes of markets struck out. -/
def blind : StrategyCycle :=
  { cycle with paper := cycle.paper.blind }

theorem handleSingleCandidate_blind (signal : Signal) (family : StrategyFamily)
    (regime : PortfolioRegime) :
    cycle.blind.handleSingleCandidate input signal family regime =
      (cycle.handleSingleCandidate input signal family regime).blind := by
  unfold handleSingleCandidate PaperState.precheckSingleSubmission
  dsimp only [blind]
  rw [PaperState.canQueueOrder_blind, PaperState.submitSingle_blind]
  split
  · rfl
  · split <;> rfl

theorem handleBatchCandidate_blind (signals : List Signal) (family : StrategyFamily)
    (regime : PortfolioRegime) :
    cycle.blind.handleBatchCandidate input signals family regime =
      (cycle.handleBatchCandidate input signals family regime).blind := by
  unfold handleBatchCandidate
  dsimp only [blind]
  rw [PaperState.submitSpread_blind, PaperState.bankroll_blind]
  split <;> rfl

variable (selectedFamily : Option StrategyFamily) (regime : PortfolioRegime)

theorem handleCandidate_blind (candidate : EvaluatedCandidate) :
    handleCandidate input selectedFamily regime cycle.blind candidate =
      (handleCandidate input selectedFamily regime cycle candidate).blind := by
  unfold handleCandidate
  split
  · rfl
  · split
    · exact cycle.handleSingleCandidate_blind input _ _ _
    · exact cycle.handleBatchCandidate_blind input _ _ _
    · rfl
    · rfl

theorem foldl_handleCandidate_blind (candidates : List EvaluatedCandidate) :
    candidates.foldl (handleCandidate input selectedFamily regime) cycle.blind =
      (candidates.foldl (handleCandidate input selectedFamily regime) cycle).blind :=
  foldl_hom blind fun cycle candidate =>
    cycle.handleCandidate_blind input selectedFamily regime candidate

end StrategyCycle

theorem runStrategyCycle_blind {σ : Type} [FullStrategy σ] (input : StrategyCycleInput)
    (paper : PaperState) (rejectionTracker : StrategyRejectionTracker) (strategies : List σ) :
    runStrategyCycle input paper.blind rejectionTracker strategies =
      ((runStrategyCycle input paper rejectionTracker strategies).1.blind,
        (runStrategyCycle input paper rejectionTracker strategies).2) := by
  unfold runStrategyCycle
  rcases collectCandidates input rejectionTracker strategies with ⟨candidates, strategies, tracker⟩
  exact Prod.ext (StrategyCycle.foldl_handleCandidate_blind
    { paper, rejectionTracker := tracker, result := _ } input _ _ candidates) rfl

end BubaPaint
