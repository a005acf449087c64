import BubaPaint.Decision.TradingDesk
import BubaPaint.Replay.PaperOrders

/-!
# The execution engine as a trading desk

Seen without its ids, a simulated run in a paper mode decides what the desk decides. It reads its
positions from the results database, where a position counts until the row of its market says that
the market has ended.

Main results:

- Theorem `deskStep_refines`: a step of a simulated run is one of the desk.
-/

namespace BubaPaint

open Effects ResultsDb List TradingDesk

/-- The orders, the positions and the bankroll of a simulated run. -/
def PaperState.desk (state : PaperState) : TradingDesk where
  orders := state.engine.pendingOrders.map fun order => order.intent.terms
  positions := state.db.openTrades.map (·.deskPosition)
  bankroll := state.bankroll

/-- The database knows the markets that were opened, and the markets of its open trades. -/
structure PaperState.OnLedger (ends : String → ℕ) (opened : List String) (state : PaperState) :
    Prop where
  numbered : state.db.table.Numbered
  rows : ∀ marketId ∈ opened, ∃ row ∈ state.db.markets, row.marketId = marketId
  ends : ∀ row ∈ state.db.markets, row.endTime = ends row.marketId
  traded : ∀ trade ∈ state.db.openTrades, trade.marketId ∈ opened

/-- The outcomes were taken as well. -/
structure PaperState.AtRest (ends : String → ℕ) (opened : List String) (state : PaperState) :
    Prop extends state.OnLedger ends opened where
  drained : state.engine.recentOutcomes = []

namespace PaperState

variable {config : Config} {ends : String → ℕ} {opened : List String} {state : PaperState}

theorem OnLedger.of_same (h : state.OnLedger ends opened) {state' : PaperState}
    (htable : state'.db.table = state.db.table) (hmarkets : state'.db.markets = state.db.markets) :
    state'.OnLedger ends opened where
  numbered := htable ▸ h.numbered
  rows := hmarkets ▸ h.rows
  ends := hmarkets ▸ h.ends
  traded := by
    have hopen : state'.db.openTrades = state.db.openTrades := by
      unfold openTrades
      rw [htable]
    exact hopen ▸ h.traded

theorem unresolved_of_open (h : state.db.table.Numbered) {trade : SimulatedTrade}
    (htrade : trade ∈ state.db.openTrades) :
    (state.db.table.results.all fun entry => some entry.1 != trade.id) = true := by
  obtain ⟨hrow, hopen⟩ := mem_filter.mp htrade
  rw [all_eq_true]
  intro entry hentry
  apply bne_iff_ne.mpr
  intro hsame
  obtain ⟨row, hmem, hid, hclosed⟩ := h.resolved entry hentry
  have hrowEq : row = trade :=
    inj_on_of_nodup_map h.distinct hmem hrow (hid.trans hsame)
  rw [hrowEq, eq_of_beq hopen] at hclosed
  cases hclosed

theorem countQueueRelevantOpenTrades_desk (h : state.OnLedger ends opened) (nowMs : ℕ) :
    state.countQueueRelevantOpenTrades config nowMs = state.desk.counted config ends nowMs := by
  unfold countQueueRelevantOpenTrades counted desk
  split
  · simp [countOpenTrades]
  · rw [countP_map]
    apply countP_congr
    intro trade htrade
    rw [unresolved_of_open h.numbered htrade, Bool.and_true, any_eq_true]
    simp only [Bool.and_eq_true, beq_iff_eq, decide_eq_true_eq, Function.comp_apply,
      SimulatedTrade.deskPosition]
    constructor
    · rintro ⟨row, hrow, hmarket, hopen⟩
      rw [h.ends row hrow, hmarket] at hopen
      exact hopen
    · intro hopen
      obtain ⟨row, hrow, hmarket⟩ := h.rows _ (h.traded trade htrade)
      refine ⟨row, hrow, hmarket, ?_⟩
      rw [h.ends row hrow, hmarket]
      exact hopen

theorem getOpenTradesForMarket_eq (marketId : String) :
    state.db.getOpenTradesForMarket marketId =
      state.db.openTrades.filter fun trade => trade.marketId == marketId :=
  filter_filter.symm

variable (window : MarketWindow) (isBatch : Bool) (signal : Signal)

theorem any_getOpenTradesForMarket :
    ((state.db.getOpenTradesForMarket window.marketId).any fun trade =>
        trade.strategy == signal.strategy && (!isBatch || trade.side == signal.direction)) =
      state.desk.positions.any (DeskPosition.duplicates window isBatch signal) := by
  unfold desk
  rw [getOpenTradesForMarket_eq, any_filter, any_map]
  congr 1
  ext trade
  simp [DeskPosition.duplicates, SimulatedTrade.deskPosition, Bool.and_assoc]

theorem any_pendingOrders :
    (state.engine.pendingOrders.any fun order =>
        order.marketId == window.marketId && order.strategy == signal.strategy &&
          (!isBatch || order.side == signal.direction)) =
      state.desk.orders.any (QueuedOrderIntent.duplicates window isBatch signal) := by
  unfold desk
  rw [any_map]
  rfl

theorem canQueueOrder_desk (h : state.OnLedger ends opened) (config : Config) (signal : Signal)
    (window : MarketWindow) (isBatch : Bool) (requiredSlots nowMs : ℕ) :
    state.canQueueOrder signal window isBatch requiredSlots config nowMs =
      state.desk.queueRejection config ends [signal] window isBatch requiredSlots nowMs := by
  unfold canQueueOrder queueRejection
  rw [countQueueRelevantOpenTrades_desk h, any_getOpenTradesForMarket, any_pendingOrders]
  simp [desk]

theorem canQueueSpread_desk (h : state.OnLedger ends opened) (config : Config)
    (signals : List Signal) (window : MarketWindow) (nowMs : ℕ) :
    state.canQueueSpread signals window config nowMs =
      state.desk.queueRejection config ends signals window true 2 nowMs := by
  have hopen := fun signal => state.any_getOpenTradesForMarket window true signal
  have hpending := fun signal => state.any_pendingOrders window true signal
  simp only [Bool.not_true, Bool.false_or] at hopen hpending
  unfold canQueueSpread queueRejection
  rw [countQueueRelevantOpenTrades_desk h]
  simp only [hopen, hpending]
  simp [desk]

/-! ## Submissions -/

/-- A submission as the desk sees it, that leaves trades and markets alone. -/
structure SubmitsOnDesk (state : PaperState) (result : SubmissionOutcome × PaperState)
    (expected : SubmissionOutcome × TradingDesk) : Prop where
  desk : (result.1.terms, result.2.desk) = expected
  table : result.2.db.table = state.db.table
  markets : result.2.db.markets = state.db.markets
  outcomes : result.2.engine.recentOutcomes = state.engine.recentOutcomes

theorem SubmitsOnDesk.rejectSpread {state' : PaperState} {desk : TradingDesk}
    (hdesk : state'.desk = desk) (htable : state'.db.table = state.db.table)
    (hmarkets : state'.db.markets = state.db.markets)
    (houtcomes : state'.engine.recentOutcomes = state.engine.recentOutcomes)
    (signals : List Signal) (signalIds : List ℤ) (reason : String) :
    SubmitsOnDesk state (state'.rejectSpreadSubmission signals signalIds reason)
      (.rejected [] reason, desk) := by
  obtain ⟨signalMetrics, hmetrics⟩ := state'.exists_updateSpreadSignalMetrics_eq signals signalIds
    none "rejected" (some reason)
  unfold rejectSpreadSubmission
  rw [hmetrics, ← hdesk]
  exact ⟨rfl, htable, hmarkets, houtcomes⟩

theorem submitSingle_desk (h : state.OnLedger ends opened)
    (hmode : config.executionMode ≠ .liveTrading) (signal : Signal) (window : MarketWindow)
    (nowMs : ℕ) :
    SubmitsOnDesk state (state.submitSingle signal window config nowMs)
      (state.desk.submitSingle config ends signal window nowMs) := by
  unfold submitSingle TradingDesk.submitSingle precheckSingleSubmission
  dsimp only
  have hlogged : { state with
      db := (state.db.logSignalWithContext signal window.marketId (some signal.timestamp)
        (some (saturatingAdd signal.timestamp config.simOrderLatencyMs))).2 }.OnLedger ends
          opened := h.of_same rfl rfl
  have hqueue : _ = state.desk.queueRejection config ends [signal] window false 1 nowMs :=
    canQueueOrder_desk hlogged config signal window false 1 nowMs
  rw [hqueue]
  cases state.desk.queueRejection config ends [signal] window false 1 nowMs with
  | some reason => exact ⟨rfl, rfl, rfl, rfl⟩
  | none =>
    dsimp only
    have hbankroll : state.desk.bankroll = state.bankroll := rfl
    rw [hbankroll]
    generalize state.bankroll.reserveCapitalWithReservePrice _ _ _ _ _ _ _ = reserved
    split
    · exact ⟨rfl, rfl, rfl, rfl⟩
    cases submissionSizeRejectionReason reserved.1 (signalEntryAsk signal)
        (window.orderMinSize.getD 0) config.minBetUsd with
    | some reason => exact ⟨rfl, rfl, rfl, rfl⟩
    | none =>
      unfold queueSingleSubmission pushPendingOrder
      dsimp only
      rw [if_pos hmode]
      refine ⟨?_, rfl, rfl, rfl⟩
      refine Prod.ext rfl ?_
      exact congrArg (fun orders => TradingDesk.mk orders _ _) map_append

/-- A spread is submitted as on the desk. -/
theorem submitSpread_desk (h : state.OnLedger ends opened)
    (hmode : config.executionMode ≠ .liveTrading) {signals : List Signal}
    (hlegs : (spreadLegs signals).isSome) (window : MarketWindow) (nowMs : ℕ) :
    SubmitsOnDesk state (state.submitSpread signals window config nowMs)
      (state.desk.submitSpread config ends signals window nowMs) := by
  obtain ⟨⟨upSignal, downSignal⟩, hlegs⟩ := Option.isSome_iff_exists.mp hlegs
  obtain ⟨signalIds, rows, hlogged, hlength⟩ := state.exists_logSpreadSignals_eq window
    (spreadArrivalTs signals config nowMs) signals
  obtain ⟨upSignalId, downSignalId, hpair⟩ := exists_spreadSignalPair hlegs hlength
  unfold submitSpread TradingDesk.submitSpread
  rw [hlegs]
  dsimp only
  rw [hlogged]
  have hledger : { state with db := { state.db with signals := rows } }.OnLedger ends opened :=
    h.of_same rfl rfl
  have hqueue : _ = state.desk.queueRejection config ends signals window true 2 nowMs :=
    canQueueSpread_desk hledger config signals window nowMs
  rw [hpair, hqueue]
  cases state.desk.queueRejection config ends signals window true 2 nowMs with
  | some reason => refine .rejectSpread ?_ ?_ ?_ ?_ _ _ _ <;> rfl
  | none =>
    dsimp only
    split
    · refine .rejectSpread ?_ ?_ ?_ ?_ _ _ _ <;> rfl
    have hbankroll : state.desk.bankroll = state.bankroll := rfl
    rw [hbankroll]
    generalize state.bankroll.reserveSpreadCapital _ _ _ _ = reserved
    split
    · refine .rejectSpread ?_ ?_ ?_ ?_ _ _ _ <;> rfl
    cases spreadSubmissionRejectionReason reserved.1.1 reserved.1.2 upSignal.upAsk
        downSignal.downAsk (window.orderMinSize.getD 0) config.minBetUsd with
    | some reason => refine .rejectSpread ?_ ?_ ?_ ?_ _ _ _ <;> rfl
    | none =>
      obtain ⟨signalMetrics, hmetrics⟩ := exists_updateSpreadSignalMetrics_eq
        (queueSpreadSubmissionOrders
          { state with db := { state.db with signals := rows }, bankroll := reserved.2 }
          upSignal downSignal upSignalId downSignalId window
          (spreadArrivalTs signals config nowMs) reserved.1.1 reserved.1.2 config).2
        signals signalIds (some (spreadArrivalTs signals config nowMs)) "submitted" none
      rw [hmetrics]
      unfold queueSpreadSubmissionOrders pushPendingOrder
      dsimp only
      rw [if_pos hmode, if_pos hmode]
      obtain ⟨⟨hup, -⟩, ⟨hdown, -⟩, -⟩ := spreadSignalPair_spec hpair
      have hupToken : tokenIdForSignal upSignal window = window.upTokenId := by
        simp [tokenIdForSignal, hup]
      have hdownToken : tokenIdForSignal downSignal window = window.downTokenId := by
        simp [tokenIdForSignal, hdown]
      unfold orderTerms
      rw [hupToken, hdownToken]
      refine ⟨Prod.ext rfl ?_, rfl, rfl, rfl⟩
      refine congrArg (fun orders => TradingDesk.mk orders _ _) ?_
      rw [append_assoc]
      exact map_append

end PaperState

/-! ## Due orders -/

def RuntimeDecisionRequest.dueOrderContext (request : RuntimeDecisionRequest) :
    DueOrderContext where
  now := request.nowMs
  nowUs := request.nowUs
  currentWindow := some request.window
  bookState := request.bookState

variable {trade : SimulatedTrade} {opened : List String} {state : PaperState}

theorem ResultsDb.openTrades_openTrade {db : ResultsDb} (h : db.table.Numbered)
    (hid : trade.id = none) (hopen : trade.status = .open) :
    (db.openTrade trade).2.openTrades =
      db.openTrades ++ [{ trade with id := some (db.table.sequence + 1) }] := by
  have htrades : (db.openTrade trade).2.table.trades = _ := h.trades_openTrade hid
  unfold openTrades
  rw [htrades, filter_append]
  simp [hopen]

theorem PaperState.OnLedger.openTrade {ends : String → ℕ} (h : state.OnLedger ends opened)
    (hid : trade.id = none) (hopen : trade.status = .open) (hmarket : trade.marketId ∈ opened) :
    { state with db := (state.db.openTrade trade).2 }.OnLedger ends opened where
  numbered := h.numbered.openTrade hid
  rows := h.rows
  ends := h.ends
  traded := by
    rw [openTrades_openTrade h.numbered hid hopen]
    exact forall_mem_append.mpr ⟨h.traded, by simpa using hmarket⟩

theorem PaperState.fillDueOrder_desk {ends : String → ℕ} (h : state.OnLedger ends opened)
    {order : PendingOrder} (hmarket : order.marketId ∈ opened) (context : DueOrderContext)
    (book : TopOfBook) (freshnessMs : Option ℕ) (filledSize : ℚ) (config : Config) :
    let result := (state.fillDueOrder order context book freshnessMs filledSize config).2
    let desk :=
      if order.reservedCost > filledSize * book.bestAsk then
        state.desk.release (order.reservedCost - filledSize * book.bestAsk) order.strategy
      else state.desk
    result.desk =
        { desk with
          positions := desk.positions ++
            [{ marketId := order.marketId
               strategy := order.strategy
               side := order.side
               entryPrice := book.bestAsk
               size := filledSize }] } ∧
      result.OnLedger ends opened ∧
      result.engine.recentOutcomes = state.engine.recentOutcomes := by
  let trade := order.trade book.bestAsk filledSize context.now config.executionMode.asStr
  have hopened : { state with db := (state.db.openTrade trade).2 }.OnLedger ends opened :=
    h.openTrade rfl rfl hmarket
  have hpositions : (state.db.openTrade trade).2.openTrades.map (·.deskPosition) =
      state.db.openTrades.map (·.deskPosition) ++ [trade.deskPosition] := by
    rw [openTrades_openTrade h.numbered rfl rfl, map_append]
    rfl
  unfold fillDueOrder releaseSurplus
  dsimp only
  split
  · refine ⟨?_, hopened.of_same rfl rfl, rfl⟩
    exact congrArg (fun positions => TradingDesk.mk _ positions _) hpositions
  · refine ⟨?_, hopened.of_same rfl rfl, rfl⟩
    exact congrArg (fun positions => TradingDesk.mk _ positions _) hpositions

namespace PaperDueOrders

variable {ends : String → ℕ} {opened : List String}

def fills (due : PaperDueOrders) : DeskFills where
  desk := { due.state.desk with orders := due.remaining.map fun order => order.intent.terms }
  outcomes := due.state.engine.recentOutcomes.map (·.terms)

variable {request : RuntimeDecisionRequest} {due : PaperDueOrders}

/-- Each order is decided as on the desk. -/
theorem fills_step (config : Config) (h : due.state.OnLedger ends opened)
    (hwindow : request.window.marketId ∈ opened) (order : PendingOrder) :
    (due.step request.dueOrderContext config order).fills =
        DeskFills.take config request.window request.bookState request.nowMs due.fills
          order.intent.terms ∧
      (due.step request.dueOrderContext config order).state.OnLedger ends opened := by
  have hsame : order.verdict request.dueOrderContext config =
      orderVerdict config (some request.window) request.bookState request.nowMs
        order.intent.terms := rfl
  unfold step DeskFills.take
  rw [PaperState.processDueOrder_eq, hsame]
  cases hverdict : orderVerdict config (some request.window) request.bookState request.nowMs
      order.intent.terms with
  | deferred =>
    refine ⟨?_, h⟩
    simp only [fills, map_append]
    rfl
  | missed trackGroup reason book =>
    refine ⟨?_, h.of_same rfl rfl⟩
    simp only [fills, PaperState.rejectOrder, map_append]
    rfl
  | filled book filledSize =>
    obtain ⟨-, ⟨window, hcurrent, hmarket⟩, -⟩ := orderVerdict_filled hverdict
    cases hcurrent
    have hopened : order.marketId ∈ opened := by
      rw [← show request.window.marketId = order.marketId from hmarket]
      exact hwindow
    obtain ⟨hdesk, hledger, houtcomes⟩ := PaperState.fillDueOrder_desk h hopened
      request.dueOrderContext book (some (bookAgeMs request.nowMs book)) filledSize config
    refine ⟨?_, hledger.of_same rfl rfl⟩
    have houtcomes' : ∀ outcome : ProcessedOrderOutcome,
        ((due.state.fillDueOrder order request.dueOrderContext book
          (some (bookAgeMs request.nowMs book)) filledSize config).2.engine.recentOutcomes ++
            [outcome]).map (·.terms) =
          due.state.engine.recentOutcomes.map (·.terms) ++ [outcome.terms] := by
      intro outcome
      rw [houtcomes, map_append]
      rfl
    let queue (desk : TradingDesk) : TradingDesk :=
      { desk with orders := due.remaining.map fun order => order.intent.terms }
    dsimp only
    by_cases hsurplus : order.reservedCost > filledSize * book.bestAsk
    · have hterms : order.intent.terms.reservedCost > filledSize * book.bestAsk := hsurplus
      rw [if_pos hsurplus] at hdesk
      rw [if_pos hterms]
      exact congrArg₂ DeskFills.mk (congrArg queue hdesk) (houtcomes' _)
    · have hterms : ¬ order.intent.terms.reservedCost > filledSize * book.bestAsk := hsurplus
      rw [if_neg hsurplus] at hdesk
      rw [if_neg hterms]
      exact congrArg₂ DeskFills.mk (congrArg queue hdesk) (houtcomes' _)

theorem foldl_fills (config : Config) (hwindow : request.window.marketId ∈ opened)
    (orders : List PendingOrder) (h : due.state.OnLedger ends opened) :
    (orders.foldl (step request.dueOrderContext config) due).fills =
        (orders.map fun order => order.intent.terms).foldl
          (DeskFills.take config request.window request.bookState request.nowMs) due.fills ∧
      (orders.foldl (step request.dueOrderContext config) due).state.OnLedger ends opened := by
  induction orders generalizing due with
  | nil => exact ⟨rfl, h⟩
  | cons order rest ih =>
    obtain ⟨hfills, hledger⟩ := fills_step config h hwindow order
    rw [foldl_cons, map_cons, foldl_cons, ← hfills]
    exact ih hledger

end PaperDueOrders

namespace PaperState

variable {config : Config} {ends : String → ℕ} {opened : List String} {state : PaperState}

def fillDue (state : PaperState) (request : RuntimeDecisionRequest) (config : Config) :
    List ProcessedOrderOutcome × PaperState :=
  (state.processDueOrders request.dueOrderContext config).2.takeRecentOutcomes

theorem fillDue_desk (h : state.AtRest ends opened) {request : RuntimeDecisionRequest}
    (hwindow : request.window.marketId ∈ opened) (config : Config) :
    let result := state.fillDue request config
    (result.1.map (·.terms), result.2.desk) =
        state.desk.processDueOrders config request.window request.bookState request.nowMs ∧
      result.2.AtRest ends opened := by
  let start : PaperDueOrders :=
    { state := { state with engine.pendingOrders := [] }, remaining := [], opened := [],
      groupOutcomes := [] }
  have hstart : start.state.OnLedger ends opened := h.toOnLedger.of_same rfl rfl
  obtain ⟨hfills, hledger⟩ :=
    PaperDueOrders.foldl_fills config hwindow state.engine.pendingOrders hstart
  have hstartFills : start.fills =
      { desk := { state.desk with orders := [] }, outcomes := [] } := by
    have hdrained : start.state.engine.recentOutcomes = [] := h.drained
    unfold PaperDueOrders.fills
    rw [hdrained]
    rfl
  rw [hstartFills] at hfills
  unfold TradingDesk.processDueOrders
  have horders : state.desk.orders =
      state.engine.pendingOrders.map fun order => order.intent.terms := rfl
  rw [horders, ← hfills]
  exact ⟨rfl, hledger.of_same rfl rfl, rfl⟩

/-! ## Markets -/

theorem upsertMarket_onLedger (h : state.OnLedger ends opened) {window : MarketWindow}
    (hends : window.endTime = ends window.marketId) (outcome : Option SignalDirection) :
    { state with db := state.db.upsertMarket window outcome }.OnLedger ends
      (window.marketId :: opened) where
  numbered := h.numbered
  rows := by
    have hold : ∀ row ∈ state.db.markets, ∃ row' ∈ (state.db.upsertMarket window outcome).markets,
        row'.marketId = row.marketId := by
      intro row hrow
      unfold upsertMarket
      split
      · refine ⟨_, mem_map_of_mem hrow, ?_⟩
        unfold ResultsDb.MarketRow.refresh
        split <;> rfl
      · exact ⟨row, mem_append_left _ hrow, rfl⟩
    intro marketId hmarket
    rcases mem_cons.mp hmarket with rfl | hbefore
    · by_cases hknown : (state.db.markets.any fun row => row.marketId == window.marketId) = true
      · obtain ⟨row, hrow, hid⟩ := any_eq_true.mp hknown
        obtain ⟨row', hrow', hid'⟩ := hold row hrow
        exact ⟨row', hrow', hid'.trans (eq_of_beq hid)⟩
      · unfold upsertMarket
        rw [if_neg hknown]
        exact ⟨_, mem_append_right _ (mem_singleton_self _), rfl⟩
    · obtain ⟨row, hrow, hid⟩ := h.rows marketId hbefore
      obtain ⟨row', hrow', hid'⟩ := hold row hrow
      exact ⟨row', hrow', hid'.trans hid⟩
  ends := by
    dsimp only [upsertMarket]
    split
    · refine forall_mem_map.mpr fun row hrow => ?_
      unfold ResultsDb.MarketRow.refresh
      split
      · rename_i hmarket
        exact hends.trans (congrArg ends hmarket.symm)
      · exact h.ends row hrow
    · exact forall_mem_append.mpr ⟨h.ends, by simpa using hends⟩
  traded trade htrade := mem_cons_of_mem _ (h.traded trade htrade)

theorem setMarketStatus_onLedger (h : state.OnLedger ends opened) (marketId : String)
    (status : MarketStatus) (outcome : Option SignalDirection) :
    { state with db := state.db.setMarketStatus marketId status outcome }.OnLedger ends opened where
  numbered := h.numbered
  rows other hother := by
    obtain ⟨row, hrow, hmarket⟩ := h.rows other hother
    refine ⟨_, mem_map_of_mem hrow, ?_⟩
    split
    · exact hmarket
    · exact hmarket
  ends := by
    refine forall_mem_map.mpr fun row hrow => ?_
    split
    · exact h.ends row hrow
    · exact h.ends row hrow
  traded := h.traded

theorem positionsIn_desk (marketId : String) :
    state.desk.positionsIn marketId =
      (state.db.getOpenTradesForMarket marketId).map (·.deskPosition) := by
  unfold positionsIn desk
  rw [getOpenTradesForMarket_eq, filter_map]
  rfl

theorem foldl_reclassify (trades : List SimulatedTrade) (state : PaperState) :
    trades.foldl reclassify state =
      { state with
        bankroll :=
          (trades.map (·.deskPosition)).foldl TradingDesk.reclassify state.bankroll } := by
  induction trades generalizing state with
  | nil => rfl
  | cons trade rest ih => exact ih (reclassify state trade)

theorem closeMarketAndReclassifyReserve_desk (h : state.AtRest ends opened)
    (window : MarketWindow) :
    (state.closeMarketAndReclassifyReserve window).desk =
        state.desk.closeMarket window.marketId ∧
      (state.closeMarketAndReclassifyReserve window).AtRest ends opened := by
  have hclosed := setMarketStatus_onLedger h.toOnLedger window.marketId .closed none
  unfold closeMarketAndReclassifyReserve TradingDesk.closeMarket
  rw [foldl_reclassify, positionsIn_desk]
  exact ⟨rfl, hclosed.of_same rfl rfl, h.drained⟩

variable (window : MarketWindow) (outcome : SignalDirection)

theorem settleTrade_desk (config : Config) (nowMs : ℕ)
    (results : List (SimulatedTrade × TradeResult)) (h : state.db.table.Numbered)
    {trade : SimulatedTrade} (htrade : trade ∈ state.db.openTrades) :
    let next := (settleTrade window outcome config nowMs (results, state) trade).2
    next.bankroll =
        settle (resolveFeeParams config (some window) window.endTime) outcome
          state.bankroll trade.deskPosition ∧
      next.db.openTrades = state.db.openTrades.filter (fun row => row.id != trade.id) ∧
      next.db.table.Numbered ∧ next.db.markets = state.db.markets ∧
      next.engine = state.engine := by
  obtain ⟨hrow, hopen⟩ := mem_filter.mp htrade
  obtain ⟨tradeId, hid⟩ := Option.isSome_iff_exists.mp (h.identified trade hrow)
  unfold settleTrade
  rw [hid]
  exact ⟨rfl, openTrades_closeTrade h hrow (eq_of_beq hopen) hid _,
    h.closeTrade hrow (eq_of_beq hopen) hid _, rfl, rfl⟩

theorem foldl_settleTrade_desk (config : Config) (nowMs : ℕ) {trades : List SimulatedTrade}
    (results : List (SimulatedTrade × TradeResult)) (h : state.db.table.Numbered)
    (hopen : ∀ trade ∈ trades, trade ∈ state.db.openTrades)
    (hdistinct : (trades.map (·.id)).Nodup) :
    let last := (trades.foldl (settleTrade window outcome config nowMs) (results, state)).2
    last.bankroll = (trades.map (·.deskPosition)).foldl
        (settle (resolveFeeParams config (some window) window.endTime) outcome)
        state.bankroll ∧
      last.db.openTrades = state.db.openTrades.filter (fun row => row.id ∉ trades.map (·.id)) ∧
      last.db.table.Numbered ∧ last.db.markets = state.db.markets ∧
      last.engine = state.engine := by
  induction trades generalizing state results with
  | nil => exact ⟨rfl, by simp, h, rfl, rfl⟩
  | cons trade rest ih =>
    obtain ⟨htrade, hrest⟩ := forall_mem_cons.mp hopen
    obtain ⟨hnew, hdistinctRest⟩ := nodup_cons.mp hdistinct
    obtain ⟨hbankroll, hleft, hnumbered, hmarkets, hengine⟩ :=
      settleTrade_desk window outcome config nowMs results h htrade
    have hkept : ∀ other ∈ rest, other ∈
        (settleTrade window outcome config nowMs (results, state) trade).2.db.openTrades := by
      intro other hother
      rw [hleft]
      refine mem_filter.mpr ⟨hrest other hother, bne_iff_ne.mpr fun hsame => hnew ?_⟩
      exact mem_map.mpr ⟨other, hother, hsame⟩
    obtain ⟨hbankroll', hleft', hnumbered', hmarkets', hengine'⟩ :=
      ih (settleTrade window outcome config nowMs (results, state) trade).1 hnumbered hkept
        hdistinctRest
    refine ⟨?_, ?_, hnumbered', hmarkets'.trans hmarkets, hengine'.trans hengine⟩
    · rw [hbankroll] at hbankroll'
      exact hbankroll'
    · rw [hleft, filter_filter] at hleft'
      refine hleft'.trans (filter_congr fun row _ => ?_)
      rw [Bool.eq_iff_iff]
      simp [not_or, and_comm]

theorem filter_notMem_openTrades (h : state.db.table.Numbered) (marketId : String) :
    (state.db.openTrades.filter fun row =>
        row.id ∉ (state.db.getOpenTradesForMarket marketId).map (·.id)) =
      state.db.openTrades.filter fun row => row.marketId != marketId := by
  apply filter_congr
  intro row hrow
  rw [getOpenTradesForMarket_eq]
  by_cases hmarket : row.marketId = marketId
  · have hmem : row.id ∈ (state.db.openTrades.filter fun trade =>
        trade.marketId == marketId).map (·.id) :=
      mem_map.mpr ⟨row, mem_filter.mpr ⟨hrow, beq_iff_eq.mpr hmarket⟩, rfl⟩
    simp [hmem, hmarket]
  · have hnot : row.id ∉ (state.db.openTrades.filter fun trade =>
        trade.marketId == marketId).map (·.id) := by
      intro hmem
      obtain ⟨trade, htrade, hid⟩ := mem_map.mp hmem
      obtain ⟨htradeOpen, htradeMarket⟩ := mem_filter.mp htrade
      have hsame : trade = row := inj_on_of_nodup_map h.distinct
        (mem_filter.mp htradeOpen).1 (mem_filter.mp hrow).1 hid
      rw [hsame] at htradeMarket
      exact hmarket (eq_of_beq htradeMarket)
    simp [hnot, hmarket]

theorem resolveWindowWithOutcome_desk (h : state.AtRest ends opened) (window : MarketWindow)
    (outcome : SignalDirection) (config : Config) (nowMs : ℕ) :
    let resolved := (state.resolveWindowWithOutcome window outcome config nowMs).2
    resolved.desk = state.desk.resolveMarket window.marketId
        (resolveFeeParams config (some window) window.endTime) outcome ∧
      resolved.AtRest ends opened := by
  have hopen : ∀ trade ∈ state.db.getOpenTradesForMarket window.marketId,
      trade ∈ state.db.openTrades := by
    rw [getOpenTradesForMarket_eq]
    exact fun trade htrade => (mem_filter.mp htrade).1
  obtain ⟨hbankroll, hleft, hnumbered, hmarkets, hengine⟩ :=
    foldl_settleTrade_desk window outcome config nowMs [] h.numbered hopen
      (state.db.nodup_getOpenTradesForMarket h.numbered window.marketId)
  rw [filter_notMem_openTrades h.numbered] at hleft
  unfold resolveWindowWithOutcome
  generalize (state.db.getOpenTradesForMarket window.marketId).foldl
    (settleTrade window outcome config nowMs) ([], state) = settled at *
  have hsettled : settled.2.OnLedger ends opened :=
    { numbered := hnumbered
      rows := hmarkets ▸ h.rows
      ends := hmarkets ▸ h.ends
      traded := fun trade htrade => by
        rw [hleft] at htrade
        exact h.traded trade (mem_filter.mp htrade).1 }
  have hresolved := setMarketStatus_onLedger hsettled window.marketId .resolved (some outcome)
  refine ⟨?_, hresolved, ?_⟩
  · unfold TradingDesk.resolveMarket
    rw [positionsIn_desk]
    unfold desk
    have hpositions : settled.2.db.openTrades.map (·.deskPosition) =
        (state.db.openTrades.map (·.deskPosition)).filter fun position =>
          position.marketId != window.marketId := by
      rw [hleft, filter_map]
      rfl
    rw [← hpositions, ← hbankroll, ← hengine]
    rfl
  · exact (congrArg (·.recentOutcomes) hengine).trans h.drained

def deskReport (state : PaperState) (submission : Option SubmissionOutcome)
    (outcomes : List ProcessedOrderOutcome) : DeskReport where
  submission := submission.map (·.terms)
  outcomes := outcomes.map (·.terms)
  desk := state.desk

/-- Feed a simulated run with an input. -/
def deskStep (config : Config) (state : PaperState) : DeskInput → DeskReport × PaperState
  | .windowOpened window outcome _ =>
    let state := { state with db := state.db.upsertMarket window outcome }
    (state.deskReport none [], state)
  | .single signal request =>
    let (submission, state) := state.submitSingle signal request.window config request.nowMs
    (state.deskReport submission [], state)
  | .spread signals request =>
    let (submission, state) := state.submitSpread signals request.window config request.nowMs
    (state.deskReport submission [], state)
  | .booksMoved request =>
    let (outcomes, state) := state.fillDue request config
    (state.deskReport none outcomes, state)
  | .windowClosed window _ =>
    let state := state.closeMarketAndReclassifyReserve window
    (state.deskReport none [], state)
  | .outcomeKnown window outcome nowMs =>
    let state := (state.resolveWindowWithOutcome window outcome config nowMs).2
    (state.deskReport none [], state)

/-- Each step is one of the desk. -/
theorem deskStep_refines {ledger : MarketLedger} (h : state.AtRest ends ledger.opened)
    (hmode : config.executionMode ≠ .liveTrading) {input : DeskInput}
    (hinput : input.Allowed config ends ledger) :
    (state.deskStep config input).1 = (state.desk.step config ends input).1 ∧
      (state.deskStep config input).2.desk = (state.desk.step config ends input).2 ∧
      (state.deskStep config input).2.AtRest ends (ledger.next input).opened := by
  obtain ⟨-, hends, hallowed⟩ := hinput
  cases input with
  | windowOpened window outcome nowMs =>
    exact ⟨rfl, rfl, upsertMarket_onLedger h.toOnLedger hends outcome, h.drained⟩
  | single signal request =>
    obtain ⟨hdesk, htable, hmarkets, houtcomes⟩ :=
      submitSingle_desk h.toOnLedger hmode signal request.window request.nowMs
    unfold step
    dsimp only [deskStep]
    rw [← hdesk]
    exact ⟨rfl, rfl, h.toOnLedger.of_same htable hmarkets, houtcomes.trans h.drained⟩
  | spread signals request =>
    obtain ⟨hdesk, htable, hmarkets, houtcomes⟩ :=
      submitSpread_desk h.toOnLedger hmode hallowed.2 request.window request.nowMs
    unfold step
    dsimp only [deskStep]
    rw [← hdesk]
    exact ⟨rfl, rfl, h.toOnLedger.of_same htable hmarkets, houtcomes.trans h.drained⟩
  | booksMoved request =>
    obtain ⟨hdesk, hrest⟩ := fillDue_desk h hallowed config
    unfold step
    dsimp only [deskStep]
    rw [← hdesk]
    exact ⟨rfl, rfl, hrest⟩
  | windowClosed window nowMs =>
    obtain ⟨hdesk, hrest⟩ := closeMarketAndReclassifyReserve_desk h window
    unfold step
    dsimp only [deskStep, deskReport]
    rw [← hdesk]
    exact ⟨rfl, rfl, hrest⟩
  | outcomeKnown window outcome nowMs =>
    obtain ⟨hdesk, hrest⟩ := resolveWindowWithOutcome_desk h window outcome config nowMs
    unfold step
    dsimp only [deskStep, deskReport]
    rw [← hdesk]
    exact ⟨rfl, rfl, hrest⟩

end PaperState

end BubaPaint
