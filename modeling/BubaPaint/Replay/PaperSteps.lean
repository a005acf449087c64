import BubaPaint.Replay.ExecutionEngine

/-!
# What the execution engine does to the books

The books of a simulated run are its queued orders, its reserves, the table of its trades and the
rows of its markets. A submission queues orders whose cost it reserves, or leaves the books as they
are but for a reservation that is given back. A due order is kept, missed or filled.
-/

namespace BubaPaint

/-- The orders, reserves, trades and markets of a simulated run. -/
structure PaperBooks where
  pendingOrders : List PendingOrder
  reserves : Reserves
  table : TradesTable
  markets : List MarketRow

def PaperState.books (state : PaperState) : PaperBooks where
  pendingOrders := state.engine.pendingOrders
  reserves := state.bankroll.toReserves
  table := state.db.table
  markets := state.db.markets

/-- An order of one market that was reserved for in full. -/
structure PendingOrder.Queued (order : PendingOrder) (marketId : String)
    (family : StrategyFamily) : Prop where
  market : order.marketId = marketId
  labelled : familyForStrategy order.strategy = family
  size : 0 < order.requestedSize
  limit : 0 < order.limitPrice
  cost : order.reservedCost = order.requestedSize * order.limitPrice

/-- What a submission does. -/
inductive SubmitStep (marketId : String) (family : StrategyFamily) (books : PaperBooks) :
    PaperBooks → Prop
  | passed : SubmitStep marketId family books books
  | probed (amount : ℚ) (hamount : 0 < amount) :
      SubmitStep marketId family books
        { books with
          reserves := (books.reserves.addReserved family amount).releaseFromFamilyBuckets amount
            family }
  | queued (orders : List PendingOrder) (hqueued : ∀ order ∈ orders, order.Queued marketId family) :
      SubmitStep marketId family books
        { books with
          pendingOrders := books.pendingOrders ++ orders
          reserves := books.reserves.addReserved family (orders.map (·.reservedCost)).sum }

/-- What becomes of one order. -/
inductive PaperDueStep (context : DueOrderContext) (mode : ExecutionMode) (order : PendingOrder)
    (books : PaperBooks) : PaperBooks → Prop
  | deferred :
      PaperDueStep context mode order books
        { books with pendingOrders := books.pendingOrders ++ [order] }
  | missed :
      PaperDueStep context mode order books
        { books with
          reserves := books.reserves.releaseFromFamilyBuckets order.reservedCost
            (familyForStrategy order.strategy) }
  | filled (window : MarketWindow) (price size : ℚ) (hwindow : context.currentWindow = some window)
      (hmarket : window.marketId = order.marketId)
      (hprice : 0 < price ∧ price ≤ order.limitPrice)
      (hsize : 0 < size ∧ size ≤ order.requestedSize) :
      PaperDueStep context mode order books
        { books with
          reserves :=
            if order.reservedCost > size * price then
              books.reserves.releaseFromFamilyBuckets (order.reservedCost - size * price)
                (familyForStrategy order.strategy)
            else books.reserves
          table := books.table.openTrade (order.trade price size context.now mode.asStr) }

/-- Orders one after the other. -/
inductive PaperDueRun (context : DueOrderContext) (mode : ExecutionMode) :
    List PendingOrder → PaperBooks → PaperBooks → Prop
  | nil (books : PaperBooks) : PaperDueRun context mode [] books books
  | cons {order : PendingOrder} {rest : List PendingOrder} {books books' books'' : PaperBooks}
      (hstep : PaperDueStep context mode order books books')
      (hrun : PaperDueRun context mode rest books' books'') :
      PaperDueRun context mode (order :: rest) books books''

namespace PaperState

variable (state : PaperState) {config : Config}
variable (signals : List Signal) (signalIds : List ℤ) (order : PendingOrder)
variable (context : DueOrderContext)

theorem books_pushPendingOrder (hmode : config.executionMode ≠ .liveTrading) :
    (state.pushPendingOrder order config).books =
      { state.books with pendingOrders := state.books.pendingOrders ++ [order] } := by
  unfold pushPendingOrder
  rw [if_pos hmode]
  rfl

@[simp]
theorem books_rejectSingleSubmission (signalId : ℤ) (reason : String) :
    (state.rejectSingleSubmission signalId reason).2.books = state.books :=
  rfl

@[simp]
theorem books_updateSpreadSignalMetrics (arrivalTs : Option ℕ) (decisionStatus : String)
    (rejectionReason : Option String) :
    (state.updateSpreadSignalMetrics signals signalIds arrivalTs decisionStatus
      rejectionReason).books = state.books := by
  obtain ⟨signalMetrics, hmetrics⟩ := state.exists_updateSpreadSignalMetrics_eq signals signalIds
    arrivalTs decisionStatus rejectionReason
  rw [hmetrics]
  rfl

@[simp]
theorem books_rejectSpreadSubmission (reason : String) :
    (state.rejectSpreadSubmission signals signalIds reason).2.books = state.books :=
  state.books_updateSpreadSignalMetrics _ _ _ _ _

theorem logSpreadSignals_spec (window : MarketWindow) (arrivalTs : ℕ) (signals : List Signal) :
    (state.logSpreadSignals window arrivalTs signals).2.books = state.books ∧
      (state.logSpreadSignals window arrivalTs signals).2.bankroll = state.bankroll := by
  obtain ⟨signalIds, rows, hlogged, _⟩ := state.exists_logSpreadSignals_eq window arrivalTs signals
  rw [hlogged]
  exact ⟨rfl, rfl⟩

/-! ## Submissions -/

theorem submitStep_queued {marketId : String} {family : StrategyFamily} {books : PaperBooks}
    {amount : ℚ} (orders : List PendingOrder) (hamount : amount = (orders.map (·.reservedCost)).sum)
    (hqueued : ∀ order ∈ orders, order.Queued marketId family) :
    SubmitStep marketId family books
      { books with
        pendingOrders := books.pendingOrders ++ orders
        reserves := books.reserves.addReserved family amount } := by
  rw [hamount]
  exact .queued orders hqueued

section Simulated

variable (hmode : config.executionMode ≠ .liveTrading)

include hmode

theorem books_queueSingleSubmission (signal : Signal) (signalId : ℤ) (window : MarketWindow)
    (requestedPrice limitPrice requestedSize : ℚ) :
    (state.queueSingleSubmission signal signalId window requestedPrice limitPrice requestedSize
        config).2.books =
      { state.books with
        pendingOrders := state.books.pendingOrders ++
          [singleOrder signal signalId window requestedPrice limitPrice requestedSize config] } :=
  books_pushPendingOrder _ _ hmode

theorem books_queueSpreadSubmissionOrders (upSignal downSignal : Signal)
    (upSignalId downSignalId : ℤ) (window : MarketWindow) (arrivalTs : ℕ) (upTokens downTokens : ℚ)
    :
    (state.queueSpreadSubmissionOrders upSignal downSignal upSignalId downSignalId window arrivalTs
        upTokens downTokens config).2.books =
      { state.books with
        pendingOrders := state.books.pendingOrders ++
          [spreadOrder upSignal upSignalId window.marketId window.upTokenId arrivalTs
              (some s!"spread-{state.engine.nextGroupId}") upTokens,
            spreadOrder downSignal downSignalId window.marketId window.downTokenId arrivalTs
              (some s!"spread-{state.engine.nextGroupId}") downTokens] } := by
  unfold queueSpreadSubmissionOrders
  rw [books_pushPendingOrder _ _ hmode, books_pushPendingOrder _ _ hmode]
  simp [books, recordSubmittedOrder]

/-- Submitting one order is a step of the books. -/
theorem submitSingle_step (signal : Signal) (window : MarketWindow) (nowMs : ℕ) :
    SubmitStep window.marketId (familyForStrategy signal.strategy) state.books
      (state.submitSingle signal window config nowMs).2.books := by
  unfold submitSingle
  dsimp only
  split
  · exact .passed
  have hspec := state.bankroll.reserveCapitalWithReservePrice_spec (signalEntryAsk signal)
    (singleOrderLimitPrice signal config) signal.confidence signal.strategy
    (familyForStrategy signal.strategy) config nowMs
  generalize state.bankroll.reserveCapitalWithReservePrice _ _ _ _ _ _ _ = result at hspec ⊢
  rcases result with ⟨requestedSize, bankroll⟩
  rcases hspec with ⟨hnone, hsame⟩ | ⟨hsize, -, hlimit, hreserved⟩
  · rw [if_pos hnone.le, books_rejectSingleSubmission]
    unfold books
    rw [hsame]
    exact .passed
  rw [if_neg (not_le.mpr hsize)]
  have hcost : 0 < requestedSize * singleOrderLimitPrice signal config := mul_pos hsize hlimit
  split
  · rw [books_rejectSingleSubmission]
    unfold books releaseReserved
    rw [BankrollManager.toReserves_releaseReservedForStrategy, hreserved]
    exact .probed _ hcost
  · generalize (state.db.logSignalWithContext signal window.marketId _ _).1 = signalId
    rw [books_queueSingleSubmission _ hmode]
    unfold books
    rw [hreserved]
    refine submitStep_queued [_] ?_ ?_
    · simp [singleOrder]
    · intro order horder
      rw [List.mem_singleton.mp horder]
      exact ⟨rfl, rfl, hsize, hlimit, rfl⟩

/-- Submitting a spread is a step of the books. -/
theorem submitSpread_step {signals : List Signal}
    (hlabel : ∀ signal ∈ signals, familyForStrategy signal.strategy = .spreadCapture)
    (window : MarketWindow) (nowMs : ℕ) :
    SubmitStep window.marketId .spreadCapture state.books
      (state.submitSpread signals window config nowMs).2.books := by
  unfold submitSpread
  dsimp only
  obtain ⟨hbooks, hbankroll⟩ :=
    state.logSpreadSignals_spec window (spreadArrivalTs signals config nowMs) signals
  generalize state.logSpreadSignals window (spreadArrivalTs signals config nowMs) signals =
    logged at hbooks hbankroll ⊢
  rcases logged with ⟨signalIds, logged⟩
  rw [← hbooks]
  split
  · rw [books_rejectSpreadSubmission]
    exact .passed
  cases hpair : spreadSignalPair signals signalIds with
  | none => exact .passed
  | some legs =>
    rcases legs with ⟨upSignal, downSignal, upSignalId, downSignalId⟩
    obtain ⟨⟨hup, hupId⟩, ⟨hdown, hdownId⟩, -⟩ := spreadSignalPair_spec hpair
    have hupLabel := hlabel _ (List.of_mem_zip hupId).1
    have hdownLabel := hlabel _ (List.of_mem_zip hdownId).1
    have hupEntry : signalEntryAsk upSignal = upSignal.upAsk := by
      simp [signalEntryAsk, hup]
    have hdownEntry : signalEntryAsk downSignal = downSignal.downAsk := by
      simp [signalEntryAsk, hdown]
    dsimp only
    split
    · rw [books_rejectSpreadSubmission]
      exact .passed
    have hspec := logged.bankroll.reserveSpreadCapital_spec upSignal.upAsk downSignal.downAsk
      config nowMs
    generalize logged.bankroll.reserveSpreadCapital _ _ _ _ = result at hspec ⊢
    rcases result with ⟨⟨upTokens, downTokens⟩, bankroll⟩
    rcases hspec with ⟨hnone, hsame⟩ | ⟨pairUnits, htokens, hunits, hupAsk, hdownAsk, hreserved⟩
    · cases hnone
      rw [if_pos (.inl le_rfl), books_rejectSpreadSubmission]
      unfold books
      rw [hsame]
      exact .passed
    cases htokens
    rw [if_neg (by simp [hunits])]
    split
    · rw [books_rejectSpreadSubmission]
      unfold books releaseReserved
      rw [BankrollManager.toReserves_releaseReservedForStrategy, hreserved, hupLabel, mul_add]
      exact .probed _ (add_pos (mul_pos hunits hupAsk) (mul_pos hunits hdownAsk))
    · rw [books_updateSpreadSignalMetrics, books_queueSpreadSubmissionOrders _ hmode]
      unfold books
      rw [hreserved]
      have hupLimit : 0 < signalEntryAsk upSignal := by rwa [hupEntry]
      have hdownLimit : 0 < signalEntryAsk downSignal := by rwa [hdownEntry]
      refine submitStep_queued [_, _] ?_ ?_
      · simp [spreadOrder, hupEntry, hdownEntry, mul_add]
      · intro order horder
        rcases List.mem_pair.mp horder with rfl | rfl
        · exact ⟨rfl, hupLabel, hunits, hupLimit, rfl⟩
        · exact ⟨rfl, hdownLabel, hunits, hdownLimit, rfl⟩

end Simulated

/-! ## Due orders -/

theorem books_fillDueOrder (book : TopOfBook) (freshnessMs : Option ℕ) (filledSize : ℚ) :
    (state.fillDueOrder order context book freshnessMs filledSize config).2.books =
      { state.books with
        reserves :=
          if order.reservedCost > filledSize * book.bestAsk then
            state.books.reserves.releaseFromFamilyBuckets
              (order.reservedCost - filledSize * book.bestAsk) (familyForStrategy order.strategy)
          else state.books.reserves
        table := state.books.table.openTrade
          (order.trade book.bestAsk filledSize context.now config.executionMode.asStr) } := by
  unfold fillDueOrder releaseSurplus
  dsimp only
  split <;> rfl

theorem processDueOrder_cases (config : Config) :
    state.processDueOrder order context config = (.deferred order, state) ∨
      (∃ miss, state.processDueOrder order context config =
        state.rejectOrder order context miss) ∨
      ∃ window book freshnessMs,
        state.processDueOrder order context config =
            state.fillDueOrder order context book freshnessMs
              (min order.requestedSize book.askSize) config ∧
          context.currentWindow = some window ∧ window.marketId = order.marketId ∧
          0 < book.bestAsk ∧ book.bestAsk ≤ order.limitPrice ∧
          0 < min order.requestedSize book.askSize := by
  unfold processDueOrder
  by_cases harrived : order.arrivalTs > context.now
  · rw [if_pos harrived]
    exact .inl rfl
  rw [if_neg harrived]
  cases hwindow : context.currentWindow.filter fun window => window.marketId == order.marketId with
  | none => exact .inr (.inl ⟨_, rfl⟩)
  | some window =>
    have hcurrent := Option.filter_eq_some_iff.mp hwindow
    cases sideBook context.bookState order.side with
    | none => exact .inr (.inl ⟨_, rfl⟩)
    | some book =>
      dsimp only
      cases hbook : bookFillRejectionReason book context.now order.limitPrice
          config.maxBookStalenessMs with
      | some reason => exact .inr (.inl ⟨_, rfl⟩)
      | none =>
        dsimp only
        split
        · exact .inr (.inl ⟨_, rfl⟩)
        split
        · exact .inr (.inl ⟨_, rfl⟩)
        · rename_i hsize
          have hask := ask_of_bookFillRejectionReason_eq_none hbook
          have hfilled := pos_of_fillSizeRejected_eq_false (Bool.not_eq_true _ ▸ hsize)
          exact .inr (.inr ⟨window, book, _, rfl, hcurrent.1, by simpa using hcurrent.2,
            hask.1, hask.2, hfilled⟩)

end PaperState

namespace PaperDueOrders

variable (context : DueOrderContext) (config : Config)

/-- The books in the middle of the loop, with the orders kept so far. -/
def books (due : PaperDueOrders) : PaperBooks :=
  { due.state.books with pendingOrders := due.remaining }

theorem books_step (due : PaperDueOrders) (order : PendingOrder) :
    PaperDueStep context config.executionMode order due.books
      (due.step context config order).books := by
  unfold step
  rcases due.state.processDueOrder_cases order context config with
    hkept | ⟨miss, hmissed⟩ | ⟨window, book, freshnessMs, hfilled, hwindow, hmarket, hprice⟩
  · rw [hkept]
    exact .deferred
  · rw [hmissed]
    exact .missed
  · rw [hfilled]
    show PaperDueStep context config.executionMode order due.books
      { (due.state.fillDueOrder order context book freshnessMs
          (min order.requestedSize book.askSize) config).2.books with
        pendingOrders := due.remaining }
    rw [PaperState.books_fillDueOrder]
    exact .filled window book.bestAsk _ hwindow hmarket ⟨hprice.1, hprice.2.1⟩
      ⟨hprice.2.2, min_le_left _ _⟩

theorem foldl_run (orders : List PendingOrder) (due : PaperDueOrders) :
    PaperDueRun context config.executionMode orders due.books
      (orders.foldl (step context config) due).books := by
  induction orders generalizing due with
  | nil => exact .nil _
  | cons order rest ih => exact .cons (due.books_step context config order) (ih _)

end PaperDueOrders

namespace PaperState

/-- The due orders are steps of the books one after the other. -/
theorem processDueOrders_run (state : PaperState) (context : DueOrderContext) (config : Config) :
    PaperDueRun context config.executionMode state.engine.pendingOrders
      { state.books with pendingOrders := [] }
      (state.processDueOrders context config).2.books :=
  PaperDueOrders.foldl_run context config state.engine.pendingOrders
    { state := { state with engine.pendingOrders := [] }, remaining := [], opened := [],
      groupOutcomes := [] }

end PaperState

end BubaPaint
