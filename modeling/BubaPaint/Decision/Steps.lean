import BubaPaint.Decision.Charges
import BubaPaint.Decision.Engine

/-!
# What a decision pass does to the books

The books of an engine are its orders, its trades, its reserves and the next ids. A decision pass is
a run of due orders, each missed or filled, followed by a run of candidates, each of which queues
orders or leaves the books as they are but for the ids and a reservation that is given back. Every
invariant of the engine is derived from these steps.

Main results:

- Theorem `evaluate_run`: a decision pass is a run of due orders and of candidates.
-/

namespace BubaPaint

open List RuntimeDecisionEngine

/-- The orders, trades and reserves of an engine with the ids it hands out next. -/
structure Books where
  pendingOrders : List RuntimePendingOrder
  openTrades : List OpenRuntimeTrade
  reserves : Reserves
  nextSignalId : ℤ
  nextTradeId : ℤ

namespace Books

def signalIds (books : Books) (count : ℕ) : List ℤ :=
  List.iterate nextNegativeId books.nextSignalId count

def advance (books : Books) (count : ℕ) : Books :=
  { books with nextSignalId := nextNegativeId^[count] books.nextSignalId }

end Books

def RuntimeDecisionEngine.books {σ : Type} (engine : RuntimeDecisionEngine σ) : Books where
  pendingOrders := engine.pendingOrders
  openTrades := engine.exposure.openTrades
  reserves := engine.bankroll.toReserves
  nextSignalId := engine.nextSignalId
  nextTradeId := engine.nextTradeId

def LivePersistenceEvent.isTrade : LivePersistenceEvent → Bool
  | .openTrade _ | .closeTrade .. => true
  | _ => false

/-- The reserves after an order was filled for less than it has reserved. -/
def Reserves.releaseUnspent (reserves : Reserves) (order : RuntimePendingOrder) (fillCost : ℚ) :
    Reserves :=
  if order.reservedCost > fillCost then
    reserves.releaseFromFamilyBuckets (order.reservedCost - fillCost)
      (familyForStrategy order.strategy)
  else
    reserves

/-- One due order is missed, or filled for no more than its limit. -/
inductive DueStep (request : RuntimeDecisionRequest) (mode : ExecutionMode) (books : Books) :
    List LivePersistenceEvent → Books → Prop
  | missed (before after : List RuntimePendingOrder) (order : RuntimePendingOrder)
      (event : LivePersistenceEvent) (hpending : books.pendingOrders = before ++ order :: after)
      (harrived : order.arrivalTs ≤ request.nowMs) (hevent : event.isTrade = false) :
      DueStep request mode books [event]
        { books with
          pendingOrders := before ++ after
          reserves := books.reserves.releaseFromFamilyBuckets order.reservedCost
            (familyForStrategy order.strategy) }
  | filled (before after : List RuntimePendingOrder) (order : RuntimePendingOrder)
      (event : LivePersistenceEvent) (price size : ℚ) (trade : SimulatedTrade)
      (hpending : books.pendingOrders = before ++ order :: after)
      (harrived : order.arrivalTs ≤ request.nowMs) (hevent : event.isTrade = false)
      (hmarket : order.marketId = request.window.marketId)
      (hprice : 0 < price ∧ price ≤ order.limitPrice)
      (hsize : 0 < size ∧ size ≤ order.requestedSize)
      (htrade : trade = buildTrade order books.nextTradeId price size request.nowMs mode.asStr) :
      DueStep request mode books [event, .openTrade trade]
        { books with
          pendingOrders := before ++ after
          openTrades := books.openTrades ++
            [{ trade := trade, marketEndTime := request.window.endTime,
               pendingSettlement := false }]
          reserves := books.reserves.releaseUnspent order (size * price)
          nextTradeId := nextNegativeId books.nextTradeId }

/-- Due orders one after the other. -/
inductive DueRun (request : RuntimeDecisionRequest) (mode : ExecutionMode) :
    Books → List LivePersistenceEvent → Books → Prop
  | nil (books : Books) : DueRun request mode books [] books
  | cons {events events' : List LivePersistenceEvent} {books books' books'' : Books}
      (hstep : DueStep request mode books events books')
      (hrun : DueRun request mode books' events' books'') :
      DueRun request mode books (events ++ events') books''

section Candidates

variable (label : StrategyFamily → String → Prop) (request : RuntimeDecisionRequest)

/-- What was checked of an order before it was queued. -/
structure Queueable (family : StrategyFamily) (order : RuntimePendingOrder) : Prop where
  labelled : label family order.strategy
  market : order.marketId = request.window.marketId
  ends : order.marketEndTime = request.window.endTime
  size : 0 < order.requestedSize
  limit : 0 < order.limitPrice
  cost : order.reservedCost = order.requestedSize * order.limitPrice

/-- What a submission does under the signal ids it was given. -/
inductive QueueStep (signalIds : List ℤ) (books : Books) :
    List LivePersistenceEvent → List RuntimePendingOrder → Books → Prop
  | passed (events : List LivePersistenceEvent) (hevents : ∀ event ∈ events, event.isTrade =
    false) :
      QueueStep signalIds books events [] books
  | probed (events : List LivePersistenceEvent) (family : StrategyFamily) (strategy : String)
      (amount : ℚ) (books' : Books) (hevents : ∀ event ∈ events, event.isTrade = false)
      (hlabel : label family strategy) (hamount : 0 < amount)
      (hbooks : books' =
        { books with
          reserves := (books.reserves.addReserved family amount).releaseFromFamilyBuckets amount
            (familyForStrategy strategy) }) :
      QueueStep signalIds books events [] books'
  | queued (events : List LivePersistenceEvent) (family : StrategyFamily)
      (orders : List RuntimePendingOrder) (books' : Books)
      (hevents : ∀ event ∈ events, event.isTrade = false)
      (hids : List.Subperm (orders.map (·.signalId)) signalIds)
      (hqueueable : ∀ order ∈ orders, Queueable label request family order)
      (hsignals : ∀ order ∈ orders, ∃ evidence : LiveDecisionEvidence,
        .signal evidence ∈ events ∧ evidence.signalId = order.signalId)
      (hbooks : books' =
        { books with
          pendingOrders := books.pendingOrders ++ orders
          reserves := books.reserves.addReserved family (orders.map (·.reservedCost)).sum }) :
      QueueStep signalIds books events orders books'

/-- Whatever is emitted, nothing is queued between two books. -/
def Unqueued (signalIds : List ℤ) (books books' : Books) : Prop :=
  ∀ events : List LivePersistenceEvent, (∀ event ∈ events, event.isTrade = false) →
    QueueStep label request signalIds books events [] books'

/-- What one candidate does: it draws signal ids and submits under them. -/
def CandidateStep (books : Books) (events : List LivePersistenceEvent)
    (orders : List RuntimePendingOrder) (books' : Books) : Prop :=
  ∃ count, QueueStep label request (books.signalIds count) (books.advance count) events orders
    books'

/-- Candidates one after the other. -/
inductive CandidateRun :
    Books → List LivePersistenceEvent → List RuntimePendingOrder → Books → Prop
  | nil (books : Books) : CandidateRun books [] [] books
  | cons {events events' : List LivePersistenceEvent} {orders orders' : List RuntimePendingOrder}
      {books books' books'' : Books}
      (hstep : CandidateStep label request books events orders books')
      (hrun : CandidateRun books' events' orders' books'') :
      CandidateRun books (events ++ events') (orders ++ orders') books''

variable {label request}

theorem unqueued_self (signalIds : List ℤ) (books : Books) :
    Unqueued label request signalIds books books :=
  fun events hevents => .passed events hevents

end Candidates

/-! ## Due orders -/

namespace RuntimeDecisionEngine

variable {σ : Type} (engine : RuntimeDecisionEngine σ)
variable (order : RuntimePendingOrder)

theorem releaseUnspent_eq (fillCost : ℚ) :
    engine.releaseUnspent order fillCost =
      { engine with bankroll :=
          { engine.bankroll with
            toReserves := engine.bankroll.toReserves.releaseUnspent order fillCost } } := by
  unfold releaseUnspent Reserves.releaseUnspent
  split <;> rfl

@[simp]
theorem books_releaseReserved (amount : ℚ) (strategy : String) :
    (engine.releaseReserved amount strategy).books =
      { engine.books with
        reserves := engine.books.reserves.releaseFromFamilyBuckets amount
          (familyForStrategy strategy) } :=
  rfl

@[simp]
theorem books_recordSubmittedOrder : (engine.recordSubmittedOrder order).books = engine.books :=
  rfl

@[simp]
theorem books_pushPendingOrder :
    (engine.pushPendingOrder order).books =
      { engine.books with pendingOrders := engine.books.pendingOrders ++ [order] } :=
  rfl

@[simp]
theorem books_recordRejection (marketId strategy : String) (reason : StrategyRejectionReason) :
    (engine.recordRejection marketId strategy reason).books = engine.books :=
  rfl

theorem processDueOrder_cases (request : RuntimeDecisionRequest) :
    engine.processDueOrder order request = (.deferred order, engine) ∨
      (order.arrivalTs ≤ request.nowMs ∧
        ∃ miss, engine.processDueOrder order request = engine.rejectOrder order request miss) ∨
      ∃ book freshnessMs,
        engine.processDueOrder order request = engine.fillOrder order request book freshnessMs
            (min order.requestedSize book.askSize) ∧
          order.arrivalTs ≤ request.nowMs ∧ order.marketId = request.window.marketId ∧
          0 < book.bestAsk ∧ book.bestAsk ≤ order.limitPrice ∧
          0 < min order.requestedSize book.askSize := by
  unfold processDueOrder
  by_cases harrived : order.arrivalTs > request.nowMs
  · rw [if_pos harrived]
    exact .inl rfl
  rw [if_neg harrived]
  have harrived := not_lt.mp harrived
  by_cases hmarket : request.window.marketId ≠ order.marketId
  · rw [if_pos hmarket]
    exact .inr (.inl ⟨harrived, _, rfl⟩)
  rw [if_neg hmarket]
  cases sideBook request.bookState order.side with
  | none => exact .inr (.inl ⟨harrived, _, rfl⟩)
  | some book =>
    dsimp only
    cases hbook : bookFillRejectionReason book request.nowMs order.limitPrice
        engine.config.maxBookStalenessMs with
    | some reason => exact .inr (.inl ⟨harrived, _, rfl⟩)
    | none =>
      dsimp only
      split
      · exact .inr (.inl ⟨harrived, _, rfl⟩)
      split
      · exact .inr (.inl ⟨harrived, _, rfl⟩)
      · rename_i hsize
        have hask := ask_of_bookFillRejectionReason_eq_none hbook
        have hfilled := pos_of_fillSizeRejected_eq_false (Bool.not_eq_true _ ▸ hsize)
        exact .inr (.inr ⟨book, _, rfl, harrived, (not_not.mp hmarket).symm, hask.1, hask.2,
          hfilled⟩)

end RuntimeDecisionEngine

namespace DueOrders

variable {σ : Type} (request : RuntimeDecisionRequest)

/-- The books in the middle of the loop: the orders kept so far and those still to come. -/
def books (due : DueOrders σ) (rest : List RuntimePendingOrder) : Books :=
  { due.engine.books with pendingOrders := due.remaining ++ rest }

theorem step_cases (due : DueOrders σ) (order : RuntimePendingOrder)
    (rest : List RuntimePendingOrder) :
    (due.step request order).engine.config = due.engine.config ∧
      (((due.step request order).persistenceEvents = due.persistenceEvents ∧
          (due.step request order).books rest = due.books (order :: rest)) ∨
        ∃ events, (due.step request order).persistenceEvents = due.persistenceEvents ++ events ∧
          DueStep request due.engine.config.executionMode (due.books (order :: rest)) events
            ((due.step request order).books rest)) := by
  unfold step
  rcases due.engine.processDueOrder_cases order request with
    hkept | ⟨harrived, miss, hmissed⟩ | ⟨book, freshnessMs, hfilled, harrived, hmarket, hprice⟩
  · rw [hkept]
    exact ⟨rfl, .inl ⟨rfl, by simp [books]⟩⟩
  · rw [hmissed]
    refine ⟨rfl, .inr ⟨_, rfl, ?_⟩⟩
    exact .missed due.remaining rest order _ rfl harrived rfl
  · rw [hfilled]
    unfold fillOrder
    simp only [releaseUnspent_eq]
    refine ⟨rfl, .inr ⟨_, rfl, ?_⟩⟩
    exact .filled due.remaining rest order _ book.bestAsk _ _ rfl harrived rfl hmarket
      ⟨hprice.1, hprice.2.1⟩ ⟨hprice.2.2, min_le_left _ _⟩ rfl

theorem foldl_run (orders : List RuntimePendingOrder) (due : DueOrders σ) :
    (orders.foldl (step request) due).engine.config = due.engine.config ∧
      ∃ events,
        (orders.foldl (step request) due).persistenceEvents = due.persistenceEvents ++ events ∧
          DueRun request due.engine.config.executionMode (due.books orders) events
            ((orders.foldl (step request) due).books []) := by
  induction orders generalizing due with
  | nil => exact ⟨rfl, [], by simp, .nil _⟩
  | cons order rest ih =>
    obtain ⟨hconfig, hcases⟩ := due.step_cases request order rest
    obtain ⟨hconfig', events', hevents', hrun⟩ := ih (due.step request order)
    rw [foldl_cons]
    refine ⟨hconfig'.trans hconfig, ?_⟩
    rw [hconfig] at hrun
    rcases hcases with ⟨hevents, hbooks⟩ | ⟨events, hevents, hstep⟩
    · rw [hbooks] at hrun
      exact ⟨events', by rw [hevents', hevents], hrun⟩
    · exact ⟨events ++ events', by rw [hevents', hevents, append_assoc], .cons hstep hrun⟩

end DueOrders

namespace RuntimeDecisionEngine

variable {σ : Type} (engine : RuntimeDecisionEngine σ)

/-- The due orders are missed or filled one after the other. -/
theorem processDueOrders_run (request : RuntimeDecisionRequest) :
    (engine.processDueOrders request).2.2.config = engine.config ∧
      DueRun request engine.config.executionMode engine.books
        (engine.processDueOrders request).2.1 (engine.processDueOrders request).2.2.books := by
  obtain ⟨hconfig, events, hevents, hrun⟩ := DueOrders.foldl_run request engine.pendingOrders
    { engine := { engine with pendingOrders := [] }, persistenceEvents := [], remaining := [],
      outcomes := [], groupOutcomes := [] }
  refine ⟨hconfig, ?_⟩
  rw [nil_append] at hevents
  unfold processDueOrders
  simp only [hevents]
  simpa [DueOrders.books, books, recordLeggingFailures] using hrun

end RuntimeDecisionEngine

/-! ## Candidates -/

namespace DecisionPass

variable {σ : Type}
variable (label : StrategyFamily → String → Prop) (request : RuntimeDecisionRequest)
variable (pass : DecisionPass σ)
variable {signalIds : List ℤ} {engine : RuntimeDecisionEngine σ} {bankroll : BankrollManager}
variable {family : StrategyFamily}

@[simp]
theorem engine_pushDecisionEvent (signalId : ℤ)
    (orderSubmittedAtMs expectedArrivalAtMs : Option ℕ) (decisionStatus : String)
    (rejectionReason : Option String) :
    (pass.pushDecisionEvent request signalId orderSubmittedAtMs expectedArrivalAtMs
      decisionStatus rejectionReason).engine = pass.engine :=
  rfl

theorem persistSpreadSignals_eq (signals : List Signal) (signalIds : List ℤ)
    (orderSubmittedAtMs expectedArrivalAtMs : Option ℕ) (decisionStatus : String)
    (rejectionReason : Option String) :
    pass.persistSpreadSignals request signals signalIds orderSubmittedAtMs expectedArrivalAtMs
        decisionStatus rejectionReason =
      { pass with
        persistenceEvents := pass.persistenceEvents ++ (signals.zip signalIds).map fun signal =>
          decisionSignalEvent request orderSubmittedAtMs expectedArrivalAtMs decisionStatus
            rejectionReason signal.2 } := by
  unfold persistSpreadSignals
  induction signals.zip signalIds generalizing pass with
  | nil => simp
  | cons signal rest ih =>
    rw [foldl_cons, ih]
    simp [pushDecisionEvent, emit]

/-- A submission under the given signal ids is a step of the books, and what it emits belongs to
it. -/
def Submits (signalIds : List ℤ) (result : SubmissionOutcome × DecisionPass σ) : Prop :=
  ∃ events orders,
    QueueStep label request signalIds pass.engine.books events orders result.2.engine.books ∧
      result.2.persistenceEvents = pass.persistenceEvents ++ events ∧
      result.1.orders = orders.map queuedOrderIntent ∧
      result.2.liveOrders = pass.liveOrders ∧ result.2.engine.config = pass.engine.config

variable {label request pass}

theorem submits_rejectSingle
    (hstep : Unqueued label request signalIds pass.engine.books engine.books)
    (hconfig : engine.config = pass.engine.config) (signalId : ℤ) (reason : String) :
    Submits label request pass signalIds
      ({ pass with engine := engine }.rejectSingle request signalId reason) := by
  refine ⟨_, [], hstep _ ?_, rfl, rfl, rfl, hconfig⟩
  intro event hevent
  rw [mem_singleton.mp hevent]
  rfl

theorem submits_rejectSpread
    (hstep : Unqueued label request signalIds pass.engine.books engine.books)
    (hconfig : engine.config = pass.engine.config) (signals : List Signal) (reason : String) :
    Submits label request pass signalIds
      ({ pass with engine := engine }.rejectSpread request signals signalIds reason) := by
  unfold rejectSpread
  rw [persistSpreadSignals_eq]
  refine ⟨_, [], hstep _ ?_, rfl, rfl, rfl, hconfig⟩
  intro event hevent
  obtain ⟨signal, -, rfl⟩ := mem_map.mp hevent
  rfl

theorem unqueued_probed {amount : ℚ} {strategy : String} (hlabel : label family strategy)
    (hamount : 0 < amount)
    (hreserved : bankroll.toReserves = engine.bankroll.toReserves.addReserved family amount) :
    Unqueued label request signalIds engine.books
      (releaseReserved { engine with bankroll := bankroll } amount strategy).books := by
  intro events hevents
  apply QueueStep.probed events family strategy amount _ hevents hlabel hamount
  simp [books, releaseReserved, hreserved]

theorem unqueued_unreserved (hsame : bankroll.toReserves = engine.bankroll.toReserves) :
    Unqueued label request signalIds engine.books { engine with bankroll := bankroll }.books := by
  have hbooks : { engine with bankroll := bankroll }.books = engine.books := by
    simp [books, hsame]
  rw [hbooks]
  exact unqueued_self _ _

/-- Submitting one single-side candidate is a step of the books. -/
theorem submits_submitSingle (request : RuntimeDecisionRequest) (pass : DecisionPass σ)
    {signal : Signal} (hlabel : label family signal.strategy) (signalId : ℤ) :
    Submits label request pass [signalId] (pass.submitSingle request signal signalId family) := by
  unfold submitSingle
  cases pass.engine.canQueueSingle signal request.window false 1 request.nowMs with
  | some reason => exact submits_rejectSingle (unqueued_self _ _) rfl _ _
  | none =>
    have hspec := pass.engine.bankroll.reserveCapitalWithReservePrice_spec
      (signalEntryAsk signal) (singleOrderLimitPrice signal pass.engine.config)
      signal.confidence signal.strategy family pass.engine.config request.nowMs
    dsimp only at hspec ⊢
    generalize pass.engine.bankroll.reserveCapitalWithReservePrice _ _ _ _ _ _ _ = result at hspec ⊢
    rcases result with ⟨requestedSize, bankroll⟩
    dsimp only at hspec ⊢
    rcases hspec with ⟨hsize, hsame⟩ | ⟨hsize, hentry, hlimit, hreserved⟩
    · rw [if_pos hsize.le]
      exact submits_rejectSingle (unqueued_unreserved hsame) rfl _ _
    rw [if_neg (not_le.mpr hsize)]
    have hcost := mul_pos hsize hlimit
    cases submissionSizeRejectionReason requestedSize (signalEntryAsk signal)
        (request.window.orderMinSize.getD 0) pass.engine.config.minBetUsd with
    | some reason =>
      exact submits_rejectSingle (unqueued_probed hlabel hcost hreserved) rfl _ _
    | none =>
      refine ⟨_, [_], .queued _ family _ _ ?_ ?_ ?_ ?_ ?_, rfl, rfl, rfl, rfl⟩
      · simp [decisionSignalEvent, LivePersistenceEvent.isTrade]
      · exact List.Subperm.refl _
      · intro order horder
        rw [mem_singleton.mp horder]
        exact ⟨hlabel, rfl, rfl, hsize, hlimit, rfl⟩
      · intro order horder
        rw [mem_singleton.mp horder]
        exact ⟨_, mem_singleton_self _, rfl⟩
      · simp only [engine_pushDecisionEvent, books_pushPendingOrder, books_recordSubmittedOrder]
        simp [books, hreserved]

end DecisionPass

variable {i : ℕ} {signals : List Signal} {signalIds : List ℤ}

theorem pair_subperm {ids : List ℤ} {j : ℕ} {first second : ℤ} (hne : i ≠ j)
    (hfirst : ids[i]? = some first) (hsecond : ids[j]? = some second) :
    List.Subperm [first, second] ids := by
  obtain ⟨hi, rfl⟩ := List.getElem?_eq_some_iff.mp hfirst
  have hmem : second ∈ ids.eraseIdx i :=
    mem_eraseIdx_iff_getElem?.mpr ⟨j, hne.symm, hsecond⟩
  have hrest : List.Subperm [second] (ids.eraseIdx i) := singleton_subperm_iff.mpr hmem
  exact ((subperm_cons _).mpr hrest).trans (getElem_cons_eraseIdx_perm hi).subperm

theorem mem_zip_of_getElem? {signal : Signal} {signalId : ℤ} (hsignal : signals[i]? = some signal)
    (hid : signalIds[i]? = some signalId) : (signal, signalId) ∈ signals.zip signalIds :=
  mem_of_getElem? (List.getElem?_zip_eq_some.mpr ⟨hsignal, hid⟩)

theorem spreadSignalPair_spec {upSignal downSignal : Signal} {upSignalId downSignalId : ℤ}
    (h : spreadSignalPair signals signalIds =
      some (upSignal, downSignal, upSignalId, downSignalId)) :
    (upSignal.direction = .up ∧ (upSignal, upSignalId) ∈ signals.zip signalIds) ∧
      (downSignal.direction = .down ∧ (downSignal, downSignalId) ∈ signals.zip signalIds) ∧
      List.Subperm [upSignalId, downSignalId] signalIds := by
  unfold spreadSignalPair at h
  simp only [Option.bind_eq_bind, Option.pure_def, Option.bind_eq_some_iff, Option.some.injEq,
    Prod.mk.injEq] at h
  obtain ⟨i, hi, j, hj, _, hup, _, hdown, _, hupId, _, hdownId, rfl, rfl, rfl, rfl⟩ := h
  obtain ⟨hilt, hupside, -⟩ := List.findIdx?_eq_some_iff_getElem.mp hi
  obtain ⟨hjlt, hdownside, -⟩ := List.findIdx?_eq_some_iff_getElem.mp hj
  obtain ⟨_, hupat⟩ := List.getElem?_eq_some_iff.mp hup
  obtain ⟨_, hdownat⟩ := List.getElem?_eq_some_iff.mp hdown
  rw [hupat, beq_iff_eq] at hupside
  rw [hdownat, beq_iff_eq] at hdownside
  have hne : i ≠ j := by
    rintro rfl
    rw [← hupat, hdownat, hdownside] at hupside
    cases hupside
  exact ⟨⟨hupside, mem_zip_of_getElem? hup hupId⟩,
    ⟨hdownside, mem_zip_of_getElem? hdown hdownId⟩, pair_subperm hne hupId hdownId⟩

namespace DecisionPass

variable {σ : Type} {label : StrategyFamily → String → Prop} {request : RuntimeDecisionRequest}
variable {pass : DecisionPass σ}

/-- Submitting one spread is a step of the books. -/
theorem submits_submitSpread (request : RuntimeDecisionRequest) (pass : DecisionPass σ)
    {signals : List Signal} (hlabel : ∀ signal ∈ signals, label .spreadCapture signal.strategy)
    (signalIds : List ℤ) :
    Submits label request pass signalIds (pass.submitSpread request signals signalIds) := by
  unfold submitSpread
  cases hpair : spreadSignalPair signals signalIds with
  | none => exact ⟨[], [], .passed _ (by simp), by simp, rfl, rfl, rfl⟩
  | some legs =>
    rcases legs with ⟨upSignal, downSignal, upSignalId, downSignalId⟩
    obtain ⟨⟨hup, hupId⟩, ⟨hdown, hdownId⟩, hids⟩ := spreadSignalPair_spec hpair
    have hupLabel := hlabel _ (of_mem_zip hupId).1
    have hdownLabel := hlabel _ (of_mem_zip hdownId).1
    cases pass.engine.canQueueSpread signals request.window request.nowMs with
    | some reason => exact submits_rejectSpread (unqueued_self _ _) rfl _ _
    | none =>
      dsimp only
      split
      · exact submits_rejectSpread (unqueued_self _ _) rfl _ _
      have hspec := pass.engine.bankroll.reserveSpreadCapital_spec upSignal.upAsk
        downSignal.downAsk pass.engine.config request.nowMs
      generalize pass.engine.bankroll.reserveSpreadCapital _ _ _ _ = result at hspec ⊢
      rcases result with ⟨⟨upTokens, downTokens⟩, bankroll⟩
      dsimp only at hspec ⊢
      rcases hspec with ⟨hnone, hsame⟩ |
        ⟨pairUnits, htokens, hunits, hupAsk, hdownAsk, hreserved⟩
      · cases hnone
        rw [if_pos (.inl le_rfl)]
        exact submits_rejectSpread (unqueued_unreserved hsame) rfl _ _
      cases htokens
      rw [if_neg (by simp [hunits])]
      have hupCost := mul_pos hunits hupAsk
      have hdownCost := mul_pos hunits hdownAsk
      cases spreadSubmissionRejectionReason upTokens upTokens upSignal.upAsk
          downSignal.downAsk (request.window.orderMinSize.getD 0)
          pass.engine.config.minBetUsd with
      | some reason =>
        rw [mul_add] at hreserved
        exact submits_rejectSpread
          (unqueued_probed hupLabel (add_pos hupCost hdownCost) hreserved) rfl _ _
      | none =>
        have hupEntry : signalEntryAsk upSignal = upSignal.upAsk := by
          simp [signalEntryAsk, hup]
        have hdownEntry : signalEntryAsk downSignal = downSignal.downAsk := by
          simp [signalEntryAsk, hdown]
        have hupLimit : 0 < signalEntryAsk upSignal := by rwa [hupEntry]
        have hdownLimit : 0 < signalEntryAsk downSignal := by rwa [hdownEntry]
        rw [persistSpreadSignals_eq]
        refine ⟨_, [_, _], .queued _ .spreadCapture _ _ ?_ ?_ ?_ ?_ ?_, rfl, rfl, rfl, rfl⟩
        · intro event hevent
          obtain ⟨signal, -, rfl⟩ := mem_map.mp hevent
          rfl
        · exact hids
        · intro order horder
          rcases mem_pair.mp horder with rfl | rfl
          · exact ⟨hupLabel, rfl, rfl, hunits, hupLimit, rfl⟩
          · exact ⟨hdownLabel, rfl, rfl, hunits, hdownLimit, rfl⟩
        · intro order horder
          rcases mem_pair.mp horder with rfl | rfl
          · exact ⟨_, mem_map.mpr ⟨_, hupId, rfl⟩, rfl⟩
          · exact ⟨_, mem_map.mpr ⟨_, hdownId, rfl⟩, rfl⟩
        · simp only [books_pushPendingOrder, books_recordSubmittedOrder]
          simp [books, hreserved, buildSpreadOrder, hupEntry, hdownEntry, mul_add]

end DecisionPass

/-! ## The decision pass -/

namespace RuntimeDecisionEngine

variable {σ : Type}

def advance (engine : RuntimeDecisionEngine σ) (count : ℕ) : RuntimeDecisionEngine σ :=
  { engine with nextSignalId := nextNegativeId^[count] engine.nextSignalId }

theorem allocateSignalIds_eq (engine : RuntimeDecisionEngine σ) (count : ℕ) :
    engine.allocateSignalIds count = (engine.books.signalIds count, engine.advance count) := by
  induction count generalizing engine with
  | zero => rfl
  | succ count ih =>
    unfold allocateSignalIds allocateSignalId
    simp only [ih]
    rfl

end RuntimeDecisionEngine

namespace DecisionPass

variable {σ : Type} (label : StrategyFamily → String → Prop) (request : RuntimeDecisionRequest)

/-- The orders that go out to the venue for orders that were queued. -/
def forwarded (mode : ExecutionMode) (orders : List RuntimePendingOrder) : List QueuedOrderIntent :=
  if mode = .liveTrading then orders.map queuedOrderIntent else []

/-- One part of a pass is a step of the books, and what it emits belongs to it. -/
def Steps (pass pass' : DecisionPass σ) : Prop :=
  ∃ events orders,
    CandidateStep label request pass.engine.books events orders pass'.engine.books ∧
      pass'.persistenceEvents = pass.persistenceEvents ++ events ∧
      pass'.liveOrders =
        pass.liveOrders ++ forwarded pass.engine.config.executionMode orders ∧
      pass'.engine.config = pass.engine.config

variable {label request} {pass : DecisionPass σ}

theorem forwardLiveOrders_eq (pass : DecisionPass σ) (outcome : SubmissionOutcome)
    {orders : List RuntimePendingOrder} (horders : outcome.orders = orders.map queuedOrderIntent) :
    pass.forwardLiveOrders outcome =
      { pass with liveOrders :=
          pass.liveOrders ++ forwarded pass.engine.config.executionMode orders } := by
  unfold forwardLiveOrders forwarded
  rw [horders]
  split
  · rfl
  · simp

theorem Submits.steps (count : ℕ) (engine : RuntimeDecisionEngine σ)
    {result : SubmissionOutcome × DecisionPass σ} (event : RuntimeDecisionLogEvent)
    (hbooks : engine.books = pass.engine.books.advance count)
    (hconfig : engine.config = pass.engine.config)
    (h : Submits label request { pass with engine := engine }
      (pass.engine.books.signalIds count) result) :
    Steps label request pass ((result.2.forwardLiveOrders result.1).log event) := by
  obtain ⟨events, orders, hstep, hevents, horders, hlive, hconfig'⟩ := h
  rw [hbooks] at hstep
  rw [forwardLiveOrders_eq _ _ horders, hconfig', hconfig, hlive]
  exact ⟨events, orders, ⟨count, hstep⟩, hevents, rfl, hconfig'.trans hconfig⟩

theorem steps_of_unsubmitted {pass' : DecisionPass σ} (count : ℕ)
    (events : List LivePersistenceEvent) (hevents : ∀ event ∈ events, event.isTrade = false)
    (hbooks : pass'.engine.books = pass.engine.books.advance count)
    (hemitted : pass'.persistenceEvents = pass.persistenceEvents ++ events)
    (hlive : pass'.liveOrders = pass.liveOrders)
    (hconfig : pass'.engine.config = pass.engine.config) : Steps label request pass pass' := by
  refine ⟨events, [], ⟨count, hbooks ▸ .passed events hevents⟩, hemitted, ?_, hconfig⟩
  rw [hlive]
  unfold forwarded
  split <;> simp

theorem steps_handleSingleCandidate {signal : Signal} {family : StrategyFamily}
    (hlabel : label family signal.strategy) (regime : PortfolioRegime) :
    Steps label request pass (pass.handleSingleCandidate request signal family regime) := by
  unfold handleSingleCandidate
  dsimp only [allocateSignalId]
  split
  · exact steps_of_unsubmitted 1 [_] (by simp [decisionSignalEvent, LivePersistenceEvent.isTrade])
      rfl rfl rfl rfl
  split
  · exact steps_of_unsubmitted 1 [_] (by simp [decisionSignalEvent, LivePersistenceEvent.isTrade])
      rfl rfl rfl rfl
  · have hsubmits := submits_submitSingle request
      { pass with engine := pass.engine.advance 1 } hlabel pass.engine.nextSignalId
    exact Submits.steps 1 (pass.engine.advance 1) _ rfl rfl hsubmits

theorem steps_handleBatchCandidate {signals : List Signal}
    (hlabel : ∀ signal ∈ signals, label .spreadCapture signal.strategy) (regime : PortfolioRegime) :
    Steps label request pass (pass.handleBatchCandidate request signals regime) := by
  unfold handleBatchCandidate
  dsimp only
  split
  · exact steps_of_unsubmitted 0 [] (by simp) rfl (by simp) rfl rfl
  · rw [allocateSignalIds_eq]
    have hsubmits := submits_submitSpread request
      { pass with engine := pass.engine.advance signals.length } hlabel
      (pass.engine.books.signalIds signals.length)
    exact Submits.steps signals.length (pass.engine.advance signals.length) _ rfl rfl hsubmits

end DecisionPass

def EvaluatedRuntimeCandidate.Labelled (label : StrategyFamily → String → Prop)
    (candidate : EvaluatedRuntimeCandidate) : Prop :=
  match candidate.result with
  | .single signal => label candidate.family signal.strategy
  | .batch signals => ∀ signal ∈ signals, label .spreadCapture signal.strategy
  | .none | .rejected _ => True

namespace DecisionPass

variable {σ : Type} {label : StrategyFamily → String → Prop} {request : RuntimeDecisionRequest}

/-- Handling one candidate is a step of the books. -/
theorem handleCandidate_step (request : RuntimeDecisionRequest)
    {candidate : EvaluatedRuntimeCandidate} (hlabelled : candidate.Labelled label)
    (pass : DecisionPass σ) (selectedFamily : Option StrategyFamily) (regime : PortfolioRegime) :
    Steps label request pass (pass.handleCandidate request selectedFamily regime candidate) := by
  unfold handleCandidate
  unfold EvaluatedRuntimeCandidate.Labelled at hlabelled
  split
  · exact steps_of_unsubmitted 0 [] (by simp) rfl (by simp) rfl rfl
  split
  · rename_i signal hresult
    rw [hresult] at hlabelled
    exact steps_handleSingleCandidate hlabelled regime
  · rename_i signals hresult
    rw [hresult] at hlabelled
    exact steps_handleBatchCandidate hlabelled regime
  · exact steps_of_unsubmitted 0 [] (by simp) rfl (by simp) rfl rfl
  · exact steps_of_unsubmitted 0 [] (by simp) rfl (by simp) rfl rfl

theorem foldl_handleCandidate_run {candidates : List EvaluatedRuntimeCandidate}
    (hlabelled : ∀ candidate ∈ candidates, candidate.Labelled label) (pass : DecisionPass σ)
    (selectedFamily : Option StrategyFamily) (regime : PortfolioRegime) :
    let pass' := candidates.foldl
      (fun pass candidate => pass.handleCandidate request selectedFamily regime candidate) pass
    ∃ events orders,
      CandidateRun label request pass.engine.books events orders pass'.engine.books ∧
        pass'.persistenceEvents = pass.persistenceEvents ++ events ∧
        pass'.liveOrders =
          pass.liveOrders ++ forwarded pass.engine.config.executionMode orders ∧
        pass'.engine.config = pass.engine.config := by
  induction candidates generalizing pass with
  | nil => exact ⟨[], [], .nil _, by simp, by simp [forwarded], rfl⟩
  | cons candidate rest ih =>
    obtain ⟨events, orders, hstep, hevents, hlive, hconfig⟩ :=
      handleCandidate_step request (hlabelled _ mem_cons_self) pass selectedFamily regime
    obtain ⟨events', orders', hrun, hevents', hlive', hconfig'⟩ :=
      ih (fun other hother => hlabelled other (mem_cons_of_mem _ hother))
        (pass.handleCandidate request selectedFamily regime candidate)
    refine ⟨events ++ events', orders ++ orders', .cons hstep hrun, ?_, ?_, ?_⟩
    · rw [foldl_cons, hevents', hevents, append_assoc]
    · rw [foldl_cons, hlive', hlive, hconfig, append_assoc]
      unfold forwarded
      split <;> simp
    · rw [foldl_cons, hconfig', hconfig]

end DecisionPass

section Frames

variable {request : RuntimeDecisionRequest} {mode : ExecutionMode} {books books' : Books}
variable {label : StrategyFamily → String → Prop} {events : List LivePersistenceEvent}
variable {orders : List RuntimePendingOrder}

theorem DueStep.pendingOrders_sublist (hstep : DueStep request mode books events books') :
    books'.pendingOrders.Sublist books.pendingOrders := by
  cases hstep with
  | missed before after order event hpending
  | filled before after order event price size trade hpending =>
    rw [hpending]
    exact (sublist_cons_self order after).append_left before

theorem DueStep.openTrades (hstep : DueStep request mode books events books')
    {entry : OpenRuntimeTrade} (hentry : entry ∈ books'.openTrades) :
    entry ∈ books.openTrades ∨
      ∃ order ∈ books.pendingOrders, order.arrivalTs ≤ request.nowMs ∧
        order.marketId = request.window.marketId ∧ entry.trade.marketId = order.marketId := by
  cases hstep with
  | missed => exact .inl hentry
  | filled before after order event price size trade hpending harrived _ hmarket _ _ htrade =>
    rcases mem_append.mp hentry with hold | hnew
    · exact .inl hold
    · rw [mem_singleton.mp hnew]
      refine .inr ⟨order, by rw [hpending]; simp, harrived, hmarket, ?_⟩
      rw [htrade]
      rfl

theorem DueRun.pendingOrders_sublist (hrun : DueRun request mode books events books') :
    books'.pendingOrders.Sublist books.pendingOrders := by
  induction hrun with
  | nil => exact List.Sublist.refl _
  | cons hstep _ ih => exact ih.trans hstep.pendingOrders_sublist

theorem DueRun.openTrades (hrun : DueRun request mode books events books')
    {entry : OpenRuntimeTrade} (hentry : entry ∈ books'.openTrades) :
    entry ∈ books.openTrades ∨
      ∃ order ∈ books.pendingOrders, order.arrivalTs ≤ request.nowMs ∧
        order.marketId = request.window.marketId ∧ entry.trade.marketId = order.marketId := by
  induction hrun with
  | nil => exact .inl hentry
  | cons hstep _ ih =>
    rcases ih hentry with hmid | ⟨order, horder, hrest⟩
    · exact hstep.openTrades hmid
    · exact .inr ⟨order, hstep.pendingOrders_sublist.subset horder, hrest⟩

theorem CandidateStep.frame (hstep : CandidateStep label request books events orders books') :
    books'.openTrades = books.openTrades ∧ books'.nextTradeId = books.nextTradeId ∧
      books'.pendingOrders = books.pendingOrders ++ orders ∧
      (∀ event ∈ events, event.isTrade = false) ∧
      ∀ order ∈ orders, order.marketId = request.window.marketId := by
  obtain ⟨count, hqueue⟩ := hstep
  cases hqueue with
  | passed hevents => exact ⟨rfl, rfl, by simp [Books.advance], hevents, by simp⟩
  | probed family strategy amount _ hevents _ _ hbooks =>
    rw [hbooks]
    exact ⟨rfl, rfl, by simp [Books.advance], hevents, by simp⟩
  | queued family _ _ hevents _ hqueueable _ hbooks =>
    rw [hbooks]
    exact ⟨rfl, rfl, rfl, hevents, fun order horder => (hqueueable order horder).market⟩

theorem CandidateRun.frame (hrun : CandidateRun label request books events orders books') :
    books'.openTrades = books.openTrades ∧ books'.nextTradeId = books.nextTradeId ∧
      books'.pendingOrders = books.pendingOrders ++ orders ∧
      (∀ event ∈ events, event.isTrade = false) ∧
      ∀ order ∈ orders, order.marketId = request.window.marketId := by
  induction hrun with
  | nil => exact ⟨rfl, rfl, by simp, by simp, by simp⟩
  | cons hstep _ ih =>
    obtain ⟨hopen, hnext, hpending, hevents, hmarket⟩ := hstep.frame
    obtain ⟨hopen', hnext', hpending', hevents', hmarket'⟩ := ih
    refine ⟨hopen'.trans hopen, hnext'.trans hnext, ?_, ?_, ?_⟩
    · rw [hpending', hpending, append_assoc]
    · intro event hevent
      rcases mem_append.mp hevent with hfirst | hrest
      · exact hevents event hfirst
      · exact hevents' event hrest
    · intro order horder
      rcases mem_append.mp horder with hfirst | hrest
      · exact hmarket order hfirst
      · exact hmarket' order hrest

end Frames

/-! ## Labels -/

def StrategiesLabelled (σ : Type) [Strategy σ] (label : StrategyFamily → String → Prop) : Prop :=
  ∀ (strategy : σ) ctx config nowMs,
    EvaluatedRuntimeCandidate.Labelled label
      { family := Strategy.family (Strategy.evaluate strategy ctx config nowMs).2
        result := (Strategy.evaluate strategy ctx config nowMs).1 }

def FamilyLabel (family : StrategyFamily) (strategy : String) : Prop :=
  familyForStrategy strategy = family

def AnyLabel (_ : StrategyFamily) (_ : String) : Prop :=
  True

section Labels

variable {σ : Type} [Strategy σ]

theorem strategiesLabelled_familyLabel [LawfulStrategy σ] : StrategiesLabelled σ FamilyLabel := by
  intro strategy ctx config nowMs
  have hnamed := LawfulStrategy.named strategy ctx config nowMs
  have hbatch := LawfulStrategy.batch strategy ctx config nowMs
  unfold EvaluatedRuntimeCandidate.Labelled FamilyLabel
  dsimp only
  split
  · rename_i signal hresult
    rw [hnamed signal (by simp [hresult, StrategyResult.signals]), familyForStrategy_asStr]
  · rename_i signals hresult
    intro signal hsignal
    rw [hnamed signal (by simpa [hresult, StrategyResult.signals] using hsignal),
      familyForStrategy_asStr, hbatch signals hresult]
  · trivial
  · trivial

theorem strategiesLabelled_anyLabel : StrategiesLabelled σ AnyLabel := by
  intro strategy ctx config nowMs
  unfold EvaluatedRuntimeCandidate.Labelled AnyLabel
  split
  · trivial
  · exact fun _ _ => trivial
  · trivial
  · trivial

end Labels

namespace RuntimeDecisionEngine

variable {σ : Type} [Strategy σ] {label : StrategyFamily → String → Prop}

theorem collectCandidates_labelled (hlabelled : StrategiesLabelled σ label) (config : Config)
    (request : RuntimeDecisionRequest) (strategies : List σ) (tracker : StrategyRejectionTracker) :
    ∀ candidate ∈ (collectCandidates config request strategies tracker).1,
      candidate.Labelled label := by
  induction strategies generalizing tracker with
  | nil => simp [collectCandidates]
  | cons strategy rest ih =>
    have hfirst := hlabelled strategy request.ctx config request.nowMs
    intro candidate hcandidate
    unfold collectCandidates at hcandidate
    generalize Strategy.evaluate strategy request.ctx config request.nowMs = evaluated
      at hfirst hcandidate
    rcases evaluated with ⟨result, strategy'⟩
    cases result with
    | none => exact ih _ candidate hcandidate
    | rejected rejection => exact ih _ candidate hcandidate
    | single signal | batch signals =>
      rcases mem_cons.mp hcandidate with rfl | hrest
      · exact hfirst
      · exact ih _ candidate hrest

/-- The due orders of a pass: live trading leaves them to the venue. -/
def DuePhase (request : RuntimeDecisionRequest) (mode : ExecutionMode) (books : Books)
    (events : List LivePersistenceEvent) (books' : Books) : Prop :=
  if mode = .liveTrading then events = [] ∧ books' = books
  else DueRun request mode books events books'

/-- What a decision pass does to the books and what it hands out. -/
structure Decides (label : StrategyFamily → String → Prop) (request : RuntimeDecisionRequest)
    (engine : RuntimeDecisionEngine σ) (output : RuntimeDecisionOutput)
    (engine' : RuntimeDecisionEngine σ) (dueEvents events : List LivePersistenceEvent)
    (orders : List RuntimePendingOrder) (books : Books) : Prop where
  due : DuePhase request engine.config.executionMode engine.books dueEvents books
  candidates : CandidateRun label request books events orders engine'.books
  persistenceEvents : output.persistenceEvents = dueEvents ++ events
  liveOrders : output.liveOrders = DecisionPass.forwarded engine.config.executionMode orders
  config : engine'.config = engine.config
  nowMs : output.nowMs = request.nowMs
  window : output.submissionWindow = some request.window

/-- A decision pass is a run of due orders followed by a run of candidates. -/
theorem evaluate_run (hlabelled : StrategiesLabelled σ label) (engine : RuntimeDecisionEngine σ)
    (request : RuntimeDecisionRequest) :
    ∃ dueEvents events orders books,
      Decides label request engine (engine.evaluate request).1 (engine.evaluate request).2
        dueEvents events orders books := by
  have hdue : ∃ outcomes dueEvents engine₁,
      (if engine.config.executionMode = .liveTrading then ([], [], engine)
        else engine.processDueOrders request) = (outcomes, dueEvents, engine₁) ∧
      engine₁.config = engine.config ∧
      DuePhase request engine.config.executionMode engine.books dueEvents engine₁.books := by
    unfold DuePhase
    by_cases hlive : engine.config.executionMode = .liveTrading
    · simp only [if_pos hlive]
      exact ⟨_, _, _, rfl, rfl, rfl, rfl⟩
    · simp only [if_neg hlive]
      obtain ⟨hconfig, hrun⟩ := engine.processDueOrders_run request
      exact ⟨_, _, _, rfl, hconfig, hrun⟩
  obtain ⟨outcomes, dueEvents, engine₁, hphase, hconfig, hdue⟩ := hdue
  unfold evaluate
  rw [hphase]
  dsimp only
  split
  · exact ⟨dueEvents, [], [], engine₁.books, hdue, .nil _, by simp [output],
      by simp [output, DecisionPass.forwarded], hconfig, rfl, rfl⟩
  · have hcandidates := collectCandidates_labelled hlabelled engine₁.config request
      engine₁.strategies engine₁.rejectionTracker
    generalize collectCandidates engine₁.config request engine₁.strategies
      engine₁.rejectionTracker = collected at hcandidates ⊢
    rcases collected with ⟨candidates, strategies, rejectionTracker⟩
    obtain ⟨events, orders, hrun, hevents, hlive, hconfig'⟩ :=
      DecisionPass.foldl_handleCandidate_run hcandidates
        { DecisionPass.start
            { engine₁ with strategies := strategies, rejectionTracker := rejectionTracker } with
          persistenceEvents := dueEvents }
        (if engine₁.config.regimeDetectionEnabled = true then
          selectFamilyForCandidates request.ctx engine₁.config (candidates.map (·.family))
        else none)
        (detectRegime request.ctx engine₁.config)
    refine ⟨dueEvents, events, orders, engine₁.books, hdue, hrun, hevents, ?_,
      hconfig'.trans hconfig, rfl, rfl⟩
    exact hlive.trans (by simp [DecisionPass.start, hconfig])

end RuntimeDecisionEngine

end BubaPaint
