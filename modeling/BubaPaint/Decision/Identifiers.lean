import BubaPaint.Decision.TradeLifecycle

/-!
# Ids of an engine

An engine counts its trade ids and its signal ids down from minus one, whatever is stored. What one
message hands out is the stretch of the countdown between the counters before and after it: the
trades it opens carry these ids, and what it emits about trades and signals names no others.

Main results:

- Theorem `receive_signalIds`: the signal ids that a message hands out.
-/

namespace BubaPaint

open LivePersistenceEvent List

def countdown (next : ℤ) (count : ℕ) : List ℤ :=
  List.iterate nextNegativeId next count

/-- The ids between two readings of a counter. -/
def handedOut (next next' : ℤ) : List ℤ :=
  countdown next (next - next').toNat

variable {id next : ℤ} {count : ℕ} {events : List LivePersistenceEvent}

@[simp]
theorem countdown_zero (next : ℤ) : countdown next 0 = [] :=
  rfl

theorem countdown_succ (next : ℤ) (count : ℕ) :
    countdown next (count + 1) = next :: countdown (nextNegativeId next) count :=
  rfl

theorem countdown_append (next : ℤ) (count count' : ℕ) :
    countdown next (count + count') =
      countdown next count ++ countdown (nextNegativeId^[count] next) count' := by
  induction count generalizing next with
  | zero => simp
  | succ count ih =>
    rw [Nat.succ_add, countdown_succ, countdown_succ, ih, cons_append,
      Function.iterate_succ_apply]

theorem nextNegativeId_eq (hroom : i64Min < nextNegativeId id) : nextNegativeId id = id - 1 := by
  unfold nextNegativeId at hroom ⊢
  omega

section Room

variable (hroom : i64Min < nextNegativeId^[count] next)

include hroom

theorem iterate_nextNegativeId_eq : nextNegativeId^[count] next = next - count := by
  induction count with
  | zero => simp
  | succ count ih =>
    rw [Function.iterate_succ_apply'] at hroom ⊢
    have hstep := nextNegativeId_eq hroom
    rw [hstep, ih (by omega)]
    push_cast
    omega

theorem handedOut_iterate :
    handedOut next (nextNegativeId^[count] next) = countdown next count := by
  rw [handedOut, iterate_nextNegativeId_eq hroom]
  congr
  omega

theorem mem_countdown (hid : id ∈ countdown next count) :
    nextNegativeId^[count] next < id ∧ id ≤ next := by
  induction count generalizing next with
  | zero => simp at hid
  | succ count ih =>
    rw [Function.iterate_succ_apply] at hroom ⊢
    have hend := iterate_nextNegativeId_eq hroom
    have hstep : nextNegativeId next = next - 1 := nextNegativeId_eq (by omega)
    rw [countdown_succ] at hid
    rcases mem_cons.mp hid with rfl | hrest
    · omega
    · obtain ⟨hlow, hhigh⟩ := ih hroom hrest
      exact ⟨hlow, by omega⟩

theorem nodup_countdown : (countdown next count).Nodup := by
  induction count generalizing next with
  | zero => exact nodup_nil
  | succ count ih =>
    rw [Function.iterate_succ_apply] at hroom
    rw [countdown_succ]
    refine nodup_cons.mpr ⟨fun hmem => ?_, ih hroom⟩
    have hhigh := (mem_countdown hroom hmem).2
    have hend := iterate_nextNegativeId_eq hroom
    have hstep : nextNegativeId next = next - 1 := nextNegativeId_eq (by omega)
    omega

end Room

/-! ## Trade ids -/

def exposureIds (openTrades : List OpenRuntimeTrade) : List ℤ :=
  openTrades.filterMap (·.trade.id)

@[simp]
theorem exposureIds_append (openTrades later : List OpenRuntimeTrade) :
    exposureIds (openTrades ++ later) = exposureIds openTrades ++ exposureIds later :=
  filterMap_append

/-- Every event that opens a trade names its id. -/
def Identified (events : List LivePersistenceEvent) : Prop :=
  ∀ trade, .openTrade trade ∈ events → trade.id.isSome = true

theorem openTrade_not_mem (hevents : ∀ event ∈ events, event.isTrade = false)
    (trade : SimulatedTrade) : .openTrade trade ∉ events := by
  intro htrade
  exact absurd (hevents _ htrade) (by simp [isTrade])

theorem openedIds_of_not_mem (hevents : ∀ trade, .openTrade trade ∉ events) :
    openedIds events = [] := by
  apply filterMap_eq_nil_iff.mpr
  intro event hevent
  cases event with
  | openTrade trade => exact absurd hevent (hevents trade)
  | _ => rfl

/-- Going from one pair of books to another hands out at most so many trade ids: the trades added
carry them, and events open no others. -/
def OpensTrades (limit : ℕ) (books : Books) (events : List LivePersistenceEvent)
    (books' : Books) : Prop :=
  ∃ count ≤ limit, exposureIds books'.openTrades ⊆
      exposureIds books.openTrades ++ countdown books.nextTradeId count ∧
    books'.nextTradeId = nextNegativeId^[count] books.nextTradeId ∧
    (openedIds events).Sublist (countdown books.nextTradeId count) ∧ Identified events

namespace OpensTrades

variable {limit limit' : ℕ} {books books' books'' : Books}
variable {events events' : List LivePersistenceEvent}

theorem unopened (hevents : ∀ trade, .openTrade trade ∉ events)
    (hopen : exposureIds books'.openTrades ⊆ exposureIds books.openTrades)
    (hnext : books'.nextTradeId = books.nextTradeId) : OpensTrades limit books events books' := by
  refine ⟨0, Nat.zero_le _, by simpa using hopen, hnext, ?_,
    fun trade htrade => absurd htrade (hevents trade)⟩
  rw [openedIds_of_not_mem hevents]
  exact nil_sublist _

theorem single {entry : OpenRuntimeTrade} (hid : entry.trade.id = some books.nextTradeId)
    (hopen : books'.openTrades = books.openTrades ++ [entry])
    (hnext : books'.nextTradeId = nextNegativeId books.nextTradeId)
    (hopened : (openedIds events).Sublist [books.nextTradeId]) (hidentified : Identified events) :
    OpensTrades 1 books events books' :=
  ⟨1, le_rfl, by simp [hopen, exposureIds, hid, countdown_succ], hnext, hopened, hidentified⟩

theorem trans (h : OpensTrades limit books events books')
    (h' : OpensTrades limit' books' events' books'') :
    OpensTrades (limit + limit') books (events ++ events') books'' := by
  obtain ⟨count, hcount, hopen, hnext, hopened, hidentified⟩ := h
  obtain ⟨count', hcount', hopen', hnext', hopened', hidentified'⟩ := h'
  rw [hnext] at hopen' hnext' hopened'
  refine ⟨count + count', by omega, ?_, ?_, ?_, ?_⟩
  · rw [countdown_append, ← append_assoc]
    intro id hid
    rcases mem_append.mp (hopen' hid) with hold | hnew
    · exact mem_append_left _ (hopen hold)
    · exact mem_append_right _ hnew
  · rw [hnext', ← Function.iterate_add_apply, Nat.add_comm]
  · rw [openedIds_append, countdown_append]
    exact hopened.append hopened'
  · intro trade htrade
    rcases mem_append.mp htrade with hold | hnew
    · exact hidentified trade hold
    · exact hidentified' trade hnew

end OpensTrades

section TradeIds

variable {request : RuntimeDecisionRequest} {mode : ExecutionMode} {books books' : Books}
variable {events : List LivePersistenceEvent}

theorem DueStep.opensTrades (hstep : DueStep request mode books events books') :
    OpensTrades 1 books events books' := by
  cases hstep with
  | missed before after order event _ _ hevent =>
    exact .unopened (openTrade_not_mem (by simpa using hevent)) (List.Subset.refl _) rfl
  | filled before after order event price size trade _ _ hevent _ _ _ htrade =>
    have hid : trade.id = some books.nextTradeId := by
      rw [htrade]
      rfl
    have hopened : openedIds [event, .openTrade trade] = [books.nextTradeId] := by
      have hfirst : openedIds [event] = [] := openedIds_eq_nil (by simpa using hevent)
      have hsplit : [event, openTrade trade] =
          [event] ++ [.openTrade trade] := rfl
      rw [hsplit, openedIds_append, hfirst]
      simp [openedIds, openedTradeId, hid]
    refine .single hid rfl rfl (hopened ▸ List.Sublist.refl _) ?_
    intro other hother
    rcases mem_pair.mp hother with rfl | hsame
    · exact absurd hevent (by simp [isTrade])
    · cases hsame
      simp [hid]

theorem DueStep.length_pendingOrders (hstep : DueStep request mode books events books') :
    1 + books'.pendingOrders.length = books.pendingOrders.length := by
  cases hstep with
  | missed before after order event hpending
  | filled before after order event price size trade hpending =>
    rw [hpending]
    simp only [length_append, length_cons]
    omega

theorem DueRun.opensTrades (hrun : DueRun request mode books events books') :
    OpensTrades books.pendingOrders.length books events books' := by
  induction hrun with
  | nil => exact .unopened (by simp) (List.Subset.refl _) rfl
  | cons hstep _ ih =>
    rw [← hstep.length_pendingOrders]
    exact hstep.opensTrades.trans ih

end TradeIds

namespace RuntimeDecisionEngine

variable {σ : Type} (engine : RuntimeDecisionEngine σ)

theorem opensTrades_applyLiveFill (nowMs : ℕ) (fill : LiveOrderFillFeedback) :
    OpensTrades 1 engine.books [] (engine.applyLiveFill nowMs fill).books := by
  rcases engine.applyLiveFill_cases nowMs fill with
    ⟨hsame, -⟩ | ⟨before, order, after, -, -, -, -, ⟨-, hbooks⟩ | ⟨-, -, hbooks⟩⟩
  · rw [hsame]
    exact .unopened (by simp) (List.Subset.refl _) rfl
  · rw [hbooks]
    exact .unopened (by simp) (List.Subset.refl _) rfl
  · rw [hbooks]
    exact .single rfl rfl rfl (nil_sublist _) (by simp [Identified])

theorem opensTrades_applyLiveFills (nowMs : ℕ) (fills : List LiveOrderFillFeedback) :
    OpensTrades fills.length engine.books [] (fills.foldl (applyLiveFill nowMs) engine).books := by
  induction fills generalizing engine with
  | nil => exact .unopened (by simp) (List.Subset.refl _) rfl
  | cons fill rest ih =>
    rw [length_cons, Nat.add_comm]
    exact (engine.opensTrades_applyLiveFill nowMs fill).trans (ih _)

/-- How many trades one message can open: those of the orders that wait for a simulated fill, or
those of the fills of the venue. -/
def tradeLimit : EngineMessage → ℕ
  | .evaluate _ => engine.pendingOrders.length
  | .liveFeedback fills _ _ => fills.length
  | .releaseReservations _ | .windowClosed .. | .authoritativeResolution .. | .flushAll _ => 0

/-- What one message hands out as trade ids. -/
theorem receive_tradeIds [Strategy σ] (message : EngineMessage) :
    OpensTrades (engine.tradeLimit message) engine.books (engine.emitted message)
      (engine.receive message).books := by
  cases message with
  | evaluate request =>
    obtain ⟨dueEvents, events, orders, books, hdecides⟩ :=
      engine.evaluate_run strategiesLabelled_anyLabel request
    obtain ⟨hopen, hnext, -, hevents, -⟩ := hdecides.candidates.frame
    have hdue : OpensTrades engine.books.pendingOrders.length engine.books dueEvents books := by
      have hphase := hdecides.due
      unfold DuePhase at hphase
      split at hphase
      · rw [hphase.1, hphase.2]
        exact .unopened (by simp) (List.Subset.refl _) rfl
      · exact DueRun.opensTrades hphase
    have hcandidates : OpensTrades 0 books events (engine.evaluate request).2.books :=
      .unopened (openTrade_not_mem hevents) (by rw [hopen]; exact List.Subset.refl _) hnext
    have hall := hdue.trans hcandidates
    rw [← hdecides.persistenceEvents] at hall
    exact hall
  | liveFeedback fills rejectedSignalIds nowMs =>
    have hfirst : OpensTrades 0 engine.books [] (engine.rejectOrders rejectedSignalIds).books := by
      refine .unopened (by simp) ?_ (engine.nextTradeId_rejectOrders rejectedSignalIds)
      rw [engine.openTrades_rejectOrders rejectedSignalIds]
      exact List.Subset.refl _
    have hall := hfirst.trans
      ((engine.rejectOrders rejectedSignalIds).opensTrades_applyLiveFills nowMs fills)
    rw [← applyLiveSubmissionFeedback_eq, Nat.zero_add] at hall
    exact hall
  | releaseReservations releases =>
    unfold receive
    rw [engine.books_releaseReservations releases]
    exact .unopened (by simp [emitted]) (List.Subset.refl _) rfl
  | windowClosed window nowMs =>
    unfold receive
    rw [engine.books_windowClosed window nowMs]
    refine .unopened (openTrade_not_mem (engine.windowClosed_events window nowMs)) ?_ rfl
    have hsame : exposureIds (closeMarket window.marketId engine.books.openTrades) =
        exposureIds engine.books.openTrades := by
      unfold exposureIds closeMarket
      rw [filterMap_map]
      apply filterMap_congr
      intro entry _
      by_cases hmarket : entry.trade.marketId = window.marketId <;> simp [hmarket]
    exact hsame ▸ List.Subset.refl _
  | authoritativeResolution window outcome nowMs =>
    obtain ⟨hbooks, -, -, hopened⟩ :=
      engine.books_authoritativeResolution window outcome nowMs
    unfold receive
    rw [hbooks]
    exact .unopened hopened (filter_sublist.filterMap _).subset rfl
  | flushAll nowMs =>
    exact .unopened (openTrade_not_mem fun event hevent => isTrade_of_mem_summaryEvents hevent)
      (List.Subset.refl _) rfl

end RuntimeDecisionEngine

/-! ## Signal ids -/

def LivePersistenceEvent.loggedSignalId : LivePersistenceEvent → Option ℤ
  | .signal evidence => some evidence.signalId
  | _ => none

def loggedIds (events : List LivePersistenceEvent) : List ℤ :=
  events.filterMap LivePersistenceEvent.loggedSignalId

@[simp]
theorem loggedIds_append (events events' : List LivePersistenceEvent) :
    loggedIds (events ++ events') = loggedIds events ++ loggedIds events' :=
  filterMap_append

/-- Counting at most so many signal ids down from one reading to another, with events that log no
others. -/
def LogsSignals (limit : ℕ) (next : ℤ) (events : List LivePersistenceEvent) (next' : ℤ) : Prop :=
  ∃ count ≤ limit, next' = nextNegativeId^[count] next ∧
    (loggedIds events).Sublist (countdown next count)

namespace LogsSignals

variable {limit limit' : ℕ} {next next' next'' : ℤ}
variable {events events' : List LivePersistenceEvent}

theorem unlogged (hevents : loggedIds events = []) : LogsSignals limit next events next :=
  ⟨0, Nat.zero_le _, rfl, hevents ▸ nil_sublist _⟩

theorem trans (h : LogsSignals limit next events next')
    (h' : LogsSignals limit' next' events' next'') :
    LogsSignals (limit + limit') next (events ++ events') next'' := by
  obtain ⟨count, hcount, rfl, hlogged⟩ := h
  obtain ⟨count', hcount', rfl, hlogged'⟩ := h'
  refine ⟨count + count', by omega, ?_, ?_⟩
  · rw [← Function.iterate_add_apply, Nat.add_comm]
  · rw [loggedIds_append, countdown_append]
    exact hlogged.append hlogged'

end LogsSignals

namespace DecisionPass

variable {σ : Type} {request : RuntimeDecisionRequest}

/-- One part of a pass logs signals under the ids it draws, at most so many. -/
def Logs (limit : ℕ) (pass pass' : DecisionPass σ) : Prop :=
  ∃ events, pass'.persistenceEvents = pass.persistenceEvents ++ events ∧
    LogsSignals limit pass.engine.nextSignalId events pass'.engine.nextSignalId

/-- A submission that logs its signals under the ids it was given, and draws none itself. -/
def LogsUnder (signalIds : List ℤ) (pass pass' : DecisionPass σ) : Prop :=
  pass'.engine.nextSignalId = pass.engine.nextSignalId ∧
    ∃ events, pass'.persistenceEvents = pass.persistenceEvents ++ events ∧
      (loggedIds events).Sublist signalIds

variable {limit limit' : ℕ} {pass pass' pass'' : DecisionPass σ}

theorem Logs.refl (pass : DecisionPass σ) : Logs limit pass pass :=
  ⟨[], by simp, .unlogged rfl⟩

theorem Logs.trans (h : Logs limit pass pass') (h' : Logs limit' pass' pass'') :
    Logs (limit + limit') pass pass'' := by
  obtain ⟨events, hevents, hlogs⟩ := h
  obtain ⟨events', hevents', hlogs'⟩ := h'
  exact ⟨events ++ events', by rw [hevents', hevents, append_assoc], hlogs.trans hlogs'⟩

theorem map_snd_zip_sublist (signals : List Signal) (signalIds : List ℤ) :
    List.Sublist ((signals.zip signalIds).map Prod.snd) signalIds := by
  induction signals generalizing signalIds with
  | nil => simp
  | cons signal signals ih =>
    cases signalIds with
    | nil => exact List.Sublist.refl _
    | cons signalId signalIds => exact (ih signalIds).cons_cons signalId

theorem logsUnder_pushDecisionEvent (pass : DecisionPass σ) (signalId : ℤ)
    (orderSubmittedAtMs expectedArrivalAtMs : Option ℕ) (decisionStatus : String)
    (rejectionReason : Option String) :
    LogsUnder [signalId] pass (pass.pushDecisionEvent request signalId orderSubmittedAtMs
      expectedArrivalAtMs decisionStatus rejectionReason) :=
  ⟨rfl, _, rfl, List.Sublist.refl _⟩

theorem logsUnder_persistSpreadSignals (pass : DecisionPass σ) (signals : List Signal)
    (signalIds : List ℤ) (orderSubmittedAtMs expectedArrivalAtMs : Option ℕ)
    (decisionStatus : String) (rejectionReason : Option String) :
    LogsUnder signalIds pass (pass.persistSpreadSignals request signals signalIds
      orderSubmittedAtMs expectedArrivalAtMs decisionStatus rejectionReason) := by
  rw [persistSpreadSignals_eq]
  refine ⟨rfl, _, rfl, ?_⟩
  have hlogged : loggedIds ((signals.zip signalIds).map fun signal =>
      decisionSignalEvent request orderSubmittedAtMs expectedArrivalAtMs decisionStatus
        rejectionReason signal.2) = (signals.zip signalIds).map Prod.snd := by
    unfold loggedIds
    rw [filterMap_map, ← filterMap_eq_map]
    rfl
  rw [hlogged]
  exact map_snd_zip_sublist signals signalIds

theorem logsUnder_submitSingle (pass : DecisionPass σ) (signal : Signal) (signalId : ℤ)
    (family : StrategyFamily) :
    LogsUnder [signalId] pass (pass.submitSingle request signal signalId family).2 := by
  unfold submitSingle
  dsimp only
  split
  · exact logsUnder_pushDecisionEvent pass ..
  split
  · exact logsUnder_pushDecisionEvent { pass with engine := _ } ..
  split
  · exact logsUnder_pushDecisionEvent { pass with engine := _ } ..
  · exact logsUnder_pushDecisionEvent { pass with engine := _ } ..

theorem logsUnder_submitSpread (pass : DecisionPass σ) (signals : List Signal)
    (signalIds : List ℤ) :
    LogsUnder signalIds pass (pass.submitSpread request signals signalIds).2 := by
  unfold submitSpread
  dsimp only
  split
  · exact ⟨rfl, [], by simp, nil_sublist _⟩
  split
  · exact logsUnder_persistSpreadSignals pass ..
  split
  · exact logsUnder_persistSpreadSignals pass ..
  split
  · exact logsUnder_persistSpreadSignals { pass with engine := _ } ..
  split
  · exact logsUnder_persistSpreadSignals { pass with engine := _ } ..
  · exact logsUnder_persistSpreadSignals { pass with engine := _ } ..

theorem LogsUnder.logs {count : ℕ}
    (h : LogsUnder (countdown pass.engine.nextSignalId count)
      { pass with engine := pass.engine.advance count } pass') : Logs count pass pass' := by
  obtain ⟨hnext, events, hevents, hlogged⟩ := h
  exact ⟨events, hevents, count, le_rfl, hnext, hlogged⟩

theorem LogsUnder.forwarded {signalIds : List ℤ} (h : LogsUnder signalIds pass pass')
    (outcome : SubmissionOutcome) (event : RuntimeDecisionLogEvent) :
    LogsUnder signalIds pass ((pass'.forwardLiveOrders outcome).log event) := by
  unfold forwardLiveOrders
  split <;> exact h

theorem logs_handleSingleCandidate (pass : DecisionPass σ) (signal : Signal)
    (family : StrategyFamily) (regime : PortfolioRegime) :
    Logs 1 pass (pass.handleSingleCandidate request signal family regime) := by
  unfold handleSingleCandidate
  dsimp only [RuntimeDecisionEngine.allocateSignalId]
  split
  · exact ⟨_, rfl, 1, le_rfl, rfl, List.Sublist.refl _⟩
  split
  · exact ⟨_, rfl, 1, le_rfl, rfl, List.Sublist.refl _⟩
  · have hsubmit : LogsUnder [pass.engine.nextSignalId]
        { pass with engine := pass.engine.advance 1 }
        (DecisionPass.submitSingle _ request signal _ family).2 :=
      logsUnder_submitSingle _ signal _ family
    exact LogsUnder.logs (hsubmit.forwarded _ _)

theorem logs_handleBatchCandidate (pass : DecisionPass σ) (signals : List Signal)
    (regime : PortfolioRegime) :
    Logs signals.length pass (pass.handleBatchCandidate request signals regime) := by
  unfold handleBatchCandidate
  dsimp only
  split
  · exact ⟨[], by simp, .unlogged rfl⟩
  · rw [RuntimeDecisionEngine.allocateSignalIds_eq]
    have hsubmit : LogsUnder (pass.engine.books.signalIds signals.length)
        { pass with engine := pass.engine.advance signals.length }
        (DecisionPass.submitSpread _ request signals _).2 :=
      logsUnder_submitSpread _ signals _
    exact LogsUnder.logs (hsubmit.forwarded _ _)

theorem logs_handleCandidate (pass : DecisionPass σ) (selectedFamily : Option StrategyFamily)
    (regime : PortfolioRegime) (candidate : EvaluatedRuntimeCandidate) :
    Logs candidate.result.signals.length pass
      (pass.handleCandidate request selectedFamily regime candidate) := by
  unfold handleCandidate
  split
  · exact ⟨[], by simp, .unlogged rfl⟩
  rcases candidate with ⟨family, result⟩
  cases result with
  | none => exact .refl _
  | rejected rejection => exact .refl _
  | single signal => exact logs_handleSingleCandidate pass signal family regime
  | batch signals => exact logs_handleBatchCandidate pass signals regime

theorem logs_foldl_handleCandidate (pass : DecisionPass σ)
    (selectedFamily : Option StrategyFamily) (regime : PortfolioRegime)
    (candidates : List EvaluatedRuntimeCandidate) :
    Logs (candidates.map (·.result.signals.length)).sum pass (candidates.foldl
      (fun pass candidate => pass.handleCandidate request selectedFamily regime candidate)
      pass) := by
  induction candidates generalizing pass with
  | nil => exact .refl _
  | cons candidate rest ih => exact (pass.logs_handleCandidate _ _ candidate).trans (ih _)

end DecisionPass

theorem DueRun.nextSignalId {request : RuntimeDecisionRequest} {mode : ExecutionMode}
    {books books' : Books} {events : List LivePersistenceEvent}
    (hrun : DueRun request mode books events books') :
    books'.nextSignalId = books.nextSignalId := by
  induction hrun with
  | nil => rfl
  | cons hstep _ ih =>
    rw [ih]
    cases hstep <;> rfl

namespace DueOrders

variable {σ : Type} {request : RuntimeDecisionRequest}
variable (orders : List RuntimePendingOrder) (due : DueOrders σ) (order : RuntimePendingOrder)

theorem loggedIds_step :
    loggedIds (due.step request order).persistenceEvents = loggedIds due.persistenceEvents := by
  unfold step
  rcases due.engine.processDueOrder_cases order request with
    hkept | ⟨-, miss, hmissed⟩ | ⟨book, freshnessMs, hfilled, -⟩
  · rw [hkept]
  · rw [hmissed]
    exact (loggedIds_append _ _).trans (append_nil _)
  · rw [hfilled]
    exact (loggedIds_append _ _).trans (append_nil _)

theorem strategies_step : (due.step request order).engine.strategies = due.engine.strategies := by
  unfold step
  rcases due.engine.processDueOrder_cases order request with
    hkept | ⟨-, miss, hmissed⟩ | ⟨book, freshnessMs, hfilled, -⟩
  · rw [hkept]
  · rw [hmissed]
    rfl
  · rw [hfilled]
    unfold RuntimeDecisionEngine.fillOrder
    simp only [RuntimeDecisionEngine.releaseUnspent_eq]
    rfl

theorem strategies_foldl :
    (orders.foldl (step request) due).engine.strategies = due.engine.strategies := by
  induction orders generalizing due with
  | nil => rfl
  | cons order rest ih => exact (ih _).trans (due.strategies_step order)

theorem loggedIds_foldl :
    loggedIds (orders.foldl (step request) due).persistenceEvents =
      loggedIds due.persistenceEvents := by
  induction orders generalizing due with
  | nil => rfl
  | cons order rest ih => exact (ih _).trans (due.loggedIds_step order)

end DueOrders

namespace RuntimeDecisionEngine

variable {σ : Type} (engine : RuntimeDecisionEngine σ)
variable (request : RuntimeDecisionRequest)

theorem logs_processDueOrders :
    LogsSignals 0 engine.nextSignalId (engine.processDueOrders request).2.1
      (engine.processDueOrders request).2.2.nextSignalId := by
  have hnext := (engine.processDueOrders_run request).2.nextSignalId
  have hlogged : loggedIds (engine.processDueOrders request).2.1 = [] :=
    DueOrders.loggedIds_foldl engine.pendingOrders _
  refine ⟨0, le_rfl, hnext, ?_⟩
  rw [hlogged]
  exact nil_sublist _

theorem loggedIds_summaryEvents (rows : List StrategyRejectionSummaryRecord) :
    loggedIds (summaryEvents rows) = [] := by
  unfold summaryEvents
  split <;> rfl

theorem nextSignalId_applyLiveFill (nowMs : ℕ) (fill : LiveOrderFillFeedback) :
    (engine.applyLiveFill nowMs fill).nextSignalId = engine.nextSignalId := by
  rcases engine.applyLiveFill_cases nowMs fill with
    ⟨hsame, -⟩ | ⟨before, order, after, -, -, -, -, ⟨-, hbooks⟩ | ⟨-, -, hbooks⟩⟩
  · rw [hsame]
  all_goals exact congrArg Books.nextSignalId hbooks

theorem nextSignalId_applyLiveSubmissionFeedback (fills : List LiveOrderFillFeedback)
    (rejectedSignalIds : List ℤ) (nowMs : ℕ) :
    (engine.applyLiveSubmissionFeedback fills rejectedSignalIds nowMs).nextSignalId =
      engine.nextSignalId := by
  rw [applyLiveSubmissionFeedback_eq]
  have hfills : ∀ engine : RuntimeDecisionEngine σ,
      (fills.foldl (applyLiveFill nowMs) engine).nextSignalId = engine.nextSignalId := by
    induction fills with
    | nil => exact fun _ => rfl
    | cons fill rest ih =>
      exact fun engine => (ih _).trans (engine.nextSignalId_applyLiveFill nowMs fill)
  rw [hfills]
  induction rejectedSignalIds generalizing engine with
  | nil => rfl
  | cons signalId rest ih =>
    refine (ih (engine.removePendingOrder signalId).2).trans ?_
    rcases engine.removePendingOrder_cases signalId with
      ⟨hnone, -⟩ | ⟨before, order, after, -, -, -, hsome⟩
    · rw [hnone]
    · rw [hsome]

theorem foldl_settleTrade_logs (feeParams : FeeParams) (outcome : SignalDirection) (nowMs : ℕ)
    (trades : List SimulatedTrade) (pass : DecisionPass σ) :
    let pass' := trades.foldl (settleTrade feeParams outcome nowMs) pass
    loggedIds pass'.persistenceEvents = loggedIds pass.persistenceEvents ∧
      pass'.engine.nextSignalId = pass.engine.nextSignalId := by
  induction trades generalizing pass with
  | nil => exact ⟨rfl, rfl⟩
  | cons trade rest ih =>
    obtain ⟨hlogged, hnext⟩ := ih (settleTrade feeParams outcome nowMs pass trade)
    rw [foldl_cons]
    refine ⟨hlogged.trans ?_, hnext.trans ?_⟩
    all_goals
      unfold settleTrade
      cases trade.id
    · rfl
    · exact (loggedIds_append _ _).trans (append_nil _)
    · rfl
    · rfl

variable [Strategy σ]

def offeredSignals (request : RuntimeDecisionRequest) : ℕ :=
  (engine.strategies.map fun strategy =>
    (Strategy.evaluate strategy request.ctx engine.config request.nowMs).1.signals.length).sum

theorem sum_collectCandidates (config : Config) (request : RuntimeDecisionRequest)
    (strategies : List σ) (tracker : StrategyRejectionTracker) :
    ((collectCandidates config request strategies tracker).1.map (·.result.signals.length)).sum =
      (strategies.map fun strategy =>
        (Strategy.evaluate strategy request.ctx config request.nowMs).1.signals.length).sum := by
  induction strategies generalizing tracker with
  | nil => rfl
  | cons strategy rest ih =>
    unfold collectCandidates
    rw [map_cons, sum_cons, ← ih]
    generalize Strategy.evaluate strategy request.ctx config request.nowMs = evaluated
    rcases evaluated with ⟨result, strategy'⟩
    cases result with
    | none => exact (Nat.zero_add _).symm
    | rejected rejection =>
      exact (ih _).trans ((ih _).symm.trans (Nat.zero_add _).symm)
    | single signal => rfl
    | batch signals => rfl

theorem logs_evaluate :
    LogsSignals (engine.offeredSignals request) engine.nextSignalId
      (engine.evaluate request).1.persistenceEvents (engine.evaluate request).2.nextSignalId := by
  have hdue : ∃ outcomes dueEvents engine₁,
      (if engine.config.executionMode = .liveTrading then ([], [], engine)
        else engine.processDueOrders request) = (outcomes, dueEvents, engine₁) ∧
      engine₁.config = engine.config ∧ engine₁.strategies = engine.strategies ∧
      LogsSignals 0 engine.nextSignalId dueEvents engine₁.nextSignalId := by
    by_cases hlive : engine.config.executionMode = .liveTrading
    · rw [if_pos hlive]
      exact ⟨_, _, _, rfl, rfl, rfl, .unlogged rfl⟩
    · rw [if_neg hlive]
      exact ⟨_, _, _, rfl, (engine.processDueOrders_run request).1,
        DueOrders.strategies_foldl engine.pendingOrders _, engine.logs_processDueOrders request⟩
  obtain ⟨outcomes, dueEvents, engine₁, hphase, hconfig, hstrategies, hdue⟩ := hdue
  unfold evaluate
  rw [hphase]
  dsimp only
  split
  · obtain ⟨count, hcount, hnext, hlogged⟩ := hdue
    exact ⟨count, by omega, hnext, hlogged⟩
  · have hoffered : ((collectCandidates engine₁.config request engine₁.strategies
        engine₁.rejectionTracker).1.map (·.result.signals.length)).sum =
          engine.offeredSignals request := by
      rw [sum_collectCandidates, hconfig, hstrategies]
      rfl
    generalize collectCandidates engine₁.config request engine₁.strategies
      engine₁.rejectionTracker = collected at hoffered
    rcases collected with ⟨candidates, strategies, rejectionTracker⟩
    obtain ⟨events, hevents, hlogs⟩ : DecisionPass.Logs
        (candidates.map (·.result.signals.length)).sum
        { DecisionPass.start
            { engine₁ with strategies := strategies, rejectionTracker := rejectionTracker } with
          persistenceEvents := dueEvents }
        (candidates.foldl (fun pass candidate => pass.handleCandidate request _ _ candidate) _) :=
      DecisionPass.logs_foldl_handleCandidate _
        (if engine₁.config.regimeDetectionEnabled = true then
          selectFamilyForCandidates request.ctx engine₁.config (candidates.map (·.family))
        else none)
        (detectRegime request.ctx engine₁.config) candidates
    have hall := hdue.trans hlogs
    rw [← hevents, hoffered, Nat.zero_add] at hall
    exact hall

def signalLimit : EngineMessage → ℕ
  | .evaluate request => engine.offeredSignals request
  | .liveFeedback .. | .releaseReservations _ | .windowClosed .. | .authoritativeResolution ..
  | .flushAll _ => 0

/-- The signals that one message logs, and the ids it draws for them. -/
theorem receive_signalIds (message : EngineMessage) :
    LogsSignals (engine.signalLimit message) engine.nextSignalId (engine.emitted message)
      (engine.receive message).nextSignalId := by
  cases message with
  | evaluate request => exact engine.logs_evaluate request
  | liveFeedback fills rejectedSignalIds nowMs =>
    have hnext :=
      engine.nextSignalId_applyLiveSubmissionFeedback fills rejectedSignalIds nowMs
    exact ⟨0, le_rfl, hnext, List.Sublist.refl _⟩
  | releaseReservations releases =>
    have hnext := congrArg Books.nextSignalId (engine.books_releaseReservations releases)
    exact ⟨0, le_rfl, hnext, List.Sublist.refl _⟩
  | windowClosed window nowMs =>
    refine ⟨0, le_rfl, congrArg Books.nextSignalId (engine.books_windowClosed window nowMs), ?_⟩
    rw [show loggedIds (engine.emitted (.windowClosed window nowMs)) = [] from
      loggedIds_summaryEvents _]
    exact nil_sublist _
  | authoritativeResolution window outcome nowMs =>
    obtain ⟨hlogged, hnext⟩ := foldl_settleTrade_logs
      (resolveFeeParams engine.config (some window) nowMs) outcome nowMs
      (engine.exposure.removeMarket window.marketId).1
      ((DecisionPass.start
        { engine with exposure := (engine.exposure.removeMarket window.marketId).2 }).emit
          (.marketResolved window.marketId outcome.display))
    refine ⟨0, le_rfl, hnext, ?_⟩
    rw [show loggedIds (engine.emitted (.authoritativeResolution window outcome nowMs)) = []
      from hlogged]
    exact nil_sublist _
  | flushAll nowMs =>
    refine ⟨0, le_rfl, rfl, ?_⟩
    rw [show loggedIds (engine.emitted (.flushAll nowMs)) = [] from loggedIds_summaryEvents _]
    exact nil_sublist _

end RuntimeDecisionEngine

end BubaPaint
