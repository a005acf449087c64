import BubaPaint.Decision.EngineOrders
import BubaPaint.Decision.TradingDesk
import Mathlib.Data.List.Iterate

/-!
# The decision engine as a trading desk

Seen without its ids, the decision engine in a paper mode decides what the desk decides. It counts
the trades that are neither closed nor at the end of their market, and moves the reserves of those
alone that are not pending: what makes both the same is that a trade is pending only after the end
of its market, and that no trade of a market is pending before its close.

Main results:

- Theorem `deskStep_refines`: a message in a paper mode is a step of the desk.
-/

namespace BubaPaint

open Effects InMemoryExposureState List RuntimeDecisionEngine TradingDesk DecisionPass

variable {σ : Type}

/-- The orders, the positions and the bankroll of an engine. -/
def RuntimeDecisionEngine.desk (engine : RuntimeDecisionEngine σ) : TradingDesk where
  orders := engine.pendingOrders.map fun order => (queuedOrderIntent order).terms
  positions := engine.exposure.openTrades.map fun entry => entry.trade.deskPosition
  bankroll := engine.bankroll

/-- The trades an engine holds fit the markets it was told of. -/
structure RuntimeDecisionEngine.OnLedger (config : Config) (ends : String → ℕ)
    (ledger : MarketLedger) (engine : RuntimeDecisionEngine σ) : Prop where
  config : engine.config = config
  identified : ∀ entry ∈ engine.exposure.openTrades, entry.trade.id.isSome
  ends : ∀ entry ∈ engine.exposure.openTrades, entry.marketEndTime = ends entry.trade.marketId
  pending : ∀ entry ∈ engine.exposure.openTrades, entry.pendingSettlement = true →
    entry.marketEndTime ≤ ledger.nowMs
  active : ∀ entry ∈ engine.exposure.openTrades, entry.trade.marketId ∉ ledger.closed →
    entry.pendingSettlement = false

namespace RuntimeDecisionEngine

variable {config : Config} {ends : String → ℕ} {ledger : MarketLedger}
variable {engine : RuntimeDecisionEngine σ}

namespace OnLedger

theorem mono (h : engine.OnLedger config ends ledger) {ledger' : MarketLedger}
    (hnow : ledger.nowMs ≤ ledger'.nowMs) (hclosed : ledger.closed ⊆ ledger'.closed) :
    engine.OnLedger config ends ledger' where
  config := h.config
  identified := h.identified
  ends := h.ends
  pending entry hentry hpending := (h.pending entry hentry hpending).trans hnow
  active entry hentry hopen := h.active entry hentry fun hmem => hopen (hclosed hmem)

variable {engine' : RuntimeDecisionEngine σ}

theorem of_same (h : engine.OnLedger config ends ledger) (hconfig : engine'.config = engine.config)
    (hopen : engine'.exposure.openTrades = engine.exposure.openTrades) :
    engine'.OnLedger config ends ledger where
  config := hconfig.trans h.config
  identified := hopen ▸ h.identified
  ends := hopen ▸ h.ends
  pending := hopen ▸ h.pending
  active := hopen ▸ h.active

theorem of_subset (h : engine.OnLedger config ends ledger)
    (hconfig : engine'.config = engine.config)
    (hopen : engine'.exposure.openTrades ⊆ engine.exposure.openTrades) :
    engine'.OnLedger config ends ledger where
  config := hconfig.trans h.config
  identified entry hentry := h.identified entry (hopen hentry)
  ends entry hentry := h.ends entry (hopen hentry)
  pending entry hentry := h.pending entry (hopen hentry)
  active entry hentry := h.active entry (hopen hentry)

end OnLedger

theorem queueRelevantCount_desk (h : engine.OnLedger config ends ledger) {nowMs : ℕ}
    (hnow : ledger.nowMs ≤ nowMs) :
    engine.exposure.queueRelevantCount config nowMs = engine.desk.counted config ends nowMs := by
  unfold queueRelevantCount counted desk
  split
  · simp
  · rw [countP_map]
    apply countP_congr
    intro entry hentry
    have hends := h.ends entry hentry
    have hpending := h.pending entry hentry
    simp only [Function.comp_apply, SimulatedTrade.deskPosition, Bool.and_eq_true,
      Bool.not_eq_true', decide_eq_true_eq, gt_iff_lt, ← hends]
    constructor
    · exact fun hactive => hactive.2
    · intro hopen
      refine ⟨Bool.eq_false_iff.mpr fun hmarked => ?_, hopen⟩
      have hover := hpending hmarked
      omega

variable (window : MarketWindow) (signal : Signal) (isBatch : Bool)

theorem duplicateOpen_desk :
    engine.exposure.duplicateOpen window.marketId signal.strategy signal.direction isBatch =
      engine.desk.positions.any (DeskPosition.duplicates window isBatch signal) := by
  unfold duplicateOpen desk
  rw [any_map]
  rfl

theorem duplicatePending_desk :
    engine.duplicatePending window.marketId signal isBatch =
      engine.desk.orders.any (QueuedOrderIntent.duplicates window isBatch signal) := by
  unfold duplicatePending desk
  rw [any_map]
  rfl

theorem canQueueSingle_desk (h : engine.OnLedger config ends ledger) (signal : Signal)
    (window : MarketWindow) (isBatch : Bool) (requiredSlots : ℕ) {nowMs : ℕ}
    (hnow : ledger.nowMs ≤ nowMs) :
    engine.canQueueSingle signal window isBatch requiredSlots nowMs =
      engine.desk.queueRejection config ends [signal] window isBatch requiredSlots nowMs := by
  unfold canQueueSingle queueRejection
  rw [h.config, queueRelevantCount_desk h hnow, duplicateOpen_desk, duplicatePending_desk]
  simp [desk]

theorem canQueueSpread_desk (h : engine.OnLedger config ends ledger) (signals : List Signal)
    (window : MarketWindow) {nowMs : ℕ} (hnow : ledger.nowMs ≤ nowMs) :
    engine.canQueueSpread signals window nowMs =
      engine.desk.queueRejection config ends signals window true 2 nowMs := by
  unfold canQueueSpread queueRejection
  rw [h.config, queueRelevantCount_desk h hnow]
  simp only [duplicateOpen_desk, duplicatePending_desk]
  simp [desk]

end RuntimeDecisionEngine

namespace DecisionPass

variable {config : Config} {ends : String → ℕ} {ledger : MarketLedger} {pass : DecisionPass σ}
variable {request : RuntimeDecisionRequest}

theorem submitSingle_desk (h : pass.engine.OnLedger config ends ledger)
    (hnow : ledger.nowMs ≤ request.nowMs) (signal : Signal) (signalId : ℤ) :
    let result := pass.submitSingle request signal signalId (familyForStrategy signal.strategy)
    (result.1.terms, result.2.engine.desk) =
      pass.engine.desk.submitSingle config ends signal request.window request.nowMs := by
  unfold submitSingle TradingDesk.submitSingle
  rw [canQueueSingle_desk h signal request.window false 1 hnow, h.config]
  cases pass.engine.desk.queueRejection config ends [signal] request.window false 1
      request.nowMs with
  | some reason => rfl
  | none =>
    dsimp only
    have hbankroll : pass.engine.desk.bankroll = pass.engine.bankroll := rfl
    rw [hbankroll]
    generalize pass.engine.bankroll.reserveCapitalWithReservePrice _ _ _ _ _ _ _ = reserved
    split
    · rfl
    cases submissionSizeRejectionReason reserved.1 (signalEntryAsk signal)
        (request.window.orderMinSize.getD 0) config.minBetUsd with
    | some reason => rfl
    | none =>
      simp [SubmissionOutcome.terms, desk, pushDecisionEvent, emit,
        pushPendingOrder, recordSubmittedOrder,
        QueuedOrderIntent.terms, queuedOrderIntent, orderTerms]

theorem rejectSpread_desk (pass : DecisionPass σ) (signals : List Signal) (signalIds : List ℤ)
    (reason : String) :
    let result := pass.rejectSpread request signals signalIds reason
    (result.1.terms, result.2.engine.desk) = (.rejected [] reason, pass.engine.desk) := by
  simp [rejectSpread, SubmissionOutcome.terms]

theorem submitSpread_desk (h : pass.engine.OnLedger config ends ledger)
    (hnow : ledger.nowMs ≤ request.nowMs) {signals : List Signal}
    (hlegs : (spreadLegs signals).isSome) {signalIds : List ℤ}
    (hlength : signalIds.length = signals.length) :
    let result := pass.submitSpread request signals signalIds
    (result.1.terms, result.2.engine.desk) =
      pass.engine.desk.submitSpread config ends signals request.window request.nowMs := by
  obtain ⟨⟨upSignal, downSignal⟩, hlegs⟩ := Option.isSome_iff_exists.mp hlegs
  obtain ⟨upSignalId, downSignalId, hpair⟩ := exists_spreadSignalPair hlegs hlength
  unfold submitSpread TradingDesk.submitSpread
  rw [hlegs, hpair]
  rw [canQueueSpread_desk h signals request.window hnow, h.config]
  cases pass.engine.desk.queueRejection config ends signals request.window true 2 request.nowMs with
  | some reason => exact rejectSpread_desk _ _ _ _
  | none =>
    dsimp only
    split
    · exact rejectSpread_desk _ _ _ _
    have hbankroll : pass.engine.desk.bankroll = pass.engine.bankroll := rfl
    rw [hbankroll]
    generalize pass.engine.bankroll.reserveSpreadCapital _ _ _ _ = reserved
    split
    · exact rejectSpread_desk _ _ _ _
    cases spreadSubmissionRejectionReason reserved.1.1 reserved.1.2 upSignal.upAsk
        downSignal.downAsk (request.window.orderMinSize.getD 0) config.minBetUsd with
    | some reason => exact rejectSpread_desk _ _ _ _
    | none =>
      simp [SubmissionOutcome.terms, desk, pushPendingOrder, recordSubmittedOrder,
        QueuedOrderIntent.terms, queuedOrderIntent, orderTerms, buildSpreadOrder]

end DecisionPass

variable {config : Config} {ledger : MarketLedger} {engine : RuntimeDecisionEngine σ}
variable {ends : String → ℕ}

theorem RuntimeDecisionEngine.OnLedger.submits {label : StrategyFamily → String → Prop}
    {request : RuntimeDecisionRequest} {pass : DecisionPass σ} {signalIds : List ℤ}
    {result : SubmissionOutcome × DecisionPass σ} (h : pass.engine.OnLedger config ends ledger)
    (hsubmits : DecisionPass.Submits label request pass signalIds result) :
    result.2.engine.OnLedger config ends ledger := by
  obtain ⟨events, orders, hstep, -, -, -, hconfig⟩ := hsubmits
  exact h.of_same hconfig hstep.frame.1

/-! ## Due orders -/

theorem RuntimeDecisionEngine.OnLedger.fillOrder (h : engine.OnLedger config ends ledger)
    (order : RuntimePendingOrder) (request : RuntimeDecisionRequest) (book : TopOfBook)
    (freshnessMs : Option ℕ) (filledSize : ℚ) :
    (engine.fillOrder order request book freshnessMs filledSize).2.OnLedger config ends ledger := by
  unfold RuntimeDecisionEngine.fillOrder RuntimeDecisionEngine.releaseUnspent
  dsimp only
  split
  · exact h.of_same rfl rfl
  · exact h.of_same rfl rfl

theorem RuntimeDecisionEngine.OnLedger.addOpenTrade (h : engine.OnLedger config ends ledger)
    {trade : SimulatedTrade} (hid : trade.id.isSome) {marketEndTime : ℕ}
    (hends : marketEndTime = ends trade.marketId) :
    { engine with
      exposure := engine.exposure.addOpenTrade trade marketEndTime }.OnLedger config ends
        ledger where
  config := h.config
  identified := forall_mem_append.mpr ⟨h.identified, by simpa using hid⟩
  ends := forall_mem_append.mpr ⟨h.ends, by simpa using hends⟩
  pending := forall_mem_append.mpr ⟨h.pending, by simp⟩
  active := forall_mem_append.mpr ⟨h.active, by simp⟩

namespace DueOrders

variable {config : Config} {ends : String → ℕ} {ledger : MarketLedger}

def fills (due : DueOrders σ) : DeskFills where
  desk :=
    { due.engine.desk with
      orders := due.remaining.map fun order => (queuedOrderIntent order).terms }
  outcomes := due.outcomes.map (·.terms)

variable {request : RuntimeDecisionRequest} {due : DueOrders σ}

theorem fills_step (h : due.engine.OnLedger config ends ledger) (order : RuntimePendingOrder) :
    (due.step request order).fills =
      DeskFills.take config request.window request.bookState request.nowMs due.fills
        (queuedOrderIntent order).terms := by
  unfold step DeskFills.take
  rw [processDueOrder_eq, h.config, orderVerdict_terms]
  cases orderVerdict config (some request.window) request.bookState request.nowMs
      (queuedOrderIntent order) with
  | deferred => simp [fills]
  | missed trackGroup reason book =>
    simp [fills, rejectOrder, desk, releaseReserved, release, missedOutcome,
      ProcessedOrderOutcome.terms, QueuedOrderIntent.terms, queuedOrderIntent]
  | filled book filledSize =>
    by_cases hsurplus : order.reservedCost > filledSize * book.bestAsk
    · have hterms : (queuedOrderIntent order).terms.reservedCost > filledSize * book.bestAsk :=
        hsurplus
      simp only [fillOrder, releaseUnspent, fills, if_pos hsurplus, if_pos hterms, desk,
        InMemoryExposureState.addOpenTrade, map_append]
      rfl
    · have hterms :
          ¬ (queuedOrderIntent order).terms.reservedCost > filledSize * book.bestAsk := hsurplus
      simp only [fillOrder, releaseUnspent, fills, if_neg hsurplus, if_neg hterms, desk,
        InMemoryExposureState.addOpenTrade, map_append]
      rfl

theorem onLedger_step (hends : request.window.endTime = ends request.window.marketId)
    (h : due.engine.OnLedger config ends ledger) (order : RuntimePendingOrder) :
    (due.step request order).engine.OnLedger config ends ledger := by
  unfold step
  rw [processDueOrder_eq, h.config]
  cases hverdict : orderVerdict config (some request.window) request.bookState request.nowMs
      (queuedOrderIntent order) with
  | deferred => exact h
  | missed trackGroup reason book => exact h.of_same rfl rfl
  | filled book filledSize =>
    obtain ⟨-, ⟨window, hwindow, hmarket⟩, -⟩ := orderVerdict_filled hverdict
    cases hwindow
    have hmarketEnd : request.window.endTime = ends order.marketId :=
      hends.trans (congrArg ends hmarket)
    exact (h.fillOrder order request book (some (bookAgeMs request.nowMs book))
      filledSize).addOpenTrade rfl hmarketEnd

theorem foldl_fills (hends : request.window.endTime = ends request.window.marketId)
    (orders : List RuntimePendingOrder) (h : due.engine.OnLedger config ends ledger) :
    (orders.foldl (step request) due).fills =
        (orders.map fun order => (queuedOrderIntent order).terms).foldl
          (DeskFills.take config request.window request.bookState request.nowMs) due.fills ∧
      (orders.foldl (step request) due).engine.OnLedger config ends ledger := by
  induction orders generalizing due with
  | nil => exact ⟨rfl, h⟩
  | cons order rest ih =>
    rw [foldl_cons, map_cons, foldl_cons, ← fills_step h order]
    exact ih (onLedger_step hends h order)

end DueOrders

namespace RuntimeDecisionEngine

variable {config : Config} {ends : String → ℕ} {ledger : MarketLedger}
variable {engine : RuntimeDecisionEngine σ}
variable {window : MarketWindow} {nowMs : ℕ}

theorem processDueOrders_desk (h : engine.OnLedger config ends ledger)
    {request : RuntimeDecisionRequest}
    (hends : request.window.endTime = ends request.window.marketId) :
    let result := engine.processDueOrders request
    (result.1.map (·.terms), result.2.2.desk) =
        engine.desk.processDueOrders config request.window request.bookState request.nowMs ∧
      result.2.2.OnLedger config ends ledger := by
  let start : DueOrders σ :=
    { engine := { engine with pendingOrders := [] }, persistenceEvents := [], remaining := [],
      outcomes := [], groupOutcomes := [] }
  have hstart : start.engine.OnLedger config ends ledger := h.of_same rfl rfl
  obtain ⟨hfills, hledger⟩ := DueOrders.foldl_fills hends engine.pendingOrders hstart
  have hstartFills : start.fills =
      { desk := { engine.desk with orders := [] }, outcomes := [] } := rfl
  rw [hstartFills] at hfills
  unfold TradingDesk.processDueOrders
  have horders : engine.desk.orders =
      engine.pendingOrders.map fun order => (queuedOrderIntent order).terms := rfl
  rw [horders, ← hfills]
  exact ⟨rfl, hledger.of_same rfl rfl⟩

/-! ## The end of a market -/

theorem windowClosed_desk (h : engine.OnLedger config ends ledger)
    (hclosed : window.marketId ∉ ledger.closed) (nowMs : ℕ) :
    (engine.windowClosed window nowMs).2.desk = engine.desk.closeMarket window.marketId := by
  have hopen : (engine.exposure.openTrades.filter fun entry =>
      entry.trade.marketId == window.marketId && !entry.pendingSettlement) =
      engine.exposure.openTrades.filter fun entry => entry.trade.marketId == window.marketId := by
    apply filter_congr
    intro entry hentry
    by_cases hmarket : entry.trade.marketId = window.marketId
    · simp [hmarket, h.active entry hentry (hmarket ▸ hclosed)]
    · simp [hmarket]
  have hpositions : (engine.exposure.openTrades.map fun entry =>
      if entry.trade.marketId = window.marketId then { entry with pendingSettlement := true }
      else entry).map (fun entry => entry.trade.deskPosition) =
      engine.exposure.openTrades.map fun entry => entry.trade.deskPosition := by
    rw [map_map]
    apply map_congr_left
    intro entry _
    dsimp only [Function.comp]
    split <;> rfl
  unfold windowClosed TradingDesk.closeMarket TradingDesk.positionsIn desk
  simp only [markPendingForMarket, hopen, hpositions, filter_map,
    foldl_map]
  rfl

theorem windowClosed_onLedger (h : engine.OnLedger config ends ledger)
    (hends : window.endTime = ends window.marketId) (hover : window.endTime ≤ nowMs)
    (hnow : ledger.nowMs ≤ nowMs) :
    (engine.windowClosed window nowMs).2.OnLedger config ends
      (ledger.next (.windowClosed window nowMs)) where
  config := h.config
  identified := by
    refine forall_mem_map.mpr fun entry hentry => ?_
    split
    · exact h.identified entry hentry
    · exact h.identified entry hentry
  ends := by
    refine forall_mem_map.mpr fun entry hentry => ?_
    split
    · exact h.ends entry hentry
    · exact h.ends entry hentry
  pending := by
    refine forall_mem_map.mpr fun entry hentry => ?_
    split
    · rename_i hmarket
      intro _
      have hend := h.ends entry hentry
      rw [hmarket, ← hends] at hend
      exact hend.trans_le hover
    · exact fun hpending => (h.pending entry hentry hpending).trans hnow
  active := by
    refine forall_mem_map.mpr fun entry hentry => ?_
    split
    · rename_i hmarket
      exact fun hopen => absurd (mem_cons.mpr (.inl hmarket)) hopen
    · exact fun hopen => h.active entry hentry fun hmem => hopen (mem_cons_of_mem _ hmem)

theorem foldl_settleTrade_desk (feeParams : FeeParams) (outcome : SignalDirection) (nowMs : ℕ)
    {trades : List SimulatedTrade} (hids : ∀ trade ∈ trades, trade.id.isSome)
    (pass : DecisionPass σ) :
    let settled := (trades.foldl (settleTrade feeParams outcome nowMs) pass).engine
    settled.desk =
        { pass.engine.desk with
          bankroll := (trades.map (·.deskPosition)).foldl (settle feeParams outcome)
            pass.engine.bankroll } ∧
      settled.config = pass.engine.config ∧ settled.exposure = pass.engine.exposure := by
  induction trades generalizing pass with
  | nil => exact ⟨rfl, rfl, rfl⟩
  | cons trade rest ih =>
    obtain ⟨hid, hrest⟩ := forall_mem_cons.mp hids
    obtain ⟨tradeId, hid⟩ := Option.isSome_iff_exists.mp hid
    obtain ⟨hdesk, hconfig, hexposure⟩ := ih hrest (settleTrade feeParams outcome nowMs pass trade)
    rw [foldl_cons, map_cons, foldl_cons]
    dsimp only
    rw [hdesk, hconfig, hexposure]
    unfold settleTrade
    rw [hid]
    exact ⟨rfl, rfl, rfl⟩

theorem authoritativeResolution_desk (h : engine.OnLedger config ends ledger)
    (hfees : resolveFeeParams config (some window) nowMs =
      resolveFeeParams config (some window) window.endTime) (outcome : SignalDirection) :
    let resolved := (engine.authoritativeResolution window outcome nowMs).2
    resolved.desk = engine.desk.resolveMarket window.marketId
        (resolveFeeParams config (some window) window.endTime) outcome ∧
      resolved.OnLedger config ends ledger := by
  have hids : ∀ trade ∈ (engine.exposure.removeMarket window.marketId).1, trade.id.isSome := by
    refine forall_mem_map.mpr fun entry hentry => ?_
    exact h.identified entry (mem_filter.mp hentry).1
  obtain ⟨hdesk, hconfig, hexposure⟩ := foldl_settleTrade_desk
    (resolveFeeParams engine.config (some window) nowMs) outcome nowMs hids
    ((start
      { engine with exposure := (engine.exposure.removeMarket window.marketId).2 }).emit
      (.marketResolved window.marketId outcome.display))
  constructor
  · refine hdesk.trans ?_
    rw [h.config, hfees]
    unfold resolveMarket positionsIn desk
    simp only [removeMarket, emit, start, filter_map, map_map]
    rfl
  · refine h.of_subset hconfig ?_
    have hleft : (engine.authoritativeResolution window outcome nowMs).2.exposure =
        (engine.exposure.removeMarket window.marketId).2 := hexposure
    rw [hleft]
    exact filter_sublist.subset

def deskReport (engine : RuntimeDecisionEngine σ) (submission : Option SubmissionOutcome)
    (outcomes : List ProcessedOrderOutcome) : DeskReport where
  submission := submission.map (·.terms)
  outcomes := outcomes.map (·.terms)
  desk := engine.desk

/-- Feed an engine with an input. -/
def deskStep (engine : RuntimeDecisionEngine σ) :
    DeskInput → DeskReport × RuntimeDecisionEngine σ
  | .windowOpened .. => (engine.deskReport none [], engine)
  | .single signal request =>
    let (signalId, engine) := engine.allocateSignalId
    let (submission, pass) := (start engine).submitSingle request signal signalId
      (familyForStrategy signal.strategy)
    (pass.engine.deskReport submission [], pass.engine)
  | .spread signals request =>
    let (signalIds, engine) := engine.allocateSignalIds signals.length
    let (submission, pass) := (start engine).submitSpread request signals signalIds
    (pass.engine.deskReport submission [], pass.engine)
  | .booksMoved request =>
    let (outcomes, _, engine) := engine.processDueOrders request
    (engine.deskReport none outcomes, engine)
  | .windowClosed window nowMs =>
    let engine := (engine.windowClosed window nowMs).2
    (engine.deskReport none [], engine)
  | .outcomeKnown window outcome nowMs =>
    let engine := (engine.authoritativeResolution window outcome nowMs).2
    (engine.deskReport none [], engine)

/-- Each step is one of the desk. -/
theorem deskStep_refines (h : engine.OnLedger config ends ledger) {input : DeskInput}
    (hinput : input.Allowed config ends ledger) :
    (engine.deskStep input).1 = (engine.desk.step config ends input).1 ∧
      (engine.deskStep input).2.desk = (engine.desk.step config ends input).2 ∧
      (engine.deskStep input).2.OnLedger config ends (ledger.next input) := by
  obtain ⟨hnow, hends, hallowed⟩ := hinput
  cases input with
  | windowOpened window outcome nowMs => exact ⟨rfl, rfl, h.mono hnow (List.Subset.refl _)⟩
  | single signal request =>
    let pass := start engine.allocateSignalId.2
    have hpass : pass.engine.OnLedger config ends ledger := h.of_same rfl rfl
    have hdesk := submitSingle_desk hpass hnow signal engine.allocateSignalId.1
    have hlabel : AnyLabel (familyForStrategy signal.strategy) signal.strategy := trivial
    have hledger := hpass.submits
      (submits_submitSingle request pass hlabel engine.allocateSignalId.1)
    have hview : pass.engine.desk = engine.desk := rfl
    rw [hview] at hdesk
    unfold step
    dsimp only [deskStep]
    rw [← hdesk]
    exact ⟨rfl, rfl, hledger.mono hnow (List.Subset.refl _)⟩
  | spread signals request =>
    let pass := start (engine.advance signals.length)
    let signalIds := engine.books.signalIds signals.length
    have hpass : pass.engine.OnLedger config ends ledger := h.of_same rfl rfl
    have hlength : signalIds.length = signals.length :=
      length_iterate nextNegativeId _ signals.length
    have hdesk := submitSpread_desk hpass hnow hallowed.2 hlength
    have hlabel : ∀ signal ∈ signals, AnyLabel .spreadCapture signal.strategy :=
      fun _ _ => trivial
    have hledger := hpass.submits (submits_submitSpread request pass hlabel signalIds)
    have hview : pass.engine.desk = engine.desk := rfl
    rw [hview] at hdesk
    unfold step
    dsimp only [deskStep]
    rw [← hdesk, engine.allocateSignalIds_eq]
    exact ⟨rfl, rfl, hledger.mono hnow (List.Subset.refl _)⟩
  | booksMoved request =>
    obtain ⟨hdesk, hledger⟩ := processDueOrders_desk h hends
    unfold step
    dsimp only [deskStep]
    rw [← hdesk]
    exact ⟨rfl, rfl, hledger.mono hnow (List.Subset.refl _)⟩
  | windowClosed window nowMs =>
    have hdesk := windowClosed_desk h hallowed.1 nowMs
    unfold step
    dsimp only [deskStep, deskReport]
    rw [← hdesk]
    exact ⟨rfl, rfl, windowClosed_onLedger h hends hallowed.2 hnow⟩
  | outcomeKnown window outcome nowMs =>
    obtain ⟨hdesk, hledger⟩ := authoritativeResolution_desk h hallowed outcome
    unfold step
    dsimp only [deskStep, deskReport]
    rw [← hdesk]
    exact ⟨rfl, rfl, hledger.mono hnow (List.Subset.refl _)⟩

end RuntimeDecisionEngine

end BubaPaint
