import BubaPaint.Replay.RunnerSteps

/-!
# Accounts of trades

Every trade that was opened is open or settled once. Due orders open trades of the current window,
a settlement closes the open trades of its market, and nothing else touches a trade.

Main results:

- Theorem `TradesAccount.processDueOrders`: due orders keep the accounts.
-/

namespace BubaPaint

open List

/-- The rows of trades and the counters of trades. -/
structure SameTrades (before after : PaperState) : Prop where
  table : after.db.table = before.db.table
  totalTrades : after.bankroll.totalTrades = before.bankroll.totalTrades
  filledOrders : after.engine.stats.filledOrders = before.engine.stats.filledOrders

namespace SameTrades

variable {before mid after : PaperState}

theorem refl (state : PaperState) : SameTrades state state :=
  ⟨rfl, rfl, rfl⟩

theorem trans (h : SameTrades before mid) (h' : SameTrades mid after) : SameTrades before after :=
  ⟨h'.table.trans h.table, h'.totalTrades.trans h.totalTrades,
    h'.filledOrders.trans h.filledOrders⟩

end SameTrades

/-- Every trade that was opened is open or settled once, the open ones belong to the given markets,
and the counters say so. -/
structure TradesAccount (opened : List SimulatedTrade)
    (settled : List (SimulatedTrade × TradeResult)) (markets : List String)
    (paper : PaperState) : Prop where
  numbered : paper.db.table.Numbered
  rows : paper.db.table.trades.map (·.id) = opened.map (·.id)
  balanced : (opened.map (·.id)).Perm (paper.db.openTrades.map (·.id) ++ settled.map (·.1.id))
  known : ∀ trade ∈ paper.db.openTrades, trade.marketId ∈ markets
  applied : paper.bankroll.totalTrades = settled.length
  filled : paper.engine.stats.filledOrders = opened.length

namespace TradesAccount

variable {opened : List SimulatedTrade} {settled : List (SimulatedTrade × TradeResult)}
variable {markets : List String} {paper after : PaperState}
variable {markets' : List String} {results : List (SimulatedTrade × TradeResult)}

theorem of_same (h : TradesAccount opened settled markets paper) (hsame : SameTrades paper after) :
    TradesAccount opened settled markets after where
  numbered := hsame.table ▸ h.numbered
  rows := hsame.table ▸ h.rows
  balanced := by
    unfold ResultsDb.openTrades
    rw [hsame.table]
    exact h.balanced
  known := by
    unfold ResultsDb.openTrades
    rw [hsame.table]
    exact h.known
  applied := hsame.totalTrades.trans h.applied
  filled := hsame.filledOrders.trans h.filled

theorem mono (h : TradesAccount opened settled markets paper)
    (hmarkets : ∀ market ∈ markets, market ∈ markets') :
    TradesAccount opened settled markets' paper :=
  { h with known := fun trade htrade => hmarkets _ (h.known trade htrade) }

theorem nodup (h : TradesAccount opened settled markets paper) : (opened.map (·.id)).Nodup :=
  h.rows ▸ h.numbered.distinct

/-! ## Settling -/

variable (window : MarketWindow) (outcome : SignalDirection) (config : Config) (nowMs : ℕ)

/-- Settling one open trade. -/
theorem settleTrade {trade : SimulatedTrade}
    (h : TradesAccount opened (settled ++ results) markets paper)
    (htrade : trade ∈ paper.db.getOpenTradesForMarket window.marketId) :
    let next := PaperState.settleTrade window outcome config nowMs (results, paper) trade
    TradesAccount opened (settled ++ next.1) markets next.2 ∧
      next.2.db.getOpenTradesForMarket window.marketId =
        (paper.db.getOpenTradesForMarket window.marketId).filter (fun row => row.id != trade.id) ∧
      next.2.db.openTrades = paper.db.openTrades.filter fun row => row.id != trade.id := by
  obtain ⟨hrow, -, hopen⟩ := ResultsDb.mem_getOpenTradesForMarket.mp htrade
  obtain ⟨tradeId, hid⟩ := Option.isSome_iff_exists.mp (h.numbered.identified trade hrow)
  unfold PaperState.settleTrade
  rw [hid]
  dsimp only
  generalize PaperState.confirmedResult trade tradeId _ _ = result
  have htable := h.numbered.closeTrade_eq hrow hopen hid result
  refine ⟨⟨h.numbered.closeTrade hrow hopen hid result, ?_, ?_, ?_, ?_, h.filled⟩, ?_, ?_⟩
  · have hids : (paper.db.table.closeTrade tradeId result).trades.map (·.id) =
        paper.db.table.trades.map (·.id) := by
      rw [htable]
      simp
    exact hids.trans h.rows
  · have hleft := ResultsDb.openTrades_closeTrade h.numbered hrow hopen hid result
    have hmem : trade ∈ paper.db.openTrades := mem_filter.mpr ⟨hrow, by simp [hopen]⟩
    have hdistinct : (paper.db.openTrades.map (·.id)).Nodup :=
      (filter_sublist.map _).nodup h.numbered.distinct
    have hperm := (TradesTable.perm_cons_filter_ne hdistinct hmem).map (·.id)
    have hshift : (trade.id :: (paper.db.openTrades.filter fun row => row.id != trade.id).map
        (·.id) ++ (settled ++ results).map (·.1.id)).Perm
        (((paper.db.closeTrade tradeId result).openTrades).map (·.id) ++
          (settled ++ (results ++ [(trade, result)])).map (·.1.id)) := by
      rw [hleft, ← hid]
      simp only [map_append, map_cons, map_nil]
      rw [cons_append]
      refine perm_middle.symm.trans ?_
      refine List.Perm.append_left _ ?_
      rw [← append_assoc]
      exact (perm_append_singleton _ _).symm
    exact (h.balanced.trans (hperm.append_right _)).trans hshift
  · intro other hother
    have hleft := ResultsDb.openTrades_closeTrade h.numbered hrow hopen hid result
    have hkept : other ∈ (paper.db.closeTrade tradeId result).openTrades := hother
    rw [hleft] at hkept
    exact h.known other (mem_filter.mp hkept).1
  · change paper.bankroll.totalTrades + 1 = _
    rw [h.applied]
    simp only [length_append, length_cons, length_nil]
    omega
  · exact ResultsDb.getOpenTradesForMarket_closeTrade h.numbered hrow hopen hid result _
  · exact ResultsDb.openTrades_closeTrade h.numbered hrow hopen hid result

theorem foldl_settleTrade {trades : List SimulatedTrade}
    (h : TradesAccount opened (settled ++ results) markets paper)
    (hopen : paper.db.getOpenTradesForMarket window.marketId = trades) :
    let last := trades.foldl (PaperState.settleTrade window outcome config nowMs) (results, paper)
    TradesAccount opened (settled ++ last.1) markets last.2 ∧
      last.2.db.getOpenTradesForMarket window.marketId = [] ∧
      ∀ other ∈ paper.db.openTrades, other.marketId ≠ window.marketId →
        other ∈ last.2.db.openTrades := by
  induction trades generalizing results paper with
  | nil => exact ⟨h, hopen, fun _ hother _ => hother⟩
  | cons trade rest ih =>
    have htrade : trade ∈ paper.db.getOpenTradesForMarket window.marketId := by
      rw [hopen]
      exact mem_cons_self
    obtain ⟨hnext, hleft, hkept⟩ := h.settleTrade window outcome config nowMs htrade
    have hdistinct := paper.db.nodup_getOpenTradesForMarket h.numbered window.marketId
    rw [hopen, map_cons, nodup_cons] at hdistinct
    have hrest : (rest.filter fun row => row.id != trade.id) = rest := by
      apply filter_eq_self.mpr
      intro other hother
      apply bne_iff_ne.mpr
      intro hsame
      exact hdistinct.1 (mem_map.mpr ⟨other, hother, hsame⟩)
    rw [hopen, filter_cons_of_neg (by simp), hrest] at hleft
    obtain ⟨hend, hnone, hothers⟩ := ih hnext hleft
    refine ⟨hend, hnone, fun other hother hmarket => hothers other ?_ hmarket⟩
    rw [hkept]
    refine mem_filter.mpr ⟨hother, bne_iff_ne.mpr fun hsame => hmarket ?_⟩
    obtain ⟨hrow, htradeMarket, -⟩ := ResultsDb.mem_getOpenTradesForMarket.mp htrade
    have hequal : other = trade := inj_on_of_nodup_map h.numbered.distinct
      (mem_filter.mp hother).1 hrow hsame
    rw [hequal, htradeMarket]

/-- Settling a market settles its trades. -/
theorem settle (h : TradesAccount opened settled markets paper) (window : MarketWindow)
    (outcome : SignalDirection) (config : Config) (nowMs : ℕ)
    (hmarkets : ∀ market ∈ markets, market = window.marketId ∨ market ∈ markets') :
    let resolved := paper.resolveWindowWithOutcome window outcome config nowMs
    TradesAccount opened (settled ++ resolved.1) markets' resolved.2 ∧
      ∀ other ∈ paper.db.openTrades, other.marketId ≠ window.marketId →
        other ∈ resolved.2.db.openTrades := by
  have hstart : TradesAccount opened (settled ++ []) markets paper := by
    rw [append_nil]
    exact h
  obtain ⟨hsettled, hnone, hothers⟩ := hstart.foldl_settleTrade window outcome config nowMs rfl
  refine ⟨{ hsettled with known := fun trade htrade => ?_ }, hothers⟩
  rcases hmarkets _ (hsettled.known trade htrade) with hown | hother
  · obtain ⟨hrow, hopen⟩ := mem_filter.mp htrade
    have hmem := ResultsDb.mem_getOpenTradesForMarket.mpr ⟨hrow, hown, eq_of_beq hopen⟩
    have hleft : (paper.resolveWindowWithOutcome window outcome config
        nowMs).2.db.getOpenTradesForMarket window.marketId = [] := hnone
    rw [hleft] at hmem
    cases hmem
  · exact hother

theorem openTrade (h : TradesAccount opened settled markets paper) (after : PaperState)
    (trade : SimulatedTrade) (hid : trade.id = none) (hopen : trade.status = .open)
    (hmarket : trade.marketId ∈ markets) (htable : after.db.table = paper.db.table.openTrade trade)
    (htotal : after.bankroll.totalTrades = paper.bankroll.totalTrades)
    (hfilled : after.engine.stats.filledOrders = paper.engine.stats.filledOrders + 1) :
    TradesAccount (opened ++ [{ trade with id := some (paper.db.table.sequence + 1) }]) settled
      markets after := by
  have htrades := h.numbered.trades_openTrade hid
  have hopened : after.db.openTrades = paper.db.openTrades ++
      [{ trade with id := some (paper.db.table.sequence + 1) }] := by
    unfold ResultsDb.openTrades
    rw [htable, htrades, filter_append]
    simp [hopen]
  refine ⟨htable ▸ h.numbered.openTrade hid, ?_, ?_, ?_, htotal.trans h.applied, ?_⟩
  · rw [htable, htrades, map_append, map_append, h.rows]
  · rw [hopened, map_append, map_append, append_assoc]
    exact (h.balanced.append_right _).trans
      (by rw [append_assoc]; exact perm_append_comm.append_left _)
  · rw [hopened]
    intro other hother
    rcases mem_append.mp hother with hold | hnew
    · exact h.known other hold
    · rw [mem_singleton.mp hnew]
      exact hmarket
  · rw [hfilled, h.filled]
    simp

theorem dueStep {context : DueOrderContext} {due : PaperDueOrders}
    (hcurrent : ∀ window, context.currentWindow = some window → window.marketId ∈ markets)
    (h : TradesAccount (opened ++ due.opened) settled markets due.state) (order : PendingOrder) :
    let next := due.step context config order
    TradesAccount (opened ++ next.opened) settled markets next.state := by
  unfold PaperDueOrders.step
  rw [PaperState.processDueOrder_eq]
  cases hverdict : order.verdict context config with
  | deferred => exact h
  | missed trackGroup reason book => exact h.of_same ⟨rfl, rfl, rfl⟩
  | filled book filledSize =>
    obtain ⟨-, ⟨window, hwindow, hmarket⟩, -⟩ := orderVerdict_filled hverdict
    have hknown : order.marketId ∈ markets := by
      have hmem := hcurrent window hwindow
      rw [hmarket] at hmem
      exact hmem
    -- releasing the surplus of the reservation does not count
    have hsurplus : ∀ fillCost,
        SameTrades due.state (due.state.releaseSurplus order fillCost) := by
      intro fillCost
      unfold PaperState.releaseSurplus
      split
      · exact ⟨rfl, rfl, rfl⟩
      · exact .refl _
    have hready := h.of_same (hsurplus (filledSize * book.bestAsk))
    have hopened := hready.openTrade (due.state.fillDueOrder order context book
        (some (bookAgeMs context.now book)) filledSize config).2
      (order.trade book.bestAsk filledSize context.now config.executionMode.asStr)
      rfl rfl hknown rfl rfl rfl
    rw [append_assoc] at hopened
    exact hopened.of_same ⟨rfl, rfl, rfl⟩

/-- Filling due orders of a known market. -/
theorem processDueOrders (context : DueOrderContext) (config : Config)
    (h : TradesAccount opened settled markets paper)
    (hcurrent : ∀ window, context.currentWindow = some window → window.marketId ∈ markets) :
    let filled := paper.processDueOrders context config
    TradesAccount (opened ++ filled.1) settled markets filled.2 := by
  have hfold : ∀ (orders : List PendingOrder) (due : PaperDueOrders),
      TradesAccount (opened ++ due.opened) settled markets due.state →
        let last := orders.foldl (PaperDueOrders.step context config) due
        TradesAccount (opened ++ last.opened) settled markets last.state := by
    intro orders
    induction orders with
    | nil => exact fun _ hdue => hdue
    | cons order rest ih => exact fun due hdue => ih _ (dueStep config hcurrent hdue order)
  have hstart : TradesAccount (opened ++ []) settled markets
      { paper with engine.pendingOrders := [] } := by
    rw [append_nil]
    exact h.of_same ⟨rfl, rfl, rfl⟩
  exact (hfold paper.engine.pendingOrders _ hstart).of_same ⟨rfl, rfl, rfl⟩

end TradesAccount

/-! ## Submissions -/

namespace PaperState

variable (state : PaperState) {config : Config}
variable (signal : Signal) (signals : List Signal) (window : MarketWindow) (nowMs : ℕ)
variable (bankroll : BankrollManager)

theorem totalTrades_canTrade (config : Config) (nowMs : ℕ) :
    (bankroll.canTrade config nowMs).2.totalTrades = bankroll.totalTrades := by
  unfold BankrollManager.canTrade BankrollManager.rearmDdPause
  dsimp only
  repeat' split
  all_goals rfl

theorem totalTrades_reserveCapitalWithReservePrice (entryPrice reservePrice confidence : ℚ)
    (strategy : String) (family : StrategyFamily) (config : Config) (nowMs : ℕ) :
    (bankroll.reserveCapitalWithReservePrice entryPrice reservePrice confidence strategy family
      config nowMs).2.totalTrades = bankroll.totalTrades := by
  have hgates := totalTrades_canTrade bankroll config nowMs
  unfold BankrollManager.reserveCapitalWithReservePrice
  dsimp only
  repeat' split
  all_goals exact hgates

theorem totalTrades_reserveSpreadCapital (upAsk downAsk : ℚ) (config : Config) (nowMs : ℕ) :
    (bankroll.reserveSpreadCapital upAsk downAsk config nowMs).2.totalTrades =
      bankroll.totalTrades := by
  have hgates := totalTrades_canTrade bankroll config nowMs
  unfold BankrollManager.reserveSpreadCapital BankrollManager.reserveSpreadCapitalForFamily
  dsimp only
  repeat' split
  all_goals exact hgates

theorem sameTrades_pushPendingOrder (order : PendingOrder) :
    SameTrades state (state.pushPendingOrder order config) := by
  unfold pushPendingOrder
  split
  · exact ⟨rfl, rfl, rfl⟩
  · exact .refl state

theorem sameTrades_updateSpreadSignalMetrics (signalIds : List ℤ) (arrivalTs : Option ℕ)
    (decisionStatus : String) (rejectionReason : Option String) :
    SameTrades state (state.updateSpreadSignalMetrics signals signalIds arrivalTs decisionStatus
      rejectionReason) := by
  obtain ⟨signalMetrics, hmetrics⟩ := state.exists_updateSpreadSignalMetrics_eq signals signalIds
    arrivalTs decisionStatus rejectionReason
  rw [hmetrics]
  exact ⟨rfl, rfl, rfl⟩

theorem sameTrades_logSpreadSignals (arrivalTs : ℕ) (signals : List Signal) :
    SameTrades state (state.logSpreadSignals window arrivalTs signals).2 := by
  obtain ⟨signalIds, rows, hlogged, _⟩ := state.exists_logSpreadSignals_eq window arrivalTs signals
  rw [hlogged]
  exact ⟨rfl, rfl, rfl⟩

theorem sameTrades_queueSingleSubmission (signalId : ℤ) (window : MarketWindow)
    (requestedPrice limitPrice requestedSize : ℚ) :
    SameTrades state (state.queueSingleSubmission signal signalId window requestedPrice limitPrice
      requestedSize config).2 := by
  unfold queueSingleSubmission
  have hrecorded : SameTrades state (state.recordSubmittedOrder (singleOrder signal signalId window
      requestedPrice limitPrice requestedSize config)) := ⟨rfl, rfl, rfl⟩
  exact (hrecorded.trans (sameTrades_pushPendingOrder _ _)).trans ⟨rfl, rfl, rfl⟩

theorem sameTrades_queueSpreadSubmissionOrders (upSignal downSignal : Signal)
    (upSignalId downSignalId : ℤ) (window : MarketWindow) (arrivalTs : ℕ)
    (upTokens downTokens : ℚ) :
    SameTrades state (state.queueSpreadSubmissionOrders upSignal downSignal upSignalId downSignalId
      window arrivalTs upTokens downTokens config).2 := by
  unfold queueSpreadSubmissionOrders
  refine SameTrades.trans ?_ (sameTrades_pushPendingOrder _ _)
  refine SameTrades.trans ?_ (sameTrades_pushPendingOrder _ _)
  exact ⟨rfl, rfl, rfl⟩

theorem sameTrades_submitSingle :
    SameTrades state (state.submitSingle signal window config nowMs).2 := by
  have htotal := totalTrades_reserveCapitalWithReservePrice state.bankroll (signalEntryAsk signal)
    (singleOrderLimitPrice signal config) signal.confidence signal.strategy
    (familyForStrategy signal.strategy) config nowMs
  unfold submitSingle
  dsimp only
  split
  · exact ⟨rfl, rfl, rfl⟩
  split
  · exact ⟨rfl, htotal, rfl⟩
  split
  · exact ⟨rfl, htotal, rfl⟩
  · refine SameTrades.trans ?_ (sameTrades_queueSingleSubmission _ _ _ _ _ _ _)
    exact ⟨rfl, htotal, rfl⟩

theorem sameTrades_submitSpread :
    SameTrades state (state.submitSpread signals window config nowMs).2 := by
  unfold submitSpread
  dsimp only
  have hlogged := state.sameTrades_logSpreadSignals window (spreadArrivalTs signals config nowMs)
    signals
  generalize state.logSpreadSignals window (spreadArrivalTs signals config nowMs) signals =
    logged at hlogged ⊢
  split
  · exact hlogged.trans (sameTrades_updateSpreadSignalMetrics _ _ _ _ _ _)
  split
  · exact hlogged
  rename_i upSignal downSignal upSignalId downSignalId hpair
  have htotal := totalTrades_reserveSpreadCapital logged.2.bankroll upSignal.upAsk
    downSignal.downAsk config nowMs
  have hreserved : SameTrades logged.2 { logged.2 with
      bankroll := (logged.2.bankroll.reserveSpreadCapital upSignal.upAsk downSignal.downAsk config
        nowMs).2 } := ⟨rfl, htotal, rfl⟩
  split
  · exact hlogged.trans (sameTrades_updateSpreadSignalMetrics _ _ _ _ _ _)
  split
  · exact (hlogged.trans hreserved).trans (sameTrades_updateSpreadSignalMetrics _ _ _ _ _ _)
  split
  · refine (hlogged.trans hreserved).trans
      (SameTrades.trans ?_ (sameTrades_updateSpreadSignalMetrics _ _ _ _ _ _))
    exact ⟨rfl, rfl, rfl⟩
  · exact (hlogged.trans hreserved).trans
      ((sameTrades_queueSpreadSubmissionOrders _ _ _ _ _ _ _ _ _).trans
        (sameTrades_updateSpreadSignalMetrics _ _ _ _ _ _))

end PaperState

namespace StrategyCycle

theorem sameTrades_handleCandidate (input : StrategyCycleInput)
    (selectedFamily : Option StrategyFamily) (regime : PortfolioRegime) (cycle : StrategyCycle)
    (candidate : EvaluatedCandidate) :
    SameTrades cycle.paper (handleCandidate input selectedFamily regime cycle candidate).paper := by
  unfold handleCandidate
  split
  · exact .refl _
  split
  · unfold handleSingleCandidate
    dsimp only
    split
    · exact ⟨rfl, rfl, rfl⟩
    split
    · exact .refl _
    · exact cycle.paper.sameTrades_submitSingle _ _ _
  · unfold handleBatchCandidate
    dsimp only
    split
    · exact .refl _
    · exact cycle.paper.sameTrades_submitSpread _ _ _
  · exact .refl _
  · exact .refl _

/-- A strategy cycle opens and settles no trade. -/
theorem sameTrades_runStrategyCycle {σ : Type} [FullStrategy σ] (input : StrategyCycleInput)
    (paper : PaperState) (rejectionTracker : StrategyRejectionTracker) (strategies : List σ) :
    SameTrades paper (runStrategyCycle input paper rejectionTracker strategies).1.paper := by
  have hfold : ∀ (selectedFamily : Option StrategyFamily) (regime : PortfolioRegime)
      (candidates : List EvaluatedCandidate) (cycle : StrategyCycle),
      SameTrades cycle.paper
        (candidates.foldl (handleCandidate input selectedFamily regime) cycle).paper := by
    intro selectedFamily regime candidates
    induction candidates with
    | nil => exact fun cycle => .refl cycle.paper
    | cons candidate rest ih =>
      exact fun cycle => (sameTrades_handleCandidate input selectedFamily regime cycle
        candidate).trans (ih _)
  exact hfold _ _ _ { paper, rejectionTracker := _, result := _ }

end StrategyCycle

end BubaPaint
