import BubaPaint.Replay.Blindness

/-!
# Two backtests on the same early ticks

Two backtests agree as long as they have replayed the same ticks, entered windows with the same open
prices and settled markets with the same outcomes. What later windows hold does not matter yet.

Main results:

- Theorem `Agree.step`: one step keeps two backtests in agreement.
-/

namespace BubaPaint

open PaperState WindowManager

section Windows

variable {t : ℕ} {times : List ℕ}

/-- A window both runs have, with one open price if one of the given times lies in it, and with one
outcome if it ends by a given time. -/
structure SameWindow (t : ℕ) (times : List ℕ) (first second : MarketSettlement) : Prop where
  window : first.window = second.window
  openPrice : ∀ time ∈ times, first.window.startTime ≤ time → time < first.window.endTime →
    first.openPrice = second.openPrice
  outcome : first.window.endTime ≤ t → first.outcome = second.outcome

/-- A window that both runs have entered. -/
structure SameEntered (t : ℕ) (first second : MarketSettlement) : Prop where
  window : first.window = second.window
  openPrice : first.openPrice = second.openPrice
  outcome : first.window.endTime ≤ t → first.outcome = second.outcome

/-- A window that both runs have left. -/
structure SameClosed (first second : MarketSettlement) : Prop where
  window : first.window = second.window
  outcome : first.outcome = second.outcome

/-- Both runs have the same windows. -/
structure SameWindows (t : ℕ) (times : List ℕ) (first second : WindowManager) : Prop where
  windows : List.Forall₂ (SameWindow t times) first.windows second.windows
  current : Option.Rel (SameEntered t) first.current second.current

variable {first second : WindowManager} {timestamp : ℕ}

theorem closeCurrent_agree (h : SameWindows t times first second) (hearly : timestamp ≤ t) :
    Option.Rel SameClosed (first.closeCurrent timestamp).1 (second.closeCurrent timestamp).1 ∧
      SameWindows t times (first.closeCurrent timestamp).2 (second.closeCurrent timestamp).2 := by
  rcases first with ⟨windows, current⟩
  rcases second with ⟨windows', current'⟩
  obtain ⟨hwindows, hcurrent⟩ := h
  cases hcurrent with
  | none => exact ⟨.none, hwindows, .none⟩
  | @some current current' hsame =>
    unfold closeCurrent
    dsimp only
    rw [← hsame.window]
    split
    · rename_i hover
      exact ⟨.some ⟨hsame.window, hsame.outcome (by omega)⟩, hwindows, .none⟩
    · exact ⟨.none, hwindows, .some hsame⟩

theorem enterNext_agree (htime : timestamp ∈ times) {windows windows' : List MarketSettlement}
    (h : List.Forall₂ (SameWindow t times) windows windows') :
    Option.Rel (SameEntered t) (enterNext timestamp windows).1 (enterNext timestamp windows').1 ∧
      List.Forall₂ (SameWindow t times) (enterNext timestamp windows).2
        (enterNext timestamp windows').2 := by
  induction h with
  | nil => exact ⟨.none, .nil⟩
  | @cons next next' rest rest' hnext hrest ih =>
    unfold enterNext
    rw [← hnext.window]
    split
    · exact ih
    · rename_i hopen
      split
      · rename_i hstarted
        exact ⟨.some ⟨hnext.window,
          hnext.openPrice timestamp htime hstarted (not_le.mp hopen), hnext.outcome⟩, hrest⟩
      · exact ⟨.none, .cons hnext hrest⟩

/-- Both runs leave and enter the same windows. -/
theorem advance_agree (h : SameWindows t times first second) (htime : timestamp ∈ times)
    (hearly : timestamp ≤ t) :
    Option.Rel SameClosed (first.advance timestamp).1.closed (second.advance timestamp).1.closed ∧
      Option.Rel (SameEntered t) (first.advance timestamp).1.opened
        (second.advance timestamp).1.opened ∧
      SameWindows t times (first.advance timestamp).2 (second.advance timestamp).2 := by
  obtain ⟨hclosed, hwindows, hcurrent⟩ := closeCurrent_agree h hearly
  obtain ⟨hopened, hrest⟩ := enterNext_agree htime hwindows
  unfold advance
  generalize first.closeCurrent timestamp = left at *
  generalize second.closeCurrent timestamp = right at *
  rcases left with ⟨closed, windows, current⟩
  rcases right with ⟨closed', windows', current'⟩
  cases hcurrent with
  | none => exact ⟨hclosed, hopened, hrest, hopened⟩
  | some hsame => exact ⟨hclosed, .none, hwindows, .some hsame⟩

end Windows

variable {first second : PaperState}

theorem PaperState.agree_of_blind {α : Type} {f : PaperState → α × PaperState}
    (hblind : ∀ state : PaperState, f state.blind = ((f state).1, (f state).2.blind))
    (h : first.blind = second.blind) :
    (f first).1 = (f second).1 ∧ (f first).2.blind = (f second).2.blind := by
  have hpair : ((f first).1, (f first).2.blind) = ((f second).1, (f second).2.blind) := by
    rw [← hblind, ← hblind, h]
  exact Prod.mk.injEq .. ▸ hpair

theorem PaperState.resolveWindowWithOutcome_agree (h : first.blind = second.blind)
    (window : MarketWindow) (outcome : SignalDirection) (config : Config) (nowMs : ℕ) :
    (first.resolveWindowWithOutcome window outcome config nowMs).1 =
        (second.resolveWindowWithOutcome window outcome config nowMs).1 ∧
      (first.resolveWindowWithOutcome window outcome config nowMs).2.blind =
        (second.resolveWindowWithOutcome window outcome config nowMs).2.blind := by
  obtain ⟨hsettled, hstate⟩ :=
    first.resolveWindowWithOutcome_blind config window outcome nowMs
  obtain ⟨hsettled', hstate'⟩ :=
    second.resolveWindowWithOutcome_blind config window outcome nowMs
  rw [← hsettled, ← hstate, ← hsettled', ← hstate', h]
  exact ⟨rfl, rfl⟩

theorem PaperState.written_agree (h : first.blind = second.blind) :
    first.db.signals = second.db.signals ∧ first.db.signalMetrics = second.db.signalMetrics ∧
      first.engine.pendingOrders = second.engine.pendingOrders ∧
      first.db.table = second.db.table ∧
      first.db.rejectionSummaries = second.db.rejectionSummaries := by
  simp only [blind, ResultsDb.blind, PaperState.mk.injEq, ResultsDb.mk.injEq] at h
  simp [h]

theorem runStrategyCycle_agree {σ : Type} [FullStrategy σ] (h : first.blind = second.blind)
    (input : StrategyCycleInput) (rejectionTracker : StrategyRejectionTracker)
    (strategies : List σ) :
    (runStrategyCycle input first rejectionTracker strategies).1.result =
        (runStrategyCycle input second rejectionTracker strategies).1.result ∧
      (runStrategyCycle input first rejectionTracker strategies).1.paper.blind =
        (runStrategyCycle input second rejectionTracker strategies).1.paper.blind ∧
      (runStrategyCycle input first rejectionTracker strategies).1.rejectionTracker =
        (runStrategyCycle input second rejectionTracker strategies).1.rejectionTracker ∧
      (runStrategyCycle input first rejectionTracker strategies).2 =
        (runStrategyCycle input second rejectionTracker strategies).2 := by
  have hfirst := runStrategyCycle_blind input first rejectionTracker strategies
  have hsecond := runStrategyCycle_blind input second rejectionTracker strategies
  rw [h, hsecond] at hfirst
  generalize runStrategyCycle input first rejectionTracker strategies = run at *
  generalize runStrategyCycle input second rejectionTracker strategies = run' at *
  obtain ⟨hcycle, hstrategies⟩ := Prod.mk.inj hfirst
  have hresult : run.1.blind.result = run'.1.blind.result := by rw [hcycle]
  have hpaper : run.1.blind.paper = run'.1.blind.paper := by rw [hcycle]
  have htracker : run.1.blind.rejectionTracker = run'.1.blind.rejectionTracker := by rw [hcycle]
  exact ⟨hresult, hpaper, htracker, hstrategies.symm⟩

/-! ## States -/

namespace BacktestState

variable {σ : Type} {t : ℕ} {times : List ℕ} {first second : BacktestState σ}

/-- Two states agree in all that a tick at one of the given times reads. -/
structure Agree (t : ℕ) (times : List ℕ) (first second : BacktestState σ) : Prop where
  paper : first.paper.blind = second.paper.blind
  circuitBreaker : first.circuitBreaker = second.circuitBreaker
  trendTracker : first.trendTracker = second.trendTracker
  rejectionTracker : first.rejectionTracker = second.rejectionTracker
  strategies : first.strategies = second.strategies
  feedState : first.feedState = second.feedState
  momentum : first.momentum = second.momentum
  windowManager : SameWindows t times first.windowManager second.windowManager
  pendingFirst : first.pendingSettlements = []
  pendingSecond : second.pendingSettlements = []

namespace Agree

variable {config : BacktestConfig}

section Agreeing

variable (h : Agree t times first second)

include h

theorem withPaper {paper paper' : PaperState} (hpaper : paper.blind = paper'.blind) :
    Agree t times { first with paper } { second with paper := paper' } :=
  { h with paper := hpaper }

theorem recordSettled (nowMs : ℕ) (settled : List (SimulatedTrade × TradeResult)) :
    Agree t times (first.recordSettled nowMs settled) (second.recordSettled nowMs settled) := by
  induction settled generalizing first second with
  | nil => exact h
  | cons entry rest ih =>
    apply ih
    have htracker := congrArg (fun tracker => tracker.recordOutcome
      (familyForStrategy entry.1.strategy) entry.1.side (decide (0 < entry.2.pnlNet)))
      h.trendTracker
    have hbreaker := congrArg (fun breaker => breaker.recordResult
      (decide (0 < entry.2.pnlNet)) nowMs) h.circuitBreaker
    exact { h with trendTracker := htracker, circuitBreaker := hbreaker }

theorem settleMarket (settlement : PendingBacktestSettlement) (config : Config) (nowMs : ℕ) :
    (first.settleMarket settlement config nowMs).1 =
        (second.settleMarket settlement config nowMs).1 ∧
      Agree t times (first.settleMarket settlement config nowMs).2
        (second.settleMarket settlement config nowMs).2 := by
  obtain ⟨hsettled, hpaper⟩ := resolveWindowWithOutcome_agree h.paper
    settlement.window settlement.outcome config nowMs
  refine ⟨hsettled, ?_⟩
  unfold BacktestState.settleMarket
  dsimp only
  rw [hsettled]
  exact (h.withPaper hpaper).recordSettled nowMs _

theorem upsertMarket {settlement settlement' : MarketSettlement}
    (hwindow : settlement.window = settlement'.window) :
    Agree t times (first.upsertMarket settlement) (second.upsertMarket settlement') := by
  apply h.withPaper
  rw [blind_upsertMarket, blind_upsertMarket, h.paper, hwindow]

theorem persistRejectionSummaries (marketId : String) (timestampMs : ℕ) :
    Agree t times (first.persistRejectionSummaries marketId timestampMs)
      (second.persistRejectionSummaries marketId timestampMs) := by
  unfold BacktestState.persistRejectionSummaries
  rw [h.rejectionTracker]
  let log (paper : PaperState) : PaperState :=
    { paper with
      db := paper.db.logStrategyRejectionSummaries
        (second.rejectionTracker.drainMarket marketId timestampMs).1 }
  have hpaper : log first.paper.blind = log second.paper.blind := congrArg log h.paper
  exact { h with paper := hpaper, rejectionTracker := rfl }

theorem closeWindow (himmediate : config.backtestSettlementMode = .immediate)
    (schedule : Option ObservedResolutionSchedule) {closed closed' : MarketSettlement}
    (hclosed : SameClosed closed closed') (replayTs : ℕ) :
    (first.closeWindow schedule config closed replayTs).1 =
        (second.closeWindow schedule config closed' replayTs).1 ∧
      Agree t times (first.closeWindow schedule config closed replayTs).2
        (second.closeWindow schedule config closed' replayTs).2 := by
  have hwritten := h.upsertMarket hclosed.window
  have hpaper :
      ((first.upsertMarket closed).paper.closeMarketAndReclassifyReserve closed.window).blind =
        ((second.upsertMarket closed').paper.closeMarketAndReclassifyReserve
          closed.window).blind := by
    rw [blind_closeMarketAndReclassifyReserve,
      blind_closeMarketAndReclassifyReserve, hwritten.paper]
  have hpersisted := (hwritten.withPaper hpaper).persistRejectionSummaries
    closed.window.marketId replayTs
  unfold BacktestState.closeWindow
  rw [himmediate, ← hclosed.window, ← hclosed.outcome]
  exact hpersisted.settleMarket _ _ _

theorem currentWindow :
    (first.windowManager.current.map fun settlement => settlement.window) =
      second.windowManager.current.map fun settlement => settlement.window := by
  have hcurrent := h.windowManager.current
  generalize first.windowManager.current = current at *
  generalize second.windowManager.current = current' at *
  cases hcurrent with
  | none => rfl
  | some hsame => exact congrArg some hsame.window

theorem fillDueOrders (config : Config) (replayTs : ℕ) :
    (first.fillDueOrders config replayTs).1 = (second.fillDueOrders config replayTs).1 ∧
      (first.fillDueOrders config replayTs).2.1 = (second.fillDueOrders config replayTs).2.1 ∧
      Agree t times (first.fillDueOrders config replayTs).2.2
        (second.fillDueOrders config replayTs).2.2 := by
  unfold BacktestState.fillDueOrders
  have hbooks : first.feedState.signalState.bookState =
      second.feedState.signalState.bookState := by rw [h.feedState]
  rw [h.currentWindow, hbooks]
  obtain ⟨hopened, hfilled⟩ := agree_of_blind (f := fun state => state.processDueOrders _ config)
    (fun state => state.processDueOrders_blind config _) h.paper
  obtain ⟨hprocessed, htaken⟩ := agree_of_blind (f := takeRecentOutcomes) (fun _ => rfl) hfilled
  exact ⟨hopened, hprocessed, h.withPaper htaken⟩

theorem pushMomentum (group : TickGroup) :
    Agree t times (first.pushMomentum group) (second.pushMomentum group) := by
  unfold BacktestState.pushMomentum
  split
  · refine { h with momentum := ?_ }
    simp only [h.momentum]
  · exact h

theorem moveWindows (himmediate : config.backtestSettlementMode = .immediate)
    (schedule : Option ObservedResolutionSchedule) {replayTs : ℕ} (htime : replayTs ∈ times)
    (hearly : replayTs ≤ t) :
    (first.moveWindows schedule config replayTs).1 =
        (second.moveWindows schedule config replayTs).1 ∧
      Agree t times (first.moveWindows schedule config replayTs).2
        (second.moveWindows schedule config replayTs).2 := by
  obtain ⟨hclosed, hopened, hmanager⟩ := advance_agree h.windowManager htime hearly
  have hmoved : Agree t times
      { first with windowManager := (first.windowManager.advance replayTs).2 }
      { second with windowManager := (second.windowManager.advance replayTs).2 } :=
    { h with windowManager := hmanager }
  unfold BacktestState.moveWindows
  generalize first.windowManager.advance replayTs = moved at *
  generalize second.windowManager.advance replayTs = moved' at *
  rcases moved with ⟨⟨opened, closed⟩, manager⟩
  rcases moved' with ⟨⟨opened', closed'⟩, manager'⟩
  cases hclosed with
  | none =>
    cases hopened with
    | none => exact ⟨rfl, hmoved⟩
    | some hsame =>
      have hwritten := hmoved.upsertMarket hsame.window
      exact ⟨rfl, { hwritten with
        feedState := congrArg FeedState.openWindow h.feedState }⟩
  | some hover =>
    obtain ⟨hsettled, hleft⟩ := hmoved.closeWindow himmediate schedule hover replayTs
    cases hopened with
    | none => exact ⟨hsettled, hleft⟩
    | some hsame =>
      have hwritten := hleft.upsertMarket hsame.window
      exact ⟨hsettled, { hwritten with
        feedState := congrArg FeedState.openWindow hleft.feedState }⟩

end Agreeing

variable [FullStrategy σ]

theorem evaluateStrategies (h : Agree t times first second) (sqrt : ℚ → ℚ)
    (config : BacktestConfig) (group : TickGroup) :
    (first.evaluateStrategies sqrt config group).1 =
        (second.evaluateStrategies sqrt config group).1 ∧
      Agree t times (first.evaluateStrategies sqrt config group).2
        (second.evaluateStrategies sqrt config group).2 := by
  have hcurrent := h.windowManager.current
  have hprice : first.feedState.signalState.binancePrice =
      second.feedState.signalState.binancePrice := by rw [h.feedState]
  unfold BacktestState.evaluateStrategies
  generalize first.windowManager.current = current at *
  generalize second.windowManager.current = current' at *
  cases hcurrent with
  | none => exact ⟨rfl, h⟩
  | @some current current' hsame =>
    rw [hprice]
    cases second.feedState.signalState.binancePrice with
    | none => exact ⟨rfl, h⟩
    | some binancePrice =>
      dsimp only
      rw [hsame.window, hsame.openPrice, h.feedState, h.momentum, h.circuitBreaker,
        h.trendTracker, h.rejectionTracker, h.strategies]
      split
      · exact ⟨rfl, h.paper, rfl, rfl, rfl, rfl, rfl, rfl, h.windowManager, h.pendingFirst,
          h.pendingSecond⟩
      · obtain ⟨hresult, hpaper, htracker, hstrategies⟩ :=
          runStrategyCycle_agree h.paper _ second.rejectionTracker second.strategies
        exact ⟨congrArg some hresult, hpaper, rfl, rfl, htracker, hstrategies, rfl, rfl,
          h.windowManager, h.pendingFirst, h.pendingSecond⟩

/-- One turn of the loop puts out the same and keeps two states in agreement. -/
theorem step (h : Agree t times first second) (sqrt : ℚ → ℚ)
    (himmediate : config.backtestSettlementMode = .immediate)
    (schedule : Option ObservedResolutionSchedule) {group : TickGroup}
    (htime : group.timestamp ∈ times) (hearly : group.timestamp ≤ t) :
    (first.step sqrt schedule config group).1 = (second.step sqrt schedule config group).1 ∧
      Agree t times (first.step sqrt schedule config group).2
        (second.step sqrt schedule config group).2 := by
  have hupdated : Agree t times
      { first with pendingSettlements := [], feedState := first.feedState.update group }
      { second with pendingSettlements := [], feedState := second.feedState.update group } :=
    { h with
      feedState := congrArg (fun feedState => feedState.update group) h.feedState
      pendingFirst := rfl
      pendingSecond := rfl }
  obtain ⟨hopened, hprocessed, hfilled⟩ :=
    hupdated.fillDueOrders config.toConfig group.timestamp
  obtain ⟨hsettled, hmoved⟩ :=
    (hfilled.pushMomentum group).moveWindows himmediate schedule htime hearly
  obtain ⟨hcycle, hafter⟩ := hmoved.evaluateStrategies sqrt config group
  obtain ⟨hsignals, hmetrics, horders, htable, hsummaries⟩ := written_agree hafter.paper
  unfold BacktestState.step
  rw [h.pendingFirst, h.pendingSecond]
  refine ⟨?_, hafter⟩
  rw [ReplayRecord.mk.injEq]
  exact ⟨rfl, hopened, hprocessed, hsettled, hcycle, hsignals, hmetrics, horders, htable,
    hafter.rejectionTracker, hsummaries⟩

end Agree

end BacktestState

end BubaPaint
