import BubaPaint.Replay.PaperVerdicts
import BubaPaint.Replay.Runner

/-!
# What one turn of the loop does

Only the window manager moves the windows, only the sample of a group moves the feed state before
orders are filled, and only the filling of due orders opens trades.
-/

namespace BubaPaint

open Effects

namespace BacktestState

variable {σ : Type}

/-- The windows, what is known of the feeds, and the engine are left alone. -/
structure SameLoop (before after : BacktestState σ) : Prop where
  windowManager : after.windowManager = before.windowManager
  feedState : after.feedState = before.feedState
  engine : after.paper.engine = before.paper.engine

namespace SameLoop

variable {before mid after : BacktestState σ}

theorem refl (state : BacktestState σ) : SameLoop state state :=
  ⟨rfl, rfl, rfl⟩

theorem trans (h : SameLoop before mid) (h' : SameLoop mid after) : SameLoop before after :=
  ⟨h'.windowManager.trans h.windowManager, h'.feedState.trans h.feedState,
    h'.engine.trans h.engine⟩

end SameLoop

theorem engine_settleTrade (window : MarketWindow) (outcome : SignalDirection) (config : Config)
    (nowMs : ℕ) (settled : List (SimulatedTrade × TradeResult) × PaperState)
    (trade : SimulatedTrade) :
    (PaperState.settleTrade window outcome config nowMs settled trade).2.engine =
      settled.2.engine := by
  unfold PaperState.settleTrade
  split <;> rfl

theorem engine_resolveWindowWithOutcome (paper : PaperState) (window : MarketWindow)
    (outcome : SignalDirection) (config : Config) (nowMs : ℕ) :
    (paper.resolveWindowWithOutcome window outcome config nowMs).2.engine = paper.engine := by
  have hfold : ∀ (trades : List SimulatedTrade)
      (settled : List (SimulatedTrade × TradeResult) × PaperState),
      (trades.foldl (PaperState.settleTrade window outcome config nowMs) settled).2.engine =
        settled.2.engine := by
    intro trades
    induction trades with
    | nil => exact fun _ => rfl
    | cons trade rest ih =>
      intro settled
      rw [List.foldl_cons, ih, engine_settleTrade]
  exact hfold (paper.db.getOpenTradesForMarket window.marketId) ([], paper)

theorem recordSettled_eq (state : BacktestState σ) (nowMs : ℕ)
    (settled : List (SimulatedTrade × TradeResult)) :
    ∃ trendTracker circuitBreaker,
      state.recordSettled nowMs settled = { state with trendTracker, circuitBreaker } := by
  induction settled generalizing state with
  | nil => exact ⟨_, _, rfl⟩
  | cons entry rest ih => exact ih _

theorem sameLoop_settleMarket (state : BacktestState σ) (settlement : PendingBacktestSettlement)
    (config : Config) (nowMs : ℕ) :
    SameLoop state (state.settleMarket settlement config nowMs).2 := by
  unfold settleMarket
  dsimp only
  have hengine := engine_resolveWindowWithOutcome state.paper settlement.window settlement.outcome
    config nowMs
  generalize state.paper.resolveWindowWithOutcome settlement.window settlement.outcome config
    nowMs = resolved at hengine ⊢
  obtain ⟨trendTracker, circuitBreaker, hrecorded⟩ :=
    recordSettled_eq { state with paper := resolved.2 } nowMs resolved.1
  rw [hrecorded]
  exact ⟨rfl, rfl, hengine⟩

theorem sameLoop_settleMarkets (config : Config) (nowMs : ℕ) (state : BacktestState σ)
    (settlements : List PendingBacktestSettlement) :
    SameLoop state (settleMarkets config nowMs state settlements).2 := by
  induction settlements generalizing state with
  | nil => exact .refl state
  | cons settlement rest ih =>
    exact (state.sameLoop_settleMarket settlement config nowMs).trans (ih _)

theorem sameLoop_processDueMarketSettlements (config : Config) (nowMs : ℕ)
    (state : BacktestState σ) (pending : List (ℕ × List PendingBacktestSettlement)) :
    SameLoop state (processDueMarketSettlements config nowMs state pending).2 := by
  induction pending generalizing state with
  | nil => exact ⟨rfl, rfl, rfl⟩
  | cons entry rest ih =>
    unfold processDueMarketSettlements
    split
    · exact (sameLoop_settleMarkets config entry.1 state entry.2).trans (ih _)
    · exact ⟨rfl, rfl, rfl⟩

theorem windowManager_closeWindow (state : BacktestState σ)
    (schedule : Option ObservedResolutionSchedule) (config : BacktestConfig)
    (closed : MarketSettlement) (replayTs : ℕ) :
    (state.closeWindow schedule config closed replayTs).2.windowManager = state.windowManager := by
  unfold closeWindow
  cases config.backtestSettlementMode with
  | immediate => exact (sameLoop_settleMarket _ _ _ _).windowManager
  | observedMarketResolution => rfl

theorem windowManager_moveWindows (state : BacktestState σ)
    (schedule : Option ObservedResolutionSchedule) (config : BacktestConfig) (replayTs : ℕ) :
    (state.moveWindows schedule config replayTs).2.windowManager =
      (state.windowManager.advance replayTs).2 := by
  unfold moveWindows
  dsimp only
  cases (state.windowManager.advance replayTs).1.closed with
  | none =>
    cases (state.windowManager.advance replayTs).1.opened with
    | none => rfl
    | some opened => rfl
  | some closed =>
    cases (state.windowManager.advance replayTs).1.opened with
    | none | some opened => exact windowManager_closeWindow _ _ _ _ _

theorem windowManager_pushMomentum (state : BacktestState σ) (group : TickGroup) :
    (state.pushMomentum group).windowManager = state.windowManager := by
  unfold pushMomentum
  split <;> rfl

variable [FullStrategy σ]

theorem windowManager_evaluateStrategies (state : BacktestState σ) (sqrt : ℚ → ℚ)
    (config : BacktestConfig) (group : TickGroup) :
    (state.evaluateStrategies sqrt config group).2.windowManager = state.windowManager := by
  unfold evaluateStrategies
  split
  · dsimp only
    split <;> rfl
  · rfl

/-- What due orders meet in a turn: the window that was current until now and the books with the
sample of the group. -/
def dueContext (state : BacktestState σ) (group : TickGroup) : DueOrderContext where
  now := group.timestamp
  nowUs := none
  currentWindow := state.windowManager.current.map fun settlement => settlement.window
  bookState := (state.feedState.update group).signalState.bookState

variable (sqrt : ℚ → ℚ) (schedule : Option ObservedResolutionSchedule) (config : BacktestConfig)

/-- The windows after a turn. -/
theorem windowManager_step (state : BacktestState σ) (group : TickGroup) :
    (state.step sqrt schedule config group).2.windowManager =
      (state.windowManager.advance group.timestamp).2 := by
  have hsettled := sameLoop_processDueMarketSettlements config.toConfig group.timestamp state
    state.pendingSettlements
  unfold step
  rw [windowManager_evaluateStrategies, windowManager_moveWindows, windowManager_pushMomentum]
  unfold fillDueOrders
  rw [hsettled.windowManager]

/-- The trades a turn opens are those of the orders whose verdict is a fill. -/
theorem opened_step (state : BacktestState σ) (group : TickGroup) :
    (state.step sqrt schedule config group).1.opened.map SimulatedTrade.place =
      (state.paper.engine.pendingOrders.filter
        (PendingOrder.isFilled (state.dueContext group) config.toConfig)).map
          fun order => (order.marketId, group.timestamp) := by
  have hsettled := sameLoop_processDueMarketSettlements config.toConfig group.timestamp state
    state.pendingSettlements
  unfold step fillDueOrders
  rw [PaperState.opened_processDueOrders, hsettled.engine, hsettled.windowManager,
    hsettled.feedState]
  rfl

end BacktestState

end BubaPaint
