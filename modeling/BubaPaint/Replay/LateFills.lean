import BubaPaint.Replay.Causality
import BubaPaint.Replay.RunnerSteps

/-!
# Fills after the close

Due orders are processed before the windows move, against the window that was current until then.
A group that comes after the end of that window still fills its orders if the book allows it. So the
fills are in time as long as no such group finds an order of the window in the queue that has
arrived.

Main results:

- Theorem `BacktestState.filledBeforeEnd_of_step`: the trades of one turn are filled in time.
- Theorem `fills_before_close`: so are the trades of a replay.
-/

namespace BubaPaint

open Effects

namespace WindowManager

/-- Every window that is current or still to come is one of the list. -/
def Within (settlements : List MarketSettlement) (manager : WindowManager) : Prop :=
  (∀ settlement ∈ manager.windows, settlement ∈ settlements) ∧
    ∀ settlement ∈ manager.current, settlement ∈ settlements

variable {settlements : List MarketSettlement} {manager : WindowManager}

theorem within_fromSettlements (settlements : List MarketSettlement) :
    (fromSettlements settlements).Within settlements :=
  ⟨fun _ hsettlement => hsettlement, fun _ hcurrent => nomatch hcurrent⟩

theorem enterNext_within (timestamp : ℕ) {windows : List MarketSettlement}
    (h : ∀ settlement ∈ windows, settlement ∈ settlements) :
    (∀ settlement ∈ (enterNext timestamp windows).2, settlement ∈ settlements) ∧
      ∀ settlement ∈ (enterNext timestamp windows).1, settlement ∈ settlements := by
  induction windows with
  | nil => simp [enterNext]
  | cons next rest ih =>
    have hrest := List.forall_mem_cons.mp h
    unfold enterNext
    split
    · exact ih hrest.2
    split
    · refine ⟨hrest.2, fun settlement hnext => ?_⟩
      rw [← Option.some.inj hnext]
      exact hrest.1
    · exact ⟨h, by simp⟩

theorem Within.advance (h : manager.Within settlements) (timestamp : ℕ) :
    (manager.advance timestamp).2.Within settlements := by
  have hclosed : (manager.closeCurrent timestamp).2.Within settlements := by
    unfold closeCurrent
    split
    · split
      · exact ⟨h.1, fun _ hnone => nomatch hnone⟩
      · exact h
    · exact h
  unfold WindowManager.advance
  dsimp only
  split
  · exact hclosed
  · exact enterNext_within timestamp hclosed.1

end WindowManager

section Replay

variable {σ : Type}

/-- The state before the first group of a replay over settled windows. -/
def BacktestState.startOn (options : BacktestOptions σ) (settlements : List MarketSettlement) :
    BacktestState σ :=
  { BacktestState.start options
      { feedEvents := [], clobReplayEvents := [], clobReplayBlocks := [], tickData := [],
        markets := [], resolvedTrades := [] } with
    windowManager := .fromSettlements settlements }

variable [FullStrategy σ]

/-- The loop over any groups and any settled windows. -/
def replay (options : BacktestOptions σ) (schedule : Option ObservedResolutionSchedule)
    (settlements : List MarketSettlement) (groups : List TickGroup) : List ReplayRecord :=
  trace (BacktestState.step options.sqrt schedule options.config) (.startOn options settlements)
    groups

theorem runBacktest_eq_replay (options : BacktestOptions σ) (db : DataDb) :
    runBacktest options db =
      replay options (resolutionSchedule options.config db)
        (db.loadSettlements options.startTime options.endTime)
        (tickGroups (db.loadTicks options.startTime options.endTime)) :=
  rfl

/-- The states in which a replay takes its groups. -/
def replayVisits (options : BacktestOptions σ) (schedule : Option ObservedResolutionSchedule)
    (settlements : List MarketSettlement) (groups : List TickGroup) :
    List (BacktestState σ × TickGroup) :=
  visits (BacktestState.step options.sqrt schedule options.config) (.startOn options settlements)
    groups

end Replay

/-! ## Late fills -/

section LateFills

variable {σ : Type}

/-- If the group comes at or after the end of the window that was current until now, no order of that
window in the queue has arrived. -/
def BacktestState.NothingArrivedLate (state : BacktestState σ) (group : TickGroup) : Prop :=
  ∀ settlement ∈ state.windowManager.current, settlement.window.endTime ≤ group.timestamp →
    ∀ order ∈ state.paper.engine.pendingOrders,
      order.marketId = settlement.window.marketId → group.timestamp < order.arrivalTs

instance (state : BacktestState σ) (group : TickGroup) :
    Decidable (state.NothingArrivedLate group) := by
  unfold BacktestState.NothingArrivedLate
  infer_instance

/-- A trade is filled before the end of its window, one of the list. -/
def FilledBeforeEnd (settlements : List MarketSettlement) (trade : SimulatedTrade) : Prop :=
  ∃ settlement ∈ settlements, settlement.window.marketId = trade.marketId ∧
    trade.timestamp < settlement.window.endTime

instance (settlements : List MarketSettlement) (trade : SimulatedTrade) :
    Decidable (FilledBeforeEnd settlements trade) :=
  inferInstanceAs (Decidable (∃ settlement ∈ settlements, _))

variable {state : BacktestState σ}

/-- What is filled has arrived and is of the window that was current until now. -/
theorem BacktestState.arrived_of_isFilled {group : TickGroup} {config : Config}
    {order : PendingOrder} (h : order.isFilled (state.dueContext group) config = true) :
    order.arrivalTs ≤ group.timestamp ∧
      ∃ settlement ∈ state.windowManager.current, settlement.window.marketId = order.marketId := by
  unfold PendingOrder.isFilled at h
  cases hverdict : order.verdict (state.dueContext group) config with
  | deferred | missed trackGroup reason book => simp [hverdict, OrderVerdict.isFilled] at h
  | filled book filledSize =>
    obtain ⟨harrived, ⟨window, hwindow, hmarket⟩, -⟩ := orderVerdict_filled hverdict
    obtain ⟨settlement, hcurrent, rfl⟩ := Option.map_eq_some_iff.mp hwindow
    exact ⟨harrived, settlement, hcurrent, hmarket⟩

variable [FullStrategy σ] {settlements : List MarketSettlement}

/-- The trades of one turn are filled in time if no order of an ended window has arrived. -/
theorem BacktestState.filledBeforeEnd_of_step (sqrt : ℚ → ℚ)
    (schedule : Option ObservedResolutionSchedule) (config : BacktestConfig)
    (hwithin : state.windowManager.Within settlements) {group : TickGroup}
    (hnothing : state.NothingArrivedLate group) :
    ∀ trade ∈ (state.step sqrt schedule config group).1.opened,
      FilledBeforeEnd settlements trade := by
  intro trade htrade
  have hplace : trade.place ∈
      (state.step sqrt schedule config group).1.opened.map SimulatedTrade.place :=
    List.mem_map_of_mem htrade
  rw [state.opened_step sqrt schedule config group] at hplace
  obtain ⟨order, horder, heq⟩ := List.mem_map.mp hplace
  obtain ⟨hqueued, hfilled⟩ := List.mem_filter.mp horder
  obtain ⟨hmarketId, htimestamp⟩ := Prod.mk.inj heq
  obtain ⟨harrived, settlement, hcurrent, hmarket⟩ := arrived_of_isFilled hfilled
  refine ⟨settlement, hwithin.2 settlement hcurrent, hmarket.trans hmarketId, ?_⟩
  rw [← htimestamp]
  by_contra hended
  have hlater := hnothing settlement hcurrent (not_lt.mp hended) order hqueued hmarket.symm
  omega

/-- Every trade of a replay is filled before its window ends, if no group that comes at or after the
end of the current window finds an order of the window in the queue that has arrived. -/
theorem fills_before_close (options : BacktestOptions σ)
    (schedule : Option ObservedResolutionSchedule) (settlements : List MarketSettlement)
    (groups : List TickGroup)
    (hnothing : ∀ visit ∈ replayVisits options schedule settlements groups,
      visit.1.NothingArrivedLate visit.2) :
    ∀ record ∈ replay options schedule settlements groups, ∀ trade ∈ record.opened,
      FilledBeforeEnd settlements trade := by
  have hwithin : ∀ visit ∈ replayVisits options schedule settlements groups,
      visit.1.windowManager.Within settlements := by
    apply (forall_mem_visits
      (fun state : BacktestState σ => state.windowManager.Within settlements) _ _).1
    · exact WindowManager.within_fromSettlements settlements
    · intro state group _ hwithin
      rw [BacktestState.windowManager_step]
      exact hwithin.advance group.timestamp
  unfold replay
  rw [trace_eq_map_visits, List.forall_mem_map]
  intro visit hvisit
  exact BacktestState.filledBeforeEnd_of_step options.sqrt schedule options.config
    (hwithin visit hvisit) (hnothing visit hvisit)

end LateFills

/-- A window from 2000 to 302000 with a signal at 2300, and then more quotes. -/
def lateQuoteDb (quotedAt : List ℕ) : DataDb :=
  { sampleDataDb [sampleTradeRow 1000 100, sampleTradeRow 2050 101] 102 with
    feedEvents :=
      [sampleTradeRow 1000 100, sampleTradeRow 2050 101, sampleQuoteRow 2100 "clob_up",
        sampleQuoteRow 2200 "clob_up", sampleQuoteRow 2300 "clob_down"] ++
      quotedAt.map fun time => sampleQuoteRow time "clob_up" }

/-- The options of a backtest that reaches beyond the end of the window. -/
def lateQuoteOptions : BacktestOptions LatencyArbStrategy :=
  { sampleBacktestOptions with endTime := 400000 }

/-- A quote within the window fills the order in time, and the first quote after it finds none. -/
theorem fills_before_close_sample :
    ((runBacktest lateQuoteOptions (lateQuoteDb [2400, 302100])).any fun record =>
        !record.opened.isEmpty) = true ∧
      ∀ record ∈ runBacktest lateQuoteOptions (lateQuoteDb [2400, 302100]),
        ∀ trade ∈ record.opened,
          FilledBeforeEnd ((lateQuoteDb [2400, 302100]).loadSettlements 1000 400000) trade := by
  constructor
  · decide +kernel
  rw [runBacktest_eq_replay]
  apply fills_before_close
  decide +kernel

/-- The first quote after the window ends fills the order that was queued in it. -/
theorem fill_after_close :
    ¬ ∀ (options : BacktestOptions LatencyArbStrategy) (db : DataDb),
      ∀ record ∈ runBacktest options db, ∀ trade ∈ record.opened,
        FilledBeforeEnd (db.loadSettlements options.startTime options.endTime) trade := by
  intro h
  have hlate := h lateQuoteOptions (lateQuoteDb [302100])
  revert hlate
  decide +kernel

end BubaPaint
