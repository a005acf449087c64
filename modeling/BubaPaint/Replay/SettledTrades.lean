import BubaPaint.Replay.LateFills
import BubaPaint.Replay.TradesAccount

/-!
# Trades that are settled

Markets are settled when their window closes or when their resolution is due, and what is still
pending is settled after the loop. A trade whose window is still current when the ticks end is not.

Main results:

- Theorem `account_replay`: what a replay has opened and settled.
- Theorem `current_replayEnd_of_endsReached`: ticks that reach the ends of the windows they enter
  leave none open.
- Theorem `trades_settled_once`: then every trade is settled exactly once.
-/

namespace BubaPaint

open Effects List BacktestState

/-! ## Markets that have open trades -/

def pendingMarkets (pending : List (ℕ × List PendingBacktestSettlement)) : List String :=
  pending.flatMap fun entry => entry.2.map fun settlement => settlement.window.marketId

theorem mem_pendingMarkets_schedule {settlement : PendingBacktestSettlement} {settleAt : ℕ}
    {pending : List (ℕ × List PendingBacktestSettlement)} {market : String} :
    market ∈ pendingMarkets (schedulePendingMarketSettlement settlement settleAt pending) ↔
      market = settlement.window.marketId ∨ market ∈ pendingMarkets pending := by
  induction pending with
  | nil => simp [schedulePendingMarketSettlement, pendingMarkets]
  | cons entry rest ih =>
    unfold schedulePendingMarketSettlement
    split
    · simp [pendingMarkets]
    split
    · simp only [pendingMarkets, flatMap_cons, map_append, map_cons,
        map_nil, mem_append, mem_singleton]
      tauto
    · simp only [pendingMarkets, flatMap_cons, mem_append] at ih ⊢
      rw [ih]
      tauto

namespace WindowManager

variable {manager : WindowManager} {timestamp : ℕ}

theorem current_of_closed {settlement : MarketSettlement}
    (h : (manager.advance timestamp).1.closed = some settlement) :
    manager.current = some settlement := by
  have hclosed : (manager.closeCurrent timestamp).1 = some settlement := by
    unfold advance at h
    dsimp only at h
    split at h <;> exact h
  unfold closeCurrent at hclosed
  split at hclosed
  · rename_i current hcurrent
    split at hclosed
    · exact hcurrent.trans hclosed
    · cases hclosed
  · cases hclosed

theorem current_of_not_closed (h : (manager.advance timestamp).1.closed = none) :
    ∀ settlement ∈ manager.current, (manager.advance timestamp).2.current = some settlement := by
  intro settlement hcurrent
  rw [Option.mem_def] at hcurrent
  have hkept : manager.closeCurrent timestamp = (none, manager) := by
    unfold advance at h
    unfold closeCurrent at h ⊢
    rw [hcurrent] at h ⊢
    dsimp only at h ⊢
    by_cases hended : timestamp ≥ settlement.window.endTime
    · rw [if_pos hended] at h
      cases h
    · rw [if_neg hended]
  unfold advance
  rw [hkept]
  dsimp only
  rw [hcurrent]
  exact hcurrent

variable {settlement : MarketSettlement}

theorem started_of_enterNext {windows : List MarketSettlement}
    (h : settlement ∈ (enterNext timestamp windows).1) :
    settlement.window.startTime ≤ timestamp ∧ timestamp < settlement.window.endTime := by
  induction windows with
  | nil => cases h
  | cons next rest ih =>
    unfold enterNext at h
    split at h
    · exact ih h
    rename_i hopen
    split at h
    · rename_i hstarted
      cases h
      exact ⟨hstarted, not_le.mp hopen⟩
    · cases h

/-- A window that is current after a tick was current before or has started, and is not over. -/
theorem current_advance (h : settlement ∈ (manager.advance timestamp).2.current) :
    (settlement ∈ manager.current ∨ settlement.window.startTime ≤ timestamp) ∧
      timestamp < settlement.window.endTime := by
  have hentered : settlement ∈ (enterNext timestamp manager.windows).1 →
      (settlement ∈ manager.current ∨ settlement.window.startTime ≤ timestamp) ∧
        timestamp < settlement.window.endTime := by
    intro hnext
    exact ⟨.inr (started_of_enterNext hnext).1, (started_of_enterNext hnext).2⟩
  unfold advance closeCurrent at h
  cases hcurrent : manager.current with
  | none =>
    simp only [hcurrent] at h hentered
    exact hentered h
  | some current =>
    simp only [hcurrent] at h hentered
    by_cases hended : timestamp ≥ current.window.endTime
    · simp only [if_pos hended] at h
      exact hentered h
    · simp only [if_neg hended, hcurrent] at h
      cases h
      exact ⟨.inl rfl, not_le.mp hended⟩

end WindowManager

namespace BacktestState

variable {σ : Type}

/-- The markets that can have open trades: the current one, and those whose settlement is
pending. -/
def openMarkets (state : BacktestState σ) : List String :=
  (state.windowManager.current.map fun settlement => settlement.window.marketId).toList ++
    pendingMarkets state.pendingSettlements

def Account (opened : List SimulatedTrade) (settled : List (SimulatedTrade × TradeResult))
    (state : BacktestState σ) : Prop :=
  TradesAccount opened settled state.openMarkets state.paper

variable {opened : List SimulatedTrade} {settled : List (SimulatedTrade × TradeResult)}
variable {markets : List String} {state : BacktestState σ}

theorem account_settleMarket (h : TradesAccount opened settled markets state.paper)
    (settlement : PendingBacktestSettlement) (config : Config) (nowMs : ℕ)
    (markets' : List String) (hmarkets : ∀ market ∈ markets,
      market = settlement.window.marketId ∨ market ∈ markets') :
    let result := state.settleMarket settlement config nowMs
    TradesAccount opened (settled ++ result.1) markets' result.2.paper ∧
      result.2.pendingSettlements = state.pendingSettlements ∧
      ∀ other ∈ state.paper.db.openTrades, other.marketId ≠ settlement.window.marketId →
        other ∈ result.2.paper.db.openTrades := by
  unfold settleMarket
  dsimp only
  obtain ⟨hsettled, hothers⟩ :=
    h.settle settlement.window settlement.outcome config nowMs hmarkets
  generalize state.paper.resolveWindowWithOutcome settlement.window settlement.outcome config
    nowMs = resolved at hsettled hothers ⊢
  obtain ⟨trendTracker, circuitBreaker, hrecorded⟩ :=
    recordSettled_eq { state with paper := resolved.2 } nowMs resolved.1
  rw [hrecorded]
  exact ⟨hsettled, rfl, hothers⟩

variable (config : Config) (nowMs : ℕ)

theorem account_settleMarkets (settlements : List PendingBacktestSettlement)
    (h : TradesAccount opened settled
      (markets ++ settlements.map fun settlement => settlement.window.marketId) state.paper) :
    let result := settleMarkets config nowMs state settlements
    TradesAccount opened (settled ++ result.1) markets result.2.paper ∧
      ∀ other ∈ state.paper.db.openTrades,
        other.marketId ∉ (settlements.map fun settlement => settlement.window.marketId) →
          other ∈ result.2.paper.db.openTrades := by
  induction settlements generalizing state settled with
  | nil =>
    unfold settleMarkets
    dsimp only
    rw [append_nil]
    rw [map_nil, append_nil] at h
    exact ⟨h, fun _ hother _ => hother⟩
  | cons settlement rest ih =>
    have hmarkets : ∀ market ∈ markets ++
        (settlement :: rest).map fun settlement => settlement.window.marketId,
        market = settlement.window.marketId ∨
          market ∈ markets ++ rest.map fun settlement => settlement.window.marketId := by
      intro market hmarket
      simp only [map_cons, mem_append, mem_cons] at hmarket ⊢
      tauto
    obtain ⟨hfirst, -, hkept⟩ := account_settleMarket h settlement config nowMs _ hmarkets
    obtain ⟨hrest, hothers⟩ := ih hfirst
    rw [append_assoc settled] at hrest
    refine ⟨hrest, fun other hother hmarket => ?_⟩
    rw [map_cons, mem_cons, not_or] at hmarket
    exact hothers other (hkept other hother hmarket.1) hmarket.2

theorem account_processDueMarketSettlements (pending : List (ℕ × List PendingBacktestSettlement))
    (h : TradesAccount opened settled (markets ++ pendingMarkets pending) state.paper) :
    let result := processDueMarketSettlements config nowMs state pending
    TradesAccount opened (settled ++ result.1)
        (markets ++ pendingMarkets result.2.pendingSettlements) result.2.paper ∧
      ∀ other ∈ state.paper.db.openTrades, other.marketId ∉ pendingMarkets pending →
        other ∈ result.2.paper.db.openTrades := by
  induction pending generalizing state settled with
  | nil =>
    unfold processDueMarketSettlements
    dsimp only
    rw [append_nil]
    exact ⟨h, fun _ hother _ => hother⟩
  | cons entry rest ih =>
    unfold processDueMarketSettlements
    split
    · have hentry : TradesAccount opened settled ((markets ++ pendingMarkets rest) ++
          entry.2.map fun settlement => settlement.window.marketId) state.paper := by
        apply h.mono
        intro market hmarket
        simp only [pendingMarkets, flatMap_cons, mem_append] at hmarket ⊢
        tauto
      obtain ⟨hfirst, hkept⟩ := account_settleMarkets config entry.1 entry.2 hentry
      obtain ⟨hrest, hothers⟩ := ih hfirst
      rw [append_assoc settled] at hrest
      refine ⟨hrest, fun other hother hmarket => ?_⟩
      rw [pendingMarkets, flatMap_cons, mem_append, not_or] at hmarket
      exact hothers other (hkept other hother hmarket.1) hmarket.2
    · dsimp only
      rw [append_nil]
      exact ⟨h, fun _ hother _ => hother⟩

theorem sameTrades_closeMarketAndReclassifyReserve (paper : PaperState) (window : MarketWindow) :
    SameTrades paper (paper.closeMarketAndReclassifyReserve window) := by
  have hfold : ∀ (trades : List SimulatedTrade) (paper : PaperState),
      SameTrades paper (trades.foldl PaperState.reclassify paper) := by
    intro trades
    induction trades with
    | nil => exact .refl
    | cons trade rest ih =>
      intro paper
      have hfirst : SameTrades paper (paper.reclassify trade) := ⟨rfl, rfl, rfl⟩
      exact hfirst.trans (ih _)
  have hclosed : SameTrades paper
      { paper with db := paper.db.resolveMarket window.marketId .closed } := ⟨rfl, rfl, rfl⟩
  exact hclosed.trans (hfold _ _)

theorem account_closeWindow (state : BacktestState σ)
    (schedule : Option ObservedResolutionSchedule) (config : BacktestConfig)
    (closed : MarketSettlement)
    (replayTs : ℕ) (h : TradesAccount opened settled
      (closed.window.marketId :: pendingMarkets state.pendingSettlements) state.paper) :
    let result := state.closeWindow schedule config closed replayTs
    TradesAccount opened (settled ++ result.1) (pendingMarkets result.2.pendingSettlements)
      result.2.paper := by
  unfold closeWindow
  have hupserted : SameTrades state.paper (state.upsertMarket closed).paper := ⟨rfl, rfl, rfl⟩
  have hclosed := hupserted.trans
    (sameTrades_closeMarketAndReclassifyReserve (state.upsertMarket closed).paper closed.window)
  have hwritten : SameTrades state.paper (({ state.upsertMarket closed with
      paper := (state.upsertMarket closed).paper.closeMarketAndReclassifyReserve
        closed.window } : BacktestState σ).persistRejectionSummaries closed.window.marketId
          replayTs).paper := hclosed.trans ⟨rfl, rfl, rfl⟩
  have hpersisted := h.of_same hwritten
  cases config.backtestSettlementMode with
  | immediate =>
    dsimp only
    obtain ⟨hsettled, hpending, -⟩ := account_settleMarket hpersisted
      { window := closed.window, outcome := closed.outcome } config.toConfig replayTs
      (pendingMarkets state.pendingSettlements) fun market hmarket => mem_cons.mp hmarket
    rw [hpending]
    exact hsettled
  | observedMarketResolution =>
    dsimp only
    rw [append_nil]
    refine hpersisted.mono fun market hmarket => ?_
    exact mem_pendingMarkets_schedule.mpr (mem_cons.mp hmarket)

section Accounts

variable (h : Account opened settled state)

include h

theorem Account.enter (event : Option MarketSettlement) :
    Account opened settled
      (match event with
        | some opened => { state.upsertMarket opened with feedState := state.feedState.openWindow }
        | none => state) := by
  cases event with
  | none => exact h
  | some entered => exact h.of_same ⟨rfl, rfl, rfl⟩

theorem Account.moveWindows (schedule : Option ObservedResolutionSchedule) (config : BacktestConfig)
    (replayTs : ℕ) :
    let result := state.moveWindows schedule config replayTs
    Account opened (settled ++ result.1) result.2 := by
  unfold BacktestState.moveWindows
  dsimp only
  cases hclosed : (state.windowManager.advance replayTs).1.closed with
  | none =>
    rw [append_nil]
    apply Account.enter
    refine h.mono fun market hmarket => ?_
    rcases mem_append.mp hmarket with hcurrent | hpending
    · obtain ⟨settlement, hsettlement, rfl⟩ :=
        Option.map_eq_some_iff.mp (Option.mem_toList.mp hcurrent)
      apply mem_append_left
      have hkept := WindowManager.current_of_not_closed hclosed settlement hsettlement
      rw [hkept]
      simp
    · exact mem_append_right _ hpending
  | some closed =>
    apply Account.enter
    have hcurrent := WindowManager.current_of_closed hclosed
    have hmarkets : state.openMarkets =
        closed.window.marketId :: pendingMarkets state.pendingSettlements := by
      unfold openMarkets
      rw [hcurrent]
      rfl
    unfold Account at h
    rw [hmarkets] at h
    have hsettled := account_closeWindow
      { state with windowManager := (state.windowManager.advance replayTs).2 } schedule config
      closed replayTs h
    exact hsettled.mono fun market hmarket => mem_append_right _ hmarket

theorem Account.processDueMarketSettlements (config : Config) (nowMs : ℕ) :
    let result := processDueMarketSettlements config nowMs state state.pendingSettlements
    Account opened (settled ++ result.1) result.2 := by
  have hsame := sameLoop_processDueMarketSettlements config nowMs state state.pendingSettlements
  have hsettled := (account_processDueMarketSettlements config nowMs state.pendingSettlements h).1
  dsimp only
  unfold Account openMarkets
  rw [hsame.windowManager]
  exact hsettled

theorem Account.fillDueOrders (config : Config) (replayTs : ℕ) :
    let result := state.fillDueOrders config replayTs
    Account (opened ++ result.1) settled result.2.2 := by
  have hcurrent : ∀ window,
      (state.windowManager.current.map fun settlement => settlement.window) = some window →
        window.marketId ∈ state.openMarkets := by
    intro window hwindow
    obtain ⟨settlement, hsettlement, rfl⟩ := Option.map_eq_some_iff.mp hwindow
    apply mem_append_left
    rw [hsettlement]
    simp
  exact (TradesAccount.processDueOrders
    { now := replayTs
      nowUs := none
      currentWindow := state.windowManager.current.map fun settlement => settlement.window
      bookState := state.feedState.signalState.bookState } config h hcurrent).of_same
    ⟨rfl, rfl, rfl⟩

theorem Account.pushMomentum (group : TickGroup) :
    Account opened settled (state.pushMomentum group) := by
  unfold BacktestState.pushMomentum
  split
  · exact h
  · exact h

end Accounts

variable [FullStrategy σ]

theorem Account.evaluateStrategies (h : Account opened settled state) (sqrt : ℚ → ℚ)
    (config : BacktestConfig) (group : TickGroup) :
    Account opened settled (state.evaluateStrategies sqrt config group).2 := by
  unfold BacktestState.evaluateStrategies
  split
  · dsimp only
    split
    · exact h
    · exact h.of_same (StrategyCycle.sameTrades_runStrategyCycle _ _ _ _)
  · exact h

/-- What one turn of the loop opens and settles. -/
theorem Account.step (h : Account opened settled state) (sqrt : ℚ → ℚ)
    (schedule : Option ObservedResolutionSchedule) (config : BacktestConfig) (group : TickGroup) :
    let result := state.step sqrt schedule config group
    Account (opened ++ result.1.opened) (settled ++ result.1.settled) result.2 := by
  have hlate := h.processDueMarketSettlements config.toConfig group.timestamp
  unfold BacktestState.step
  dsimp only at hlate ⊢
  generalize BacktestState.processDueMarketSettlements config.toConfig group.timestamp state
    state.pendingSettlements = late at hlate ⊢
  have hseen : Account opened (settled ++ late.1)
      { late.2 with feedState := late.2.feedState.update group } := hlate
  have hmoved := (((hseen.fillDueOrders config.toConfig group.timestamp).pushMomentum
    group).moveWindows schedule config group.timestamp).evaluateStrategies sqrt config group
  rw [append_assoc settled] at hmoved
  exact hmoved

/-- What a run opens and settles. -/
theorem Account.run (h : Account opened settled state) (sqrt : ℚ → ℚ)
    (schedule : Option ObservedResolutionSchedule) (config : BacktestConfig)
    (groups : List TickGroup) :
    let step := BacktestState.step sqrt schedule config
    Account (opened ++ (trace step state groups).flatMap (·.opened))
      (settled ++ (trace step state groups).flatMap (·.settled)) (final step state groups) := by
  induction groups generalizing state opened settled with
  | nil =>
    unfold trace final
    simpa using h
  | cons group rest ih =>
    have hrest := ih (h.step sqrt schedule config group)
    dsimp only at hrest ⊢
    rw [append_assoc opened, append_assoc settled] at hrest
    exact hrest

end BacktestState

/-! ## After the loop -/

section AfterLoop

variable {σ : Type}

def BacktestState.settlePendingTimes (config : Config) (state : BacktestState σ) :
    List ℕ → List (SimulatedTrade × TradeResult) × BacktestState σ
  | [] => ([], state)
  | time :: rest =>
    let (settled, state) := processDueMarketSettlements config time state state.pendingSettlements
    let (others, state) := settlePendingTimes config state rest
    (settled ++ others, state)

/-- Settle every market that is still pending when the ticks end. -/
def BacktestState.flushPendingSettlements (state : BacktestState σ) (config : Config) :
    List (SimulatedTrade × TradeResult) × BacktestState σ :=
  state.settlePendingTimes config (state.pendingSettlements.map fun entry => entry.1)

namespace BacktestState

variable {opened : List SimulatedTrade} {settled : List (SimulatedTrade × TradeResult)}
variable {markets : List String} {state : BacktestState σ}
variable (config : Config)

theorem pendingSettlements_processDueMarketSettlements (nowMs : ℕ) (state : BacktestState σ)
    (pending : List (ℕ × List PendingBacktestSettlement)) :
    (processDueMarketSettlements config nowMs state pending).2.pendingSettlements =
      pending.dropWhile fun entry => decide (entry.1 ≤ nowMs) := by
  induction pending generalizing state with
  | nil => rfl
  | cons entry rest ih =>
    unfold processDueMarketSettlements
    split
    · rename_i hdue
      rw [dropWhile_cons_of_pos (by simpa using hdue)]
      exact ih _
    · rename_i hlater
      rw [dropWhile_cons_of_neg (by simpa using hlater)]

theorem pendingSettlements_settlePendingTimes (state : BacktestState σ)
    (pending : List (ℕ × List PendingBacktestSettlement))
    (h : state.pendingSettlements <:+ pending) :
    (state.settlePendingTimes config (pending.map fun entry => entry.1)).2.pendingSettlements =
      [] := by
  induction pending generalizing state with
  | nil => exact suffix_nil.mp h
  | cons entry rest ih =>
    refine ih _ ?_
    rw [pendingSettlements_processDueMarketSettlements]
    -- either the entry was taken before, or it is taken now
    rcases suffix_cons_iff.mp h with hall | hrest
    · rw [hall, dropWhile_cons_of_pos (by simp)]
      exact dropWhile_suffix _
    · exact (dropWhile_suffix _).trans hrest

theorem account_settlePendingTimes (times : List ℕ)
    (h : TradesAccount opened settled (markets ++ pendingMarkets state.pendingSettlements)
      state.paper) :
    let result := state.settlePendingTimes config times
    TradesAccount opened (settled ++ result.1)
        (markets ++ pendingMarkets result.2.pendingSettlements) result.2.paper ∧
      ∀ trade ∈ state.paper.db.openTrades,
        trade.marketId ∉ pendingMarkets state.pendingSettlements →
          trade ∈ result.2.paper.db.openTrades := by
  induction times generalizing state settled with
  | nil =>
    unfold settlePendingTimes
    dsimp only
    rw [append_nil]
    exact ⟨h, fun _ htrade _ => htrade⟩
  | cons time rest ih =>
    have hpending := pendingSettlements_processDueMarketSettlements config time state
      state.pendingSettlements
    obtain ⟨hfirst, hkept⟩ :=
      account_processDueMarketSettlements config time state.pendingSettlements h
    obtain ⟨hrest, hothers⟩ := ih hfirst
    rw [append_assoc settled] at hrest
    refine ⟨hrest, fun trade htrade hmarket => ?_⟩
    refine hothers trade (hkept trade htrade hmarket) fun hlater => hmarket ?_
    rw [hpending] at hlater
    obtain ⟨entry, hentry, hmem⟩ := mem_flatMap.mp hlater
    exact mem_flatMap.mpr ⟨entry, (dropWhile_suffix _).mem hentry, hmem⟩

theorem account_flushPendingSettlements
    (h : TradesAccount opened settled (markets ++ pendingMarkets state.pendingSettlements)
      state.paper) :
    let result := state.flushPendingSettlements config
    TradesAccount opened (settled ++ result.1) markets result.2.paper ∧
      (result.2.paper.db.openTrades = [] ↔
        ∀ trade ∈ state.paper.db.openTrades,
          trade.marketId ∈ pendingMarkets state.pendingSettlements) := by
  have hpending := pendingSettlements_settlePendingTimes config state state.pendingSettlements
    (suffix_refl _)
  have hflushed : ∀ {markets : List String}, TradesAccount opened settled
      (markets ++ pendingMarkets state.pendingSettlements) state.paper →
      TradesAccount opened (settled ++ (state.flushPendingSettlements config).1) markets
          (state.flushPendingSettlements config).2.paper ∧
        ∀ trade ∈ state.paper.db.openTrades,
          trade.marketId ∉ pendingMarkets state.pendingSettlements →
            trade ∈ (state.flushPendingSettlements config).2.paper.db.openTrades := by
    intro markets hmarkets
    obtain ⟨hend, hothers⟩ := account_settlePendingTimes config
      (state.pendingSettlements.map fun entry => entry.1) hmarkets
    rw [hpending] at hend
    exact ⟨hend.mono fun market hmarket => by simpa [pendingMarkets] using hmarket, hothers⟩
  obtain ⟨hend, hothers⟩ := hflushed h
  refine ⟨hend, fun hnone trade htrade => ?_, fun hall => ?_⟩
  · by_contra hmarket
    have hleft := hothers trade htrade hmarket
    rw [hnone] at hleft
    cases hleft
  · have hbounded : TradesAccount opened settled
        ([] ++ pendingMarkets state.pendingSettlements) state.paper :=
      { h with known := hall }
    apply eq_nil_iff_forall_not_mem.mpr
    intro trade htrade
    exact not_mem_nil ((hflushed hbounded).1.known trade htrade)

end BacktestState

def SettledOnce (opened : List SimulatedTrade) (settled : List (SimulatedTrade × TradeResult)) :
    Prop :=
  ∀ trade ∈ opened, (settled.countP fun entry => entry.1.id == trade.id) = 1

instance (opened : List SimulatedTrade) (settled : List (SimulatedTrade × TradeResult)) :
    Decidable (SettledOnce opened settled) :=
  inferInstanceAs (Decidable (∀ trade ∈ opened, _))

theorem TradesAccount.settledOnce_iff {opened : List SimulatedTrade}
    {settled : List (SimulatedTrade × TradeResult)} {markets : List String} {paper : PaperState}
    (h : TradesAccount opened settled markets paper) :
    SettledOnce opened settled ∧
        paper.bankroll.totalTrades = paper.engine.stats.filledOrders ↔
      paper.db.openTrades = [] := by
  have hlength := h.balanced.length_eq
  simp only [length_append, length_map] at hlength
  constructor
  · intro hsettled
    have hcounts := hsettled.2
    rw [h.applied, h.filled] at hcounts
    exact eq_nil_of_length_eq_zero (by omega)
  · intro hnone
    have hperm := h.balanced
    rw [hnone, map_nil, nil_append] at hperm
    refine ⟨fun trade htrade => ?_, ?_⟩
    · have hcount : (opened.map (·.id)).count trade.id = 1 :=
        count_eq_one_of_mem h.nodup (mem_map_of_mem htrade)
      rw [hperm.count_eq, count_eq_countP, countP_map] at hcount
      exact hcount
    · rw [h.applied, h.filled, hlength, hnone]
      simp

variable [FullStrategy σ]

/-- The state of a replay when the ticks end. -/
def replayEnd (options : BacktestOptions σ) (schedule : Option ObservedResolutionSchedule)
    (settlements : List MarketSettlement) (groups : List TickGroup) : BacktestState σ :=
  final (step options.sqrt schedule options.config) (.startOn options settlements) groups

theorem account_replay (options : BacktestOptions σ)
    (schedule : Option ObservedResolutionSchedule) (settlements : List MarketSettlement)
    (groups : List TickGroup) :
    (replayEnd options schedule settlements groups).Account
      ((replay options schedule settlements groups).flatMap (·.opened))
      ((replay options schedule settlements groups).flatMap (·.settled)) := by
  have hstart : (BacktestState.startOn options settlements).Account [] [] :=
    { numbered := TradesTable.numbered_empty
      rows := rfl
      balanced := .refl _
      known := fun _ htrade => nomatch htrade
      applied := rfl
      filled := rfl }
  exact hstart.run options.sqrt schedule options.config groups

/-- The ticks reach the end of every window whose start they reach. -/
def EndsReached (settlements : List MarketSettlement) (groups : List TickGroup) : Prop :=
  ∀ settlement ∈ settlements, (∃ group ∈ groups, settlement.window.startTime ≤ group.timestamp) →
    ∃ last ∈ groups.getLast?, settlement.window.endTime ≤ last.timestamp

instance (settlements : List MarketSettlement) (groups : List TickGroup) :
    Decidable (EndsReached settlements groups) := by
  unfold EndsReached
  infer_instance

variable (options : BacktestOptions σ) (schedule : Option ObservedResolutionSchedule)
variable (settlements : List MarketSettlement) (groups : List TickGroup)

/-- No window is current when the ticks end. -/
theorem current_replayEnd_of_endsReached (hreached : EndsReached settlements groups) :
    (replayEnd options schedule settlements groups).windowManager.current = none := by
  -- a current window is one of the list, and a group has come at or after its start
  have hstarted : ∀ settlement ∈
      (replayEnd options schedule settlements groups).windowManager.current,
      settlement ∈ settlements ∧
        ∃ group ∈ groups, settlement.window.startTime ≤ group.timestamp := by
    have hrun := (@forall_mem_visits _ _ _ (step options.sqrt schedule options.config) groups _
      (fun state : BacktestState σ => state.windowManager.Within settlements ∧
        ∀ settlement ∈ state.windowManager.current,
          ∃ group ∈ groups, settlement.window.startTime ≤ group.timestamp)
      (⟨WindowManager.within_fromSettlements settlements, fun _ hnone => nomatch hnone⟩ :
        (startOn options settlements).windowManager.Within settlements ∧ _) ?_).2
    · exact fun settlement hcurrent => ⟨hrun.1.2 settlement hcurrent, hrun.2 settlement hcurrent⟩
    · rintro state group hgroup ⟨hwithin, hkept⟩
      rw [windowManager_step]
      refine ⟨hwithin.advance group.timestamp, ?_⟩
      intro settlement hcurrent
      rcases (WindowManager.current_advance hcurrent).1 with hbefore | hstart
      · exact hkept settlement hbefore
      · exact ⟨group, hgroup, hstart⟩
  rw [Option.eq_none_iff_forall_not_mem]
  intro settlement hcurrent
  obtain ⟨hmem, hstart⟩ := hstarted settlement hcurrent
  obtain ⟨last, hlast, hended⟩ := hreached settlement hmem hstart
  obtain ⟨early, rfl⟩ := List.getLast?_eq_some_iff.mp hlast
  unfold replayEnd at hcurrent
  rw [final_append, final, final, windowManager_step] at hcurrent
  exact absurd (WindowManager.current_advance hcurrent).2 (not_lt.mpr hended)

/-- If the ticks reach the end of every window whose start they reach, every trade of a replay is
settled exactly once, and the number of trades of the result is that of the filled orders. Whatever
the ticks, this is so iff the settlement of every trade that is open when they end is pending. -/
theorem trades_settled_once :
    let records := replay options schedule settlements groups
    let last := replayEnd options schedule settlements groups
    let flushed := last.flushPendingSettlements options.config.toConfig
    let complete :=
      SettledOnce (records.flatMap (·.opened)) (records.flatMap (·.settled) ++ flushed.1) ∧
        flushed.2.paper.bankroll.totalTrades = flushed.2.paper.engine.stats.filledOrders
    (EndsReached settlements groups → complete) ∧
      (complete ↔ ∀ trade ∈ last.paper.db.openTrades,
        trade.marketId ∈ pendingMarkets last.pendingSettlements) := by
  have haccount := account_replay options schedule settlements groups
  obtain ⟨hend, hiff⟩ :=
    account_flushPendingSettlements options.config.toConfig haccount
  have hcomplete := hend.settledOnce_iff.trans hiff
  refine ⟨fun hreached => hcomplete.mpr fun trade htrade => ?_, hcomplete⟩
  have hknown := haccount.known trade htrade
  unfold openMarkets at hknown
  rw [current_replayEnd_of_endsReached options schedule settlements groups hreached] at hknown
  exact hknown

end AfterLoop

/-- A quote after the end of the window closes it, and the trade of the window is settled once. -/
theorem trades_settled_once_sample :
    let settlements := (lateQuoteDb [2400, 302100]).loadSettlements 1000 400000
    let groups := tickGroups ((lateQuoteDb [2400, 302100]).loadTicks 1000 400000)
    let records := replay lateQuoteOptions none settlements groups
    let flushed := (replayEnd lateQuoteOptions none settlements groups).flushPendingSettlements
      lateQuoteOptions.config.toConfig
    (records.any fun record => !record.opened.isEmpty) = true ∧
      SettledOnce (records.flatMap (·.opened)) (records.flatMap (·.settled) ++ flushed.1) :=
  ⟨by decide +kernel,
    ((trades_settled_once lateQuoteOptions none _ _).1 (by decide +kernel)).1⟩

/-- A trade whose window is still current when the ticks end is not settled. -/
theorem open_trade_left_out :
    ¬ ∀ (options : BacktestOptions LatencyArbStrategy)
      (schedule : Option ObservedResolutionSchedule) (settlements : List MarketSettlement)
      (groups : List TickGroup),
      let records := replay options schedule settlements groups
      let flushed := (replayEnd options schedule settlements groups).flushPendingSettlements
        options.config.toConfig
      SettledOnce (records.flatMap (·.opened)) (records.flatMap (·.settled) ++ flushed.1) := by
  intro h
  have hopen := h lateQuoteOptions none ((lateQuoteDb [2400]).loadSettlements 1000 400000)
    (tickGroups ((lateQuoteDb [2400]).loadTicks 1000 400000))
  revert hopen
  decide +kernel

end BubaPaint
