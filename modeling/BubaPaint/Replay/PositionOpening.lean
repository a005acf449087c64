import BubaPaint.Decision.DrainOrder
import BubaPaint.Decision.ReserveRuns

/-!
# Positions that are opened directly

The position manager reserves the capital of a trade, clamps its size to the liquidity of the book
and stores it. A size that is clamped or rejected gives back its capital, and a write can fail.

Main results:

- Theorem `reservesWhatItStores_iff`: when a call reserves exactly what it stores.
-/

namespace BubaPaint

/-- The trades of a database whose calls can fail. -/
structure TradesDb where
  /-- The open trades of a market, unless the query fails. -/
  openTradesForMarket : String → Option (List SimulatedTrade)
  /-- The ids of the rows that are inserted, unless the insert fails. -/
  insertedIds : ℕ → Option ℤ
  inserts : ℕ
  rows : List SimulatedTrade

/-- Insert a new open trade and return the auto-generated row id. -/
def TradesDb.openTrade (db : TradesDb) (trade : SimulatedTrade) : Option ℤ × TradesDb :=
  match db.insertedIds db.inserts with
  | some id =>
    (some id, { db with
      inserts := db.inserts + 1
      rows := db.rows ++ [{ trade with id := some id }] })
  | none => (none, { db with inserts := db.inserts + 1 })

namespace BankrollManager

def reserveCapital (bankroll : BankrollManager) (entryPrice confidence : ℚ) (strategy : String)
    (config : Config) (nowMs : ℕ) : ℚ × BankrollManager :=
  bankroll.reserveCapitalWithReservePrice entryPrice entryPrice confidence strategy
    (familyForStrategy strategy) config nowMs

/-- Clamp a reserved size to the available order-book liquidity. -/
def clampToLiquidity (bankroll : BankrollManager)
    (reservedSize availableLiquidityTokens entryPrice : ℚ) : ℚ × BankrollManager :=
  if availableLiquidityTokens > 0 ∧ reservedSize > availableLiquidityTokens then
    (availableLiquidityTokens,
      bankroll.releaseReserved ((reservedSize - availableLiquidityTokens) * entryPrice))
  else
    (reservedSize, bankroll)

end BankrollManager

/-- Return whether the clamped trade still clears the configured minimum bet. -/
def sizeMeetsMinBet (size entryPrice minBetUsd : ℚ) : Bool :=
  size * entryPrice ≥ minBetUsd

/-- Return the persisted trade entry price and token id for a signal direction. -/
def tradeEntry (signal : Signal) (window : MarketWindow) : ℚ × String :=
  match signal.direction with
  | .up => (signal.upAsk, window.upTokenId)
  | .down => (signal.downAsk, window.downTokenId)

/-- Return whether the target position already exists in the open trade set. -/
def hasDuplicatePosition (existing : List SimulatedTrade) (signal : Signal) (isBatch : Bool) :
    Bool :=
  if isBatch then
    existing.any fun trade => trade.strategy == signal.strategy && trade.side == signal.direction
  else
    existing.any fun trade => trade.strategy == signal.strategy

def positionTrade (signal : Signal) (window : MarketWindow) (size : ℚ) : SimulatedTrade where
  id := none
  timestamp := signal.timestamp
  marketId := window.marketId
  strategy := signal.strategy
  side := signal.direction
  tokenId := (tradeEntry signal window).2
  entryPrice := (tradeEntry signal window).1
  size := size
  status := .open
  signalId := none
  requestedPrice := none
  requestedSize := none
  filledSize := none
  avgFillPrice := none
  fillStatus := none
  fillReason := none
  fillLatencyMs := none
  executionGroupId := none
  executionMode := none
  orderId := none
  fillPrice := none

/-- The position manager with what it changes. -/
structure PositionState where
  openCount : ℕ
  bankroll : BankrollManager
  db : TradesDb

namespace PositionState

/-- Return whether a new position may be opened for the provided signal. -/
def canOpenPosition (state : PositionState) (signal : Signal) (window : MarketWindow)
    (isBatch : Bool) (config : Config) (nowMs : ℕ) : Option Bool × PositionState :=
  if state.openCount ≥ config.maxOpenPositions then (some false, state)
  else
    let (allowed, bankroll) := state.bankroll.canTrade config nowMs
    let state := { state with bankroll }
    if !allowed then (some false, state)
    else
      match state.db.openTradesForMarket window.marketId with
      | none => (none, state)
      | some existing =>
        if hasDuplicatePosition existing signal isBatch then (some false, state)
        else (some true, state)

def storeTrade (state : PositionState) (trade : SimulatedTrade) :
    Option SimulatedTrade × PositionState :=
  match state.db.openTrade trade with
  | (some id, db) =>
    (some { trade with id := some id }, { state with db, openCount := state.openCount + 1 })
  | (none, db) => (none, { state with db })

def openReserved (state : PositionState) (signal : Signal) (window : MarketWindow)
    (reservedSize availableLiquidityTokens : ℚ) (config : Config) :
    Option SimulatedTrade × PositionState :=
  let entryPrice := (tradeEntry signal window).1
  let (size, bankroll) :=
    state.bankroll.clampToLiquidity reservedSize availableLiquidityTokens entryPrice
  if !sizeMeetsMinBet size entryPrice config.minBetUsd then
    (none, { state with bankroll := bankroll.releaseReserved (size * entryPrice) })
  else
    { state with bankroll }.storeTrade (positionTrade signal window size)

def tryOpen (state : PositionState) (signal : Signal) (window : MarketWindow) (isBatch : Bool)
    (availableLiquidityTokens : ℚ) (config : Config) (nowMs : ℕ) :
    Option SimulatedTrade × PositionState :=
  match state.canOpenPosition signal window isBatch config nowMs with
  | (some true, state) =>
    let (size, bankroll) := state.bankroll.reserveCapital (tradeEntry signal window).1
      signal.confidence signal.strategy config nowMs
    if size ≤ 0 then (none, { state with bankroll })
    else
      { state with bankroll }.openReserved signal window size availableLiquidityTokens config
  | (_, state) => (none, state)

/-- Store the legs of a spread one after the other, until a write fails. -/
def storeLegs (window : MarketWindow) : List (Signal × ℚ) → List SimulatedTrade → PositionState →
    List SimulatedTrade × PositionState
  | [], trades, state => (trades, state)
  | (signal, size) :: rest, trades, state =>
    match state.storeTrade (positionTrade signal window size) with
    | (some trade, state) => storeLegs window rest (trades ++ [trade]) state
    | (none, state) => ([], state)

/-- Try to open a spread (both UP and DOWN legs) for the given signals. -/
def tryOpenSpread (state : PositionState) (signals : List Signal) (window : MarketWindow)
    (config : Config) (nowMs : ℕ) : List SimulatedTrade × PositionState :=
  if state.openCount + 2 > config.maxOpenPositions then ([], state)
  else
    let (allowed, bankroll) := state.bankroll.canTrade config nowMs
    let state := { state with bankroll }
    if !allowed then ([], state)
    else
      match spreadLegs signals with
      | none => ([], state)
      | some (upSignal, downSignal) =>
        match state.db.openTradesForMarket window.marketId with
        | none => ([], state)
        | some existing =>
          if [upSignal, downSignal].any fun signal => hasDuplicatePosition existing signal true then
            ([], state)
          else
            let ((upTokens, downTokens), bankroll) := state.bankroll.reserveSpreadCapital
              upSignal.upAsk downSignal.downAsk config nowMs
            let state := { state with bankroll }
            if upTokens ≤ 0 ∨ downTokens ≤ 0 then ([], state)
            else storeLegs window [(upSignal, upTokens), (downSignal, downTokens)] [] state

end PositionState

def familyExposure (family : StrategyFamily) (rows : List SimulatedTrade) : ℚ :=
  ((rows.filter fun row => familyForStrategy row.strategy = family).map
    fun row => row.entryPrice * row.size).sum

@[simp] theorem familyExposure_nil (family : StrategyFamily) : familyExposure family [] = 0 :=
  rfl

@[simp] theorem familyExposure_cons (family : StrategyFamily) (row : SimulatedTrade)
    (rows : List SimulatedTrade) :
    familyExposure family (row :: rows) =
      (if familyForStrategy row.strategy = family then row.entryPrice * row.size else 0) +
        familyExposure family rows := by
  unfold familyExposure
  by_cases h : familyForStrategy row.strategy = family <;> simp [h]

/-- Every active bucket has grown by the cost of the rows that were stored for its family, no
pending bucket has changed, and the rows are counted. -/
structure ReservesWhatItStores (before after : PositionState) : Prop where
  active : ∀ family, after.bankroll.activeReservedCapitalByFamily family =
    before.bankroll.activeReservedCapitalByFamily family +
      familyExposure family (after.db.rows.drop before.db.rows.length)
  pending : ∀ family, after.bankroll.pendingSettlementReservedCapitalByFamily family =
    before.bankroll.pendingSettlementReservedCapitalByFamily family
  openCount : after.openCount =
    before.openCount + (after.db.rows.drop before.db.rows.length).length

theorem reservesWhatItStores_of_stored {before after : PositionState}
    {stored : List SimulatedTrade} (hrows : after.db.rows = before.db.rows ++ stored)
    (hcount : after.openCount = before.openCount + stored.length) :
    ReservesWhatItStores before after ↔
      (∀ family, after.bankroll.activeReservedCapitalByFamily family =
        before.bankroll.activeReservedCapitalByFamily family + familyExposure family stored) ∧
      ∀ family, after.bankroll.pendingSettlementReservedCapitalByFamily family =
        before.bankroll.pendingSettlementReservedCapitalByFamily family := by
  have hdrop : after.db.rows.drop before.db.rows.length = stored := by simp [hrows]
  constructor
  · intro h
    exact ⟨hdrop ▸ h.active, h.pending⟩
  · rintro ⟨hactive, hpending⟩
    exact ⟨by rwa [hdrop], hpending, by rwa [hdrop]⟩

theorem reservesWhatItStores_of_nothing {before after : PositionState}
    (hrows : after.db.rows = before.db.rows) (hcount : after.openCount = before.openCount) :
    ReservesWhatItStores before after ↔
      (∀ family, after.bankroll.activeReservedCapitalByFamily family =
        before.bankroll.activeReservedCapitalByFamily family) ∧
      ∀ family, after.bankroll.pendingSettlementReservedCapitalByFamily family =
        before.bankroll.pendingSettlementReservedCapitalByFamily family := by
  rw [reservesWhatItStores_of_stored (by rw [hrows, List.append_nil]) hcount]
  simp only [familyExposure_nil, add_zero]

/-! ## Capital that is given back -/

theorem exists_first_of_not_empty {reserves : Reserves} {family : StrategyFamily}
    (hactive : ∀ other, 0 ≤ reserves.activeReservedCapitalByFamily other)
    (h : ¬ ∀ other ∈ family.earlier, reserves.activeReservedCapitalByFamily other = 0) :
    ∃ first ∈ family.earlier, 0 < reserves.activeReservedCapitalByFamily first ∧
      ∀ other ∈ first.earlier, reserves.activeReservedCapitalByFamily other = 0 := by
  push Not at h
  obtain ⟨first, hfirst, hholds, hempty⟩ := StrategyFamily.exists_first h
  refine ⟨first, hfirst, lt_of_le_of_ne (hactive first) (Ne.symm hholds), fun other hother => ?_⟩
  by_contra hne
  exact hempty other hother hne

namespace Reserves

def clamp (reserves : Reserves) (family : StrategyFamily) (size kept price : ℚ) : Reserves :=
  let reserves := reserves.addReserved family (size * price)
  if kept < size then reserves.releaseFromGlobalBuckets ((size - kept) * price) else reserves

section Clamp

variable {reserves : Reserves} (family : StrategyFamily) {size kept price : ℚ}
  (hactive : ∀ other, 0 ≤ reserves.activeReservedCapitalByFamily other)
  (hprice : 0 < price) (hkept : 0 < kept) (hle : kept ≤ size)

include hactive hprice hkept hle

theorem settled_reserved : (reserves.addReserved family (size * price)).Settled :=
  settled_addReserved hactive (mul_nonneg (hkept.le.trans hle) hprice.le) family

theorem settled_clamp : (reserves.clamp family size kept price).Settled := by
  have hreserved := settled_reserved family hactive hprice hkept hle
  unfold clamp
  split
  · rename_i hclamped
    exact (hreserved.release_le (mul_nonneg (sub_nonneg.mpr hle) hprice.le)).1
  · exact hreserved

theorem clamp_of_empty (hempty : kept < size → ∀ other ∈ family.earlier,
      reserves.activeReservedCapitalByFamily other = 0) :
    (∀ other, (reserves.clamp family size kept price).activeReservedCapitalByFamily other =
        reserves.activeReservedCapitalByFamily other +
          if other = family then kept * price else 0) ∧
      (reserves.clamp family size kept price).pendingSettlementReservedCapitalByFamily =
        reserves.pendingSettlementReservedCapitalByFamily := by
  have hreserved := settled_reserved family hactive hprice hkept hle
  unfold clamp
  by_cases hclamped : kept < size
  · rw [if_pos hclamped]
    have hearlier : ∀ other ∈ family.earlier, (reserves.addReserved family
        (size * price)).activeReservedCapitalByFamily other = 0 := by
      intro other hother
      rw [active_addReserved_of_earlier hother]
      exact hempty hclamped other hother
    have hamount : 0 < (size - kept) * price := mul_pos (sub_pos.mpr hclamped) hprice
    have henough : (size - kept) * price ≤ (reserves.addReserved family
        (size * price)).activeReservedCapitalByFamily family := by
      have hnonneg := hactive family
      have hcost := mul_pos hkept hprice
      rw [active_addReserved, addEntry_apply, if_pos rfl]
      linarith
    rcases hreserved.release hamount hearlier henough with ⟨hafter, hpending⟩
    refine ⟨fun other => ?_, hpending⟩
    rw [hafter, active_addReserved, addEntry_apply]
    by_cases hother : other = family
    · simp only [hother, if_true]
      ring
    · simp only [hother, if_false]
      ring
  · have hsame : kept = size := le_antisymm hle (not_lt.mp hclamped)
    rw [if_neg hclamped, hsame]
    exact ⟨fun other => addEntry_apply family other _, rfl⟩

theorem clamp_lt (hclamped : kept < size) {first : StrategyFamily} (hfirst : first ∈ family.earlier)
    (hholds : 0 < reserves.activeReservedCapitalByFamily first)
    (hempty : ∀ other ∈ first.earlier, reserves.activeReservedCapitalByFamily other = 0) :
    (reserves.clamp family size kept price).activeReservedCapitalByFamily first <
      reserves.activeReservedCapitalByFamily first := by
  have hreserved := settled_reserved family hactive hprice hkept hle
  unfold clamp
  rw [if_pos hclamped, ← active_addReserved_of_earlier hfirst reserves (size * price)]
  refine hreserved.release_lt (mul_pos (sub_pos.mpr hclamped) hprice) ?_ ?_
  · intro other hother
    have hearlier := StrategyFamily.mem_earlier_trans hfirst hother
    rw [active_addReserved_of_earlier hearlier]
    exact hempty other hother
  · rw [active_addReserved_of_earlier hfirst]
    exact hholds

theorem reject_of_empty (hempty : ∀ other ∈ family.earlier,
      reserves.activeReservedCapitalByFamily other = 0) :
    (∀ other, ((reserves.clamp family size kept price).releaseFromGlobalBuckets
          (kept * price)).activeReservedCapitalByFamily other =
        reserves.activeReservedCapitalByFamily other) ∧
      ((reserves.clamp family size kept price).releaseFromGlobalBuckets
          (kept * price)).pendingSettlementReservedCapitalByFamily =
        reserves.pendingSettlementReservedCapitalByFamily := by
  have hsettled := settled_clamp family hactive hprice hkept hle
  rcases clamp_of_empty family hactive hprice hkept hle fun _ => hempty with
    ⟨hclamp, hpending⟩
  have hearlier : ∀ other ∈ family.earlier,
      (reserves.clamp family size kept price).activeReservedCapitalByFamily other = 0 := by
    intro other hother
    have hne : other ≠ family := fun heq => family.not_mem_earlier (heq ▸ hother)
    rw [hclamp, if_neg hne, add_zero]
    exact hempty other hother
  have henough : kept * price ≤
      (reserves.clamp family size kept price).activeReservedCapitalByFamily family := by
    rw [hclamp, if_pos rfl]
    exact le_add_of_nonneg_left (hactive family)
  rcases hsettled.release (mul_pos hkept hprice) hearlier henough with ⟨hafter, hpending'⟩
  refine ⟨fun other => ?_, hpending'.trans hpending⟩
  rw [hafter, hclamp]
  ring

theorem reject_lt {first : StrategyFamily} (hfirst : first ∈ family.earlier)
    (hholds : 0 < reserves.activeReservedCapitalByFamily first)
    (hempty : ∀ other ∈ first.earlier, reserves.activeReservedCapitalByFamily other = 0) :
    ((reserves.clamp family size kept price).releaseFromGlobalBuckets
        (kept * price)).activeReservedCapitalByFamily first <
      reserves.activeReservedCapitalByFamily first := by
  have hsettled := settled_clamp family hactive hprice hkept hle
  have hcost := mul_pos hkept hprice
  by_cases hclamped : kept < size
  · have hless := clamp_lt family hactive hprice hkept hle hclamped hfirst hholds hempty
    exact ((hsettled.release_le hcost.le).2 first).trans_lt hless
  · have hkeeps : ∀ other ∈ family.earlier,
        (reserves.clamp family size kept price).activeReservedCapitalByFamily other =
          reserves.activeReservedCapitalByFamily other := by
      intro other hother
      unfold clamp
      rw [if_neg hclamped, active_addReserved_of_earlier hother]
    rw [← hkeeps first hfirst]
    refine hsettled.release_lt hcost ?_ ?_
    · intro other hother
      have hearlier := StrategyFamily.mem_earlier_trans hfirst hother
      rw [hkeeps other hearlier]
      exact hempty other hother
    · rw [hkeeps first hfirst]
      exact hholds

theorem empty_of_clamp (hclamped : kept < size)
    (hsame : ∀ other ∈ family.earlier,
      (reserves.clamp family size kept price).activeReservedCapitalByFamily other =
        reserves.activeReservedCapitalByFamily other) :
    ∀ other ∈ family.earlier, reserves.activeReservedCapitalByFamily other = 0 := by
  by_contra hholds
  obtain ⟨first, hfirst, hpos, hempty⟩ := exists_first_of_not_empty hactive hholds
  have hless := clamp_lt family hactive hprice hkept hle hclamped hfirst hpos hempty
  exact absurd (hsame first hfirst) hless.ne

end Clamp

end Reserves

/-! ## One reserved size -/

def keptSize (reservedSize availableLiquidityTokens : ℚ) : ℚ :=
  if availableLiquidityTokens > 0 ∧ reservedSize > availableLiquidityTokens then
    availableLiquidityTokens
  else reservedSize

theorem keptSize_pos {reservedSize : ℚ} (h : 0 < reservedSize) (availableLiquidityTokens : ℚ) :
    0 < keptSize reservedSize availableLiquidityTokens := by
  unfold keptSize
  split
  · rename_i hclamped
    exact hclamped.1
  · exact h

theorem keptSize_le (reservedSize availableLiquidityTokens : ℚ) :
    keptSize reservedSize availableLiquidityTokens ≤ reservedSize := by
  unfold keptSize
  split
  · rename_i hclamped
    exact hclamped.2.le
  · exact le_rfl

theorem BankrollManager.clampToLiquidity_spec {bankroll : BankrollManager} {reserves : Reserves}
    {family : StrategyFamily} {reservedSize price : ℚ}
    (hreserves : bankroll.toReserves = reserves.addReserved family (reservedSize * price))
    (availableLiquidityTokens : ℚ) :
    let result := bankroll.clampToLiquidity reservedSize availableLiquidityTokens price
    let kept := keptSize reservedSize availableLiquidityTokens
    result.1 = kept ∧ result.2.toReserves = reserves.clamp family reservedSize kept price := by
  unfold clampToLiquidity keptSize Reserves.clamp
  dsimp only
  by_cases hclamped :
      availableLiquidityTokens > 0 ∧ reservedSize > availableLiquidityTokens
  · rw [if_pos hclamped, if_pos hclamped, if_pos hclamped.2, ← hreserves]
    exact ⟨rfl, rfl⟩
  · rw [if_neg hclamped, if_neg hclamped, if_neg (lt_irrefl _)]
    exact ⟨rfl, hreserves⟩

/-- Capital is given back only while the families that are drained first hold nothing, and what is
stored is stored. -/
structure CleanSize (state : PositionState) (signal : Signal) (window : MarketWindow)
    (reservedSize availableLiquidityTokens : ℚ) (config : Config) : Prop where
  givesBack :
    keptSize reservedSize availableLiquidityTokens < reservedSize ∨
      keptSize reservedSize availableLiquidityTokens * (tradeEntry signal window).1 <
        config.minBetUsd →
      ∀ family ∈ (familyForStrategy signal.strategy).earlier,
        state.bankroll.activeReservedCapitalByFamily family = 0
  stores :
    config.minBetUsd ≤
        keptSize reservedSize availableLiquidityTokens * (tradeEntry signal window).1 →
      (state.db.insertedIds state.db.inserts).isSome

namespace PositionState

section Reserved

variable {before state : PositionState} {signal : Signal} {window : MarketWindow}
  {reservedSize availableLiquidityTokens : ℚ} {config : Config}
  (hdb : state.db = before.db)
  (hcount : state.openCount = before.openCount)
  (hreserves : state.bankroll.toReserves = before.bankroll.toReserves.addReserved
    (familyForStrategy signal.strategy) (reservedSize * (tradeEntry signal window).1))
  (hactive : ∀ family, 0 ≤ before.bankroll.activeReservedCapitalByFamily family)
  (hprice : 0 < (tradeEntry signal window).1) (hsize : 0 < reservedSize)

include hdb hcount hreserves hactive hprice hsize

theorem openReserved_rejected
    (hbelow : keptSize reservedSize availableLiquidityTokens * (tradeEntry signal window).1 <
      config.minBetUsd) :
    ReservesWhatItStores before (state.openReserved signal window reservedSize
        availableLiquidityTokens config).2 ↔
      ∀ family ∈ (familyForStrategy signal.strategy).earlier,
        before.bankroll.activeReservedCapitalByFamily family = 0 := by
  rcases BankrollManager.clampToLiquidity_spec hreserves availableLiquidityTokens with
    ⟨hkept, hclamped⟩
  unfold openReserved
  dsimp only
  rw [hkept, if_pos (by simp [sizeMeetsMinBet, hbelow])]
  refine (reservesWhatItStores_of_nothing (by simp [hdb]) (by simp [hcount])).trans ?_
  unfold BankrollManager.releaseReserved
  rw [hclamped]
  have hkeptPos := keptSize_pos hsize availableLiquidityTokens
  have hkeptLe := keptSize_le reservedSize availableLiquidityTokens
  constructor
  · rintro ⟨hsame, -⟩
    by_contra hholds
    obtain ⟨first, hfirst, hpos, hempty⟩ := exists_first_of_not_empty hactive hholds
    have hless := Reserves.reject_lt _ hactive hprice hkeptPos hkeptLe hfirst hpos hempty
    exact absurd (hsame first) hless.ne
  · intro hempty
    rcases Reserves.reject_of_empty _ hactive hprice hkeptPos hkeptLe hempty with
      ⟨hsame, hpending⟩
    exact ⟨hsame, fun family => congrFun hpending family⟩

/-- A size that clears the minimum bet is stored with what is kept of its capital. -/
theorem openReserved_stored
    (hmeets : config.minBetUsd ≤
      keptSize reservedSize availableLiquidityTokens * (tradeEntry signal window).1) :
    ReservesWhatItStores before (state.openReserved signal window reservedSize
        availableLiquidityTokens config).2 ↔
      (keptSize reservedSize availableLiquidityTokens < reservedSize →
        ∀ family ∈ (familyForStrategy signal.strategy).earlier,
          before.bankroll.activeReservedCapitalByFamily family = 0) ∧
        (before.db.insertedIds before.db.inserts).isSome := by
  rcases BankrollManager.clampToLiquidity_spec hreserves availableLiquidityTokens with
    ⟨hkept, hclamped⟩
  have hkeptPos := keptSize_pos hsize availableLiquidityTokens
  have hkeptLe := keptSize_le reservedSize availableLiquidityTokens
  unfold openReserved
  dsimp only
  rw [hkept, if_neg (by simp [sizeMeetsMinBet, hmeets])]
  generalize keptSize reservedSize availableLiquidityTokens = kept at *
  have hcost := mul_pos hkeptPos hprice
  unfold storeTrade TradesDb.openTrade
  rw [hdb]
  cases hinsert : before.db.insertedIds before.db.inserts with
  | some id =>
    refine (reservesWhatItStores_of_stored rfl (by simp [hcount])).trans ?_
    rw [hclamped]
    simp only [familyExposure_cons, familyExposure_nil, add_zero, positionTrade,
      mul_comm (tradeEntry signal window).1]
    constructor
    · rintro ⟨hsame, -⟩
      refine ⟨fun hless => ?_, rfl⟩
      refine Reserves.empty_of_clamp _ hactive hprice hkeptPos hkeptLe hless fun other hother => ?_
      have hne : familyForStrategy signal.strategy ≠ other :=
        fun heq => StrategyFamily.not_mem_earlier _ (heq ▸ hother)
      rw [hsame other, if_neg hne, add_zero]
    · rintro ⟨hempty, -⟩
      rcases Reserves.clamp_of_empty _ hactive hprice hkeptPos hkeptLe hempty with
        ⟨hclamp, hpending⟩
      refine ⟨fun other => ?_, fun other => congrFun hpending other⟩
      rw [hclamp other]
      simp only [eq_comm]
  | none =>
    refine (reservesWhatItStores_of_nothing (by rfl) (by exact hcount)).trans ?_
    rw [hclamped]
    refine iff_of_false (fun hsame => ?_) (fun hclean => Bool.noConfusion hclean.2)
    have hempty := fun hless => Reserves.empty_of_clamp _ hactive hprice hkeptPos hkeptLe hless
      fun other _ => hsame.1 other
    have hleft := (Reserves.clamp_of_empty _ hactive hprice hkeptPos hkeptLe hempty).1
      (familyForStrategy signal.strategy)
    rw [hsame.1, if_pos rfl] at hleft
    linarith

theorem openReserved_iff :
    ReservesWhatItStores before (state.openReserved signal window reservedSize
        availableLiquidityTokens config).2 ↔
      CleanSize before signal window reservedSize availableLiquidityTokens config := by
  by_cases hbelow : keptSize reservedSize availableLiquidityTokens *
      (tradeEntry signal window).1 < config.minBetUsd
  · rw [openReserved_rejected hdb hcount hreserves hactive hprice hsize hbelow]
    constructor
    · intro hempty
      exact ⟨fun _ => hempty, fun hmeets => absurd hbelow (not_lt.mpr hmeets)⟩
    · intro hclean
      exact hclean.givesBack (.inr hbelow)
  · rw [openReserved_stored hdb hcount hreserves hactive hprice hsize (not_lt.mp hbelow)]
    constructor
    · rintro ⟨hempty, hstored⟩
      exact ⟨fun hback => hempty (hback.resolve_right hbelow), fun _ => hstored⟩
    · intro hclean
      exact ⟨fun hless => hclean.givesBack (.inl hless), hclean.stores (not_lt.mp hbelow)⟩

end Reserved

section Calls

variable (state : PositionState) (signal : Signal) (window : MarketWindow) (isBatch : Bool)
  (availableLiquidityTokens : ℚ) (config : Config) (nowMs : ℕ)

/-- The size that is reserved for a position, if it may be opened. -/
def openSize : ℚ :=
  match state.canOpenPosition signal window isBatch config nowMs with
  | (some true, state) =>
    (state.bankroll.reserveCapital (tradeEntry signal window).1 signal.confidence
      signal.strategy config nowMs).1
  | _ => 0

theorem canOpenPosition_keeps :
    let after := (state.canOpenPosition signal window isBatch config nowMs).2
    after.db = state.db ∧ after.openCount = state.openCount ∧
      after.bankroll.toReserves = state.bankroll.toReserves := by
  have hgates := state.bankroll.toReserves_canTrade config nowMs
  unfold canOpenPosition
  dsimp only
  repeat' split
  · exact ⟨rfl, rfl, rfl⟩
  all_goals exact ⟨rfl, rfl, hgates⟩

theorem reservesWhatItStores_of_kept {before after : PositionState} (hdb : after.db = before.db)
    (hcount : after.openCount = before.openCount)
    (hreserves : after.bankroll.toReserves = before.bankroll.toReserves) :
    ReservesWhatItStores before after := by
  rw [reservesWhatItStores_of_nothing (by rw [hdb]) hcount, hreserves]
  exact ⟨fun _ => rfl, fun _ => rfl⟩

theorem tryOpen_iff (hactive : ∀ family, 0 ≤ state.bankroll.activeReservedCapitalByFamily family) :
    ReservesWhatItStores state (state.tryOpen signal window isBatch availableLiquidityTokens config
        nowMs).2 ↔
      (0 < state.openSize signal window isBatch config nowMs →
        CleanSize state signal window (state.openSize signal window isBatch config nowMs)
          availableLiquidityTokens config) := by
  rcases state.canOpenPosition_keeps signal window isBatch config nowMs with
    ⟨hdb, hcount, hreserves⟩
  unfold tryOpen openSize
  generalize state.canOpenPosition signal window isBatch config nowMs = guards at *
  rcases guards with ⟨answer, guarded⟩
  match answer with
  | none | some false =>
    exact iff_of_true (reservesWhatItStores_of_kept hdb hcount hreserves)
      fun hpos => absurd hpos (lt_irrefl 0)
  | some true =>
    have hspec := guarded.bankroll.reserveCapitalWithReservePrice_spec (tradeEntry signal window).1
      (tradeEntry signal window).1 signal.confidence signal.strategy
      (familyForStrategy signal.strategy) config nowMs
    unfold BankrollManager.reserveCapital
    dsimp only at hspec hdb hcount hreserves ⊢
    rw [hreserves] at hspec
    rcases hspec with ⟨hnone, hsame⟩ | ⟨hsize, hprice, -, hreserved⟩
    · rw [hnone, if_pos le_rfl]
      exact iff_of_true (reservesWhatItStores_of_kept hdb hcount hsame)
        fun hpos => absurd hpos (lt_irrefl 0)
    · rw [if_neg (not_le.mpr hsize)]
      refine (openReserved_iff (by exact hdb) (by exact hcount) (by exact hreserved) hactive
        hprice hsize).trans ?_
      exact ⟨fun hclean _ => hclean, fun hclean => hclean hsize⟩

end Calls

/-! ## Spreads -/

section Spreads

variable {before state : PositionState} {upSignal downSignal : Signal} {window : MarketWindow}
  {pairs : ℚ}

/-- Both legs are stored, and both belong to the sleeve that is reserved. -/
structure CleanSpread (state : PositionState) (upSignal downSignal : Signal) : Prop where
  up_stored : (state.db.insertedIds state.db.inserts).isSome
  down_stored : (state.db.insertedIds (state.db.inserts + 1)).isSome
  up_family : familyForStrategy upSignal.strategy = .spreadCapture
  down_family : familyForStrategy downSignal.strategy = .spreadCapture

/-- The legs of a spread that was reserved are reserved and stored alike if they are clean. -/
theorem storeLegs_iff (hdb : state.db = before.db) (hcount : state.openCount = before.openCount)
    (hreserves : state.bankroll.toReserves = before.bankroll.toReserves.addReserved .spreadCapture
      (pairs * (upSignal.upAsk + downSignal.downAsk)))
    (hup : upSignal.direction = .up) (hdown : downSignal.direction = .down)
    (hupAsk : 0 < upSignal.upAsk) (hdownAsk : 0 < downSignal.downAsk) (hpairs : 0 < pairs) :
    ReservesWhatItStores before
        (storeLegs window [(upSignal, pairs), (downSignal, pairs)] [] state).2 ↔
      CleanSpread before upSignal downSignal := by
  have hupCost := mul_pos hupAsk hpairs
  have hdownCost := mul_pos hdownAsk hpairs
  have hactive := fun other => (congrFun (congrArg Reserves.activeReservedCapitalByFamily hreserves)
    other).trans (Reserves.addEntry_apply .spreadCapture other _)
  have hpending := congrArg Reserves.pendingSettlementReservedCapitalByFamily hreserves
  have hupEntry : (tradeEntry upSignal window).1 = upSignal.upAsk := by simp [tradeEntry, hup]
  have hdownEntry : (tradeEntry downSignal window).1 = downSignal.downAsk := by
    simp [tradeEntry, hdown]
  simp only [storeLegs, storeTrade, TradesDb.openTrade, hdb]
  cases hfirst : before.db.insertedIds before.db.inserts with
  | none =>
    refine (reservesWhatItStores_of_nothing (by rfl) (by exact hcount)).trans ?_
    refine iff_of_false (fun hsame => ?_) (fun hclean => ?_)
    · have hleft := hactive .spreadCapture
      rw [hsame.1, if_pos rfl] at hleft
      linarith
    · have hstored := hclean.up_stored
      rw [hfirst] at hstored
      cases hstored
  | some upId =>
    dsimp only
    cases hsecond : before.db.insertedIds (before.db.inserts + 1) with
    | none =>
      refine (reservesWhatItStores_of_stored rfl (by simp [hcount])).trans ?_
      refine iff_of_false (fun hsame => ?_) (fun hclean => ?_)
      · have hleft := hactive .spreadCapture
        have hgrown := hsame.1 .spreadCapture
        simp only [familyExposure_cons, familyExposure_nil, positionTrade, hupEntry] at hgrown
        rw [hgrown, if_pos rfl] at hleft
        split at hleft <;> linarith
      · have hstored := hclean.down_stored
        rw [hsecond] at hstored
        cases hstored
    | some downId =>
      refine (reservesWhatItStores_of_stored (by simp only [List.append_assoc]; rfl)
        (by simp [hcount])).trans ?_
      simp only [List.cons_append, List.nil_append, familyExposure_cons, familyExposure_nil,
        positionTrade, hupEntry, hdownEntry, hactive, hpending]
      constructor
      · rintro ⟨hgrown, -⟩
        have hspread := hgrown .spreadCapture
        rw [if_pos rfl] at hspread
        refine ⟨by rw [hfirst]; rfl, by rw [hsecond]; rfl, ?_, ?_⟩
        · by_contra hother
          rw [if_neg hother] at hspread
          split at hspread <;> linarith
        · by_contra hother
          rw [if_neg hother] at hspread
          split at hspread <;> linarith
      · intro hclean
        refine ⟨fun other => ?_, fun _ => rfl⟩
        rw [hclean.up_family, hclean.down_family]
        by_cases hother : other = .spreadCapture
        · simp only [hother, if_true]
          ring
        · simp only [hother, Ne.symm hother, if_false, add_zero]

/-- The number of pairs that are reserved for a spread, if it may be opened. -/
def spreadPairs (state : PositionState) (signals : List Signal) (window : MarketWindow)
    (config : Config) (nowMs : ℕ) : ℚ :=
  if state.openCount + 2 > config.maxOpenPositions then 0
  else
    let (allowed, bankroll) := state.bankroll.canTrade config nowMs
    if !allowed then 0
    else
      match spreadLegs signals with
      | none => 0
      | some (upSignal, downSignal) =>
        match state.db.openTradesForMarket window.marketId with
        | none => 0
        | some existing =>
          if [upSignal, downSignal].any fun signal => hasDuplicatePosition existing signal true then
            0
          else
            (bankroll.reserveSpreadCapital upSignal.upAsk downSignal.downAsk config nowMs).1.1

theorem spreadLegs_directions {signals : List Signal}
    (h : spreadLegs signals = some (upSignal, downSignal)) :
    upSignal.direction = .up ∧ downSignal.direction = .down := by
  unfold spreadLegs at h
  simp only [Option.bind_eq_bind, Option.pure_def, Option.bind_eq_some_iff, Option.some.injEq,
    Prod.mk.injEq] at h
  obtain ⟨up, hup, down, hdown, rfl, rfl⟩ := h
  exact ⟨by simpa using List.find?_some hup, by simpa using List.find?_some hdown⟩

/-- When opening a spread reserves what it stores. -/
theorem tryOpenSpread_iff (state : PositionState) (signals : List Signal) (window : MarketWindow)
    (config : Config) (nowMs : ℕ) :
    ReservesWhatItStores state (state.tryOpenSpread signals window config nowMs).2 ↔
      (0 < state.spreadPairs signals window config nowMs →
        ∀ legs ∈ spreadLegs signals, CleanSpread state legs.1 legs.2) := by
  have hgates := state.bankroll.toReserves_canTrade config nowMs
  have hnothing : ∀ (after : PositionState) (P : Prop), after.db = state.db →
      after.openCount = state.openCount →
      after.bankroll.toReserves = state.bankroll.toReserves →
        (ReservesWhatItStores state after ↔ ((0 : ℚ) < 0 → P)) :=
    fun after P hdb hcount hreserves =>
      iff_of_true (reservesWhatItStores_of_kept hdb hcount hreserves)
        fun hpos => absurd hpos (lt_irrefl 0)
  unfold tryOpenSpread spreadPairs
  dsimp only
  by_cases hfull : state.openCount + 2 > config.maxOpenPositions
  · rw [if_pos hfull, if_pos hfull]
    exact hnothing _ _ rfl rfl rfl
  rw [if_neg hfull, if_neg hfull]
  by_cases hallowed : (!(state.bankroll.canTrade config nowMs).1) = true
  · rw [if_pos hallowed, if_pos hallowed]
    exact hnothing _ _ rfl rfl hgates
  rw [if_neg hallowed, if_neg hallowed]
  cases hlegs : spreadLegs signals with
  | none => exact hnothing _ _ rfl rfl hgates
  | some legs =>
    rcases legs with ⟨upSignal, downSignal⟩
    rcases spreadLegs_directions hlegs with ⟨hup, hdown⟩
    cases state.db.openTradesForMarket window.marketId with
    | none => exact hnothing _ _ rfl rfl hgates
    | some existing =>
      dsimp only
      split
      · exact hnothing _ _ rfl rfl hgates
      have hspec := (state.bankroll.canTrade config nowMs).2.reserveSpreadCapitalForFamily_spec
        upSignal.upAsk downSignal.downAsk .spreadCapture config nowMs
      unfold BankrollManager.reserveSpreadCapital
      rw [hgates] at hspec
      generalize (state.bankroll.canTrade config nowMs).2.reserveSpreadCapitalForFamily
        upSignal.upAsk downSignal.downAsk .spreadCapture config nowMs = reserved at *
      rcases reserved with ⟨⟨upTokens, downTokens⟩, bankroll⟩
      rcases hspec with ⟨hnone, hsame⟩ | ⟨hpairs, hequal, hupAsk, hdownAsk, hreserved⟩
      · cases hnone
        rw [if_pos (.inl le_rfl)]
        exact hnothing _ _ rfl rfl hsame
      · rw [hequal, if_neg (by simpa using hpairs)]
        refine (storeLegs_iff (by rfl) (by rfl) (by exact hreserved) hup hdown hupAsk hdownAsk
          hpairs).trans ?_
        constructor
        · intro hclean _ legs hmem
          cases hmem
          exact hclean
        · intro hclean
          exact hclean hpairs _ rfl

end Spreads

end PositionState

/-- A call that opens a position or a spread. -/
inductive PositionRequest where
  | single (signal : Signal) (window : MarketWindow) (isBatch : Bool) (availableLiquidityTokens : ℚ)
  | spread (signals : List Signal) (window : MarketWindow)

def PositionState.run (state : PositionState) (config : Config) (nowMs : ℕ) :
    PositionRequest → PositionState
  | .single signal window isBatch availableLiquidityTokens =>
    (state.tryOpen signal window isBatch availableLiquidityTokens config nowMs).2
  | .spread signals window => (state.tryOpenSpread signals window config nowMs).2

/-- A call that reserves capital gives nothing back to a wrong sleeve, and no write of it fails. -/
def PositionRequest.Clean (state : PositionState) (config : Config) (nowMs : ℕ) :
    PositionRequest → Prop
  | .single signal window isBatch availableLiquidityTokens =>
    0 < state.openSize signal window isBatch config nowMs →
      CleanSize state signal window (state.openSize signal window isBatch config nowMs)
        availableLiquidityTokens config
  | .spread signals window =>
    0 < state.spreadPairs signals window config nowMs →
      ∀ legs ∈ spreadLegs signals, state.CleanSpread legs.1 legs.2

/-- A call reserves exactly what it stores if and only if it is clean. -/
theorem reservesWhatItStores_iff (state : PositionState)
    (hactive : ∀ family, 0 ≤ state.bankroll.activeReservedCapitalByFamily family)
    (config : Config) (nowMs : ℕ) (request : PositionRequest) :
    ReservesWhatItStores state (state.run config nowMs request) ↔
      request.Clean state config nowMs := by
  cases request with
  | single signal window isBatch availableLiquidityTokens =>
    exact state.tryOpen_iff signal window isBatch availableLiquidityTokens config nowMs hactive
  | spread signals window => exact state.tryOpenSpread_iff signals window config nowMs

def samplePositionState (insertedIds : ℕ → Option ℤ) : PositionState where
  openCount := 0
  bankroll := .newInMemory 200 200 sampleConfig
  db := { openTradesForMarket := fun _ => some [], insertedIds, inserts := 0, rows := [] }

def sampleSinglePosition : PositionRequest :=
  .single
    { timestamp := 1000, strategy := "latency-arb", direction := .up, confidence := 1,
      upAsk := 2 / 5, downAsk := 2 / 5 }
    (sampleWindow "first" 10000) false 0

/-- A call is clean if nothing is given back and the insert succeeds. -/
theorem reservesWhatItStores_iff_sample :
    ReservesWhatItStores (samplePositionState fun n => some n)
      ((samplePositionState fun n => some n).run sampleConfig 1000 sampleSinglePosition) := by
  refine (reservesWhatItStores_iff _ (fun _ => le_rfl) sampleConfig 1000 sampleSinglePosition).mpr
    fun _ => ⟨fun _ => ?_, fun _ => rfl⟩
  decide

/-- Capital stays reserved for a trade whose row could not be written. -/
theorem reserve_leaks_on_failed_write :
    ¬ ∀ (state : PositionState) (config : Config) (nowMs : ℕ) (request : PositionRequest),
      (∀ family, 0 ≤ state.bankroll.activeReservedCapitalByFamily family) →
        ReservesWhatItStores state (state.run config nowMs request) := by
  intro hall
  have hactive := (hall (samplePositionState fun _ => none) sampleConfig 1000
    sampleSinglePosition (fun _ => le_rfl)).active .latencyArb
  exact absurd hactive (by decide +kernel)

end BubaPaint
