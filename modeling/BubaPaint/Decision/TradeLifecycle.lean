import BubaPaint.Decision.TradesTable
import Mathlib.Data.List.Iterate

/-!
# The lifecycle of trades

Trades enter the books from the seed, from a simulated fill and from a fill of the venue, and leave
them when their market is resolved. Only a simulated fill emits the event that opens its trade, so
the stream of events is well formed as long as no trade that the venue filled is settled and the
ids that simulated fills hand out are new.

Main results:

- Theorem `TradesKnown.receive`: a message keeps the events in step with the books.
- Theorem `trades_open_and_close_once`: the events open and close every trade once.
-/

namespace BubaPaint

open Effects List RuntimeDecisionEngine

/-- The events emitted so far and the markets in which the venue filled an order. -/
structure TradeHistory where
  events : List LivePersistenceEvent
  filledLive : List String

/-- Nothing has happened yet. -/
def TradeHistory.none : TradeHistory where
  events := []
  filledLive := []

/-- The markets of the pending orders that fills of the venue answer. -/
def filledMarkets (pendingOrders : List RuntimePendingOrder)
    (fills : List LiveOrderFillFeedback) : List String :=
  (pendingOrders.filter fun order => fills.any fun fill =>
    fill.signalId == order.signalId && decide (0 < fill.filledSize ∧ 0 < fill.fillPrice)).map
      (·.marketId)

def dueCount (pendingOrders : List RuntimePendingOrder) (nowMs : ℕ) : ℕ :=
  pendingOrders.countP fun order => order.arrivalTs ≤ nowMs

section Conditions

variable {σ : Type} [Strategy σ]

/-- What has happened after a message. -/
def recordTrades (history : TradeHistory) (engine : RuntimeDecisionEngine σ)
    (message : EngineMessage) : TradeHistory where
  events := history.events ++ engine.emitted message
  filledLive :=
    match message with
    | .liveFeedback fills _ _ => filledMarkets engine.pendingOrders fills ++ history.filledLive
    | _ => history.filledLive

def tradeSystem : System (RuntimeDecisionEngine σ) EngineMessage TradeHistory :=
  system recordTrades

/-- An id that no stored trade has, above the end of the 64-bit range. -/
def NewTradeId (stored : TradesTable) (tradeId : ℤ) : Prop :=
  i64Min < tradeId ∧ some tradeId ∉ stored.trades.map (·.id)

/-- A message settles no market in which the venue filled an order, and the next ids are new for as
many trades as there are due orders to simulate. -/
def OpensKnown (stored : TradesTable) (history : TradeHistory) (engine : RuntimeDecisionEngine σ)
    (message : EngineMessage) : Prop :=
  match message with
  | .evaluate request => engine.config.executionMode = .liveTrading ∨
      ∀ tradeId ∈ List.iterate nextNegativeId engine.nextTradeId
        (dueCount engine.pendingOrders request.nowMs), NewTradeId stored tradeId
  | .authoritativeResolution window _ _ => window.marketId ∉ history.filledLive
  | _ => True

instance (stored : TradesTable) (tradeId : ℤ) : Decidable (NewTradeId stored tradeId) :=
  inferInstanceAs (Decidable (_ ∧ _))

instance (stored : TradesTable) (history : TradeHistory) (engine : RuntimeDecisionEngine σ)
    (message : EngineMessage) : Decidable (OpensKnown stored history engine message) :=
  match message with
  | .evaluate _ => inferInstanceAs (Decidable (_ ∨ ∀ _ ∈ _, _))
  | .authoritativeResolution .. => inferInstanceAs (Decidable (_ ∉ _))
  | .liveFeedback .. | .releaseReservations _ | .windowClosed .. | .flushAll _ => isTrue trivial

end Conditions

/-! ## The invariant -/

def announced (filledLive : List String) (openTrades : List OpenRuntimeTrade) :
    List SimulatedTrade :=
  (openTrades.map (·.trade)).filter fun trade => trade.marketId ∉ filledLive

/-- The lifecycle is well formed, and every open trade that the venue did not fill is known under
an id of its own that is not closed yet. -/
structure TradesKnown (stored : TradesTable) (seedIds : List ℤ) (history : TradeHistory)
    (books : Books) : Prop where
  lifecycle : Lifecycle seedIds history.events
  inRange : i64Min ≤ books.nextTradeId
  fresh : ∀ tradeId ∈ openedIds history.events,
    books.nextTradeId < tradeId ∧ some tradeId ∉ stored.trades.map (·.id)
  known : ∀ trade ∈ announced history.filledLive books.openTrades,
    ∃ tradeId ∈ seedIds ++ openedIds history.events, trade.id = some tradeId
  unclosed : (closedIds history.events ++
    (announced history.filledLive books.openTrades).filterMap (·.id)).Nodup

namespace TradesKnown

variable {stored : TradesTable} {seedIds : List ℤ} {history : TradeHistory}
variable {books books' : Books} {request : RuntimeDecisionRequest} {mode : ExecutionMode}
variable {events : List LivePersistenceEvent} {filledLive : List String}

theorem emit (h : TradesKnown stored seedIds history books)
    (hevents : ∀ event ∈ events, event.isTrade = false)
    (hopen : (announced filledLive books'.openTrades).Sublist
      (announced history.filledLive books.openTrades))
    (hnext : books'.nextTradeId ≤ books.nextTradeId) (hrange : i64Min ≤ books'.nextTradeId) :
    TradesKnown stored seedIds
      { events := history.events ++ events, filledLive := filledLive } books' := by
  have hopened := openedIds_eq_nil hevents
  have hclosed := closedIds_eq_nil hevents
  constructor
  · apply h.lifecycle.append
    · intro trade htrade
      exact absurd (hevents _ htrade) (by simp [LivePersistenceEvent.isTrade])
    · rw [openedIds_append, hopened, append_nil]
      exact h.lifecycle.openedOnce
    · rw [closedIds_append, hclosed, append_nil]
      exact h.lifecycle.closedOnce
    · simp [hclosed]
  · exact hrange
  · intro tradeId hmem
    rw [openedIds_append, hopened, append_nil] at hmem
    exact ⟨hnext.trans_lt (h.fresh tradeId hmem).1, (h.fresh tradeId hmem).2⟩
  · intro trade htrade
    rw [openedIds_append, hopened, append_nil]
    exact h.known trade (hopen.subset htrade)
  · rw [closedIds_append, hclosed, append_nil]
    exact List.Nodup.sublist ((hopen.filterMap _).append_left _) h.unclosed

/-- A simulated fill opens its trade under a new id. -/
theorem fill (h : TradesKnown stored seedIds history books)
    (hseed : ∀ tradeId ∈ seedIds, some tradeId ∈ stored.trades.map (·.id))
    (hnew : NewTradeId stored books.nextTradeId) (entry : OpenRuntimeTrade)
    (hid : entry.trade.id = some books.nextTradeId)
    (hopen : books'.openTrades = books.openTrades ++ [entry])
    (hnext : books'.nextTradeId = nextNegativeId books.nextTradeId) :
    TradesKnown stored seedIds
      { history with events := history.events ++ [.openTrade entry.trade] } books' := by
  have hopened : openedIds [.openTrade entry.trade] = [books.nextTradeId] := by
    simp [openedIds, LivePersistenceEvent.openedTradeId, hid]
  have hclosed : closedIds [.openTrade entry.trade] = [] := rfl
  have hunknown : books.nextTradeId ∉ seedIds ++ openedIds history.events := by
    intro hmem
    rcases mem_append.mp hmem with hold | hearlier
    · exact hnew.2 (hseed _ hold)
    · exact lt_irrefl _ (h.fresh _ hearlier).1
  have hbelow : nextNegativeId books.nextTradeId < books.nextTradeId := by
    have habove := hnew.1
    unfold nextNegativeId
    omega
  have hannounced : announced history.filledLive books'.openTrades =
      announced history.filledLive books.openTrades ++
        [entry.trade].filter fun trade => trade.marketId ∉ history.filledLive := by
    unfold announced
    rw [hopen, map_append, filter_append]
    rfl
  constructor
  · apply h.lifecycle.append
    · intro trade htrade
      cases mem_singleton.mp htrade
      simp [hid]
    · rw [openedIds_append, hopened, ← append_assoc]
      refine nodup_append.mpr ⟨h.lifecycle.openedOnce, nodup_singleton _, ?_⟩
      intro tradeId hmem other hother
      rw [mem_singleton.mp hother]
      exact fun hsame => hunknown (hsame ▸ hmem)
    · rw [closedIds_append, hclosed, append_nil]
      exact h.lifecycle.closedOnce
    · simp [hclosed]
  · rw [hnext]
    exact le_max_right _ _
  · intro tradeId hmem
    rw [openedIds_append, hopened] at hmem
    rw [hnext]
    rcases mem_append.mp hmem with hold | hlast
    · exact ⟨hbelow.trans (h.fresh _ hold).1, (h.fresh _ hold).2⟩
    · rw [mem_singleton.mp hlast]
      exact ⟨hbelow, hnew.2⟩
  · intro trade htrade
    rw [hannounced] at htrade
    rw [openedIds_append, hopened]
    rcases mem_append.mp htrade with hold | hlast
    · obtain ⟨tradeId, hmem, htradeId⟩ := h.known trade hold
      exact ⟨tradeId, by simp only [mem_append] at hmem ⊢; tauto, htradeId⟩
    · have hsame := mem_singleton.mp (mem_filter.mp hlast).1
      exact ⟨books.nextTradeId, by simp, hsame ▸ hid⟩
  · rw [closedIds_append, hclosed, append_nil, hannounced, filterMap_append,
      ← append_assoc]
    refine nodup_append.mpr ⟨h.unclosed, ?_, ?_⟩
    · apply List.Nodup.sublist (filter_sublist.filterMap _)
      simp [hid]
    · intro tradeId hmem other hother hsame
      have hlast : other = books.nextTradeId := by
        obtain ⟨trade, htrade, htradeId⟩ := mem_filterMap.mp hother
        rw [mem_singleton.mp (mem_filter.mp htrade).1, hid] at htradeId
        exact (Option.some.inj htradeId).symm
      rw [hsame, hlast] at hmem
      apply hunknown
      rcases mem_append.mp hmem with hdone | hheld
      · exact h.lifecycle.closed_known hdone
      · obtain ⟨trade, htrade, htradeId⟩ := mem_filterMap.mp hheld
        obtain ⟨knownId, hknown, hknownId⟩ := h.known trade htrade
        rw [hknownId] at htradeId
        rw [← Option.some.inj htradeId]
        exact hknown

/-- A resolution closes the trades of its market if the venue filled none of its orders. -/
theorem settle (h : TradesKnown stored seedIds history books) {marketId : String}
    (hunfilled : marketId ∉ history.filledLive) (hopened : ∀ trade, .openTrade trade ∉ events)
    (hclosed : closedIds events =
      ((books.openTrades.filter fun entry => entry.trade.marketId == marketId).map
        (·.trade)).filterMap (·.id))
    (hopen : books'.openTrades = books.openTrades.filter fun entry =>
      entry.trade.marketId != marketId) (hnext : books'.nextTradeId = books.nextTradeId) :
    TradesKnown stored seedIds { history with events := history.events ++ events } books' := by
  have hnone : openedIds events = [] := by
    apply filterMap_eq_nil_iff.mpr
    intro event hevent
    cases event with
    | openTrade trade => exact absurd hevent (hopened trade)
    | _ => rfl
  have hsettled : (books.openTrades.filter fun entry => entry.trade.marketId == marketId).map
      (·.trade) = (announced history.filledLive books.openTrades).filter fun trade =>
        trade.marketId == marketId := by
    unfold announced
    rw [filter_filter, filter_map]
    congr 1
    apply filter_congr
    intro entry _
    by_cases hmarket : entry.trade.marketId = marketId
    · simp [hmarket, hunfilled]
    · simp [hmarket]
  have hheld : announced history.filledLive books'.openTrades =
      (announced history.filledLive books.openTrades).filter fun trade =>
        !(trade.marketId == marketId) := by
    unfold announced
    rw [hopen, filter_filter, filter_map, filter_map, filter_filter]
    congr 1
    apply filter_congr
    intro entry _
    exact Bool.and_comm _ _
  have hperm := (filter_append_perm (fun trade : SimulatedTrade =>
    trade.marketId == marketId) (announced history.filledLive books.openTrades)).filterMap (·.id)
  rw [hsettled] at hclosed
  have hunclosed : (closedIds (history.events ++ events) ++
      (announced history.filledLive books'.openTrades).filterMap (·.id)).Nodup := by
    rw [closedIds_append, hclosed, hheld, append_assoc, ← filterMap_append]
    exact (hperm.append_left _).nodup_iff.mpr h.unclosed
  constructor
  · apply h.lifecycle.append
    · exact fun trade htrade => absurd htrade (hopened trade)
    · rw [openedIds_append, hnone, append_nil]
      exact h.lifecycle.openedOnce
    · exact (nodup_append.mp hunclosed).1
    · intro tradeId hmem
      rw [hclosed] at hmem
      obtain ⟨trade, htrade, htradeId⟩ := mem_filterMap.mp hmem
      obtain ⟨knownId, hknown, hknownId⟩ := h.known trade (mem_filter.mp htrade).1
      rw [hknownId] at htradeId
      rw [← Option.some.inj htradeId]
      exact hknown
  · rw [hnext]
    exact h.inRange
  · rw [openedIds_append, hnone, append_nil, hnext]
    exact h.fresh
  · rw [openedIds_append, hnone, append_nil, hheld]
    exact fun trade htrade => h.known trade (mem_filter.mp htrade).1
  · exact hunclosed

/-- Due orders keep the trades known if there is a new id for each of them. -/
theorem dueRun {before : List LivePersistenceEvent} (hrun : DueRun request mode books events books')
    (h : TradesKnown stored seedIds { events := before, filledLive := filledLive } books)
    (hseed : ∀ tradeId ∈ seedIds, some tradeId ∈ stored.trades.map (·.id))
    (hnew : ∀ tradeId ∈ List.iterate nextNegativeId books.nextTradeId
      (dueCount books.pendingOrders request.nowMs), NewTradeId stored tradeId) :
    TradesKnown stored seedIds
      { events := before ++ events, filledLive := filledLive } books' := by
  induction hrun generalizing before with
  | nil => simpa using h
  | cons hstep _ ih =>
    rw [← append_assoc]
    have hcount : ∀ (earlier after : List RuntimePendingOrder) (order : RuntimePendingOrder),
        order.arrivalTs ≤ request.nowMs →
          dueCount (earlier ++ order :: after) request.nowMs =
            dueCount (earlier ++ after) request.nowMs + 1 := by
      intro earlier after order harrived
      simp [dueCount, harrived, Nat.add_assoc]
    cases hstep with
    | missed earlier after order event hpending harrived hevent =>
      rw [hpending, hcount earlier after order harrived] at hnew
      have hevents : ∀ other ∈ [event], other.isTrade = false := by simpa using hevent
      refine ih (h.emit hevents (List.Sublist.refl _) le_rfl h.inRange) ?_
      intro tradeId hmem
      obtain ⟨turn, hturn, hid⟩ := mem_iterate.mp hmem
      exact hnew tradeId (mem_iterate.mpr ⟨turn, Nat.lt_succ_of_lt hturn, hid⟩)
    | filled earlier after order event price size trade hpending harrived hevent _ _ _ htrade =>
      rw [hpending, hcount earlier after order harrived, List.iterate] at hnew
      have hevents : ∀ other ∈ [event], other.isTrade = false := by simpa using hevent
      have hemitted := h.emit hevents (List.Sublist.refl _) le_rfl h.inRange
      have hsplit : before ++ [event, .openTrade trade] =
          (before ++ [event]) ++ [.openTrade trade] := by simp
      rw [hsplit]
      refine ih (hemitted.fill hseed (hnew _ mem_cons_self)
        { trade := trade, marketEndTime := request.window.endTime, pendingSettlement := false }
        (by rw [htrade]; rfl) rfl rfl) ?_
      exact fun tradeId hmem => hnew tradeId (mem_cons_of_mem _ hmem)

end TradesKnown

theorem nextNegativeId_le {tradeId : ℤ} (hrange : i64Min ≤ tradeId) :
    nextNegativeId tradeId ≤ tradeId := by
  unfold nextNegativeId
  omega

namespace RuntimeDecisionEngine

variable {σ : Type}
variable (engine : RuntimeDecisionEngine σ) (nowMs : ℕ)

theorem announced_applyLiveFill {fill : LiveOrderFillFeedback} {filledLive : List String}
    (hrange : i64Min ≤ engine.books.nextTradeId)
    (hfilled : ∀ order ∈ engine.pendingOrders, order.signalId = fill.signalId →
      0 < fill.filledSize → 0 < fill.fillPrice → order.marketId ∈ filledLive) :
    let books' := (engine.applyLiveFill nowMs fill).books
    announced filledLive books'.openTrades = announced filledLive engine.books.openTrades ∧
      books'.nextTradeId ≤ engine.books.nextTradeId ∧ i64Min ≤ books'.nextTradeId := by
  rcases engine.applyLiveFill_cases nowMs fill with
    ⟨hsame, -⟩ | ⟨before, order, after, hpending, hid, -, -, ⟨-, hbooks⟩ | ⟨hsize, hprice, hbooks⟩⟩
  · rw [hsame]
    exact ⟨rfl, le_rfl, hrange⟩
  · rw [hbooks]
    exact ⟨rfl, le_rfl, hrange⟩
  · have hmarket := hfilled order (by simp [hpending]) hid hsize hprice
    rw [hbooks]
    refine ⟨?_, nextNegativeId_le hrange, le_max_right _ _⟩
    simp [announced, filter_append, buildTrade, hmarket]

theorem announced_foldl_applyLiveFill (fills : List LiveOrderFillFeedback)
    (filledLive : List String) (hrange : i64Min ≤ engine.books.nextTradeId)
    (hfilled : ∀ fill ∈ fills, ∀ order ∈ engine.pendingOrders, order.signalId = fill.signalId →
      0 < fill.filledSize → 0 < fill.fillPrice → order.marketId ∈ filledLive) :
    let books' := (fills.foldl (applyLiveFill nowMs) engine).books
    announced filledLive books'.openTrades = announced filledLive engine.books.openTrades ∧
      books'.nextTradeId ≤ engine.books.nextTradeId ∧ i64Min ≤ books'.nextTradeId := by
  induction fills generalizing engine with
  | nil => exact ⟨rfl, le_rfl, hrange⟩
  | cons fill rest ih =>
    obtain ⟨hopen, hnext, hrange'⟩ :=
      engine.announced_applyLiveFill nowMs hrange (hfilled fill mem_cons_self)
    have hpending := engine.pendingOrders_applyLiveFill_subset nowMs fill
    obtain ⟨hopen', hnext', hrange''⟩ := ih (engine.applyLiveFill nowMs fill) hrange'
      fun other hother order horder =>
        hfilled other (mem_cons_of_mem _ hother) order (hpending horder)
    exact ⟨hopen'.trans hopen, hnext'.trans hnext, hrange''⟩

theorem nextTradeId_rejectOrders (rejectedSignalIds : List ℤ) :
    (engine.rejectOrders rejectedSignalIds).books.nextTradeId = engine.books.nextTradeId := by
  induction rejectedSignalIds generalizing engine with
  | nil => rfl
  | cons signalId rest ih =>
    have hfirst : (engine.removePendingOrder signalId).2.books.nextTradeId =
        engine.books.nextTradeId := by
      rcases engine.removePendingOrder_cases signalId with
        ⟨hnone, -⟩ | ⟨before, order, after, -, -, -, hsome⟩
      · rw [hnone]
      · rw [hsome]
        rfl
    exact (ih (engine.removePendingOrder signalId).2).trans hfirst

end RuntimeDecisionEngine

/-! ## Each message -/

section Messages

variable {σ : Type} {stored : TradesTable} {seedIds : List ℤ}
variable {history : TradeHistory} {engine : RuntimeDecisionEngine σ}

/-- Feedback keeps the trades known. -/
theorem TradesKnown.liveFeedback (h : TradesKnown stored seedIds history engine.books)
    (fills : List LiveOrderFillFeedback) (rejectedSignalIds : List ℤ) (nowMs : ℕ) :
    TradesKnown stored seedIds
      { events := history.events ++ []
        filledLive := filledMarkets engine.pendingOrders fills ++ history.filledLive }
      (engine.applyLiveSubmissionFeedback fills rejectedSignalIds nowMs).books := by
  rw [applyLiveSubmissionFeedback_eq]
  have hnextTradeId := engine.nextTradeId_rejectOrders rejectedSignalIds
  have hrejected := engine.openTrades_rejectOrders rejectedSignalIds
  have hpending := engine.pendingOrders_rejectOrders_subset rejectedSignalIds
  obtain ⟨hopen, hnext, hrange⟩ :=
    (engine.rejectOrders rejectedSignalIds).announced_foldl_applyLiveFill nowMs fills
      (filledMarkets engine.pendingOrders fills ++ history.filledLive)
      (by rw [hnextTradeId]; exact h.inRange) (by
        intro fill hfill order horder hid hsize hprice
        apply mem_append_left
        refine mem_map.mpr ⟨order, mem_filter.mpr ⟨hpending horder, ?_⟩, rfl⟩
        exact any_eq_true.mpr ⟨fill, hfill, by simp [hid, hsize, hprice]⟩)
  apply h.emit (by simp)
  · rw [hopen, hrejected]
    unfold announced
    have hfewer : ((engine.books.openTrades.map (·.trade)).filter fun trade =>
        trade.marketId ∉ filledMarkets engine.pendingOrders fills ++ history.filledLive) =
        ((engine.books.openTrades.map (·.trade)).filter fun trade =>
          trade.marketId ∉ history.filledLive).filter fun trade =>
            trade.marketId ∉ filledMarkets engine.pendingOrders fills := by
      rw [filter_filter]
      apply filter_congr
      intro trade _
      simp
    rw [hfewer]
    exact filter_sublist
  · rw [← hnextTradeId]
    exact hnext
  · exact hrange

def RuntimeDecisionSeed.tradeIds (seed : RuntimeDecisionSeed) : List ℤ :=
  seed.openTrades.filterMap (·.trade.id)

/-- The trades of a seed are open rows of the table. -/
structure RuntimeDecisionSeed.ReadFrom (seed : RuntimeDecisionSeed) (stored : TradesTable) :
    Prop where
  distinct : (seed.openTrades.map (·.trade.id)).Nodup
  rows : ∀ snapshot ∈ seed.openTrades,
    snapshot.trade ∈ stored.trades ∧ snapshot.trade.status = .open

theorem RuntimeDecisionSeed.ReadFrom.seedsFrom {seed : RuntimeDecisionSeed}
    (h : seed.ReadFrom stored) : SeedsFrom stored seed.tradeIds where
  distinct := by
    have hids : seed.tradeIds = (seed.openTrades.map (·.trade.id)).filterMap id := by
      simp [RuntimeDecisionSeed.tradeIds, filterMap_map]
    rw [hids]
    apply h.distinct.filterMap
    intro tradeId tradeId' found hfound hfound'
    exact (Option.mem_def.mp hfound).trans (Option.mem_def.mp hfound').symm
  unsettled := by
    intro tradeId hid
    obtain ⟨snapshot, hsnapshot, hsnapshotId⟩ := mem_filterMap.mp hid
    exact ⟨snapshot.trade, (h.rows snapshot hsnapshot).1, hsnapshotId,
      (h.rows snapshot hsnapshot).2⟩

theorem SeedsFrom.mem_stored (h : SeedsFrom stored seedIds) :
    ∀ tradeId ∈ seedIds, some tradeId ∈ stored.trades.map (·.id) := by
  intro tradeId hid
  obtain ⟨row, hrow, hrowId, -⟩ := h.unsettled tradeId hid
  exact mem_map.mpr ⟨row, hrow, hrowId⟩

theorem TradesKnown.new (config : Config) (strategies : List σ) {seed : RuntimeDecisionSeed}
    (hstored : stored.Consistent) (hseed : seed.ReadFrom stored) :
    TradesKnown stored seed.tradeIds .none
      (RuntimeDecisionEngine.new config strategies seed).books := by
  have htrades : announced [] (RuntimeDecisionEngine.new config strategies seed).books.openTrades =
      seed.openTrades.map (·.trade) := by
    simp [announced, RuntimeDecisionEngine.books, RuntimeDecisionEngine.new,
      InMemoryExposureState.fromSnapshots]
  constructor
  · exact .nil hseed.seedsFrom.distinct
  · change i64Min ≤ -1
    decide
  · intro tradeId hid
    cases hid
  · intro trade htrade
    rw [TradeHistory.none, htrades] at htrade
    obtain ⟨snapshot, hsnapshot, rfl⟩ := mem_map.mp htrade
    obtain ⟨tradeId, hid⟩ := Option.isSome_iff_exists.mp
      (hstored.identified _ (hseed.rows snapshot hsnapshot).1)
    exact ⟨tradeId, mem_append_left _ (mem_filterMap.mpr ⟨snapshot, hsnapshot, hid⟩),
      hid⟩
  · have hids : (seed.openTrades.map (·.trade)).filterMap (·.id) = seed.tradeIds := by
      rw [filterMap_map]
      rfl
    rw [TradeHistory.none, htrades, hids]
    exact hseed.seedsFrom.distinct

variable [Strategy σ]

/-- A message that settles no trade of the venue and opens trades under new ids keeps the trades
known. -/
theorem TradesKnown.receive (h : TradesKnown stored seedIds history engine.books)
    (hseed : ∀ tradeId ∈ seedIds, some tradeId ∈ stored.trades.map (·.id))
    {message : EngineMessage} (hopens : OpensKnown stored history engine message) :
    TradesKnown stored seedIds (recordTrades history engine message)
      (engine.receive message).books := by
  cases message with
  | evaluate request =>
    obtain ⟨dueEvents, events, orders, books, hdecides⟩ :=
      engine.evaluate_run strategiesLabelled_anyLabel request
    obtain ⟨hopen, hnext, -, hevents, -⟩ := hdecides.candidates.frame
    have hmid : TradesKnown stored seedIds
        { history with events := history.events ++ dueEvents } books := by
      have hphase := hdecides.due
      unfold RuntimeDecisionEngine.DuePhase at hphase
      split at hphase
      · rw [hphase.1, hphase.2, append_nil]
        exact h
      · rename_i hmode
        exact TradesKnown.dueRun hphase h hseed (hopens.resolve_left hmode)
    have hlast : TradesKnown stored seedIds
        { events := history.events ++ dueEvents ++ events, filledLive := history.filledLive }
        (engine.evaluate request).2.books := by
      apply hmid.emit hevents
      · rw [hopen]
      · exact hnext.le
      · rw [hnext]
        exact hmid.inRange
    rw [append_assoc, ← hdecides.persistenceEvents] at hlast
    exact hlast
  | liveFeedback fills rejectedSignalIds nowMs => exact h.liveFeedback fills rejectedSignalIds nowMs
  | releaseReservations releases =>
    unfold RuntimeDecisionEngine.receive
    rw [engine.books_releaseReservations releases]
    have hevents : ∀ event ∈ engine.emitted (.releaseReservations releases),
        event.isTrade = false := by
      simp [emitted]
    exact h.emit hevents (List.Sublist.refl _) (le_refl engine.books.nextTradeId) h.inRange
  | windowClosed window nowMs =>
    have hsame : (closeMarket window.marketId engine.books.openTrades).map (·.trade) =
        engine.books.openTrades.map (·.trade) := by
      unfold closeMarket
      rw [map_map]
      apply map_congr_left
      intro entry _
      by_cases hmarket : entry.trade.marketId = window.marketId <;> simp [hmarket]
    unfold RuntimeDecisionEngine.receive
    rw [engine.books_windowClosed window nowMs]
    have hopen : announced history.filledLive
        (closeMarket window.marketId engine.books.openTrades) =
          announced history.filledLive engine.books.openTrades := by
      unfold announced
      rw [hsame]
    exact h.emit (engine.windowClosed_events window nowMs) (hopen ▸ List.Sublist.refl _)
      (le_refl engine.books.nextTradeId) h.inRange
  | authoritativeResolution window outcome nowMs =>
    obtain ⟨hbooks, -, hclosed, hopened⟩ :=
      engine.books_authoritativeResolution window outcome nowMs
    unfold RuntimeDecisionEngine.receive
    rw [hbooks]
    exact h.settle hopens hopened hclosed rfl rfl
  | flushAll nowMs =>
    have hevents : ∀ event ∈ engine.emitted (.flushAll nowMs), event.isTrade = false :=
      fun event hevent => isTrade_of_mem_summaryEvents hevent
    exact h.emit hevents (List.Sublist.refl _) le_rfl h.inRange

end Messages

section Runs

variable {σ : Type} [Strategy σ]

variable (σ) in
/-- In every run whose steps meet a condition, the lifecycle of the trades is well formed, and
writing its events leaves one row for every trade. -/
def TradesOpenAndCloseOnce
    (meets : TradesTable → TradeHistory → RuntimeDecisionEngine σ → EngineMessage → Prop) : Prop :=
  ∀ (config : Config) (strategies : List σ) (seed : RuntimeDecisionSeed) (stored : TradesTable)
    (history : TradeHistory) (engine : RuntimeDecisionEngine σ),
    stored.Consistent → seed.ReadFrom stored →
      tradeSystem.Run (fun history engine message _ => meets stored history engine message)
          (.none, .new config strategies seed) history engine →
        Lifecycle seed.tradeIds history.events ∧
          OneRowPerTrade stored history.events (stored.persistAll history.events)

/-- As long as no trade of the venue is settled and simulated fills find new ids, every trade is
opened and closed once. -/
theorem trades_open_and_close_once : TradesOpenAndCloseOnce σ OpensKnown := by
  intro config strategies seed stored history engine hstored hseed hrun
  have hknown : TradesKnown stored seed.tradeIds history engine.books := by
    refine hrun.invariant
      (fun history engine => TradesKnown stored seed.tradeIds history engine.books)
      (.new config strategies hstored hseed) ?_
    intro history engine message engine' h hstep hopens
    cases hstep
    exact h.receive hseed.seedsFrom.mem_stored hopens
  have hfresh : ∀ tradeId ∈ openedIds history.events, some tradeId ∉ stored.trades.map (·.id) :=
    fun tradeId hid => (hknown.fresh tradeId hid).2
  exact ⟨hknown.lifecycle, hknown.lifecycle.persistAll hstored hseed.seedsFrom hfresh⟩

end Runs

theorem TradesTable.empty_consistent : TradesTable.empty.Consistent where
  identified := by simp [TradesTable.empty]
  distinct := by simp [TradesTable.empty]
  resolved := by simp [TradesTable.empty]

theorem sampleSeed_readFrom : sampleSeed.ReadFrom .empty where
  distinct := by simp [sampleSeed]
  rows := by simp [sampleSeed]

/-- An order is queued, the venue fills it, and its market is resolved. -/
def settledFill : List EngineMessage :=
  [.evaluate (sampleDecision (sampleWindow "market" 10000) 1000),
    .liveFeedback [{ signalId := -1, fillPrice := 2 / 5, filledSize := 20 }] [] 1100,
    .authoritativeResolution (sampleWindow "market" 10000) .up 11000]

/-- A trade of the venue is closed although no event has opened it. -/
theorem live_trade_closes_unopened :
    ¬ TradesOpenAndCloseOnce SampleStrategy fun _ _ _ _ => True := by
  intro h
  have hfollow : (tradeSystem.follow (fun _ _ _ _ => true) settledFill
      (.none, .new sampleConfig [SampleStrategy.mk .up] sampleSeed)).any (fun x =>
        decide (closedIds x.1.events = [-1] ∧ openedIds x.1.events = [])) = true := by
    decide +kernel
  obtain ⟨history, engine, hrun, hids⟩ := System.exists_run_of_follow hfollow
    fun _ _ _ _ _ => trivial
  obtain ⟨hclosed, hopened⟩ := of_decide_eq_true hids
  have hlifecycle := (h sampleConfig _ sampleSeed .empty history engine
    TradesTable.empty_consistent sampleSeed_readFrom hrun).1
  have hknown := hlifecycle.closed_known (by rw [hclosed]; exact mem_singleton_self _)
  rw [hopened] at hknown
  cases hknown

/-- A simulated fill is opened and closed once. -/
theorem trades_open_and_close_once_sample :
    ∃ history engine,
      tradeSystem.Run (fun history engine message _ =>
          OpensKnown .empty history engine message)
          (.none, .new { sampleConfig with executionMode := .paper } [SampleStrategy.mk .up]
            sampleSeed) history engine ∧
        closedIds history.events = [-1] ∧
        OneRowPerTrade .empty history.events (TradesTable.empty.persistAll history.events) := by
  have hfollow : (tradeSystem.follow
      (fun history engine message _ => decide (OpensKnown .empty history engine message))
      [.evaluate (sampleDecision (sampleWindow "market" 10000) 1000),
        .evaluate (sampleDecision (sampleWindow "market" 10000) 2000),
        .authoritativeResolution (sampleWindow "market" 10000) .up 11000]
      (.none, .new { sampleConfig with executionMode := .paper } [SampleStrategy.mk .up]
        sampleSeed)).any (fun x => decide (closedIds x.1.events = [-1])) = true := by
    decide +kernel
  obtain ⟨history, engine, hrun, hclosed⟩ := System.exists_run_of_follow hfollow
    fun _ _ _ _ => of_decide_eq_true
  exact ⟨history, engine, hrun, of_decide_eq_true hclosed,
    (trades_open_and_close_once _ _ sampleSeed .empty history engine
      TradesTable.empty_consistent sampleSeed_readFrom hrun).2⟩

end BubaPaint
