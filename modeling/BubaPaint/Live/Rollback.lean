import BubaPaint.Decision.Ledger
import BubaPaint.Live.DecisionOutput
import Mathlib.Data.List.Iterate

/-!
# Rolling back orders

Orders of an output that cannot go on are taken back: a rejection removes them from the pending
orders and a release gives back what they have reserved. The worker does both at once. The loop
sends two messages through a bounded queue, so one of them may get lost.

Main results:

- Theorem `restores_iff`: the books are restored iff both messages go through, or neither does.
- Theorem `rollback_restores_iff`: a rollback restores it iff it is whole.
-/

namespace BubaPaint

open Effects List RuntimeDecisionEngine

/-! ## Releasing several reserves -/

theorem le_charged {charges : List Charge} (hnonneg : ∀ charge ∈ charges, 0 ≤ charge.2)
    {charge : Charge} (hcharge : charge ∈ charges) :
    charge.2 ≤ charged (familyForStrategy charge.1) charges := by
  obtain ⟨before, after, rfl⟩ := append_of_mem hcharge
  have hbefore := charged_nonneg (fun other hother => hnonneg other (mem_append_left _ hother))
    (familyForStrategy charge.1)
  have hafter := charged_nonneg (fun other hother =>
    hnonneg other (mem_append_right _ (mem_cons_of_mem _ hother)))
    (familyForStrategy charge.1)
  rw [charged_append, charged_cons, if_pos rfl]
  linarith

namespace Reserves

def releaseAll (reserves : Reserves) (releases : List Charge) : Reserves :=
  releases.foldl
    (fun reserves release =>
      reserves.releaseFromFamilyBuckets release.2 (familyForStrategy release.1)) reserves

variable {reserves : Reserves} {releases : List Charge}

theorem Coherent.releaseAll (h : reserves.Coherent)
    (hnonneg : ∀ release ∈ releases, 0 ≤ release.2) : (reserves.releaseAll releases).Coherent := by
  induction releases generalizing reserves with
  | nil => exact h
  | cons release rest ih =>
    exact ih (h.releaseFromFamilyBuckets _ (hnonneg release mem_cons_self))
      fun other hother => hnonneg other (mem_cons_of_mem _ hother)

theorem bucket_releaseAll (h : reserves.Coherent) (hnonneg : ∀ release ∈ releases, 0 ≤ release.2)
    (family : StrategyFamily) :
    (reserves.releaseAll releases).bucket family =
      max (reserves.bucket family - charged family releases) 0 := by
  induction releases generalizing reserves with
  | nil => simp [releaseAll, h.bucket_nonneg family]
  | cons release rest ih =>
    have hamount := hnonneg release mem_cons_self
    have hlater : ∀ other ∈ rest, 0 ≤ other.2 :=
      fun other hother => hnonneg other (mem_cons_of_mem _ hother)
    have hrest := ih (h.releaseFromFamilyBuckets (familyForStrategy release.1) hamount) hlater
    have hcharged := charged_nonneg hlater family
    refine hrest.trans ?_
    rw [bucket_releaseFromFamilyBuckets _ _ h hamount, charged_cons]
    by_cases hfamily : family = familyForStrategy release.1
    · rw [if_pos hfamily, if_pos hfamily, ← hfamily]
      rcases le_total release.2 (reserves.bucket family) with hle | hle
      · rw [min_eq_left hle]
        congr 1
        ring
      · rw [min_eq_right hle, max_eq_right (by linarith), max_eq_right (by linarith)]
    · rw [if_neg hfamily, if_neg hfamily]
      congr 1
      ring

/-- What is there in the active buckets is taken from them alone. -/
theorem split_releaseAll (h : reserves.Coherent) (releases : List Charge)
    (hnonneg : ∀ release ∈ releases, 0 ≤ release.2)
    (hheld : ∀ family, charged family releases ≤ reserves.activeReservedCapitalByFamily family)
    (family : StrategyFamily) :
    (reserves.releaseAll releases).activeReservedCapitalByFamily family =
        reserves.activeReservedCapitalByFamily family - charged family releases ∧
      (reserves.releaseAll releases).pendingSettlementReservedCapitalByFamily family =
        reserves.pendingSettlementReservedCapitalByFamily family := by
  induction releases generalizing reserves with
  | nil => simp [releaseAll]
  | cons release rest ih =>
    have hamount := hnonneg release mem_cons_self
    have hlater : ∀ other ∈ rest, 0 ≤ other.2 :=
      fun other hother => hnonneg other (mem_cons_of_mem _ hother)
    have hfirst : release.2 ≤
        reserves.activeReservedCapitalByFamily (familyForStrategy release.1) := by
      have hall := hheld (familyForStrategy release.1)
      rw [charged_cons, if_pos rfl] at hall
      have hcharged := charged_nonneg hlater (familyForStrategy release.1)
      linarith
    have hactive : ∀ other,
        (reserves.releaseFromFamilyBuckets release.2
          (familyForStrategy release.1)).activeReservedCapitalByFamily other =
          reserves.activeReservedCapitalByFamily other -
            if other = familyForStrategy release.1 then release.2 else 0 := by
      intro other
      rw [active_releaseFromFamilyBuckets _ _ h hamount, min_eq_left hfirst]
    have hsettling : ∀ other,
        (reserves.releaseFromFamilyBuckets release.2
          (familyForStrategy release.1)).pendingSettlementReservedCapitalByFamily other =
          reserves.pendingSettlementReservedCapitalByFamily other := by
      intro other
      rw [pending_releaseFromFamilyBuckets _ _ h, min_eq_left hfirst]
      have hnothing := h.pending_nonneg (familyForStrategy release.1)
      split
      · simp [hnothing]
      · simp
    obtain ⟨hactive', hsettling'⟩ := ih (h.releaseFromFamilyBuckets _ hamount) hlater (by
      intro other
      have hall := hheld other
      rw [charged_cons] at hall
      rw [hactive]
      linarith)
    refine ⟨?_, hsettling'.trans (hsettling family)⟩
    refine hactive'.trans ?_
    rw [hactive, charged_cons]
    ring

end Reserves

/-! ## What a decision adds -/

theorem iterate_nextNegativeId {signalId : ℤ} {count : ℕ}
    (hrange : i64Min < nextNegativeId^[count] signalId) :
    ∀ turn ≤ count, nextNegativeId^[turn] signalId = signalId - turn := by
  induction count with
  | zero =>
    intro turn hturn
    rw [Nat.le_zero.mp hturn]
    simp
  | succ count ih =>
    rw [Function.iterate_succ_apply'] at hrange
    have hbefore : i64Min < nextNegativeId^[count] signalId := by
      unfold nextNegativeId at hrange ⊢
      omega
    intro turn hturn
    rcases Nat.of_le_succ hturn with hle | heq
    · exact ih hbefore turn hle
    · rw [heq, Function.iterate_succ_apply', ih hbefore count le_rfl]
      rw [ih hbefore count le_rfl] at hrange
      unfold nextNegativeId at hrange ⊢
      push_cast
      omega

/-- As long as ids are left, pending orders have ids of their own, and later ones are new. -/
def FreshSignalIds (books : Books) : Prop :=
  i64Min < books.nextSignalId →
    (books.pendingOrders.map (·.signalId)).Nodup ∧
      ∀ order ∈ books.pendingOrders, books.nextSignalId < order.signalId

/-- The books after orders were queued: their reserves are in the active buckets. -/
structure Queues (books books' : Books) (queued : List RuntimePendingOrder) : Prop where
  pendingOrders : books'.pendingOrders = books.pendingOrders ++ queued
  openTrades : books'.openTrades = books.openTrades
  costs : ∀ order ∈ queued, 0 < order.reservedCost
  coherent : books'.reserves.Coherent
  active : ∀ family, books'.reserves.activeReservedCapitalByFamily family =
    books.reserves.activeReservedCapitalByFamily family + charged family (queued.map orderCharge)
  settling : ∀ family, books'.reserves.pendingSettlementReservedCapitalByFamily family =
    books.reserves.pendingSettlementReservedCapitalByFamily family
  fresh : FreshSignalIds books → FreshSignalIds books'

namespace Queues

variable {books books' books'' : Books} {queued queued' : List RuntimePendingOrder}

theorem refl (hcoherent : books.reserves.Coherent) : Queues books books [] where
  pendingOrders := by simp
  openTrades := rfl
  costs := by simp
  coherent := hcoherent
  active := by simp
  settling _ := rfl
  fresh := id

theorem trans (h : Queues books books' queued) (h' : Queues books' books'' queued') :
    Queues books books'' (queued ++ queued') where
  pendingOrders := by rw [h'.pendingOrders, h.pendingOrders, append_assoc]
  openTrades := h'.openTrades.trans h.openTrades
  costs order horder :=
    (mem_append.mp horder).elim (h.costs order) (h'.costs order)
  coherent := h'.coherent
  active family := by
    rw [h'.active, h.active, map_append, charged_append, add_assoc]
  settling family := (h'.settling family).trans (h.settling family)
  fresh hfresh := h'.fresh (h.fresh hfresh)

theorem bucket (h : Queues books books' queued) (family : StrategyFamily) :
    books'.reserves.bucket family =
      books.reserves.bucket family + charged family (queued.map orderCharge) := by
  unfold Reserves.bucket
  rw [h.active, h.settling]
  ring

end Queues

section Decisions

variable {request : RuntimeDecisionRequest} {books books' : Books}
  {events : List LivePersistenceEvent} {orders : List RuntimePendingOrder}
variable {count : ℕ} {reserves : Reserves}

/-- Drawing ids keeps the ids of pending orders apart from later ones. -/
theorem FreshSignalIds.queue (h : FreshSignalIds books)
    (hids : List.Subperm (orders.map (·.signalId)) (books.signalIds count)) :
    FreshSignalIds { books.advance count with
      pendingOrders := books.pendingOrders ++ orders
      reserves := reserves } := by
  intro hrange
  change i64Min < nextNegativeId^[count] books.nextSignalId at hrange
  have hcount := iterate_nextNegativeId hrange
  have hdrawn : ∀ signalId ∈ books.signalIds count,
      signalId ≤ books.nextSignalId ∧ nextNegativeId^[count] books.nextSignalId < signalId := by
    intro signalId hmem
    unfold Books.signalIds at hmem
    rw [← range_map_iterate] at hmem
    obtain ⟨turn, hturn, rfl⟩ := mem_map.mp hmem
    have hlt := mem_range.mp hturn
    rw [hcount turn hlt.le, hcount count le_rfl]
    omega
  have hdistinct : (books.signalIds count).Nodup := by
    unfold Books.signalIds
    rw [← range_map_iterate]
    apply List.Nodup.map_on _ nodup_range
    intro turn hturn turn' hturn' hsame
    rw [hcount turn (mem_range.mp hturn).le, hcount turn' (mem_range.mp hturn').le] at hsame
    omega
  have hlast := hcount count le_rfl
  obtain ⟨hold, habove⟩ := h (by omega)
  have hnew : ∀ order ∈ orders, order.signalId ∈ books.signalIds count := fun order horder =>
    hids.subset (mem_map.mpr ⟨order, horder, rfl⟩)
  have hown : (orders.map (·.signalId)).Nodup := by
    obtain ⟨drawn, hperm, hsublist⟩ := hids
    exact hperm.nodup_iff.mp (List.Nodup.sublist hsublist hdistinct)
  constructor
  · rw [map_append]
    refine nodup_append.mpr ⟨hold, hown, ?_⟩
    intro signalId hmem signalId' hmem' hsame
    obtain ⟨order, horder, rfl⟩ := mem_map.mp hmem
    obtain ⟨order', horder', rfl⟩ := mem_map.mp hmem'
    have hbelow := (hdrawn _ (hnew order' horder')).1
    have hlarge := habove order horder
    omega
  · intro order horder
    change nextNegativeId^[count] books.nextSignalId < order.signalId
    rcases mem_append.mp horder with hearlier | hlater
    · have hlarge := habove order hearlier
      omega
    · exact (hdrawn _ (hnew order hlater)).2

theorem split_probe (h : reserves.Coherent) {family : StrategyFamily} {strategy : String}
    {amount : ℚ} (hlabel : FamilyLabel family strategy) (hamount : 0 ≤ amount)
    (other : StrategyFamily) :
    let probed := (reserves.addReserved family amount).releaseFromFamilyBuckets amount
      (familyForStrategy strategy)
    probed.activeReservedCapitalByFamily other = reserves.activeReservedCapitalByFamily other ∧
      probed.pendingSettlementReservedCapitalByFamily other =
        reserves.pendingSettlementReservedCapitalByFamily other := by
  have hfamily : familyForStrategy strategy = family := hlabel
  have hsplit := Reserves.split_releaseAll (h.addReserved family hamount) [(strategy, amount)]
    (by simpa using hamount) (by
      intro family'
      rw [Reserves.active_addReserved, Reserves.addEntry_apply, charged_cons, charged_nil, hfamily]
      have hactive := h.active_nonneg family'
      linarith) other
  obtain ⟨hactive, hsettling⟩ := hsplit
  refine ⟨?_, hsettling⟩
  refine hactive.trans ?_
  rw [Reserves.active_addReserved, Reserves.addEntry_apply, charged_cons, charged_nil, hfamily]
  ring

theorem queueStep_queues (hcoherent : books.reserves.Coherent)
    (hstep : QueueStep FamilyLabel request (books.signalIds count) (books.advance count) events
      orders books') : Queues books books' orders := by
  have hadvance : ∀ reserves, FreshSignalIds books →
      FreshSignalIds { books.advance count with reserves := reserves } := by
    intro reserves h
    have hqueued : FreshSignalIds
        { books.advance count with
          pendingOrders := books.pendingOrders ++ []
          reserves := reserves } := h.queue nil_subperm
    rw [append_nil] at hqueued
    exact hqueued
  cases hstep with
  | passed =>
    exact ⟨by simp [Books.advance], rfl, by simp, hcoherent, by simp [Books.advance],
      fun _ => rfl, hadvance books.reserves⟩
  | probed family strategy amount _ _ hlabel hamount hbooks =>
    rw [hbooks]
    have hprobe := split_probe hcoherent hlabel hamount.le
    refine ⟨by simp [Books.advance], rfl, by simp, ?_, fun other => ?_, fun other => ?_,
      hadvance _⟩
    · exact (hcoherent.addReserved family hamount.le).releaseFromFamilyBuckets _ hamount.le
    · rw [map_nil, charged_nil, add_zero]
      exact (hprobe other).1
    · exact (hprobe other).2
  | queued family _ _ _ hids hqueueable _ hbooks =>
    have hcosts : ∀ order ∈ orders, 0 < order.reservedCost := by
      intro order horder
      have hqueued := hqueueable order horder
      rw [hqueued.cost]
      exact mul_pos hqueued.size hqueued.limit
    have hsum : 0 ≤ (orders.map (·.reservedCost)).sum :=
      sum_nonneg (by simpa using fun order horder => (hcosts order horder).le)
    rw [hbooks]
    refine ⟨rfl, rfl, hcosts, hcoherent.addReserved family hsum, fun other => ?_, fun _ => rfl,
      fun h => h.queue hids⟩
    rw [Ledger.charged_orders (fun order horder => (hqueueable order horder).labelled)]
    exact Reserves.addEntry_apply family other _

theorem candidateRun_queues (hrun : CandidateRun FamilyLabel request books events orders books')
    (hcoherent : books.reserves.Coherent) : Queues books books' orders := by
  induction hrun with
  | nil => exact .refl hcoherent
  | cons hstep _ ih =>
    obtain ⟨count, hqueue⟩ := hstep
    have hfirst := queueStep_queues hcoherent hqueue
    exact hfirst.trans (ih hfirst.coherent)

end Decisions

section Engine

variable {σ : Type} [Strategy σ] [LawfulStrategy σ]

/-- A decision of live trading queues the orders that it hands out, and nothing else. -/
theorem evaluate_queues (engine : RuntimeDecisionEngine σ)
    (hlive : engine.config.executionMode = .liveTrading)
    (hcoherent : engine.books.reserves.Coherent) (request : RuntimeDecisionRequest) :
    ∃ queued, Queues engine.books (engine.evaluate request).2.books queued ∧
      (engine.evaluate request).1.liveOrders = queued.map queuedOrderIntent ∧
      (engine.evaluate request).2.config = engine.config := by
  obtain ⟨dueEvents, events, orders, books, hdecides⟩ :=
    engine.evaluate_run strategiesLabelled_familyLabel request
  have hdue := hdecides.due
  unfold RuntimeDecisionEngine.DuePhase at hdue
  rw [if_pos hlive] at hdue
  have hcandidates := hdecides.candidates
  rw [hdue.2] at hcandidates
  refine ⟨orders, candidateRun_queues hcandidates hcoherent, ?_, hdecides.config⟩
  rw [hdecides.liveOrders]
  unfold DecisionPass.forwarded
  rw [if_pos hlive]

end Engine

/-! ## Sound books -/

/-- Coherent reserves, orders and trades with costs, and orders with ids of their own. -/
structure SoundBooks (books : Books) : Prop where
  coherent : books.reserves.Coherent
  orderCosts : ∀ order ∈ books.pendingOrders, 0 < order.reservedCost
  tradeCosts : ∀ entry ∈ books.openTrades, 0 ≤ entry.trade.entryPrice * entry.trade.size
  fresh : FreshSignalIds books

namespace SoundBooks

variable {books books' : Books}

theorem queues (h : SoundBooks books) {queued : List RuntimePendingOrder}
    (hqueues : Queues books books' queued) : SoundBooks books' where
  coherent := hqueues.coherent
  orderCosts order horder := by
    rw [hqueues.pendingOrders] at horder
    exact (mem_append.mp horder).elim (h.orderCosts order) (hqueues.costs order)
  tradeCosts := by
    rw [hqueues.openTrades]
    exact h.tradeCosts
  fresh := hqueues.fresh h.fresh

theorem shrink (h : SoundBooks books) (hcoherent : books'.reserves.Coherent)
    (hpending : books'.pendingOrders.Sublist books.pendingOrders)
    (hnext : books'.nextSignalId = books.nextSignalId)
    (htrades : ∀ entry ∈ books'.openTrades, 0 ≤ entry.trade.entryPrice * entry.trade.size) :
    SoundBooks books' where
  coherent := hcoherent
  orderCosts order horder := h.orderCosts order (hpending.subset horder)
  tradeCosts := htrades
  fresh hrange := by
    rw [hnext] at hrange ⊢
    obtain ⟨hdistinct, habove⟩ := h.fresh hrange
    exact ⟨List.Nodup.sublist (hpending.map _) hdistinct,
      fun order horder => habove order (hpending.subset horder)⟩

section Messages

variable {σ : Type} {engine : RuntimeDecisionEngine σ}

theorem removePendingOrder (h : SoundBooks engine.books) (signalId : ℤ) :
    SoundBooks (engine.removePendingOrder signalId).2.books := by
  rcases engine.removePendingOrder_cases signalId with
    ⟨hnone, -⟩ | ⟨before, order, after, hpending, -, -, hsome⟩
  · rw [hnone]
    exact h
  · rw [hsome]
    refine h.shrink h.coherent ?_ rfl h.tradeCosts
    change (before ++ after).Sublist engine.pendingOrders
    rw [hpending]
    exact (sublist_cons_self order after).append_left before

theorem rejectOrders (h : SoundBooks engine.books) (rejectedSignalIds : List ℤ) :
    SoundBooks (engine.rejectOrders rejectedSignalIds).books := by
  induction rejectedSignalIds generalizing engine with
  | nil => exact h
  | cons signalId rest ih => exact ih (h.removePendingOrder signalId)

theorem coherent_releaseUnspent {reserves : Reserves} (h : reserves.Coherent)
    (order : RuntimePendingOrder) (fillCost : ℚ) :
    (reserves.releaseUnspent order fillCost).Coherent := by
  unfold Reserves.releaseUnspent
  split
  · rename_i hunspent
    exact h.releaseFromFamilyBuckets _ (sub_nonneg.mpr (le_of_lt hunspent))
  · exact h

theorem applyLiveFill (h : SoundBooks engine.books) (nowMs : ℕ) (fill : LiveOrderFillFeedback) :
    SoundBooks (engine.applyLiveFill nowMs fill).books := by
  rcases engine.applyLiveFill_cases nowMs fill with
    ⟨hsame, -⟩ | ⟨before, order, after, hpending, -, -, -, ⟨-, hbooks⟩ | ⟨hsize, hprice, hbooks⟩⟩
  · rw [hsame]
    exact h
  all_goals
    have hsublist : (before ++ after).Sublist engine.books.pendingOrders := by
      change (before ++ after).Sublist engine.pendingOrders
      rw [hpending]
      exact (sublist_cons_self order after).append_left before
    rw [hbooks]
  · exact h.shrink h.coherent hsublist rfl h.tradeCosts
  · refine h.shrink (coherent_releaseUnspent h.coherent order _) hsublist rfl ?_
    intro entry hentry
    rcases mem_append.mp hentry with hold | hnew
    · exact h.tradeCosts entry hold
    · rw [mem_singleton.mp hnew]
      exact (mul_pos hprice hsize).le

theorem liveFeedback (h : SoundBooks engine.books) (fills : List LiveOrderFillFeedback)
    (rejectedSignalIds : List ℤ) (nowMs : ℕ) :
    SoundBooks (engine.applyLiveSubmissionFeedback fills rejectedSignalIds nowMs).books := by
  rw [applyLiveSubmissionFeedback_eq]
  have hrejected := h.rejectOrders rejectedSignalIds
  generalize engine.rejectOrders rejectedSignalIds = rejected at hrejected ⊢
  induction fills generalizing rejected with
  | nil => exact hrejected
  | cons fill rest ih => exact ih _ (hrejected.applyLiveFill nowMs fill)

theorem releaseReservations (h : SoundBooks engine.books) {releases : List Charge}
    (hnonneg : ∀ release ∈ releases, 0 ≤ release.2) :
    SoundBooks (engine.releaseReservations releases).books := by
  rw [books_releaseReservations]
  exact h.shrink (h.coherent.releaseAll hnonneg) (List.Sublist.refl _) rfl h.tradeCosts

theorem coherent_foldl {step : Reserves → SimulatedTrade → Reserves}
    (hstep : ∀ reserves trade, reserves.Coherent → 0 ≤ trade.entryPrice * trade.size →
      (step reserves trade).Coherent) {trades : List SimulatedTrade} {reserves : Reserves}
    (h : reserves.Coherent) (hcosts : ∀ trade ∈ trades, 0 ≤ trade.entryPrice * trade.size) :
    (trades.foldl step reserves).Coherent := by
  induction trades generalizing reserves with
  | nil => exact h
  | cons trade rest ih =>
    exact ih (hstep reserves trade h (hcosts trade mem_cons_self))
      fun other hother => hcosts other (mem_cons_of_mem _ hother)

theorem windowClosed (h : SoundBooks engine.books) (window : MarketWindow) (nowMs : ℕ) :
    SoundBooks (engine.windowClosed window nowMs).2.books := by
  rw [books_windowClosed]
  have hclose : ∀ (reserves : Reserves) (trade : SimulatedTrade), reserves.Coherent →
      0 ≤ trade.entryPrice * trade.size → (reserves.close trade).Coherent :=
    fun reserves trade hreserves hcost => hreserves.transitionFamilyReserveToPending _ hcost
  refine h.shrink (coherent_foldl hclose h.coherent ?_) (List.Sublist.refl _) rfl ?_
  · intro trade htrade
    obtain ⟨entry, hentry, rfl⟩ := mem_map.mp htrade
    exact h.tradeCosts entry (mem_filter.mp hentry).1
  · intro entry hentry
    obtain ⟨before, hbefore, rfl⟩ := mem_map.mp hentry
    have hcost := h.tradeCosts before hbefore
    split <;> exact hcost

theorem authoritativeResolution (h : SoundBooks engine.books) (window : MarketWindow)
    (outcome : SignalDirection) (nowMs : ℕ) :
    SoundBooks (engine.authoritativeResolution window outcome nowMs).2.books := by
  obtain ⟨hbooks, -, -, -⟩ := engine.books_authoritativeResolution window outcome nowMs
  have hsettle : ∀ (reserves : Reserves) (trade : SimulatedTrade), reserves.Coherent →
      0 ≤ trade.entryPrice * trade.size → (reserves.settle trade).Coherent := by
    intro reserves trade hreserves hcost
    unfold Reserves.settle
    split
    · exact hreserves.releaseFromFamilyBuckets _ hcost
    · exact hreserves
  rw [hbooks]
  refine h.shrink (coherent_foldl hsettle h.coherent ?_) (List.Sublist.refl _) rfl ?_
  · intro trade htrade
    obtain ⟨entry, hentry, rfl⟩ := mem_map.mp htrade
    exact h.tradeCosts entry (mem_filter.mp hentry).1
  · exact fun entry hentry => h.tradeCosts entry (mem_filter.mp hentry).1

end Messages

end SoundBooks

/-! ## Runs of live trading -/

section Runs

variable {σ : Type}

/-- A release gives nothing negative back. -/
def SaneMessage : EngineMessage → Prop
  | .releaseReservations releases => ∀ release ∈ releases, 0 ≤ release.2
  | _ => True

/-- No trade of the seed has a negative cost. -/
structure RuntimeDecisionSeed.CostsNonneg (seed : RuntimeDecisionSeed) : Prop where
  exposures : ∀ exposure ∈ seed.unresolvedExposures, 0 ≤ exposure.entryPrice * exposure.size
  trades : ∀ snapshot ∈ seed.openTrades, 0 ≤ snapshot.trade.entryPrice * snapshot.trade.size

theorem SoundBooks.new (config : Config) (strategies : List σ) {seed : RuntimeDecisionSeed}
    (hseed : seed.CostsNonneg) :
    SoundBooks (new config strategies seed).books where
  coherent := (Ledger.balanced_hydrate hseed.exposures seed.nowMs
    (show Balanced (BankrollManager.newInMemory seed.startingBalance seed.currentBalance
      config).toReserves [] from balanced_empty)).coherent
  orderCosts order horder := by cases horder
  tradeCosts entry hentry := by
    obtain ⟨snapshot, hsnapshot, rfl⟩ := mem_map.mp hentry
    exact hseed.trades snapshot hsnapshot
  fresh _ := ⟨nodup_nil, fun order horder => by cases horder⟩

namespace RuntimeDecisionEngine

variable (engine : RuntimeDecisionEngine σ)

theorem config_rejectOrders (rejectedSignalIds : List ℤ) :
    (engine.rejectOrders rejectedSignalIds).config = engine.config := by
  induction rejectedSignalIds generalizing engine with
  | nil => rfl
  | cons signalId rest ih =>
    have hfirst : (engine.removePendingOrder signalId).2.config = engine.config := by
      rcases engine.removePendingOrder_cases signalId with
        ⟨hnone, -⟩ | ⟨before, order, after, -, -, -, hsome⟩
      · rw [hnone]
      · rw [hsome]
    exact (ih (engine.removePendingOrder signalId).2).trans hfirst

theorem config_liveFeedback (fills : List LiveOrderFillFeedback) (rejectedSignalIds : List ℤ)
    (nowMs : ℕ) :
    (engine.applyLiveSubmissionFeedback fills rejectedSignalIds nowMs).config = engine.config := by
  rw [applyLiveSubmissionFeedback_eq, ← engine.config_rejectOrders rejectedSignalIds]
  generalize engine.rejectOrders rejectedSignalIds = rejected
  induction fills generalizing rejected with
  | nil => rfl
  | cons fill rest ih =>
    refine (ih (rejected.applyLiveFill nowMs fill)).trans ?_
    rcases rejected.applyLiveFill_cases nowMs fill with ⟨hsame, -⟩ | ⟨-, -, -, -, -, -, hsame, -⟩
    · rw [hsame]
    · exact hsame

theorem config_releaseReservations (releases : List Charge) :
    (engine.releaseReservations releases).config = engine.config := by
  induction releases generalizing engine with
  | nil => rfl
  | cons release rest ih => exact ih _

end RuntimeDecisionEngine

variable [Strategy σ] [LawfulStrategy σ]
variable {engine : RuntimeDecisionEngine σ}

/-- The books of live trading stay sound under every message. -/
theorem SoundBooks.receive (h : SoundBooks engine.books)
    (hlive : engine.config.executionMode = .liveTrading) {message : EngineMessage}
    (hsane : SaneMessage message) :
    SoundBooks (engine.receive message).books ∧
      (engine.receive message).config = engine.config := by
  cases message with
  | evaluate request =>
    obtain ⟨queued, hqueues, -, hconfig⟩ :=
      evaluate_queues engine hlive h.coherent request
    exact ⟨h.queues hqueues, hconfig⟩
  | liveFeedback fills rejectedSignalIds nowMs =>
    exact ⟨h.liveFeedback fills rejectedSignalIds nowMs,
      engine.config_liveFeedback fills rejectedSignalIds nowMs⟩
  | releaseReservations releases =>
    exact ⟨h.releaseReservations hsane, engine.config_releaseReservations releases⟩
  | windowClosed window nowMs => exact ⟨h.windowClosed window nowMs, rfl⟩
  | authoritativeResolution window outcome nowMs =>
    exact ⟨h.authoritativeResolution window outcome nowMs,
      (engine.books_authoritativeResolution window outcome nowMs).2.1⟩
  | flushAll nowMs => exact ⟨h, rfl⟩

def messageSystem : System (RuntimeDecisionEngine σ) EngineMessage Unit :=
  system fun _ _ _ => ()

/-- A state that live trading reaches from a seed with sane messages. -/
def LiveReachable (config : Config) (strategies : List σ) (seed : RuntimeDecisionSeed)
    (engine : RuntimeDecisionEngine σ) : Prop :=
  config.executionMode = .liveTrading ∧ seed.CostsNonneg ∧
    messageSystem.Run (fun _ _ message _ => SaneMessage message)
      ((), .new config strategies seed) () engine

theorem LiveReachable.sound {config : Config} {strategies : List σ} {seed : RuntimeDecisionSeed}
    (h : LiveReachable config strategies seed engine) :
    SoundBooks engine.books ∧ engine.config.executionMode = .liveTrading := by
  obtain ⟨hlive, hseed, hrun⟩ := h
  refine hrun.invariant (fun _ engine =>
    SoundBooks engine.books ∧ engine.config.executionMode = .liveTrading)
    ⟨.new config strategies hseed, hlive⟩ ?_
  intro _ engine message engine' hsound hstep hsane
  cases hstep
  obtain ⟨hbooks, hconfig⟩ := hsound.1.receive hsound.2 hsane
  exact ⟨hbooks, hconfig ▸ hsound.2⟩

end Runs

def ReserveHeld (books : Books) (orders : List QueuedOrderIntent) : Prop :=
  ∀ family, charged family (orderReleases orders) ≤ books.reserves.bucket family

/-- The books are as if the orders had never been queued, but for orders queued meanwhile. -/
structure OrdersUndone (before after : Books) (orders : List QueuedOrderIntent)
    (queued : List RuntimePendingOrder) : Prop where
  pendingOrders : after.pendingOrders =
    (before.pendingOrders.filter fun order => order.signalId ∉ orderSignalIds orders) ++ queued
  reserves : ∀ family, after.reserves.bucket family =
    before.reserves.bucket family - charged family (orderReleases orders) +
      charged family (queued.map orderCharge)

/-- The orders are still pending with their reserves, but for orders queued meanwhile. -/
structure OrdersKept (before after : Books) (queued : List RuntimePendingOrder) : Prop where
  pendingOrders : after.pendingOrders = before.pendingOrders ++ queued
  reserves : ∀ family, after.reserves.bucket family =
    before.reserves.bucket family + charged family (queued.map orderCharge)

section Rollbacks

variable {σ : Type} [Strategy σ]

def RuntimeDecisionEngine.evaluateAll (engine : RuntimeDecisionEngine σ)
    (requests : List RuntimeDecisionRequest) : RuntimeDecisionEngine σ :=
  requests.foldl (fun engine request => (engine.evaluate request).2) engine

/-- The messages of a rollback with the decisions that the worker makes between them. -/
def rollbackSchedule (answers : StrategyQueueAnswers) (orders : List QueuedOrderIntent)
    (nowMs : ℕ) (between : List RuntimeDecisionRequest) : List EngineMessage :=
  (if answers.feedbackAccepted then [.liveFeedback [] (orderSignalIds orders) nowMs] else []) ++
    between.map .evaluate ++
      if answers.releasesAccepted then [.releaseReservations (orderReleases orders)] else []

/-- A rollback through the queue undoes the orders or keeps them, each with its full reserve. -/
def RollbackRestores (engine : RuntimeDecisionEngine σ) (orders : List QueuedOrderIntent)
    (answers : StrategyQueueAnswers) (nowMs : ℕ) (between : List RuntimeDecisionRequest) : Prop :=
  let rejected :=
    if answers.feedbackAccepted then
      engine.applyLiveSubmissionFeedback [] (orderSignalIds orders) nowMs
    else engine
  let queued := (rejected.evaluateAll between).pendingOrders.drop rejected.pendingOrders.length
  let restored := (rollbackSchedule answers orders nowMs between).foldl receive engine
  ReserveHeld engine.books orders ∧
    (OrdersUndone engine.books restored.books orders queued ∨
      OrdersKept engine.books restored.books queued)

/-- The worker's rollback undoes the orders of an output that it cannot forward. -/
def WorkerRollbackRestores (engine : RuntimeDecisionEngine σ) (request : RuntimeDecisionRequest) :
    Prop :=
  let decision := engine.evaluate request
  let restored := (forwardStrategyOutput false decision.1 decision.2).2
  restored.pendingOrders = engine.pendingOrders ∧
    ∀ family,
      restored.bankroll.activeReservedCapitalByFamily family =
          engine.bankroll.activeReservedCapitalByFamily family ∧
        restored.bankroll.pendingSettlementReservedCapitalByFamily family =
          engine.bankroll.pendingSettlementReservedCapitalByFamily family

/-! ## Rejecting orders -/

variable {engine : RuntimeDecisionEngine σ} {orders : List QueuedOrderIntent}
variable {queued : List RuntimePendingOrder}

omit [Strategy σ] in
/-- Rejecting orders that have ids of their own takes out exactly those. -/
theorem books_rejectOrders (engine : RuntimeDecisionEngine σ)
    (hdistinct : (engine.pendingOrders.map (·.signalId)).Nodup) (rejectedSignalIds : List ℤ) :
    (engine.rejectOrders rejectedSignalIds).books =
      { engine.books with
        pendingOrders := engine.pendingOrders.filter fun order =>
          order.signalId ∉ rejectedSignalIds } := by
  induction rejectedSignalIds generalizing engine with
  | nil => simp [rejectOrders, books]
  | cons signalId rest ih =>
    have hfirst : (engine.removePendingOrder signalId).2.books =
        { engine.books with
          pendingOrders := engine.pendingOrders.filter fun order =>
            order.signalId ≠ signalId } := by
      rcases engine.removePendingOrder_cases signalId with
        ⟨hnone, hmiss⟩ | ⟨before, order, after, hpending, hid, hbefore, hsome⟩
      · have hall : (engine.pendingOrders.filter fun order => order.signalId ≠ signalId) =
            engine.pendingOrders :=
          filter_eq_self.mpr fun order horder => decide_eq_true (hmiss order horder)
        rw [hnone, hall]
        rfl
      · have hafter : ∀ other ∈ after, other.signalId ≠ signalId := by
          rw [hpending, map_append, map_cons] at hdistinct
          have hrest := (nodup_cons.mp (nodup_append.mp hdistinct).2.1).1
          intro other hother hsame
          exact hrest (mem_map.mpr ⟨other, hother, hsame.trans hid.symm⟩)
        have hothers : (engine.pendingOrders.filter fun order => order.signalId ≠ signalId) =
            before ++ after := by
          rw [hpending, filter_append, filter_cons_of_neg (by simp [hid])]
          congr 1
          · exact filter_eq_self.mpr fun other hother => decide_eq_true (hbefore other hother)
          · exact filter_eq_self.mpr fun other hother => decide_eq_true (hafter other hother)
        rw [hsome, hothers]
        rfl
    have hpending : (engine.removePendingOrder signalId).2.pendingOrders =
        engine.pendingOrders.filter fun order => order.signalId ≠ signalId :=
      congrArg Books.pendingOrders hfirst
    have hrest := ih (engine.removePendingOrder signalId).2 (by
      rw [hpending]
      exact List.Nodup.sublist (filter_sublist.map _) hdistinct)
    have hboth : ((engine.pendingOrders.filter fun order => order.signalId ≠ signalId).filter
        fun order => order.signalId ∉ rest) =
          engine.pendingOrders.filter fun order => order.signalId ∉ signalId :: rest := by
      rw [filter_filter]
      apply filter_congr
      intro order _
      simp [Bool.and_comm]
    refine hrest.trans ?_
    rw [hfirst, hpending, hboth]

variable [LawfulStrategy σ]

theorem evaluateAll_queues (engine : RuntimeDecisionEngine σ)
    (hlive : engine.config.executionMode = .liveTrading)
    (hcoherent : engine.books.reserves.Coherent) (requests : List RuntimeDecisionRequest) :
    ∃ queued, Queues engine.books (engine.evaluateAll requests).books queued := by
  induction requests generalizing engine with
  | nil => exact ⟨[], .refl hcoherent⟩
  | cons request rest ih =>
    obtain ⟨queued, hqueues, -, hconfig⟩ := evaluate_queues engine hlive hcoherent request
    obtain ⟨queued', hqueues'⟩ :=
      ih (engine.evaluate request).2 (hconfig ▸ hlive) hqueues.coherent
    exact ⟨queued ++ queued', hqueues.trans hqueues'⟩

/-- What a rollback does to the books, message by message. -/
theorem rollback_books (h : SoundBooks engine.books)
    (hlive : engine.config.executionMode = .liveTrading)
    (hdistinct : (engine.pendingOrders.map (·.signalId)).Nodup)
    (hcosts : ∀ order ∈ orders, 0 ≤ order.reservedCost) (answers : StrategyQueueAnswers)
    (nowMs : ℕ) (between : List RuntimeDecisionRequest) :
    let rejected :=
      if answers.feedbackAccepted then
        engine.applyLiveSubmissionFeedback [] (orderSignalIds orders) nowMs
      else engine
    let queued := (rejected.evaluateAll between).pendingOrders.drop rejected.pendingOrders.length
    let restored := (rollbackSchedule answers orders nowMs between).foldl receive engine
    restored.pendingOrders =
        (if answers.feedbackAccepted then
          engine.pendingOrders.filter fun order => order.signalId ∉ orderSignalIds orders
        else engine.pendingOrders) ++ queued ∧
      ∀ family, 0 ≤ charged family (queued.map orderCharge) ∧
        restored.books.reserves.bucket family =
          if answers.releasesAccepted then
            max (engine.books.reserves.bucket family + charged family (queued.map orderCharge) -
              charged family (orderReleases orders)) 0
          else
            engine.books.reserves.bucket family + charged family (queued.map orderCharge) := by
  intro rejected queued restored
  have hbooks : rejected.books =
      { engine.books with
        pendingOrders :=
          if answers.feedbackAccepted then
            engine.pendingOrders.filter fun order => order.signalId ∉ orderSignalIds orders
          else engine.pendingOrders } := by
    dsimp only [rejected]
    split
    · exact books_rejectOrders engine hdistinct (orderSignalIds orders)
    · rfl
  have hconfig : rejected.config = engine.config := by
    dsimp only [rejected]
    split
    · exact engine.config_liveFeedback [] (orderSignalIds orders) nowMs
    · rfl
  have hreserves : rejected.books.reserves = engine.books.reserves := by rw [hbooks]
  obtain ⟨added, hqueues⟩ := evaluateAll_queues rejected (hconfig ▸ hlive)
    (hreserves ▸ h.coherent) between
  have hadded : queued = added := by
    have hpending := hqueues.pendingOrders
    change (rejected.evaluateAll between).pendingOrders = rejected.pendingOrders ++
      added at hpending
    dsimp only [queued]
    rw [hpending, drop_left]
  have hrestored : restored =
      if answers.releasesAccepted then
        (rejected.evaluateAll between).releaseReservations (orderReleases orders)
      else rejected.evaluateAll between := by
    dsimp only [restored, rejected, evaluateAll, rollbackSchedule]
    cases answers.feedbackAccepted <;> cases answers.releasesAccepted <;>
      simp [foldl_append, foldl_map, receive]
  have hnonneg : ∀ release ∈ orderReleases orders, 0 ≤ release.2 := by
    intro release hrelease
    obtain ⟨order, horder, rfl⟩ := mem_map.mp hrelease
    exact hcosts order horder
  have hbucket : ∀ family, (rejected.evaluateAll between).books.reserves.bucket family =
      engine.books.reserves.bucket family + charged family (added.map orderCharge) := by
    intro family
    rw [hqueues.bucket, hreserves]
  have hpending : restored.pendingOrders = rejected.pendingOrders ++ added := by
    rw [hrestored]
    split
    · exact (congrArg Books.pendingOrders
        (books_releaseReservations _ _)).trans hqueues.pendingOrders
    · exact hqueues.pendingOrders
  constructor
  · rw [hpending, hadded]
    exact congrArg (· ++ added) (congrArg Books.pendingOrders hbooks)
  · intro family
    rw [hadded, hrestored]
    refine ⟨charged_nonneg ?_ family, ?_⟩
    · intro charge hcharge
      obtain ⟨order, horder, rfl⟩ := mem_map.mp hcharge
      exact (hqueues.costs order horder).le
    · split
      · rw [books_releaseReservations, ← hbucket]
        exact Reserves.bucket_releaseAll hqueues.coherent hnonneg family
      · exact hbucket family

/-- What a rollback leaves restores the books if both of its messages were accepted or neither, and
the reserve of the orders was still there. -/
theorem restores_iff {before after : Books} {answers : StrategyQueueAnswers}
    (hafter : after.pendingOrders =
      (if answers.feedbackAccepted then
        before.pendingOrders.filter fun order => order.signalId ∉ orderSignalIds orders
      else before.pendingOrders) ++ queued)
    (hbucket : ∀ family, 0 ≤ charged family (queued.map orderCharge) ∧
      after.reserves.bucket family =
        if answers.releasesAccepted then
          max (before.reserves.bucket family + charged family (queued.map orderCharge) -
            charged family (orderReleases orders)) 0
        else
          before.reserves.bucket family + charged family (queued.map orderCharge))
    (hgone : (before.pendingOrders.filter fun order => order.signalId ∉ orderSignalIds orders) ≠
      before.pendingOrders) {family : StrategyFamily}
    (hcharged : 0 < charged family (orderReleases orders)) :
    (ReserveHeld before orders ∧
        (OrdersUndone before after orders queued ∨ OrdersKept before after queued)) ↔
      answers.feedbackAccepted = answers.releasesAccepted ∧ ReserveHeld before orders := by
  constructor
  · intro ⟨hheld, hrestores⟩
    refine ⟨?_, hheld⟩
    have hfamily := (hbucket family).2
    have hpart := hheld family
    have hqueued := (hbucket family).1
    cases hfeedback : answers.feedbackAccepted <;> cases hreleases : answers.releasesAccepted
    · rfl
    · -- Only the release was accepted: the orders are pending without their reserve.
      rw [hfeedback, if_neg Bool.false_ne_true] at hafter
      rw [hreleases, if_pos rfl, max_eq_left (by linarith)] at hfamily
      rcases hrestores with hundone | hkept
      · have hsame := hundone.pendingOrders.symm.trans hafter
        exact absurd (append_cancel_right hsame) hgone
      · have hsame := hkept.reserves family
        linarith
    · -- Only the rejection was accepted: the orders are gone and their reserve is kept.
      rw [hfeedback, if_pos rfl] at hafter
      rw [hreleases, if_neg Bool.false_ne_true] at hfamily
      rcases hrestores with hundone | hkept
      · have hless := hundone.reserves family
        linarith
      · have hsame := hafter.symm.trans hkept.pendingOrders
        exact absurd (append_cancel_right hsame) hgone
    · rfl
  · intro ⟨hsame, hheld⟩
    refine ⟨hheld, ?_⟩
    cases hfeedback : answers.feedbackAccepted
    · rw [hfeedback] at hsame hafter
      refine .inr ⟨hafter, fun other => ?_⟩
      have hother := (hbucket other).2
      rwa [← hsame, if_neg Bool.false_ne_true] at hother
    · rw [hfeedback] at hsame hafter
      refine .inl ⟨hafter, fun other => ?_⟩
      have hother := (hbucket other).2
      have hqueued := (hbucket other).1
      have hpart := hheld other
      rw [← hsame, if_pos rfl, max_eq_left (by linarith)] at hother
      rw [hother]
      ring

/-- The loop's rollback restores the books if both of its messages are accepted or neither, and the
reserve of the orders is still there. -/
theorem loop_rollback_restores_iff (h : SoundBooks engine.books)
    (hlive : engine.config.executionMode = .liveTrading)
    (hdistinct : (engine.pendingOrders.map (·.signalId)).Nodup)
    (hpending : List.Subperm orders (engine.pendingOrders.map queuedOrderIntent))
    (hsome : orders ≠ []) (answers : StrategyQueueAnswers) (nowMs : ℕ)
    (between : List RuntimeDecisionRequest) :
    RollbackRestores engine orders answers nowMs between ↔
      answers.feedbackAccepted = answers.releasesAccepted ∧ ReserveHeld engine.books orders := by
  have hsource : ∀ order ∈ orders, ∃ pending ∈ engine.pendingOrders,
      queuedOrderIntent pending = order := by
    intro order horder
    exact mem_map.mp (hpending.subset horder)
  have hcosts : ∀ order ∈ orders, 0 < order.reservedCost := by
    intro order horder
    obtain ⟨pending, hmem, rfl⟩ := hsource order horder
    exact h.orderCosts pending hmem
  obtain ⟨first, hfirst⟩ := exists_mem_of_ne_nil _ hsome
  have hnonneg : ∀ release ∈ orderReleases orders, 0 ≤ release.2 := by
    intro release hrelease
    obtain ⟨order, horder, rfl⟩ := mem_map.mp hrelease
    exact (hcosts order horder).le
  have hrelease : (first.strategy, first.reservedCost) ∈ orderReleases orders :=
    mem_map.mpr ⟨first, hfirst, rfl⟩
  have hleast := le_charged hnonneg hrelease
  have hcharged : 0 < charged (familyForStrategy first.strategy) (orderReleases orders) :=
    (hcosts first hfirst).trans_le hleast
  have hgone : (engine.pendingOrders.filter fun order =>
      order.signalId ∉ orderSignalIds orders) ≠ engine.pendingOrders := by
    intro hsame
    obtain ⟨pending, hmem, rfl⟩ := hsource first hfirst
    have hkept := filter_eq_self.mp hsame pending hmem
    simp only [decide_eq_true_eq] at hkept
    exact hkept (mem_map.mpr ⟨_, hfirst, rfl⟩)
  obtain ⟨hafter, hbucket⟩ := rollback_books h hlive hdistinct
    (fun order horder => (hcosts order horder).le) answers nowMs between
  exact restores_iff hafter hbucket hgone hcharged

omit [Strategy σ] [LawfulStrategy σ] in
/-- Rejecting and releasing what was queued restores the books. -/
theorem undo_queues {decided : RuntimeDecisionEngine σ} (hcoherent : engine.books.reserves.Coherent)
    (hqueues : Queues engine.books decided.books queued)
    (hdistinct : (decided.pendingOrders.map (·.signalId)).Nodup) (nowMs : ℕ) :
    let restored := (decided.applyLiveSubmissionFeedback [] (queued.map (·.signalId))
      nowMs).releaseReservations (queued.map orderCharge)
    restored.pendingOrders = engine.pendingOrders ∧
      ∀ family,
        restored.bankroll.activeReservedCapitalByFamily family =
            engine.bankroll.activeReservedCapitalByFamily family ∧
          restored.bankroll.pendingSettlementReservedCapitalByFamily family =
            engine.bankroll.pendingSettlementReservedCapitalByFamily family := by
  have hpending : decided.pendingOrders = engine.pendingOrders ++ queued := hqueues.pendingOrders
  have hremaining : (decided.pendingOrders.filter fun order =>
      order.signalId ∉ queued.map (·.signalId)) = engine.pendingOrders := by
    rw [hpending] at hdistinct ⊢
    rw [map_append] at hdistinct
    have hapart := (nodup_append.mp hdistinct).2.2
    have hold : (engine.pendingOrders.filter fun order =>
        order.signalId ∉ queued.map (·.signalId)) = engine.pendingOrders := by
      refine filter_eq_self.mpr fun order horder => decide_eq_true fun hmem => ?_
      exact hapart _ (mem_map.mpr ⟨order, horder, rfl⟩) _ hmem rfl
    have hnew : (queued.filter fun order => order.signalId ∉ queued.map (·.signalId)) = [] := by
      refine filter_eq_nil_iff.mpr fun order horder => ?_
      simpa using ⟨order, horder, rfl⟩
    rw [filter_append, hold, hnew, append_nil]
  have hrejected : (decided.applyLiveSubmissionFeedback [] (queued.map (·.signalId)) nowMs).books =
      { decided.books with pendingOrders := engine.pendingOrders } := by
    have hbooks := books_rejectOrders decided hdistinct (queued.map (·.signalId))
    rw [hremaining] at hbooks
    exact hbooks
  have hrestored := books_releaseReservations
    (decided.applyLiveSubmissionFeedback [] (queued.map (·.signalId)) nowMs)
    (queued.map orderCharge)
  rw [hrejected] at hrestored
  refine ⟨congrArg Books.pendingOrders hrestored, fun family => ?_⟩
  have hreserves := congrArg Books.reserves hrestored
  have hsplit := Reserves.split_releaseAll hqueues.coherent (queued.map orderCharge)
    (by
      intro charge hcharge
      obtain ⟨order, horder, rfl⟩ := mem_map.mp hcharge
      exact (hqueues.costs order horder).le)
    (by
      intro other
      rw [hqueues.active]
      have hactive := hcoherent.active_nonneg other
      linarith) family
  rw [hqueues.active, hqueues.settling, add_sub_cancel_right] at hsplit
  exact ⟨(congrArg (fun reserves => reserves.activeReservedCapitalByFamily family)
      hreserves).trans hsplit.1,
    (congrArg (fun reserves => reserves.pendingSettlementReservedCapitalByFamily family)
      hreserves).trans hsplit.2⟩

/-- The worker's rollback undoes every order of the decision. -/
theorem worker_rollback_restores (h : SoundBooks engine.books)
    (hlive : engine.config.executionMode = .liveTrading) (request : RuntimeDecisionRequest)
    (hrange : i64Min < (engine.evaluate request).2.nextSignalId) :
    WorkerRollbackRestores engine request := by
  obtain ⟨queued, hqueues, horders, -⟩ := evaluate_queues engine hlive h.coherent request
  have hundone := undo_queues h.coherent hqueues (((h.queues hqueues).fresh hrange).1)
    (engine.evaluate request).1.nowMs
  unfold WorkerRollbackRestores forwardStrategyOutput rollbackLiveOrdersAfterWorkerOutputDrop
  dsimp only
  have hids : orderSignalIds (queued.map queuedOrderIntent) = queued.map (·.signalId) := by
    simp [orderSignalIds, queuedOrderIntent]
  have hreleases : orderReleases (queued.map queuedOrderIntent) = queued.map orderCharge := by
    simp [orderReleases, queuedOrderIntent, orderCharge]
  rw [if_neg Bool.false_ne_true, horders, hids, hreleases]
  split
  · rename_i hnone
    have hqueued : queued = [] := by simpa using hnone
    rw [hqueued] at hundone
    exact hundone
  · exact hundone

/-- Where rollbacks happen: at the worker, with a decision that it cannot forward, or at the loop,
with orders of an output that are still pending. -/
inductive Rollback where
  | worker (request : RuntimeDecisionRequest)
  | loop (orders : List QueuedOrderIntent) (answers : StrategyQueueAnswers) (nowMs : ℕ)
      (between : List RuntimeDecisionRequest)

/-- A rollback that can happen in a state: signal ids are left, and the orders of the loop are
pending. -/
def Rollback.Possible (engine : RuntimeDecisionEngine σ) : Rollback → Prop
  | .worker request => i64Min < (engine.evaluate request).2.nextSignalId
  | .loop orders _ _ _ => i64Min < engine.nextSignalId ∧ orders ≠ [] ∧
      List.Subperm orders (engine.pendingOrders.map queuedOrderIntent)

/-- What a rollback should do, at the worker and at the loop. -/
def Rollback.Restores (engine : RuntimeDecisionEngine σ) : Rollback → Prop
  | .worker request => WorkerRollbackRestores engine request
  | .loop orders answers nowMs between => RollbackRestores engine orders answers nowMs between

/-- When it does so: at the loop both messages or neither are accepted, and the reserve of the
orders is still there. -/
def Rollback.Whole (engine : RuntimeDecisionEngine σ) : Rollback → Prop
  | .worker _ => True
  | .loop orders answers _ _ =>
    answers.feedbackAccepted = answers.releasesAccepted ∧ ReserveHeld engine.books orders

omit [LawfulStrategy σ] in
variable (σ) in
/-- Every rollback in every state of live trading restores the strategy state. -/
def RollbacksRestore : Prop :=
  ∀ (config : Config) (strategies : List σ) (seed : RuntimeDecisionSeed)
    (engine : RuntimeDecisionEngine σ), LiveReachable config strategies seed engine →
      ∀ rollback : Rollback, rollback.Possible engine → rollback.Restores engine

/-- A rollback in a state of live trading restores the strategy state if and only if it is whole.
Amounts are exact rationals here: a double that is reserved and released can differ in its last
bits. -/
theorem rollback_restores_iff (config : Config) (strategies : List σ) (seed : RuntimeDecisionSeed)
    (engine : RuntimeDecisionEngine σ) (hreachable : LiveReachable config strategies seed engine)
    (rollback : Rollback) (hpossible : rollback.Possible engine) :
    rollback.Restores engine ↔ rollback.Whole engine := by
  obtain ⟨hsound, hlive⟩ := hreachable.sound
  cases rollback with
  | worker request =>
    exact iff_of_true (worker_rollback_restores hsound hlive request hpossible) trivial
  | loop orders answers nowMs between =>
    obtain ⟨hrange, hsome, hpending⟩ := hpossible
    have hdistinct := (hsound.fresh hrange).1
    exact loop_rollback_restores_iff hsound hlive hdistinct hpending hsome answers nowMs between

end Rollbacks

def sampleQueued : RuntimeDecisionEngine SampleStrategy :=
  ((new sampleConfig [SampleStrategy.mk .up] sampleSeed).evaluate
    (sampleDecision (sampleWindow "market" 10000) 1000)).2

def sampleRefused : List QueuedOrderIntent :=
  sampleQueued.pendingOrders.map queuedOrderIntent

theorem sampleQueued_reachable :
    LiveReachable sampleConfig [SampleStrategy.mk .up] sampleSeed sampleQueued := by
  have hsane : SaneMessage (.evaluate (sampleDecision (sampleWindow "market" 10000) 1000)) :=
    trivial
  exact ⟨rfl, ⟨by simp [sampleSeed], by simp [sampleSeed]⟩, .step _ .start rfl hsane⟩

theorem sampleRefused_possible (answers : StrategyQueueAnswers) :
    (Rollback.loop sampleRefused answers 1000 []).Possible sampleQueued :=
  ⟨by decide +kernel, by decide +kernel, List.Subperm.refl _⟩

/-- If only the rejection reaches the worker, the order is gone and its reserve is kept. -/
theorem half_rollback_leaks : ¬ RollbacksRestore SampleStrategy := by
  intro h
  have hrestores := h _ _ _ _ sampleQueued_reachable
    (.loop sampleRefused { feedbackAccepted := true, releasesAccepted := false } 1000 [])
    (sampleRefused_possible _)
  obtain ⟨-, hundone | hkept⟩ := hrestores
  · have hbucket := hundone.reserves .latencyArb
    revert hbucket
    decide +kernel
  · have hpending := hkept.pendingOrders
    revert hpending
    decide +kernel

/-- If both messages reach the worker, the order is undone. -/
theorem rollback_restores_sample :
    RollbackRestores sampleQueued sampleRefused
      { feedbackAccepted := true, releasesAccepted := true } 1000 [] := by
  refine (rollback_restores_iff sampleConfig _ sampleSeed sampleQueued sampleQueued_reachable
    (.loop sampleRefused { feedbackAccepted := true, releasesAccepted := true } 1000 [])
    (sampleRefused_possible _)).mpr ⟨rfl, ?_⟩
  intro family
  cases family <;> decide +kernel

end BubaPaint
