import BubaPaint.Decision.Messages

/-!
# The ledger of the decision engine

Every pending order charges its reserved cost, every open trade its cost, and every answered order
whose release is still under way what it had reserved. The buckets of a family hold exactly that.

Main results:

- Theorem `Ledger.receive`: a message keeps the ledger.
- Theorem `live_feedback_balances`: feedback balances if no fill costs more than was reserved.
-/

namespace BubaPaint

open Effects List RuntimeDecisionEngine

def orderCharge (order : RuntimePendingOrder) : Charge :=
  (order.strategy, order.reservedCost)

def tradeCharge (trade : SimulatedTrade) : Charge :=
  (trade.strategy, trade.entryPrice * trade.size)

def Books.charges (books : Books) : List Charge :=
  books.pendingOrders.map orderCharge ++ books.openTrades.map fun entry => tradeCharge entry.trade

/-- The reserves hold what orders, trades and releases under way charge. -/
structure Ledger (books : Books) (unreleased : List Charge) : Prop where
  balanced : Balanced books.reserves (books.charges ++ unreleased)
  identified : ∀ entry ∈ books.openTrades, entry.trade.id.isSome
  priced : ∀ order ∈ books.pendingOrders,
    order.reservedCost = order.requestedSize * order.limitPrice

namespace Ledger

variable {books books' : Books} {unreleased : List Charge}

theorem charges_perm {before after : List RuntimePendingOrder} {order : RuntimePendingOrder}
    (hpending : books.pendingOrders = before ++ order :: after) (unreleased : List Charge) :
    (books.charges ++ unreleased).Perm (orderCharge order ::
      ({ books with pendingOrders := before ++ after }.charges ++ unreleased)) := by
  unfold Books.charges
  simp only [hpending, map_append, map_cons, append_assoc, cons_append]
  exact perm_middle

theorem releaseUnspent_balanced {reserves : Reserves} {order : RuntimePendingOrder}
    {charges : List Charge} {fillCost : ℚ} (h : Balanced reserves (orderCharge order :: charges))
    (hcost : 0 ≤ fillCost) (hle : fillCost ≤ order.reservedCost) :
    Balanced (reserves.releaseUnspent order fillCost) ((order.strategy, fillCost) :: charges) := by
  unfold Reserves.releaseUnspent
  split
  · exact h.lower hcost hle
  · rename_i hexact
    have hsame : order.reservedCost = fillCost := le_antisymm (not_lt.mp hexact) hle
    rw [← hsame]
    exact h

section Orders

variable {before after : List RuntimePendingOrder} {order : RuntimePendingOrder}

section Due

variable (h : Ledger books unreleased) (hpending : books.pendingOrders = before ++ order :: after)

include h hpending

theorem miss :
    Ledger
      { books with
        pendingOrders := before ++ after
        reserves := books.reserves.releaseFromFamilyBuckets order.reservedCost
          (familyForStrategy order.strategy) } unreleased where
  balanced := (h.balanced.perm (charges_perm hpending unreleased)).release
  identified := h.identified
  priced other hother := h.priced other (hpending ▸ mem_of_mem_rest hother)

theorem reject :
    Ledger { books with pendingOrders := before ++ after } (orderCharge order :: unreleased) where
  balanced := (h.balanced.perm (charges_perm hpending unreleased)).perm perm_middle.symm
  identified := h.identified
  priced other hother := h.priced other (hpending ▸ mem_of_mem_rest hother)

theorem fill {entry : OpenRuntimeTrade} {fillCost : ℚ} (nextTradeId : ℤ)
    (hcharge : tradeCharge entry.trade = (order.strategy, fillCost)) (hid : entry.trade.id.isSome)
    (hcost : 0 ≤ fillCost) (hle : fillCost ≤ order.reservedCost) :
    Ledger
      { books with
        pendingOrders := before ++ after
        openTrades := books.openTrades ++ [entry]
        reserves := books.reserves.releaseUnspent order fillCost
        nextTradeId := nextTradeId } unreleased where
  balanced := by
    apply (releaseUnspent_balanced (h.balanced.perm (charges_perm hpending unreleased)) hcost
      hle).perm
    unfold Books.charges
    simp only [map_append, map_cons, map_nil, hcharge, append_assoc,
      singleton_append]
    rw [← append_assoc, ← append_assoc, ← append_assoc, ← append_assoc]
    exact perm_middle.symm
  identified other hother := by
    rcases mem_append.mp hother with hold | hnew
    · exact h.identified other hold
    · rwa [mem_singleton.mp hnew]
  priced other hother := h.priced other (hpending ▸ mem_of_mem_rest hother)

end Due

end Orders

/-! ## Decision passes -/

variable {request : RuntimeDecisionRequest} {mode : ExecutionMode}
variable {events : List LivePersistenceEvent} {family : StrategyFamily}
variable {orders : List RuntimePendingOrder}

theorem dueStep (h : Ledger books unreleased) (hstep : DueStep request mode books events books') :
    Ledger books' unreleased := by
  cases hstep with
  | missed before after order event hpending => exact h.miss hpending
  | filled before after order event price size trade hpending _ _ _ hprice hsize htrade =>
    have hpriced := h.priced order (by rw [hpending]; simp)
    have hle : size * price ≤ order.reservedCost := by
      rw [hpriced]
      exact mul_le_mul hsize.2 hprice.2 hprice.1.le (hsize.1.le.trans hsize.2)
    apply h.fill hpending _ _ _ (mul_nonneg hsize.1.le hprice.1.le) hle
    · rw [htrade]
      simp [tradeCharge, buildTrade, mul_comm]
    · rw [htrade]
      rfl

theorem dueRun (h : Ledger books unreleased) (hrun : DueRun request mode books events books') :
    Ledger books' unreleased := by
  induction hrun with
  | nil => exact h
  | cons hstep _ ih => exact ih (h.dueStep hstep)

theorem charged_orders (hlabel : ∀ order ∈ orders, FamilyLabel family order.strategy)
    (other : StrategyFamily) :
    charged other (orders.map orderCharge) =
      if other = family then (orders.map (·.reservedCost)).sum else 0 := by
  induction orders with
  | nil => simp
  | cons order rest ih =>
    have hfirst : familyForStrategy order.strategy = family := hlabel order mem_cons_self
    have hrest := ih fun other hother => hlabel other (mem_cons_of_mem _ hother)
    rw [map_cons, charged_cons, hrest, map_cons, sum_cons]
    simp only [orderCharge, hfirst]
    split <;> simp

theorem balanced_addOrders {reserves : Reserves} {charges : List Charge}
    (h : Balanced reserves charges) (hlabel : ∀ order ∈ orders, FamilyLabel family order.strategy)
    (hcost : ∀ order ∈ orders, 0 ≤ order.reservedCost) :
    Balanced (reserves.addReserved family (orders.map (·.reservedCost)).sum)
      (orders.map orderCharge ++ charges) where
  coherent := h.coherent.addReserved family (sum_nonneg (by simpa using hcost))
  nonneg := by
    intro charge hcharge
    rcases mem_append.mp hcharge with hnew | hold
    · obtain ⟨order, horder, rfl⟩ := mem_map.mp hnew
      exact hcost order horder
    · exact h.nonneg charge hold
  bucket other := by
    rw [Reserves.bucket_addReserved, h.bucket, charged_append, charged_orders hlabel, add_comm]

theorem queueStep (h : Ledger books unreleased) {signalIds : List ℤ}
    (hstep : QueueStep FamilyLabel request signalIds books events orders books') :
    Ledger books' unreleased := by
  cases hstep with
  | passed => exact h
  | probed family strategy amount _ _ hlabel hamount hbooks =>
    rw [hbooks]
    exact ⟨h.balanced.probe hamount.le hlabel, h.identified, h.priced⟩
  | queued family _ _ _ hids hqueueable _ hbooks =>
    have hcost : ∀ order ∈ orders, 0 ≤ order.reservedCost := by
      intro order horder
      have hqueued := hqueueable order horder
      rw [hqueued.cost]
      exact (mul_pos hqueued.size hqueued.limit).le
    rw [hbooks]
    constructor
    · apply (balanced_addOrders h.balanced (fun order horder =>
        (hqueueable order horder).labelled) hcost).perm
      unfold Books.charges
      simp only [map_append, append_assoc]
      rw [← append_assoc, ← append_assoc (books.pendingOrders.map orderCharge)]
      exact perm_append_comm.append_right _
    · exact h.identified
    · intro order horder
      rcases mem_append.mp horder with hold | hnew
      · exact h.priced order hold
      · exact (hqueueable order hnew).cost

/-- Drawing signal ids is no matter of the ledger. -/
theorem advance (h : Ledger books unreleased) (count : ℕ) :
    Ledger (books.advance count) unreleased :=
  ⟨h.balanced, h.identified, h.priced⟩

theorem candidateRun (h : Ledger books unreleased)
    (hrun : CandidateRun FamilyLabel request books events orders books') :
    Ledger books' unreleased := by
  induction hrun with
  | nil => exact h
  | cons hstep _ ih =>
    obtain ⟨count, hqueue⟩ := hstep
    exact ih ((h.advance count).queueStep hqueue)

variable {σ : Type} {engine : RuntimeDecisionEngine σ}

/-- A decision pass keeps the ledger. -/
theorem evaluate [Strategy σ] [LawfulStrategy σ] (h : Ledger engine.books unreleased)
    (request : RuntimeDecisionRequest) : Ledger (engine.evaluate request).2.books unreleased := by
  obtain ⟨dueEvents, events, orders, books, hdecides⟩ :=
    engine.evaluate_run strategiesLabelled_familyLabel request
  have hdue : Ledger books unreleased := by
    have hphase := hdecides.due
    unfold RuntimeDecisionEngine.DuePhase at hphase
    split at hphase
    · rw [hphase.2]
      exact h
    · exact h.dueRun hphase
  exact hdue.candidateRun hdecides.candidates

theorem perm (h : Ledger books unreleased) {unreleased' : List Charge}
    (hperm : unreleased.Perm unreleased') : Ledger books unreleased' :=
  ⟨h.balanced.perm (hperm.append_left _), h.identified, h.priced⟩

end Ledger

/-- A fill of a pending order has a size and a price and costs no more than was reserved. -/
def FillCovered (orders : List RuntimePendingOrder) (fill : LiveOrderFillFeedback) : Prop :=
  ∀ order ∈ orders, order.signalId = fill.signalId →
    0 < fill.filledSize ∧ 0 < fill.fillPrice ∧
      fill.filledSize * fill.fillPrice ≤ order.reservedCost

instance (orders : List RuntimePendingOrder) (fill : LiveOrderFillFeedback) :
    Decidable (FillCovered orders fill) :=
  inferInstanceAs (Decidable (∀ order ∈ orders, order.signalId = fill.signalId → _))

namespace Ledger

variable {unreleased : List Charge} {σ : Type} {engine : RuntimeDecisionEngine σ}

section Handlers

variable (h : Ledger engine.books unreleased)

include h

theorem rejectOrders (rejectedSignalIds : List ℤ) :
    Ledger (engine.rejectOrders rejectedSignalIds).books
      ((engine.rejectedOrders rejectedSignalIds).map orderCharge ++ unreleased) := by
  induction rejectedSignalIds generalizing engine unreleased with
  | nil => exact h
  | cons signalId rest ih =>
    unfold rejectedOrders
    rcases engine.removePendingOrder_cases signalId with
      ⟨hnone, -⟩ | ⟨before, order, after, hpending, -, -, hsome⟩
    · have hrest := ih h
      unfold rejectOrders
      rw [foldl_cons, hnone]
      exact hrest
    · have hrejected : Ledger { engine with pendingOrders := before ++ after }.books
          (orderCharge order :: unreleased) := h.reject hpending
      have hrest := ih hrejected
      unfold rejectOrders
      rw [foldl_cons, hsome]
      exact hrest.perm perm_middle

theorem applyLiveFill (nowMs : ℕ) {fill : LiveOrderFillFeedback}
    (hcovered : FillCovered engine.pendingOrders fill) :
    Ledger (engine.applyLiveFill nowMs fill).books unreleased := by
  rcases engine.applyLiveFill_cases nowMs fill with
    ⟨hsame, -⟩ | ⟨before, order, after, hpending, hid, -, -, ⟨hempty, -⟩ | ⟨hsize, hprice, hbooks⟩⟩
  · rw [hsame]
    exact h
  · obtain ⟨hsize, hprice, -⟩ := hcovered order (by simp [hpending]) hid
    rcases hempty with hnone | hnone
    · exact absurd hsize (not_lt.mpr hnone)
    · exact absurd hprice (not_lt.mpr hnone)
  · obtain ⟨-, -, hcost⟩ := hcovered order (by simp [hpending]) hid
    rw [hbooks]
    exact h.fill hpending _ (by simp [tradeCharge, buildTrade, mul_comm]) rfl
      (mul_pos hsize hprice).le hcost

/-- Feedback whose fills are covered keeps the ledger. -/
theorem liveFeedback {fills : List LiveOrderFillFeedback} (rejectedSignalIds : List ℤ) (nowMs : ℕ)
    (hcovered : ∀ fill ∈ fills, FillCovered engine.pendingOrders fill) :
    Ledger (engine.applyLiveSubmissionFeedback fills rejectedSignalIds nowMs).books
      ((engine.rejectedOrders rejectedSignalIds).map orderCharge ++ unreleased) := by
  rw [applyLiveSubmissionFeedback_eq]
  have hrejected := h.rejectOrders rejectedSignalIds
  have hpending := engine.pendingOrders_rejectOrders_subset rejectedSignalIds
  generalize engine.rejectOrders rejectedSignalIds = rejected at hrejected hpending ⊢
  induction fills generalizing rejected with
  | nil => exact hrejected
  | cons fill rest ih =>
    have hfirst : FillCovered rejected.pendingOrders fill := fun order horder =>
      hcovered fill mem_cons_self order (hpending horder)
    exact ih (fun other hother => hcovered other (mem_cons_of_mem _ hother)) _
      (hrejected.applyLiveFill nowMs hfirst)
      (List.Subset.trans (rejected.pendingOrders_applyLiveFill_subset nowMs fill) hpending)

theorem releaseReservations {releases : List Charge} (hdue : List.Subperm releases unreleased) :
    Ledger (engine.releaseReservations releases).books (unreleased.diff releases) := by
  have hperm : (releases ++ unreleased.diff releases).Perm unreleased :=
    subperm_append_diff_self_of_count_le (subperm_ext_iff.mp hdue)
  have hbalanced := (h.perm hperm.symm).balanced
  rw [books_releaseReservations]
  exact ⟨hbalanced.releases, h.identified, h.priced⟩

/-- Closing a window moves the reserves of its trades within their families. -/
theorem windowClosed (window : MarketWindow) (nowMs : ℕ) :
    Ledger (engine.windowClosed window nowMs).2.books unreleased := by
  rw [books_windowClosed]
  have hcharges : (closeMarket window.marketId engine.books.openTrades).map
      (fun entry => tradeCharge entry.trade) =
        engine.books.openTrades.map fun entry => tradeCharge entry.trade := by
    unfold closeMarket
    rw [map_map]
    apply map_congr_left
    intro entry _
    dsimp only [Function.comp]
    split <;> rfl
  have hcosts : ∀ trade ∈ (engine.exposure.markPendingForMarket window.marketId).1,
      0 ≤ trade.entryPrice * trade.size := by
    intro trade htrade
    obtain ⟨entry, hentry, rfl⟩ := mem_map.mp htrade
    have hopen := (mem_filter.mp hentry).1
    exact h.balanced.nonneg (tradeCharge entry.trade) (by
      apply mem_append_left
      apply mem_append_right
      exact mem_map.mpr ⟨entry, hopen, rfl⟩)
  refine ⟨?_, ?_, h.priced⟩
  · have hbalanced := h.balanced
    unfold Books.charges at hbalanced ⊢
    rw [hcharges]
    generalize engine.books.reserves = reserves at hbalanced ⊢
    generalize (engine.exposure.markPendingForMarket window.marketId).1 = trades at hcosts ⊢
    induction trades generalizing reserves with
    | nil => exact hbalanced
    | cons trade rest ih =>
      exact ih _ (hbalanced.transition (hcosts trade mem_cons_self))
        (fun other hother => hcosts other (mem_cons_of_mem _ hother))
  · intro entry hentry
    obtain ⟨before, hbefore, rfl⟩ := mem_map.mp hentry
    have hid := h.identified before hbefore
    split <;> exact hid

end Handlers

theorem foldl_settle {trades : List SimulatedTrade} (hids : ∀ trade ∈ trades, trade.id.isSome)
    (reserves : Reserves) :
    trades.foldl Reserves.settle reserves =
      (trades.map tradeCharge).foldl
        (fun reserves release =>
          reserves.releaseFromFamilyBuckets release.2 (familyForStrategy release.1)) reserves := by
  induction trades generalizing reserves with
  | nil => rfl
  | cons trade rest ih =>
    have hfirst : reserves.settle trade =
        reserves.releaseFromFamilyBuckets (trade.entryPrice * trade.size)
          (familyForStrategy trade.strategy) :=
      if_pos (hids trade mem_cons_self)
    rw [foldl_cons, hfirst, map_cons, foldl_cons]
    exact ih (fun other hother => hids other (mem_cons_of_mem _ hother)) _

/-- A resolution releases what the trades of its market charge. -/
theorem authoritativeResolution (h : Ledger engine.books unreleased) (window : MarketWindow)
    (outcome : SignalDirection) (nowMs : ℕ) :
    Ledger (engine.authoritativeResolution window outcome nowMs).2.books unreleased := by
  obtain ⟨hbooks, -, -, -⟩ := engine.books_authoritativeResolution window outcome nowMs
  have hids : ∀ trade ∈ (engine.exposure.removeMarket window.marketId).1, trade.id.isSome := by
    intro trade htrade
    obtain ⟨entry, hentry, rfl⟩ := mem_map.mp htrade
    exact h.identified entry (mem_filter.mp hentry).1
  rw [hbooks, foldl_settle hids]
  refine ⟨?_, ?_, h.priced⟩
  · have hsplit := filter_append_perm
      (fun entry => entry.trade.marketId == window.marketId) engine.books.openTrades
    have hcharges := hsplit.symm.map fun entry => tradeCharge entry.trade
    have hremoved : (engine.exposure.removeMarket window.marketId).1.map tradeCharge =
        (engine.books.openTrades.filter fun entry =>
          entry.trade.marketId == window.marketId).map fun entry => tradeCharge entry.trade :=
      map_map
    rw [map_append, ← hremoved] at hcharges
    have hbalanced := h.balanced
    unfold Books.charges at hbalanced ⊢
    rw [append_assoc] at hbalanced ⊢
    apply Balanced.releases
    apply hbalanced.perm
    apply List.Perm.append_left
    rw [← append_assoc]
    exact hcharges.append_right _
  · intro entry hentry
    exact h.identified entry (mem_filter.mp hentry).1

end Ledger

def OpenTradeSnapshot.exposure? (snapshot : OpenTradeSnapshot) : Option UnresolvedTradeExposure :=
  snapshot.trade.id.map fun tradeId =>
    { tradeId := tradeId
      marketId := snapshot.trade.marketId
      strategy := snapshot.trade.strategy
      entryPrice := snapshot.trade.entryPrice
      size := snapshot.trade.size
      marketEndTime := snapshot.marketEndTime }

/-- The exposures of a seed are those of its open trades, and none has a negative cost. -/
structure RuntimeDecisionSeed.Agrees (seed : RuntimeDecisionSeed) : Prop where
  same : (seed.openTrades.map (·.exposure?)).Perm (seed.unresolvedExposures.map some)
  cost : ∀ exposure ∈ seed.unresolvedExposures, 0 ≤ exposure.entryPrice * exposure.size

namespace Ledger

def exposureCharge (exposure : UnresolvedTradeExposure) : Charge :=
  (exposure.strategy, exposure.entryPrice * exposure.size)

variable {exposures : List UnresolvedTradeExposure}

theorem balanced_hydrate (hcost : ∀ exposure ∈ exposures, 0 ≤ exposure.entryPrice * exposure.size)
    {bankroll : BankrollManager} {charges : List Charge} (nowMs : ℕ)
    (h : Balanced bankroll.toReserves charges) :
    Balanced (bankroll.hydrateUnresolvedExposureRows exposures nowMs).toReserves
      (exposures.map exposureCharge ++ charges) := by
  induction exposures generalizing bankroll charges with
  | nil => exact h
  | cons exposure rest ih =>
    have hfirst := hcost exposure mem_cons_self
    have hstep : Balanced (bankroll.hydrateTradeReserve exposure nowMs).toReserves
        (exposureCharge exposure :: charges) := by
      unfold BankrollManager.hydrateTradeReserve
      split
      · exact h.addPending hfirst rfl
      · exact h.addReserved hfirst rfl
    have hrest := ih (fun other hother => hcost other (mem_cons_of_mem _ hother)) hstep
    exact hrest.perm perm_middle

theorem charges_of_agrees {openTrades : List OpenTradeSnapshot}
    (hsame : (openTrades.map (·.exposure?)).Perm (exposures.map some)) :
    (∀ snapshot ∈ openTrades, snapshot.trade.id.isSome) ∧
      (exposures.map exposureCharge).Perm
        (openTrades.map fun snapshot => tradeCharge snapshot.trade) := by
  have hids : ∀ snapshot ∈ openTrades, snapshot.trade.id.isSome := by
    intro snapshot hsnapshot
    have hmem := hsame.mem_iff.mp (mem_map.mpr ⟨snapshot, hsnapshot, rfl⟩)
    obtain ⟨exposure, -, hexposure⟩ := mem_map.mp hmem
    have hsome : snapshot.exposure?.isSome := by simp [← hexposure]
    simpa [OpenTradeSnapshot.exposure?] using hsome
  refine ⟨hids, ?_⟩
  have hcharges := (hsame.map fun exposure => exposure.map exposureCharge).filterMap id
  rw [map_map, map_map, filterMap_map, filterMap_map] at hcharges
  have hleft : openTrades.filterMap
      (id ∘ (fun exposure => Option.map exposureCharge exposure) ∘ (·.exposure?)) =
        openTrades.map fun snapshot => tradeCharge snapshot.trade := by
    rw [← filterMap_eq_map]
    apply filterMap_congr
    intro snapshot hsnapshot
    obtain ⟨tradeId, hid⟩ := Option.isSome_iff_exists.mp (hids snapshot hsnapshot)
    simp [OpenTradeSnapshot.exposure?, hid, exposureCharge, tradeCharge]
  have hright : exposures.filterMap
      (id ∘ (fun exposure => Option.map exposureCharge exposure) ∘ some) =
        exposures.map exposureCharge := by
    rw [← filterMap_eq_map]
    rfl
  rw [hleft, hright] at hcharges
  exact hcharges.symm

theorem new {σ : Type} (config : Config) (strategies : List σ) {seed : RuntimeDecisionSeed}
    (hseed : seed.Agrees) : Ledger (new config strategies seed).books [] := by
  obtain ⟨hids, hcharges⟩ := charges_of_agrees hseed.same
  have hbalanced := balanced_hydrate hseed.cost seed.nowMs
    (show Balanced (BankrollManager.newInMemory seed.startingBalance seed.currentBalance
      config).toReserves [] from balanced_empty)
  refine ⟨?_, ?_, ?_⟩
  · rw [append_nil] at hbalanced ⊢
    apply hbalanced.perm
    simpa [Books.charges, RuntimeDecisionEngine.books, RuntimeDecisionEngine.new,
      InMemoryExposureState.fromSnapshots, map_map, Function.comp_def] using hcharges
  · intro entry hentry
    obtain ⟨snapshot, hsnapshot, rfl⟩ := mem_map.mp hentry
    exact hids snapshot hsnapshot
  · intro order horder
    cases horder

end Ledger

/-! ## Runs of live trading -/

section Runs

variable {σ : Type} [Strategy σ]

/-- The releases under way after a message: rejected orders add theirs. -/
def recordUnreleased (unreleased : List Charge) (engine : RuntimeDecisionEngine σ) :
    EngineMessage → List Charge
  | .liveFeedback _ rejectedSignalIds _ =>
    (engine.rejectedOrders rejectedSignalIds).map orderCharge ++ unreleased
  | .releaseReservations releases => unreleased.diff releases
  | _ => unreleased

/-- The runs of an engine with the releases that are under way. -/
def ledgerSystem : System (RuntimeDecisionEngine σ) EngineMessage (List Charge) :=
  system recordUnreleased

/-- What the venue may answer: a positive price and no more than the requested size. What is
released belongs to rejected orders. -/
def VenueAnswers (unreleased : List Charge) (engine : RuntimeDecisionEngine σ)
    (message : EngineMessage) : Prop :=
  match message with
  | .liveFeedback fills _ _ => ∀ fill ∈ fills, 0 < fill.fillPrice ∧
      ∀ order ∈ engine.pendingOrders, order.signalId = fill.signalId →
        fill.filledSize ≤ order.requestedSize
  | .releaseReservations releases => List.Subperm releases unreleased
  | _ => True

/-- Every fill has a size and costs no more than its order has reserved. -/
def FillsCovered (engine : RuntimeDecisionEngine σ) (message : EngineMessage) : Prop :=
  match message with
  | .liveFeedback fills _ _ => ∀ fill ∈ fills, FillCovered engine.pendingOrders fill
  | _ => True

instance (unreleased : List Charge) (engine : RuntimeDecisionEngine σ) (message : EngineMessage) :
    Decidable (VenueAnswers unreleased engine message) :=
  match message with
  | .liveFeedback .. => inferInstanceAs (Decidable (∀ _ ∈ _, _ ∧ ∀ _ ∈ _, _ → _))
  | .releaseReservations releases => inferInstanceAs (Decidable (List.Subperm releases _))
  | .evaluate _ | .windowClosed .. | .authoritativeResolution .. | .flushAll _ => isTrue trivial

instance (engine : RuntimeDecisionEngine σ) (message : EngineMessage) :
    Decidable (FillsCovered engine message) :=
  match message with
  | .liveFeedback .. => inferInstanceAs (Decidable (∀ _ ∈ _, FillCovered _ _))
  | .evaluate _ | .releaseReservations _ | .windowClosed .. | .authoritativeResolution .. =>
    isTrue trivial
  | .flushAll _ => isTrue trivial

/-- The buckets of every family hold the reserves of its pending orders, the costs of its open
trades and the releases under way. -/
def RuntimeDecisionEngine.LedgerBalanced (engine : RuntimeDecisionEngine σ)
    (unreleased : List Charge) : Prop :=
  ∀ family,
    engine.bankroll.activeReservedCapitalByFamily family +
        engine.bankroll.pendingSettlementReservedCapitalByFamily family =
      charged family (engine.pendingOrders.map orderCharge) +
        charged family (engine.exposure.openTrades.map fun entry => tradeCharge entry.trade) +
        charged family unreleased

/-- A covered message keeps the ledger. -/
theorem Ledger.receive [LawfulStrategy σ] {unreleased : List Charge}
    {engine : RuntimeDecisionEngine σ} (h : Ledger engine.books unreleased)
    {message : EngineMessage} (hanswers : VenueAnswers unreleased engine message)
    (hcovered : FillsCovered engine message) :
    Ledger (engine.receive message).books (recordUnreleased unreleased engine message) := by
  cases message with
  | evaluate request => exact h.evaluate request
  | liveFeedback fills rejectedSignalIds nowMs =>
    exact h.liveFeedback rejectedSignalIds nowMs hcovered
  | releaseReservations releases => exact h.releaseReservations hanswers
  | windowClosed window nowMs => exact h.windowClosed window nowMs
  | authoritativeResolution window outcome nowMs =>
    exact h.authoritativeResolution window outcome nowMs
  | flushAll nowMs => exact h

variable (σ) in
/-- The ledger is balanced in every state of every run of live trading whose steps meet a
condition. -/
def LiveLedgerBalances
    (meets : List Charge → RuntimeDecisionEngine σ → EngineMessage → Prop) : Prop :=
  ∀ (config : Config) (strategies : List σ) (seed : RuntimeDecisionSeed),
    config.executionMode = .liveTrading → seed.Agrees →
      ∀ unreleased engine,
        ledgerSystem.Run (fun unreleased engine message _ => meets unreleased engine message)
            ([], .new config strategies seed) unreleased engine →
          engine.LedgerBalanced unreleased

/-- If every fill costs no more than its order has reserved, feedback keeps the ledger balanced. -/
theorem live_feedback_balances [LawfulStrategy σ] :
    LiveLedgerBalances σ fun unreleased engine message =>
      VenueAnswers unreleased engine message ∧ FillsCovered engine message := by
  intro config strategies seed _ hseed unreleased engine hrun
  have hledger : Ledger engine.books unreleased := by
    refine hrun.invariant (fun unreleased engine => Ledger engine.books unreleased)
      (Ledger.new config strategies hseed) ?_
    intro unreleased engine message engine' h hstep hmeets
    cases hstep
    exact h.receive hmeets.1 hmeets.2
  intro family
  have hbucket := hledger.balanced.bucket family
  rw [charged_append, Books.charges, charged_append] at hbucket
  exact hbucket

end Runs

theorem sampleSeed_agrees : sampleSeed.Agrees where
  same := .nil
  cost := by simp [sampleSeed]

def sampleFill (fillPrice : ℚ) : List EngineMessage :=
  [.evaluate (sampleDecision (sampleWindow "market" 10000) 1000),
    .liveFeedback [{ signalId := -1, fillPrice := fillPrice, filledSize := 20 }] [] 1100]

/-- A fill above the limit is not charged: its order had reserved ten dollars and it costs
twelve. -/
theorem fill_above_limit_unbalances : ¬ LiveLedgerBalances SampleStrategy VenueAnswers := by
  intro h
  have hfollow : (ledgerSystem.follow
      (fun unreleased engine message _ => decide (VenueAnswers unreleased engine message))
      (sampleFill (3 / 5))
      ([], .new sampleConfig [SampleStrategy.mk .up] sampleSeed)).any (fun x =>
        x.2.bankroll.activeReservedCapitalByFamily .latencyArb +
            x.2.bankroll.pendingSettlementReservedCapitalByFamily .latencyArb !=
          charged .latencyArb (x.2.pendingOrders.map orderCharge) +
            charged .latencyArb (x.2.exposure.openTrades.map fun entry => tradeCharge entry.trade) +
            charged .latencyArb x.1) = true := by
    decide +kernel
  obtain ⟨unreleased, engine, hrun, hunbalanced⟩ := System.exists_run_of_follow hfollow
    fun _ _ _ _ => of_decide_eq_true
  have hbalanced := h sampleConfig _ sampleSeed rfl sampleSeed_agrees unreleased engine hrun
    .latencyArb
  exact bne_iff_ne.mp hunbalanced hbalanced

/-- A fill at the ask keeps the ledger balanced. -/
theorem live_feedback_balances_sample :
    ∃ unreleased engine,
      ledgerSystem.Run (fun unreleased engine message _ =>
          VenueAnswers unreleased engine message ∧ FillsCovered engine message)
          ([], .new sampleConfig [SampleStrategy.mk .up] sampleSeed) unreleased engine ∧
        engine.exposure.openTrades ≠ [] ∧ engine.LedgerBalanced unreleased := by
  have hfollow : (ledgerSystem.follow
      (fun unreleased engine message _ =>
        decide (VenueAnswers unreleased engine message ∧ FillsCovered engine message))
      (sampleFill (2 / 5))
      ([], .new sampleConfig [SampleStrategy.mk .up] sampleSeed)).any (fun x =>
        !x.2.exposure.openTrades.isEmpty) = true := by
    decide +kernel
  obtain ⟨unreleased, engine, hrun, hopen⟩ := System.exists_run_of_follow hfollow
    fun _ _ _ _ => of_decide_eq_true
  exact ⟨unreleased, engine, hrun, by simpa using hopen,
    live_feedback_balances sampleConfig _ sampleSeed rfl sampleSeed_agrees unreleased engine hrun⟩

end BubaPaint
