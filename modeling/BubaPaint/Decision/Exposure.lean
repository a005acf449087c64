import BubaPaint.Decision.Messages

/-!
# Exposure after the end of a market

Once a window is closed every open trade of its market is pending settlement, and once a market is
resolved it has no open trade and no pending order. The engine keeps no set of closed markets, so
this holds only as long as no order of a market outlives it.

Main results:

- Theorem `ExposureEnded.receive`: a timely message brings no exposure back.
- Theorem `closed_markets_stay_closed`: nor does a run of timely messages.
-/

namespace BubaPaint

open Effects List RuntimeDecisionEngine

/-- The markets whose close and whose resolution were processed. -/
structure EndedMarkets where
  closed : List String
  resolved : List String

def EndedMarkets.none : EndedMarkets where
  closed := []
  resolved := []

variable {σ : Type} [Strategy σ]

def recordEnded (ended : EndedMarkets) (_ : RuntimeDecisionEngine σ) :
    EngineMessage → EndedMarkets
  | .windowClosed window _ => { ended with closed := window.marketId :: ended.closed }
  | .authoritativeResolution window _ _ =>
    { ended with resolved := window.marketId :: ended.resolved }
  | _ => ended

/-- The runs of an engine with the markets that have ended. -/
def exposureSystem : System (RuntimeDecisionEngine σ) EngineMessage EndedMarkets :=
  system recordEnded

/-- Open trades of closed markets are pending settlement, and resolved markets have neither open
trades nor pending orders. -/
structure ExposureEnded (ended : EndedMarkets) (books : Books) : Prop where
  closed : ∀ entry ∈ books.openTrades, entry.trade.marketId ∈ ended.closed →
    entry.pendingSettlement = true
  settled : ∀ entry ∈ books.openTrades, entry.trade.marketId ∉ ended.resolved
  answered : ∀ order ∈ books.pendingOrders, order.marketId ∉ ended.resolved

/-- A message does not come too late for its market: no order of a closed market is filled by it,
no resolved market is evaluated, and a market is resolved when its orders are answered. -/
def Timely (ended : EndedMarkets) (engine : RuntimeDecisionEngine σ) (message : EngineMessage) :
    Prop :=
  match message with
  | .evaluate request =>
    request.window.marketId ∉ ended.resolved ∧
      (engine.config.executionMode = .liveTrading ∨
        ∀ order ∈ engine.pendingOrders, order.marketId = request.window.marketId →
          order.arrivalTs ≤ request.nowMs → order.marketId ∉ ended.closed)
  | .liveFeedback fills _ _ => ∀ fill ∈ fills, ∀ order ∈ engine.pendingOrders,
      order.signalId = fill.signalId → order.marketId ∉ ended.closed
  | .authoritativeResolution window _ _ =>
    ∀ order ∈ engine.pendingOrders, order.marketId ≠ window.marketId
  | _ => True

instance (ended : EndedMarkets) (engine : RuntimeDecisionEngine σ) (message : EngineMessage) :
    Decidable (Timely ended engine message) :=
  match message with
  | .evaluate _ => inferInstanceAs (Decidable (_ ∧ (_ ∨ ∀ _ ∈ _, _ → _ → _)))
  | .liveFeedback .. => inferInstanceAs (Decidable (∀ _ ∈ _, ∀ _ ∈ _, _ → _))
  | .authoritativeResolution .. => inferInstanceAs (Decidable (∀ _ ∈ _, _))
  | .releaseReservations _ | .windowClosed .. | .flushAll _ => isTrue trivial

/-! ## Each message -/

namespace ExposureEnded

omit [Strategy σ]

variable {ended : EndedMarkets} {books : Books} {engine : RuntimeDecisionEngine σ}

theorem of_subset (h : ExposureEnded ended books) {books' : Books}
    (hopen : books'.openTrades = books.openTrades)
    (hpending : books'.pendingOrders ⊆ books.pendingOrders) : ExposureEnded ended books' where
  closed := hopen ▸ h.closed
  settled := hopen ▸ h.settled
  answered order horder := h.answered order (hpending horder)

section Handlers

variable (h : ExposureEnded ended engine.books)

include h

/-- A decision pass keeps ended markets ended if none of their orders is due and the market it
looks at is not resolved. -/
theorem evaluate [Strategy σ] {request : RuntimeDecisionRequest}
    (hresolved : request.window.marketId ∉ ended.resolved)
    (hdue : engine.config.executionMode = .liveTrading ∨
      ∀ order ∈ engine.pendingOrders, order.marketId = request.window.marketId →
        order.arrivalTs ≤ request.nowMs → order.marketId ∉ ended.closed) :
    ExposureEnded ended (engine.evaluate request).2.books := by
  obtain ⟨dueEvents, events, orders, books, hdecides⟩ :=
    engine.evaluate_run strategiesLabelled_anyLabel request
  obtain ⟨hopen, -, hpending, -, hmarket⟩ := hdecides.candidates.frame
  have hmid : ExposureEnded ended books := by
    have hphase := hdecides.due
    unfold DuePhase at hphase
    split at hphase
    · rw [hphase.2]
      exact h
    · rename_i hmode
      have hnone := hdue.resolve_left hmode
      constructor
      · intro entry hentry hclosed
        rcases hphase.openTrades hentry with hold | ⟨order, horder, harrived, hsame, htrade⟩
        · exact h.closed entry hold hclosed
        · rw [htrade] at hclosed
          exact absurd hclosed (hnone order horder hsame harrived)
      · intro entry hentry
        rcases hphase.openTrades hentry with hold | ⟨order, horder, -, -, htrade⟩
        · exact h.settled entry hold
        · rw [htrade]
          exact h.answered order horder
      · exact fun order horder => h.answered order (hphase.pendingOrders_sublist.subset horder)
  constructor
  · rw [hopen]
    exact hmid.closed
  · rw [hopen]
    exact hmid.settled
  · intro order horder
    rw [hpending] at horder
    rcases mem_append.mp horder with hold | hnew
    · exact hmid.answered order hold
    · rw [hmarket order hnew]
      exact hresolved

theorem applyLiveFill (nowMs : ℕ) {fill : LiveOrderFillFeedback}
    (hopenMarket : ∀ order ∈ engine.pendingOrders, order.signalId = fill.signalId →
      order.marketId ∉ ended.closed) :
    ExposureEnded ended (engine.applyLiveFill nowMs fill).books := by
  rcases engine.applyLiveFill_cases nowMs fill with
    ⟨hsame, -⟩ | ⟨before, order, after, hpending, hid, -, -, ⟨-, hbooks⟩ | ⟨-, -, hbooks⟩⟩
  · rw [hsame]
    exact h
  · have hrest : before ++ after ⊆ engine.books.pendingOrders := by
      change before ++ after ⊆ engine.pendingOrders
      rw [hpending]
      exact fun _ => mem_of_mem_rest
    rw [hbooks]
    exact ⟨h.closed, h.settled, fun other hother => h.answered other (hrest hother)⟩
  · have horder : order ∈ engine.pendingOrders := by simp [hpending]
    rw [hbooks]
    constructor
    · intro entry hentry hclosed
      rcases mem_append.mp hentry with hold | hnew
      · exact h.closed entry hold hclosed
      · rw [mem_singleton.mp hnew] at hclosed
        exact absurd hclosed (hopenMarket order horder hid)
    · intro entry hentry
      rcases mem_append.mp hentry with hold | hnew
      · exact h.settled entry hold
      · rw [mem_singleton.mp hnew]
        exact h.answered order horder
    · intro other hother
      apply h.answered other
      change other ∈ engine.pendingOrders
      rw [hpending]
      exact mem_of_mem_rest hother

/-- Feedback keeps ended markets ended if the markets of the filled orders are not closed. -/
theorem liveFeedback {fills : List LiveOrderFillFeedback} (rejectedSignalIds : List ℤ) (nowMs : ℕ)
    (hopenMarkets : ∀ fill ∈ fills, ∀ order ∈ engine.pendingOrders,
      order.signalId = fill.signalId → order.marketId ∉ ended.closed) :
    ExposureEnded ended
      (engine.applyLiveSubmissionFeedback fills rejectedSignalIds nowMs).books := by
  rw [applyLiveSubmissionFeedback_eq]
  have hpending := engine.pendingOrders_rejectOrders_subset rejectedSignalIds
  have hrejected : ExposureEnded ended (engine.rejectOrders rejectedSignalIds).books :=
    h.of_subset (engine.openTrades_rejectOrders rejectedSignalIds) hpending
  generalize engine.rejectOrders rejectedSignalIds = rejected at hrejected hpending ⊢
  induction fills generalizing rejected with
  | nil => exact hrejected
  | cons fill rest ih =>
    refine ih (fun other hother => hopenMarkets other (mem_cons_of_mem _ hother)) _
      (hrejected.applyLiveFill nowMs fun order horder =>
        hopenMarkets fill mem_cons_self order (hpending horder))
      (List.Subset.trans (rejected.pendingOrders_applyLiveFill_subset nowMs fill) hpending)

/-- Closing a window closes its market. -/
theorem windowClosed (window : MarketWindow) (nowMs : ℕ) :
    ExposureEnded { ended with closed := window.marketId :: ended.closed }
      (engine.windowClosed window nowMs).2.books := by
  rw [books_windowClosed]
  constructor
  · intro entry hentry hclosed
    obtain ⟨before, hbefore, rfl⟩ := mem_map.mp hentry
    by_cases hmarket : before.trade.marketId = window.marketId
    · rw [if_pos hmarket]
    · rw [if_neg hmarket] at hclosed ⊢
      exact h.closed before hbefore ((mem_cons.mp hclosed).resolve_left hmarket)
  · intro entry hentry
    obtain ⟨before, hbefore, rfl⟩ := mem_map.mp hentry
    have hsettled := h.settled before hbefore
    split <;> exact hsettled
  · exact h.answered

/-- Resolving a market settles it if all its orders are answered. -/
theorem authoritativeResolution {window : MarketWindow}
    (hanswered : ∀ order ∈ engine.pendingOrders, order.marketId ≠ window.marketId)
    (outcome : SignalDirection) (nowMs : ℕ) :
    ExposureEnded { ended with resolved := window.marketId :: ended.resolved }
      (engine.authoritativeResolution window outcome nowMs).2.books := by
  obtain ⟨hbooks, -, -, -⟩ := engine.books_authoritativeResolution window outcome nowMs
  rw [hbooks]
  constructor
  · exact fun entry hentry hclosed => h.closed entry (mem_filter.mp hentry).1 hclosed
  · intro entry hentry hresolved
    obtain ⟨hold, hother⟩ := mem_filter.mp hentry
    rcases mem_cons.mp hresolved with hsame | hearlier
    · exact bne_iff_ne.mp hother hsame
    · exact h.settled entry hold hearlier
  · intro order horder hresolved
    rcases mem_cons.mp hresolved with hsame | hearlier
    · exact hanswered order horder hsame
    · exact h.answered order horder hearlier

end Handlers

end ExposureEnded

/-- A timely message keeps ended markets ended. -/
theorem ExposureEnded.receive {ended : EndedMarkets} {engine : RuntimeDecisionEngine σ}
    (h : ExposureEnded ended engine.books) {message : EngineMessage}
    (htimely : Timely ended engine message) :
    ExposureEnded (recordEnded ended engine message) (engine.receive message).books := by
  cases message with
  | evaluate request => exact h.evaluate htimely.1 htimely.2
  | liveFeedback fills rejectedSignalIds nowMs =>
    exact h.liveFeedback rejectedSignalIds nowMs htimely
  | releaseReservations releases =>
    unfold RuntimeDecisionEngine.receive
    rw [RuntimeDecisionEngine.books_releaseReservations]
    exact ⟨h.closed, h.settled, h.answered⟩
  | windowClosed window nowMs => exact h.windowClosed window nowMs
  | authoritativeResolution window outcome nowMs =>
    exact h.authoritativeResolution htimely outcome nowMs
  | flushAll nowMs => exact h

variable (σ) in
/-- In every state of every run whose steps meet a condition, the open trades of closed markets are
pending settlement, and resolved markets have neither open trades nor pending orders. -/
def EndedMarketsStayEnded
    (meets : EndedMarkets → RuntimeDecisionEngine σ → EngineMessage → Prop) : Prop :=
  ∀ (config : Config) (strategies : List σ) (seed : RuntimeDecisionSeed) (ended : EndedMarkets)
    (engine : RuntimeDecisionEngine σ),
    exposureSystem.Run (fun ended engine message _ => meets ended engine message)
        (.none, .new config strategies seed) ended engine →
      ExposureEnded ended engine.books

/-- As long as every message is timely, no exposure of an ended market comes back. -/
theorem closed_markets_stay_closed : EndedMarketsStayEnded σ Timely := by
  intro config strategies seed ended engine hrun
  refine hrun.invariant (fun ended engine => ExposureEnded ended engine.books) ?_ ?_
  · constructor
    · intro entry _ hclosed
      cases hclosed
    · intro entry _ hresolved
      cases hresolved
    · intro order _ hresolved
      cases hresolved
  · intro ended engine message engine' h hstep htimely
    cases hstep
    exact h.receive htimely

/-- One order is queued, its market is closed and resolved, and only then the venue reports the
fill. -/
def lateFill : List EngineMessage :=
  [.evaluate (sampleDecision (sampleWindow "market" 10000) 1000),
    .windowClosed (sampleWindow "market" 10000) 10000,
    .authoritativeResolution (sampleWindow "market" 10000) .up 11000,
    .liveFeedback [{ signalId := -1, fillPrice := 2 / 5, filledSize := 20 }] [] 12000]

/-- A late fill opens a trade of a market that is closed and resolved. -/
theorem late_fill_reopens : ¬ EndedMarketsStayEnded SampleStrategy fun _ _ _ => True := by
  intro h
  have hfollow : (exposureSystem.follow (fun _ _ _ _ => true) lateFill
      (.none, .new sampleConfig [SampleStrategy.mk .up] sampleSeed)).any (fun x =>
        x.2.exposure.openTrades.any fun entry =>
          !entry.pendingSettlement && decide (entry.trade.marketId ∈ x.1.closed)) = true := by
    decide +kernel
  obtain ⟨ended, engine, hrun, hopen⟩ := System.exists_run_of_follow hfollow
    fun _ _ _ _ _ => trivial
  obtain ⟨entry, hentry, hlate⟩ := any_eq_true.mp hopen
  simp only [Bool.and_eq_true, Bool.not_eq_true', decide_eq_true_eq] at hlate
  have hpending := (h sampleConfig _ sampleSeed ended engine hrun).closed entry hentry hlate.2
  rw [hlate.1] at hpending
  cases hpending

/-- A fill that arrives before the close is pending settlement after it and gone after the
resolution. -/
theorem closed_markets_stay_closed_sample :
    ∃ ended engine,
      exposureSystem.Run (fun ended engine message _ => Timely ended engine message)
          (.none, .new sampleConfig [SampleStrategy.mk .up] sampleSeed) ended engine ∧
        ended.resolved = ["market"] ∧ ExposureEnded ended engine.books := by
  have hfollow : (exposureSystem.follow
      (fun ended engine message _ => decide (Timely ended engine message))
      [.evaluate (sampleDecision (sampleWindow "market" 10000) 1000),
        .liveFeedback [{ signalId := -1, fillPrice := 2 / 5, filledSize := 20 }] [] 1100,
        .windowClosed (sampleWindow "market" 10000) 10000,
        .authoritativeResolution (sampleWindow "market" 10000) .up 11000]
      (.none, .new sampleConfig [SampleStrategy.mk .up] sampleSeed)).any (fun x =>
        decide (x.1.resolved = ["market"])) = true := by
    decide +kernel
  obtain ⟨ended, engine, hrun, hresolved⟩ := System.exists_run_of_follow hfollow
    fun _ _ _ _ => of_decide_eq_true
  exact ⟨ended, engine, hrun, of_decide_eq_true hresolved,
    closed_markets_stay_closed sampleConfig _ sampleSeed ended engine hrun⟩

end BubaPaint
