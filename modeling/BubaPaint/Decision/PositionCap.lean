import BubaPaint.Decision.Messages
import BubaPaint.Decision.Passes
import BubaPaint.Library.Admission

/-!
# The position cap

Pending orders and the open trades that count stay under the cap of the configuration, and no
position is taken twice: a strategy that trades one side holds one position in a market, spread
capture one on each side.

Main results:

- Theorem `positions_capped`: the cap holds in every run whose time does not go back.
-/

namespace BubaPaint

open Effects List RuntimeDecisionEngine

/-- The cap is kept at a time, and no position is taken twice. -/
structure PositionsCapped (config : Config) (nowMs : ℕ) (books : Books) : Prop where
  capped : books.counted config nowMs + books.pendingOrders.length ≤ config.maxOpenPositions
  apart : books.positions.Pairwise Position.Apart

theorem positionsCapped_iff_admitted {config : Config} {nowMs : ℕ} {books : Books} :
    PositionsCapped config nowMs books ↔
      Admitted Position.Apart config.maxOpenPositions (books.counted config nowMs)
        (books.openTrades.map (·.position)) (books.pendingOrders.map (·.position)) := by
  constructor
  · exact fun h => ⟨by simpa using h.capped, h.apart⟩
  · exact fun h => ⟨by simpa using h.capped, h.apart⟩

namespace Books

variable {config : Config} {nowMs : ℕ} {books books' : Books}

def counts (config : Config) (nowMs : ℕ) (entry : OpenRuntimeTrade) : Bool :=
  config.pendingSettlementPolicyUnchecked.countsAsOpenPosition ||
    (!entry.pendingSettlement && decide (entry.marketEndTime > nowMs))

theorem counted_eq_countP (books : Books) (config : Config) (nowMs : ℕ) :
    books.counted config nowMs = books.openTrades.countP (counts config nowMs) := by
  unfold counted InMemoryExposureState.queueRelevantCount counts
  cases config.pendingSettlementPolicyUnchecked.countsAsOpenPosition
  · simp
  · simp

theorem counted_later {later : ℕ} (hlater : nowMs ≤ later) :
    books.counted config later ≤ books.counted config nowMs := by
  rw [counted_eq_countP, counted_eq_countP]
  refine countP_mono_left fun entry _ hcounts => ?_
  unfold counts at hcounts ⊢
  simp only [Bool.or_eq_true, Bool.and_eq_true, decide_eq_true_eq] at hcounts ⊢
  exact hcounts.imp_right fun hopen => ⟨hopen.1, hlater.trans_lt hopen.2⟩

theorem counted_sublist (hopen : books'.openTrades.Sublist books.openTrades) :
    books'.counted config nowMs ≤ books.counted config nowMs := by
  rw [counted_eq_countP, counted_eq_countP]
  exact hopen.countP_le

theorem counted_push {entry : OpenRuntimeTrade}
    (hopen : books'.openTrades = books.openTrades ++ [entry]) :
    books'.counted config nowMs ≤ books.counted config nowMs + 1 := by
  rw [counted_eq_countP, counted_eq_countP, hopen, countP_append]
  exact Nat.add_le_add_left countP_le_length _

theorem counted_closeMarket {marketId : String}
    (hopen : books'.openTrades = closeMarket marketId books.openTrades) :
    books'.counted config nowMs ≤ books.counted config nowMs := by
  rw [counted_eq_countP, counted_eq_countP, hopen, closeMarket, countP_map]
  refine countP_mono_left fun entry _ hcounts => ?_
  simp only [Function.comp_apply] at hcounts
  split at hcounts
  · unfold counts at hcounts ⊢
    simp only [Bool.not_true, Bool.false_and, Bool.or_false] at hcounts
    simp [hcounts]
  · exact hcounts

end Books

namespace PositionsCapped

variable {config : Config} {nowMs : ℕ} {books books' : Books}

section Capped

variable (h : PositionsCapped config nowMs books)

include h

theorem later {later : ℕ} (hlater : nowMs ≤ later) : PositionsCapped config later books where
  capped := (Nat.add_le_add_right (Books.counted_later hlater) _).trans h.capped
  apart := h.apart

theorem of_sublist (hopen : books'.openTrades.Sublist books.openTrades)
    (hpending : books'.pendingOrders.Sublist books.pendingOrders) :
    PositionsCapped config nowMs books' := by
  rw [positionsCapped_iff_admitted] at h ⊢
  exact h.mono (Books.counted_sublist hopen) (hopen.map _) (hpending.map _)

theorem same (hopen : books'.openTrades = books.openTrades)
    (hpending : books'.pendingOrders = books.pendingOrders) : PositionsCapped config nowMs books' :=
  h.of_sublist (hopen ▸ List.Sublist.refl _) (hpending ▸ List.Sublist.refl _)

theorem fill {before after : List RuntimePendingOrder} {order : RuntimePendingOrder}
    {entry : OpenRuntimeTrade} (hpending : books.pendingOrders = before ++ order :: after)
    (hpending' : books'.pendingOrders = before ++ after)
    (hopen : books'.openTrades = books.openTrades ++ [entry])
    (hposition : entry.position = order.position) : PositionsCapped config nowMs books' := by
  rw [positionsCapped_iff_admitted] at h ⊢
  rw [hpending, map_append, map_cons] at h
  rw [hpending', hopen, map_append, map_append, map_singleton, hposition]
  exact h.fulfil (Books.counted_push hopen)

/-- The trades of a market wait for their settlement. -/
theorem close {marketId : String}
    (hopen : books'.openTrades = closeMarket marketId books.openTrades)
    (hpending : books'.pendingOrders = books.pendingOrders) :
    PositionsCapped config nowMs books' where
  capped := by
    rw [hpending]
    exact (Nat.add_le_add_right (Books.counted_closeMarket hopen) _).trans h.capped
  apart := by
    have hsame : books'.openTrades.map (·.position) = books.openTrades.map (·.position) := by
      rw [hopen, closeMarket, map_map]
      refine map_congr_left fun entry _ => ?_
      simp only [Function.comp_apply]
      split
      · rfl
      · rfl
    unfold Books.positions
    rw [hsame, hpending]
    exact h.apart

theorem queue {orders : List RuntimePendingOrder}
    (hqueue : QueuesFree config nowMs books books' orders) :
    PositionsCapped config nowMs books' := by
  rcases hqueue.room with hnone | hroom
  · have hpending := hqueue.pendingOrders
    rw [hnone, append_nil] at hpending
    exact h.same hqueue.openTrades hpending
  have hcounted : books'.counted config nowMs = books.counted config nowMs := by
    rw [Books.counted_eq_countP, Books.counted_eq_countP, hqueue.openTrades]
  rw [positionsCapped_iff_admitted] at h ⊢
  rw [hcounted, hqueue.openTrades, hqueue.pendingOrders, map_append]
  exact h.accept (by simpa using hroom) hqueue.apart hqueue.free

end Capped

end PositionsCapped

variable {config : Config} {request : RuntimeDecisionRequest} {mode : ExecutionMode}
variable {books books' : Books} {events : List LivePersistenceEvent}

theorem DueStep.positionsCapped (hstep : DueStep request mode books events books')
    (h : PositionsCapped config request.nowMs books) :
    PositionsCapped config request.nowMs books' := by
  cases hstep with
  | missed before after order event hpending =>
    refine h.of_sublist (List.Sublist.refl _) ?_
    rw [hpending]
    exact (sublist_cons_self order after).append_left before
  | filled before after order event price size trade hpending _ _ _ _ _ htrade =>
    refine h.fill hpending rfl rfl ?_
    rw [htrade]
    rfl

theorem DueRun.positionsCapped (hrun : DueRun request mode books events books')
    (h : PositionsCapped config request.nowMs books) :
    PositionsCapped config request.nowMs books' := by
  induction hrun with
  | nil => exact h
  | cons hstep _ ih => exact ih (hstep.positionsCapped h)

/-! ## Each message -/

namespace RuntimeDecisionEngine

variable {σ : Type} {engine : RuntimeDecisionEngine σ}

theorem positionsCapped_evaluate [Strategy σ] [LawfulStrategy σ] {request : RuntimeDecisionRequest}
    (h : PositionsCapped engine.config request.nowMs engine.books) :
    (engine.evaluate request).2.config = engine.config ∧
      PositionsCapped engine.config request.nowMs (engine.evaluate request).2.books := by
  refine engine.evaluate_keeps
    (fun _ engine' => engine'.config = engine.config ∧
      PositionsCapped engine.config request.nowMs engine'.books)
    strategiesLabelled_familyLabel (fun _ => ⟨rfl, h⟩) ?_ ?_ ?_
  · intro _
    obtain ⟨hconfig, hrun⟩ := engine.processDueOrders_run request
    exact ⟨hconfig, hrun.positionsCapped h⟩
  · exact fun engine' _ _ h => h
  · intro pass candidate selectedFamily regime hlabelled ⟨hconfig, hpass⟩
    obtain ⟨_, _, _, _, _, hsame⟩ :=
      DecisionPass.handleCandidate_step request hlabelled pass selectedFamily regime
    obtain ⟨orders, hqueue, -⟩ :=
      pass.handleCandidate_queues request hlabelled selectedFamily regime
    rw [hconfig] at hqueue
    exact ⟨hsame.trans hconfig, hpass.queue hqueue⟩

theorem pendingOrders_removePendingOrder_sublist (signalId : ℤ) :
    (engine.removePendingOrder signalId).2.pendingOrders.Sublist engine.pendingOrders ∧
      (engine.removePendingOrder signalId).2.exposure = engine.exposure ∧
      (engine.removePendingOrder signalId).2.config = engine.config := by
  rcases engine.removePendingOrder_cases signalId with
    ⟨hnone, -⟩ | ⟨before, order, after, hpending, -, -, hsome⟩
  · rw [hnone]
    exact ⟨List.Sublist.refl _, rfl, rfl⟩
  · rw [hsome, hpending]
    exact ⟨(sublist_cons_self order after).append_left before, rfl, rfl⟩

theorem positionsCapped_applyLiveFill {config : Config} {nowMs : ℕ}
    (h : engine.config = config ∧ PositionsCapped config nowMs engine.books)
    (fill : LiveOrderFillFeedback) :
    (engine.applyLiveFill nowMs fill).config = config ∧
      PositionsCapped config nowMs (engine.applyLiveFill nowMs fill).books := by
  rcases engine.applyLiveFill_cases nowMs fill with
    ⟨hsame, -⟩ | ⟨before, order, after, hpending, -, -, hconfig, hcases⟩
  · rw [hsame]
    exact h
  refine ⟨hconfig.trans h.1, ?_⟩
  rcases hcases with ⟨-, hbooks⟩ | ⟨-, -, hbooks⟩
  · rw [hbooks]
    refine h.2.of_sublist (List.Sublist.refl _) ?_
    change (before ++ after).Sublist engine.pendingOrders
    rw [hpending]
    exact (sublist_cons_self order after).append_left before
  · rw [hbooks]
    exact h.2.fill hpending rfl rfl rfl

theorem positionsCapped_applyLiveSubmissionFeedback {config : Config} {nowMs : ℕ}
    (h : engine.config = config ∧ PositionsCapped config nowMs engine.books)
    (fills : List LiveOrderFillFeedback) (rejectedSignalIds : List ℤ) :
    (engine.applyLiveSubmissionFeedback fills rejectedSignalIds nowMs).config = config ∧
      PositionsCapped config nowMs
        (engine.applyLiveSubmissionFeedback fills rejectedSignalIds nowMs).books := by
  rw [applyLiveSubmissionFeedback_eq]
  refine List.foldlRecOn
    (motive := fun engine' : RuntimeDecisionEngine σ =>
      engine'.config = config ∧ PositionsCapped config nowMs engine'.books)
    fills _ ?_ fun engine' h fill _ => positionsCapped_applyLiveFill h fill
  refine List.foldlRecOn
    (motive := fun engine' : RuntimeDecisionEngine σ =>
      engine'.config = config ∧ PositionsCapped config nowMs engine'.books)
    rejectedSignalIds _ h ?_
  intro engine' ⟨hconfig, hkept⟩ signalId _
  obtain ⟨hpending, hexposure, hsame⟩ :=
    engine'.pendingOrders_removePendingOrder_sublist signalId
  refine ⟨hsame.trans hconfig, hkept.of_sublist ?_ hpending⟩
  simp only [books, hexposure]
  exact List.Sublist.refl _

end RuntimeDecisionEngine

/-- The time of a message; one that carries none comes at the time of the last one. -/
def EngineMessage.timeMs (lastMs : ℕ) : EngineMessage → ℕ
  | .evaluate request => request.nowMs
  | .liveFeedback _ _ nowMs | .windowClosed _ nowMs | .authoritativeResolution _ _ nowMs
  | .flushAll nowMs => nowMs
  | .releaseReservations _ => lastMs

section Runs

variable {σ : Type} [Strategy σ] [LawfulStrategy σ]

/-- The runs of an engine with the time of the last message. -/
def timedSystem : System (RuntimeDecisionEngine σ) EngineMessage ℕ :=
  system fun lastMs _ message => message.timeMs lastMs

variable {config : Config} {lastMs : ℕ} {engine : RuntimeDecisionEngine σ}

/-- A message keeps the cap of a configuration that it leaves alone. -/
theorem PositionsCapped.receive
    (h : engine.config = config ∧ PositionsCapped config lastMs engine.books)
    {message : EngineMessage} (htime : lastMs ≤ message.timeMs lastMs) :
    (engine.receive message).config = config ∧
      PositionsCapped config (message.timeMs lastMs) (engine.receive message).books := by
  obtain ⟨rfl, hkept⟩ := h
  have hnow := hkept.later htime
  cases message with
  | evaluate request => exact engine.positionsCapped_evaluate hnow
  | liveFeedback fills rejectedSignalIds nowMs =>
    exact engine.positionsCapped_applyLiveSubmissionFeedback ⟨rfl, hnow⟩ fills rejectedSignalIds
  | releaseReservations releases =>
    have hconfig : (engine.releaseReservations releases).config = engine.config :=
      List.foldlRecOn (motive := fun engine' : RuntimeDecisionEngine σ =>
        engine'.config = engine.config) releases _ rfl fun _ hsame _ _ => hsame
    refine ⟨hconfig, ?_⟩
    unfold receive
    rw [books_releaseReservations]
    exact hnow.same rfl rfl
  | windowClosed window nowMs =>
    refine ⟨rfl, ?_⟩
    unfold receive
    rw [books_windowClosed]
    exact hnow.close rfl rfl
  | authoritativeResolution window outcome nowMs =>
    obtain ⟨hbooks, hconfig, -, -⟩ := engine.books_authoritativeResolution window outcome nowMs
    refine ⟨hconfig, ?_⟩
    unfold receive
    rw [hbooks]
    exact hnow.of_sublist filter_sublist (List.Sublist.refl _)
  | flushAll nowMs => exact ⟨rfl, hnow⟩

/-- In every state of every run whose time does not go back, the open trades that count and the
pending orders stay under the cap, then and later, and no position is taken twice, if this holds of
the trades the engine starts with. -/
theorem positions_capped {config : Config} {strategies : List σ} {seed : RuntimeDecisionSeed}
    (hseed : PositionsCapped config seed.nowMs (new config strategies seed).books)
    {lastMs : ℕ} {engine : RuntimeDecisionEngine σ}
    (hrun : timedSystem.Run (fun lastMs _ message _ => lastMs ≤ message.timeMs lastMs)
      (seed.nowMs, .new config strategies seed) lastMs engine) {nowMs : ℕ}
    (hnow : lastMs ≤ nowMs) : PositionsCapped config nowMs engine.books := by
  have hkept : engine.config = config ∧ PositionsCapped config lastMs engine.books := by
    refine hrun.invariant
      (fun lastMs engine => engine.config = config ∧ PositionsCapped config lastMs engine.books)
      ⟨rfl, hseed⟩ ?_
    intro lastMs before message after hbefore hstep htime
    cases hstep
    exact PositionsCapped.receive hbefore htime
  exact hkept.2.later hnow

end Runs

/-- An order fills the cap of one position, so a second market is turned away, and its fill takes
its place. -/
theorem positions_capped_sample :
    ∃ engine : RuntimeDecisionEngine SampleStrategy,
      engine.pendingOrders = [] ∧ engine.exposure.openTrades.length = 1 ∧
        PositionsCapped { sampleConfig with maxOpenPositions := 1 } 2000 engine.books := by
  have hfollow : (timedSystem.follow
      (fun lastMs _ message _ => decide (lastMs ≤ message.timeMs lastMs))
      [.evaluate (sampleDecision (sampleWindow "market" 10000) 1000),
        .evaluate (sampleDecision (sampleWindow "other market" 20000) 1100),
        .liveFeedback [{ signalId := -1, fillPrice := 2 / 5, filledSize := 20 }] [] 1200]
      (sampleSeed.nowMs, .new { sampleConfig with maxOpenPositions := 1 }
        [SampleStrategy.mk .up] sampleSeed)).any (fun reached =>
          decide (reached.1 ≤ 2000 ∧ reached.2.pendingOrders = [] ∧
            reached.2.exposure.openTrades.length = 1)) = true := by
    decide +kernel
  obtain ⟨lastMs, engine, hrun, hproperty⟩ := System.exists_run_of_follow hfollow
    fun _ _ _ _ => of_decide_eq_true
  obtain ⟨htime, hpending, hopen⟩ := of_decide_eq_true hproperty
  refine ⟨engine, hpending, hopen, positions_capped ⟨by decide, ?_⟩ hrun htime⟩
  exact List.Pairwise.nil

end BubaPaint
