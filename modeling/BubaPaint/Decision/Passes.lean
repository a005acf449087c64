import BubaPaint.Decision.Steps

/-!
# What is checked before orders are queued

A submission queues no order before the queue checks have passed. A property of an engine that the
due orders and each candidate keep is kept by the whole pass.
-/

namespace BubaPaint

open List

/-- The market, the strategy and the side of an order or a trade. -/
structure Position where
  marketId : String
  strategy : String
  side : SignalDirection
  deriving DecidableEq

def QueuedOrderIntent.position (order : QueuedOrderIntent) : Position where
  marketId := order.marketId
  strategy := order.strategy
  side := order.side

def RuntimePendingOrder.position (order : RuntimePendingOrder) : Position where
  marketId := order.marketId
  strategy := order.strategy
  side := order.side

def OpenRuntimeTrade.position (entry : OpenRuntimeTrade) : Position where
  marketId := entry.trade.marketId
  strategy := entry.trade.strategy
  side := entry.trade.side

/-- The positions of the open trades and of the pending orders. -/
def Books.positions (books : Books) : List Position :=
  books.openTrades.map (·.position) ++ books.pendingOrders.map (·.position)

/-- Of one market and one strategy only the two sides of spread capture are taken at once. -/
def Position.Apart (first second : Position) : Prop :=
  first.marketId = second.marketId → first.strategy = second.strategy →
    familyForStrategy first.strategy = .spreadCapture ∧ first.side ≠ second.side

instance (first second : Position) : Decidable (first.Apart second) :=
  inferInstanceAs (Decidable (_ → _ → _ ∧ _))

instance : Std.Symm Position.Apart where
  symm first second h hmarket hstrategy := by
    have hsides := h hmarket.symm hstrategy.symm
    exact ⟨hstrategy ▸ hsides.1, hsides.2.symm⟩

def Signal.position (signal : Signal) (window : MarketWindow) : Position where
  marketId := window.marketId
  strategy := signal.strategy
  side := signal.direction

def Books.counted (books : Books) (config : Config) (nowMs : ℕ) : ℕ :=
  InMemoryExposureState.queueRelevantCount { openTrades := books.openTrades } config nowMs

namespace RuntimeDecisionEngine

variable {σ : Type} {engine : RuntimeDecisionEngine σ} {window : MarketWindow}
variable {signal : Signal} {isBatch : Bool} {nowMs : ℕ}

theorem duplicate_eq_false_iff :
    (engine.exposure.duplicateOpen window.marketId signal.strategy signal.direction isBatch =
          false ∧
        engine.duplicatePending window.marketId signal isBatch = false) ↔
      ∀ taken ∈ engine.books.positions, taken.marketId = window.marketId →
        taken.strategy = signal.strategy → isBatch = true ∧ taken.side ≠ signal.direction := by
  unfold InMemoryExposureState.duplicateOpen duplicatePending Books.positions books
  simp only [any_eq_false, forall_mem_append, forall_mem_map]
  refine and_congr (forall₂_congr fun entry _ => ?_) (forall₂_congr fun order _ => ?_)
  all_goals
    cases isBatch
    · simp [OpenRuntimeTrade.position, RuntimePendingOrder.position]
    · simp [OpenRuntimeTrade.position, RuntimePendingOrder.position]

theorem canQueueSingle_eq_none {requiredSlots : ℕ}
    (h : engine.canQueueSingle signal window isBatch requiredSlots nowMs = none) :
    engine.books.counted engine.config nowMs + engine.books.pendingOrders.length + requiredSlots ≤
        engine.config.maxOpenPositions ∧
      ∀ taken ∈ engine.books.positions, taken.marketId = window.marketId →
        taken.strategy = signal.strategy → isBatch = true ∧ taken.side ≠ signal.direction := by
  unfold canQueueSingle at h
  dsimp only at h
  split at h
  · cases h
  rename_i hroom
  split at h
  · cases h
  rename_i hopen
  split at h
  · cases h
  rename_i hpending
  refine ⟨not_lt.mp hroom, duplicate_eq_false_iff.mp ⟨?_, ?_⟩⟩
  · exact Bool.not_eq_true _ ▸ hopen
  · exact Bool.not_eq_true _ ▸ hpending

theorem canQueueSpread_eq_none {signals : List Signal}
    (h : engine.canQueueSpread signals window nowMs = none) :
    engine.books.counted engine.config nowMs + engine.books.pendingOrders.length + 2 ≤
        engine.config.maxOpenPositions ∧
      ∀ signal ∈ signals, ∀ taken ∈ engine.books.positions, taken.marketId = window.marketId →
        taken.strategy = signal.strategy → taken.side ≠ signal.direction := by
  unfold canQueueSpread at h
  dsimp only at h
  split at h
  · cases h
  rename_i hroom
  split at h
  · cases h
  rename_i hopen
  split at h
  · cases h
  rename_i hpending
  simp only [any_eq_true, not_exists, not_and, Bool.not_eq_true] at hopen hpending
  refine ⟨not_lt.mp hroom, fun signal hsignal taken htaken hmarket hstrategy => ?_⟩
  exact (duplicate_eq_false_iff.mp ⟨hopen signal hsignal, hpending signal hsignal⟩ taken htaken
    hmarket hstrategy).2

end RuntimeDecisionEngine

theorem QueueStep.frame {label : StrategyFamily → String → Prop}
    {request : RuntimeDecisionRequest} {signalIds : List ℤ} {books books' : Books}
    {events : List LivePersistenceEvent} {orders : List RuntimePendingOrder}
    (hstep : QueueStep label request signalIds books events orders books') :
    books'.openTrades = books.openTrades ∧
      books'.pendingOrders = books.pendingOrders ++ orders := by
  cases hstep with
  | passed => exact ⟨rfl, (append_nil _).symm⟩
  | probed family strategy amount _ _ _ _ hbooks =>
    rw [hbooks]
    exact ⟨rfl, (append_nil _).symm⟩
  | queued family _ _ _ _ _ _ hbooks =>
    rw [hbooks]
    exact ⟨rfl, rfl⟩

namespace DecisionPass

variable {σ : Type} (request : RuntimeDecisionRequest) (pass : DecisionPass σ)

/-- A single-side submission queues nothing, or the position of its signal after the checks. -/
theorem submitSingle_positions (signal : Signal) (signalId : ℤ) (family : StrategyFamily) :
    (pass.submitSingle request signal signalId family).1.orders = [] ∨
      (pass.engine.canQueueSingle signal request.window false 1 request.nowMs = none ∧
        (pass.submitSingle request signal signalId family).1.orders.map (·.position) =
            [signal.position request.window] ∧
        ∀ order ∈ (pass.submitSingle request signal signalId family).1.orders,
          order.executionGroupId = none) := by
  unfold submitSingle
  cases hcheck : pass.engine.canQueueSingle signal request.window false 1 request.nowMs with
  | some reason => exact .inl rfl
  | none =>
    dsimp only
    split
    · exact .inl rfl
    split
    · exact .inl rfl
    · exact .inr ⟨rfl, rfl, forall_mem_singleton.mpr rfl⟩

/-- A spread submission queues nothing, or the positions of its two legs after the checks. -/
theorem submitSpread_positions (signals : List Signal) (signalIds : List ℤ) :
    (pass.submitSpread request signals signalIds).1.orders = [] ∨
      (pass.engine.canQueueSpread signals request.window request.nowMs = none ∧
        ∃ upSignal ∈ signals, ∃ downSignal ∈ signals,
          upSignal.direction = .up ∧ downSignal.direction = .down ∧
            (pass.submitSpread request signals signalIds).1.orders.map (·.position) =
              [upSignal.position request.window, downSignal.position request.window]) := by
  unfold submitSpread
  cases hpair : spreadSignalPair signals signalIds with
  | none => exact .inl rfl
  | some legs =>
    rcases legs with ⟨upSignal, downSignal, upSignalId, downSignalId⟩
    have hlegs := spreadSignalPair_spec hpair
    cases hcheck : pass.engine.canQueueSpread signals request.window request.nowMs with
    | some reason => exact .inl rfl
    | none =>
      dsimp only
      split
      · exact .inl rfl
      split
      · exact .inl rfl
      split
      · exact .inl rfl
      · exact .inr ⟨rfl, upSignal, (of_mem_zip hlegs.1.2).1, downSignal,
          (of_mem_zip hlegs.2.1.2).1, hlegs.1.1, hlegs.2.1.1, rfl⟩

end DecisionPass

/-! ## Candidates -/

/-- Orders are queued if there is room for them and their positions are free. -/
structure QueuesFree (config : Config) (nowMs : ℕ) (books books' : Books)
    (orders : List RuntimePendingOrder) : Prop where
  openTrades : books'.openTrades = books.openTrades
  pendingOrders : books'.pendingOrders = books.pendingOrders ++ orders
  room : orders = [] ∨
    books.counted config nowMs + books.pendingOrders.length + orders.length ≤
      config.maxOpenPositions
  apart : (orders.map (·.position)).Pairwise Position.Apart
  free : ∀ taken ∈ books.positions, ∀ position ∈ orders.map (·.position), taken.Apart position

def GroupsCaptureSpreads (orders : List RuntimePendingOrder) : Prop :=
  ∀ order ∈ orders, order.executionGroupId ≠ none →
    familyForStrategy order.strategy = .spreadCapture

def QueuesCandidate (request : RuntimeDecisionRequest) (config : Config) (books books' : Books) :
    Prop :=
  ∃ orders, QueuesFree config request.nowMs books books' orders ∧ GroupsCaptureSpreads orders

variable {request : RuntimeDecisionRequest} {config : Config} {books books' : Books}

theorem QueuesCandidate.of_none (hopen : books'.openTrades = books.openTrades)
    (hpending : books'.pendingOrders = books.pendingOrders) :
    QueuesCandidate request config books books' := by
  refine ⟨[], ⟨hopen, hpending.trans (append_nil _).symm, .inl rfl, .nil, ?_⟩, ?_⟩
  · intro _ _ position hposition
    cases hposition
  · intro order horder
    cases horder

theorem QueuesCandidate.of_ids {start : Books} (h : QueuesCandidate request config start books')
    (hopen : start.openTrades = books.openTrades)
    (hpending : start.pendingOrders = books.pendingOrders) :
    QueuesCandidate request config books books' := by
  obtain ⟨orders, hqueue, hgroups⟩ := h
  rcases start with ⟨pendingOrders, openTrades⟩
  rcases books with ⟨pendingOrders', openTrades'⟩
  cases hopen
  cases hpending
  exact ⟨orders, ⟨hqueue.openTrades, hqueue.pendingOrders, hqueue.room, hqueue.apart,
    hqueue.free⟩, hgroups⟩

namespace DecisionPass

variable {σ : Type} (request : RuntimeDecisionRequest) (pass : DecisionPass σ)

theorem submitSingle_queues (signal : Signal) (signalId : ℤ) (family : StrategyFamily) :
    QueuesCandidate request pass.engine.config pass.engine.books
      (pass.submitSingle request signal signalId family).2.engine.books := by
  have hlabel : AnyLabel family signal.strategy := trivial
  obtain ⟨events, orders, hstep, -, horders, -, -⟩ :=
    submits_submitSingle request pass hlabel signalId
  obtain ⟨hopen, hpending⟩ := hstep.frame
  rcases pass.submitSingle_positions request signal signalId family with
    hnone | ⟨hcheck, hpositions, hgroup⟩
  · rw [map_eq_nil_iff.mp (horders.symm.trans hnone), append_nil] at hpending
    exact .of_none hopen hpending
  rw [horders, map_map] at hpositions
  rw [horders, forall_mem_map] at hgroup
  have hqueued : orders.map (·.position) = [signal.position request.window] := hpositions
  have hone : orders.length = 1 := by
    simpa using congrArg List.length hqueued
  obtain ⟨hroom, hfree⟩ := RuntimeDecisionEngine.canQueueSingle_eq_none hcheck
  refine ⟨orders, ⟨hopen, hpending, .inr (hone ▸ hroom), ?_, ?_⟩, ?_⟩
  · rw [hqueued]
    exact pairwise_singleton _ _
  · rw [hqueued]
    intro taken htaken position hposition hmarket hstrategy
    rw [mem_singleton.mp hposition] at hmarket hstrategy
    exact absurd (hfree taken htaken hmarket hstrategy).1 Bool.false_ne_true
  · exact fun order horder hgrouped => absurd (hgroup order horder) hgrouped

/-- A spread submission queues for two positions that are free. -/
theorem submitSpread_queues {signals : List Signal}
    (hlabel : ∀ signal ∈ signals, FamilyLabel .spreadCapture signal.strategy) (signalIds : List ℤ) :
    QueuesCandidate request pass.engine.config pass.engine.books
      (pass.submitSpread request signals signalIds).2.engine.books := by
  obtain ⟨events, orders, hstep, -, horders, -, -⟩ :=
    submits_submitSpread request pass hlabel signalIds
  obtain ⟨hopen, hpending⟩ := hstep.frame
  rcases pass.submitSpread_positions request signals signalIds with
    hnone | ⟨hcheck, upSignal, hup, downSignal, hdown, hupSide, hdownSide, hpositions⟩
  · rw [map_eq_nil_iff.mp (horders.symm.trans hnone), append_nil] at hpending
    exact .of_none hopen hpending
  rw [horders, map_map] at hpositions
  have hqueued : orders.map (·.position) =
      [upSignal.position request.window, downSignal.position request.window] := hpositions
  have htwo : orders.length = 2 := by
    simpa using congrArg List.length hqueued
  obtain ⟨hroom, hfree⟩ := RuntimeDecisionEngine.canQueueSpread_eq_none hcheck
  have hapart : ∀ signal ∈ signals, ∀ taken ∈ pass.engine.books.positions,
      taken.Apart (signal.position request.window) := by
    intro signal hsignal taken htaken hmarket hstrategy
    refine ⟨?_, hfree signal hsignal taken htaken hmarket hstrategy⟩
    rw [hstrategy]
    exact hlabel signal hsignal
  refine ⟨orders, ⟨hopen, hpending, .inr (htwo ▸ hroom), ?_, ?_⟩, ?_⟩
  · rw [hqueued]
    refine pairwise_pair.mpr fun _ _ => ⟨hlabel upSignal hup, ?_⟩
    simp [Signal.position, hupSide, hdownSide]
  · rw [hqueued]
    intro taken htaken position hposition
    rcases mem_pair.mp hposition with rfl | rfl
    · exact hapart upSignal hup taken htaken
    · exact hapart downSignal hdown taken htaken
  · intro order horder _
    have hposition : order.position ∈ orders.map (·.position) := mem_map_of_mem horder
    rw [hqueued] at hposition
    rcases mem_pair.mp hposition with hleg | hleg
    · rw [show order.strategy = upSignal.strategy from congrArg Position.strategy hleg]
      exact hlabel upSignal hup
    · rw [show order.strategy = downSignal.strategy from congrArg Position.strategy hleg]
      exact hlabel downSignal hdown

theorem handleSingleCandidate_queues (signal : Signal) (family : StrategyFamily)
    (regime : PortfolioRegime) :
    QueuesCandidate request pass.engine.config pass.engine.books
      (pass.handleSingleCandidate request signal family regime).engine.books := by
  unfold handleSingleCandidate
  dsimp only [RuntimeDecisionEngine.allocateSignalId]
  split
  · exact .of_none rfl rfl
  split
  · exact .of_none rfl rfl
  · have hsubmitted := submitSingle_queues request { pass with engine := pass.engine.advance 1 }
      signal pass.engine.nextSignalId family
    unfold forwardLiveOrders
    split
    · exact hsubmitted.of_ids rfl rfl
    · exact hsubmitted.of_ids rfl rfl

theorem handleBatchCandidate_queues {signals : List Signal}
    (hlabel : ∀ signal ∈ signals, FamilyLabel .spreadCapture signal.strategy)
    (regime : PortfolioRegime) :
    QueuesCandidate request pass.engine.config pass.engine.books
      (pass.handleBatchCandidate request signals regime).engine.books := by
  unfold handleBatchCandidate
  dsimp only
  split
  · exact .of_none rfl rfl
  · rw [RuntimeDecisionEngine.allocateSignalIds_eq]
    have hsubmitted := submitSpread_queues request
      { pass with engine := pass.engine.advance signals.length } hlabel
      (pass.engine.books.signalIds signals.length)
    unfold forwardLiveOrders
    split
    · exact hsubmitted.of_ids rfl rfl
    · exact hsubmitted.of_ids rfl rfl

/-- A candidate queues for positions that are free. -/
theorem handleCandidate_queues {candidate : EvaluatedRuntimeCandidate}
    (hlabelled : candidate.Labelled FamilyLabel) (selectedFamily : Option StrategyFamily)
    (regime : PortfolioRegime) :
    QueuesCandidate request pass.engine.config pass.engine.books
      (pass.handleCandidate request selectedFamily regime candidate).engine.books := by
  unfold handleCandidate
  unfold EvaluatedRuntimeCandidate.Labelled at hlabelled
  split
  · exact .of_none rfl rfl
  split
  · exact handleSingleCandidate_queues request pass _ _ regime
  · rename_i signals hresult
    rw [hresult] at hlabelled
    exact handleBatchCandidate_queues request pass hlabelled regime
  · exact .of_none rfl rfl
  · exact .of_none rfl rfl

end DecisionPass

namespace RuntimeDecisionEngine

variable {σ : Type} [Strategy σ] {label : StrategyFamily → String → Prop}

/-- What the due orders keep, each candidate keeps, and the strategies do not matter to, is kept by
a decision pass. It may tell of what was logged. -/
theorem evaluate_keeps (keeps : List RuntimeDecisionLogEvent → RuntimeDecisionEngine σ → Prop)
    (hlabelled : StrategiesLabelled σ label) {engine : RuntimeDecisionEngine σ}
    {request : RuntimeDecisionRequest}
    (hlive : engine.config.executionMode = .liveTrading → keeps [] engine)
    (hdue : engine.config.executionMode ≠ .liveTrading →
      keeps [] (engine.processDueOrders request).2.2)
    (hstrategies : ∀ (engine : RuntimeDecisionEngine σ) strategies rejectionTracker,
      keeps [] engine →
        keeps [] { engine with strategies := strategies, rejectionTracker := rejectionTracker })
    (hcandidate : ∀ (pass : DecisionPass σ) (candidate : EvaluatedRuntimeCandidate)
      (selectedFamily : Option StrategyFamily) (regime : PortfolioRegime),
      candidate.Labelled label → keeps pass.logEvents pass.engine →
        keeps (pass.handleCandidate request selectedFamily regime candidate).logEvents
          (pass.handleCandidate request selectedFamily regime candidate).engine) :
    keeps (engine.evaluate request).1.logEvents (engine.evaluate request).2 := by
  have hphase : ∃ outcomes events engine₁,
      (if engine.config.executionMode = .liveTrading then ([], [], engine)
        else engine.processDueOrders request) = (outcomes, events, engine₁) ∧
      keeps [] engine₁ := by
    by_cases hmode : engine.config.executionMode = .liveTrading
    · rw [if_pos hmode]
      exact ⟨_, _, _, rfl, hlive hmode⟩
    · rw [if_neg hmode]
      exact ⟨_, _, _, rfl, hdue hmode⟩
  obtain ⟨outcomes, events, engine₁, hphase, hkept⟩ := hphase
  unfold evaluate
  rw [hphase]
  dsimp only
  split
  · exact hkept
  · have hcandidates := collectCandidates_labelled hlabelled engine₁.config request
      engine₁.strategies engine₁.rejectionTracker
    generalize collectCandidates engine₁.config request engine₁.strategies
      engine₁.rejectionTracker = collected at hcandidates ⊢
    rcases collected with ⟨candidates, strategies, rejectionTracker⟩
    refine List.foldlRecOn
      (motive := fun pass : DecisionPass σ => keeps pass.logEvents pass.engine) candidates
      _ (hstrategies engine₁ strategies rejectionTracker hkept) ?_
    intro pass hpass candidate hmem
    exact hcandidate pass candidate _ _ (hcandidates candidate hmem) hpass

theorem processedOutcomes_evaluate (engine : RuntimeDecisionEngine σ)
    (request : RuntimeDecisionRequest) (hmode : engine.config.executionMode ≠ .liveTrading) :
    (engine.evaluate request).1.processedOutcomes = (engine.processDueOrders request).1 := by
  unfold evaluate
  rw [if_neg hmode]
  dsimp only
  split
  · rfl
  · rfl

end RuntimeDecisionEngine

end BubaPaint
