import BubaPaint.Decision.EngineOrders
import BubaPaint.Replay.PaperPipeline
import BubaPaint.Replay.PaperVerdicts

/-!
# Conservation of orders

Each order that either engine queues is filled, missed or still pending. The execution engine gives
every spread an id of its own, so that its loop tallies the legs of one spread only.

Main results:

- Theorem `orders_conserved`: in every run each order is pending or ends once.
-/

namespace BubaPaint

open Effects List PaperDueOrders PaperState

namespace PaperState

/-- The queue and the counters of the execution engine. -/
def tally (state : PaperState) : OrderTally where
  pending := state.engine.pendingOrders.map (·.intent)
  filledOrders := state.engine.stats.filledOrders
  noFills := state.engine.stats.noFills
  spreadLeggingFailures := state.engine.stats.spreadLeggingFailures

theorem engine_releaseSurplus (state : PaperState) (order : PendingOrder) (fillCost : ℚ) :
    (state.releaseSurplus order fillCost).engine = state.engine := by
  unfold releaseSurplus
  split <;> rfl

end PaperState

/-! ## Due orders -/

namespace PaperDueOrders

variable (context : DueOrderContext) (config : Config)

def verdict (order : QueuedOrderIntent) : OrderVerdict :=
  orderVerdict config context.currentWindow context.bookState context.now order

def loopTally (due : PaperDueOrders) : LoopTally where
  tally := { due.state.tally with pending := due.remaining.map (·.intent) }
  ended := due.state.engine.recentOutcomes.map (·.ended)
  groups := due.groupOutcomes

theorem loopTally_step (due : PaperDueOrders) (order : PendingOrder) :
    (due.step context config order).loopTally =
      due.loopTally.step (verdict context config) order.intent := by
  unfold step LoopTally.step recordVerdict verdict
  rw [processDueOrder_eq]
  unfold PendingOrder.verdict
  cases orderVerdict config context.currentWindow context.bookState context.now order.intent with
  | deferred => simp [OrderVerdict.disposition, loopTally, OrderTally.push]
  | missed trackGroup reason book =>
    simp [OrderVerdict.disposition, loopTally, rejectOrder, tally,
      ProcessedOrderOutcome.ended, releaseReserved, PendingOrder.intent,
      missedOrderContext]
    rfl
  | filled book filledSize =>
    simp [OrderVerdict.disposition, loopTally, fillDueOrder, tally,
      ProcessedOrderOutcome.ended, recordFill, PendingOrder.intent,
      engine_releaseSurplus]

theorem loopTally_foldl (orders : List PendingOrder) (due : PaperDueOrders) :
    (orders.foldl (step context config) due).loopTally =
      (orders.map (·.intent)).foldl (LoopTally.step (verdict context config)) due.loopTally := by
  induction orders generalizing due with
  | nil => rfl
  | cons order rest ih =>
    rw [foldl_cons, ih, loopTally_step, map_cons, foldl_cons]

end PaperDueOrders

namespace PaperState

variable (state : PaperState) (context : DueOrderContext) (config : Config)

def addedOutcomes (after : PaperState) : List ProcessedOrderOutcome :=
  after.engine.recentOutcomes.drop state.engine.recentOutcomes.length

/-- The loop over the due orders puts the queue to the verdict of its context, and reports the
ends. -/
theorem tally_processDueOrders :
    (state.processDueOrders context config).2.tally =
        state.tally.decide (verdict context config) ∧
      (state.addedOutcomes (state.processDueOrders context config).2).map (·.ended) =
        decidedOutcomes (verdict context config) state.tally.pending := by
  have hloop := loopTally_foldl context config state.engine.pendingOrders
    { state := { state with engine.pendingOrders := [] }, remaining := [], opened := [],
      groupOutcomes := [] }
  rw [LoopTally.foldl_step] at hloop
  unfold addedOutcomes processDueOrders
  generalize state.engine.pendingOrders.foldl (step context config) _ = due at hloop ⊢
  have htally := congrArg LoopTally.tally hloop
  have hended := congrArg LoopTally.ended hloop
  have hgroups := congrArg LoopTally.groups hloop
  simp only [loopTally, tally, map_nil, nil_append, OrderTally.mk.injEq] at htally hended hgroups
  obtain ⟨hremaining, hfilled, hmissed, hfailures⟩ := htally
  constructor
  · unfold recordLeggingFailures OrderTally.decide tally leggingFailures
    simp only [hremaining, hfilled, hmissed, hfailures, hgroups]
  · unfold recordLeggingFailures
    rw [map_drop, hended]
    exact drop_left' (length_map _)

theorem nextGroupId_processDueOrders :
    (state.processDueOrders context config).2.engine.nextGroupId = state.engine.nextGroupId := by
  refine List.foldlRecOn
    (motive := fun due : PaperDueOrders =>
      due.state.engine.nextGroupId = state.engine.nextGroupId)
    state.engine.pendingOrders (step context config) rfl ?_
  intro due hdue order _
  unfold step
  rw [processDueOrder_eq]
  cases order.verdict context config with
  | deferred => exact hdue
  | missed trackGroup reason book => exact hdue
  | filled book filledSize =>
    unfold fillDueOrder recordFill
    dsimp only
    rw [engine_releaseSurplus]
    exact hdue

/-! ## Submissions -/

/-- The orders of a submission that wait in the queue: in live mode the venue keeps them. -/
def keptOrders (config : Config) (orders : List QueuedOrderIntent) : List QueuedOrderIntent :=
  if config.executionMode = .liveTrading then [] else orders

theorem tally_pushPendingOrder (order : PendingOrder) :
    (state.pushPendingOrder order config).tally =
      state.tally.push (keptOrders config [order.intent]) := by
  unfold pushPendingOrder keptOrders
  by_cases hmode : config.executionMode = .liveTrading
  · simp [hmode]
  · simp [hmode, tally, OrderTally.push]

/-- A submission queues the orders it reports unless the venue keeps them. They belong together,
and the group of a spread gets the next id. -/
structure QueuesKept (state : PaperState) (config : Config)
    (result : SubmissionOutcome × PaperState) : Prop where
  group : OrderGroup result.1.orders
  tally : result.2.tally = state.tally.push (keptOrders config result.1.orders)
  groupId : (groupIdOf result.1.orders = none ∧
      result.2.engine.nextGroupId = state.engine.nextGroupId) ∨
    (groupIdOf result.1.orders = some s!"spread-{state.engine.nextGroupId}" ∧
      result.2.engine.nextGroupId = state.engine.nextGroupId + 1)

variable {state} in
theorem tally_of_engine {state' : PaperState} (h : state'.engine = state.engine) :
    state'.tally = state.tally := by
  unfold tally
  rw [h]

@[simp]
theorem keptOrders_nil : keptOrders config [] = [] := by
  unfold keptOrders
  split <;> rfl

variable (signals : List Signal) (window : MarketWindow)

theorem engine_updateSpreadSignalMetrics (signalIds : List ℤ) (arrivalTs : Option ℕ)
    (decisionStatus : String) (rejectionReason : Option String) :
    (state.updateSpreadSignalMetrics signals signalIds arrivalTs decisionStatus
      rejectionReason).engine = state.engine := by
  obtain ⟨signalMetrics, hmetrics⟩ := state.exists_updateSpreadSignalMetrics_eq signals signalIds
    arrivalTs decisionStatus rejectionReason
  rw [hmetrics]

theorem engine_logSpreadSignals (arrivalTs : ℕ) (signals : List Signal) :
    (state.logSpreadSignals window arrivalTs signals).2.engine = state.engine := by
  obtain ⟨signalIds, rows, hlogged, _⟩ := state.exists_logSpreadSignals_eq window arrivalTs signals
  rw [hlogged]

variable {state config}

theorem QueuesKept.of_none {result : SubmissionOutcome × PaperState}
    (hnone : result.1.orders = []) (hengine : result.2.engine = state.engine) :
    QueuesKept state config result where
  group := hnone ▸ .nil
  tally := by
    rw [hnone, keptOrders_nil, OrderTally.push_nil, tally_of_engine hengine]
  groupId := .inl ⟨hnone ▸ rfl, hengine ▸ rfl⟩

theorem QueuesKept.rejectSpread {state' : PaperState} (hengine : state'.engine = state.engine)
    (signals : List Signal) (signalIds : List ℤ) (reason : String) :
    QueuesKept state config (state'.rejectSpreadSubmission signals signalIds reason) :=
  .of_none rfl ((engine_updateSpreadSignalMetrics _ _ _ _ _ _).trans hengine)

variable (state config)

theorem submitSingle_kept (signal : Signal) (window : MarketWindow) (nowMs : ℕ) :
    QueuesKept state config (state.submitSingle signal window config nowMs) := by
  unfold submitSingle
  dsimp only
  split
  · exact .of_none rfl rfl
  split
  · exact .of_none rfl rfl
  split
  · exact .of_none rfl rfl
  · unfold queueSingleSubmission
    refine ⟨.single _ rfl, ?_, .inl ⟨rfl, ?_⟩⟩
    · exact tally_pushPendingOrder _ _ _
    · unfold pushPendingOrder
      split <;> rfl

theorem keptOrders_append (orders orders' : List QueuedOrderIntent) :
    keptOrders config orders ++ keptOrders config orders' =
      keptOrders config (orders ++ orders') := by
  unfold keptOrders
  split <;> rfl

theorem queueSpreadSubmissionOrders_kept {upSignal downSignal : Signal}
    (hup : upSignal.direction = .up) (hdown : downSignal.direction = .down)
    (upSignalId downSignalId : ℤ) (window : MarketWindow) (arrivalTs : ℕ)
    (upTokens downTokens : ℚ) :
    let result := state.queueSpreadSubmissionOrders upSignal downSignal upSignalId downSignalId
      window arrivalTs upTokens downTokens config
    OrderGroup result.1 ∧ result.2.tally = state.tally.push (keptOrders config result.1) ∧
      groupIdOf result.1 = some s!"spread-{state.engine.nextGroupId}" ∧
      result.2.engine.nextGroupId = state.engine.nextGroupId + 1 := by
  unfold queueSpreadSubmissionOrders
  refine ⟨.spread _ _ _ rfl rfl rfl rfl ⟨hup, hdown⟩, ?_, rfl, ?_⟩
  · rw [tally_pushPendingOrder, tally_pushPendingOrder, OrderTally.push_push, keptOrders_append]
    rfl
  · unfold pushPendingOrder
    split <;> rfl

theorem submitSpread_kept (nowMs : ℕ) :
    QueuesKept state config (state.submitSpread signals window config nowMs) := by
  unfold submitSpread
  dsimp only
  have hengine := state.engine_logSpreadSignals window (spreadArrivalTs signals config nowMs)
    signals
  generalize state.logSpreadSignals window (spreadArrivalTs signals config nowMs) signals = logged
    at hengine ⊢
  rcases logged with ⟨signalIds, logged⟩
  split
  · exact .rejectSpread hengine _ _ _
  cases hpair : spreadSignalPair signals signalIds with
  | none => exact .of_none rfl hengine
  | some legs =>
    rcases legs with ⟨upSignal, downSignal, upSignalId, downSignalId⟩
    obtain ⟨⟨hup, -⟩, ⟨hdown, -⟩, -⟩ := spreadSignalPair_spec hpair
    dsimp only
    split
    · exact .rejectSpread hengine _ _ _
    split
    · refine .rejectSpread ?_ _ _ _
      exact hengine
    split
    · refine .rejectSpread ?_ _ _ _
      exact hengine
    · obtain ⟨hgroup, htally, hid, hnext⟩ := queueSpreadSubmissionOrders_kept
        { logged with bankroll := (logged.bankroll.reserveSpreadCapital upSignal.upAsk
          downSignal.downAsk config nowMs).2 }
        config hup hdown upSignalId downSignalId window (spreadArrivalTs signals config nowMs)
        (logged.bankroll.reserveSpreadCapital upSignal.upAsk downSignal.downAsk config nowMs).1.1
        (logged.bankroll.reserveSpreadCapital upSignal.upAsk downSignal.downAsk config nowMs).1.2
      refine ⟨hgroup, ?_, .inr ⟨?_, ?_⟩⟩
      · refine (tally_of_engine (engine_updateSpreadSignalMetrics _ _ _ _ _ _)).trans
          (htally.trans (congrArg (OrderTally.push · _) (tally_of_engine ?_)))
        exact hengine
      · rw [← hengine]
        exact hid
      · rw [engine_updateSpreadSignalMetrics, hnext, hengine]

end PaperState

def groupIds (docket : OrderDocket) : List String :=
  docket.filterMap fun group => groupIdOf (group.map (·.item))

theorem groupIds_decide (docket : OrderDocket)
    (verdict : QueuedOrderIntent → Option OrderOutcomeDisposition) :
    groupIds (docket.decide verdict) = groupIds docket := by
  unfold groupIds Docket.decide
  rw [filterMap_map]
  refine congrArg (List.filterMap · docket) (funext fun group => ?_)
  simp only [Function.comp_apply, map_map]
  rfl

theorem groupIds_add (docket : OrderDocket) (orders : List QueuedOrderIntent) :
    groupIds (docket.add orders) = groupIds docket ++ (groupIdOf orders).toList := by
  unfold groupIds Docket.add
  rw [filterMap_append]
  refine congrArg _ ?_
  have hitems : (orders.map (Docketed.fresh (β := OrderOutcomeDisposition))).map (·.item) =
      orders := by
    rw [map_map]
    exact map_id orders
  rw [filterMap_cons, hitems]
  cases groupIdOf orders <;> rfl

theorem nodup_trackedGroupIds_of_groupIds {docket : OrderDocket}
    (hgroups : ∀ group ∈ docket, DocketGroup group) (hdistinct : (groupIds docket).Nodup)
    (verdict : QueuedOrderIntent → OrderVerdict) :
    ((docket.map pendingPart).filterMap (trackedGroupId verdict)).Nodup := by
  have hid : ∀ group ∈ docket, ∀ id, trackedGroupId verdict (pendingPart group) = some id →
      groupIdOf (group.map (·.item)) = some id := by
    intro group hgroup id htracked
    rcases (hgroups group hgroup).together with hpending | hended
    · rw [pendingPart_of_pending hpending] at htracked
      unfold trackedGroupId at htracked
      split at htracked
      · rename_i heq
        rw [heq]
        split at htracked
        · exact htracked
        · cases htracked
      · cases htracked
    · rw [pendingPart_of_ended hended] at htracked
      cases htracked
  rw [filterMap_map]
  refine pairwise_filterMap.mpr ((pairwise_filterMap.mp hdistinct).imp_of_mem ?_)
  intro first second hfirst hsecond hapart id hidFirst id' hidSecond
  exact hapart id (hid first hfirst id hidFirst) id' (hid second hsecond id' hidSecond)

theorem groupId_injective {n m : ℕ} (h : s!"spread-{n}" = s!"spread-{m}") : n = m := by
  have hrepr : n.repr = m.repr := (String.append_right_inj "spread-").mp h
  have hdigits : Nat.toDigits 10 n = Nat.toDigits 10 m := by
    rw [← Nat.toList_repr, ← Nat.toList_repr, hrepr]
  rw [← Nat.ofDigitChars_ten_toDigits (n := n), hdigits, Nat.ofDigitChars_ten_toDigits]

/-! ## Runs -/

/-- What is done with the execution engine. Between its calls the rest of the run changes the
database and the bankroll at will. -/
inductive PaperOrderAction where
  | submitSingle (signal : Signal) (window : MarketWindow) (config : Config) (nowMs : ℕ)
  | submitSpread (signals : List Signal) (window : MarketWindow) (config : Config) (nowMs : ℕ)
  | processDueOrders (context : DueOrderContext) (config : Config)
  | takeRecentOutcomes
  | elsewhere (db : ResultsDb) (bankroll : BankrollManager)

namespace PaperState

def act (state : PaperState) : PaperOrderAction → PaperState
  | .submitSingle signal window config nowMs => (state.submitSingle signal window config nowMs).2
  | .submitSpread signals window config nowMs => (state.submitSpread signals window config nowMs).2
  | .processDueOrders context config => (state.processDueOrders context config).2
  | .takeRecentOutcomes => state.takeRecentOutcomes.2
  | .elsewhere db bankroll => { state with db := db, bankroll := bankroll }

def recordOrders (history : OrderHistory) (state : PaperState) : PaperOrderAction → OrderHistory
  | .submitSingle signal window config nowMs =>
    history.submitted (keptOrders config (state.submitSingle signal window config nowMs).1.orders)
  | .submitSpread signals window config nowMs =>
    history.submitted (keptOrders config (state.submitSpread signals window config nowMs).1.orders)
  | .processDueOrders context config =>
    history.processed (verdict context config)
      (state.addedOutcomes (state.processDueOrders context config).2)
  | .takeRecentOutcomes | .elsewhere .. => history

end PaperState

def paperOrderSystem : System PaperState PaperOrderAction OrderHistory where
  step state action := some (state.act action)
  record history state action _ := state.recordOrders history action

/-- What every action keeps. -/
structure PaperOrders (history : OrderHistory) (state : PaperState) : Prop where
  tallied : Tallied history.docket history.ended state.tally
  distinct : (groupIds history.docket).Nodup
  drawn : ∀ id ∈ groupIds history.docket, ∃ n < state.engine.nextGroupId, id = s!"spread-{n}"

namespace PaperOrders

variable {history : OrderHistory} {state : PaperState}

/-- A submission queues under an id that is new. -/
theorem submit (h : PaperOrders history state) {config : Config}
    {result : SubmissionOutcome × PaperState} (hkept : state.QueuesKept config result) :
    PaperOrders (history.submitted (keptOrders config result.1.orders)) result.2 := by
  have hgroup : OrderGroup (keptOrders config result.1.orders) := by
    unfold keptOrders
    split
    · exact .nil
    · exact hkept.group
  have hmore : state.engine.nextGroupId ≤ result.2.engine.nextGroupId := by
    rcases hkept.groupId with ⟨-, hsame⟩ | ⟨-, hnext⟩
    · exact hsame.ge
    · omega
  have hids : groupIdOf (keptOrders config result.1.orders) = none ∨
      (groupIdOf (keptOrders config result.1.orders) =
          some s!"spread-{state.engine.nextGroupId}" ∧
        state.engine.nextGroupId < result.2.engine.nextGroupId) := by
    unfold keptOrders
    split
    · exact .inl rfl
    · rcases hkept.groupId with ⟨hnone, -⟩ | ⟨hid, hnext⟩
      · exact .inl hnone
      · exact .inr ⟨hid, by omega⟩
  refine ⟨hkept.tally ▸ h.tallied.add hgroup, ?_, ?_⟩
  · change (groupIds (history.docket.add _)).Nodup
    rw [groupIds_add]
    rcases hids with hnone | ⟨hid, -⟩
    · rw [hnone]
      simpa using h.distinct
    · rw [hid]
      refine nodup_append.mpr ⟨h.distinct, nodup_singleton _, ?_⟩
      intro old hold new hnew heq
      obtain ⟨n, hn, hdrawn⟩ := h.drawn old hold
      rw [mem_singleton.mp hnew, hdrawn] at heq
      exact absurd (groupId_injective heq) hn.ne
  · change ∀ id ∈ groupIds (history.docket.add _), _
    rw [groupIds_add, forall_mem_append]
    constructor
    · intro id hid
      obtain ⟨n, hn, hdrawn⟩ := h.drawn id hid
      exact ⟨n, hn.trans_le hmore, hdrawn⟩
    · intro id hid
      rcases hids with hnone | ⟨hnew, hless⟩
      · rw [hnone] at hid
        cases hid
      · rw [hnew] at hid
        exact ⟨_, hless, mem_singleton.mp hid⟩

theorem act (h : PaperOrders history state) (action : PaperOrderAction) :
    PaperOrders (state.recordOrders history action) (state.act action) := by
  cases action with
  | submitSingle signal window config nowMs =>
    exact h.submit (state.submitSingle_kept config signal window nowMs)
  | submitSpread signals window config nowMs =>
    exact h.submit (state.submitSpread_kept config signals window nowMs)
  | processDueOrders context config =>
    obtain ⟨htally, houtcomes⟩ := state.tally_processDueOrders context config
    have halike : DecidesAlike (verdict context config) :=
      fun _ _ hmarket harrival => alike_orderVerdict hmarket harrival
    have hdecided := h.tallied.decide halike
      (nodup_trackedGroupIds_of_groupIds h.tallied.groups h.distinct (verdict context config))
    rw [← htally, ← houtcomes] at hdecided
    refine ⟨hdecided, ?_, ?_⟩
    · exact (groupIds_decide history.docket _).symm ▸ h.distinct
    · intro id hid
      have hold : id ∈ groupIds history.docket := groupIds_decide history.docket _ ▸ hid
      obtain ⟨n, hn, hdrawn⟩ := h.drawn id hold
      rw [← state.nextGroupId_processDueOrders context config] at hn
      exact ⟨n, hn, hdrawn⟩
  | takeRecentOutcomes => exact ⟨h.tallied, h.distinct, h.drawn⟩
  | elsewhere db bankroll => exact ⟨h.tallied, h.distinct, h.drawn⟩

end PaperOrders

/-- In every run of the execution engine, whatever happens to the database and the bankroll between
its calls, and in every run of the decision engine outside of live mode, every order that was queued
is filled, missed or pending, each ends once at most, and the legging failures are the spreads with
exactly one filled leg. -/
theorem orders_conserved (σ : Type) [Strategy σ] [LawfulStrategy σ] :
    (∀ (db : ResultsDb) (bankroll : BankrollManager) (history : OrderHistory) (state : PaperState),
      paperOrderSystem.Run (fun _ _ _ _ => True)
          (.none, { engine := .new, db := db, bankroll := bankroll }) history state →
        OrdersConserved history state.tally) ∧
      ∀ (config : Config) (strategies : List σ) (seed : RuntimeDecisionSeed)
        (history : OrderHistory) (engine : RuntimeDecisionEngine σ),
        config.executionMode ≠ .liveTrading →
        engineOrderSystem.Run (fun _ _ message _ => Unanswered message)
            (.none, .new config strategies seed) history engine →
          OrdersConserved history engine.tally := by
  constructor
  · intro db bankroll history state hrun
    have hkept : PaperOrders history state := by
      refine hrun.invariant PaperOrders ⟨.nil, by simp [groupIds, OrderHistory.none], ?_⟩ ?_
      · intro id hid
        cases hid
      · intro history before action after hbefore hstep _
        cases hstep
        exact hbefore.act action
    exact hkept.tallied.ordersConserved
  · exact fun config strategies seed history engine hmode hrun => EngineOrders.run hmode hrun

def sampleLegSignal (timestamp : ℕ) (direction : SignalDirection) : Signal where
  timestamp := timestamp
  strategy := "spread-capture"
  direction := direction
  confidence := 1
  upAsk := 2 / 5
  downAsk := 2 / 5

/-- A spread of which only one leg meets a book, and a single order that is filled. -/
theorem orders_conserved_sample :
    (∃ history, ∃ state : PaperState,
      history.docket.entries.length = 3 ∧ state.tally.pending = [] ∧
        state.tally.spreadLeggingFailures = 1 ∧ OrdersConserved history state.tally) ∧
      ∃ history, ∃ engine : RuntimeDecisionEngine SampleStrategy,
        history.docket.entries.length = 1 ∧ engine.tally.filledOrders = 1 ∧
          OrdersConserved history engine.tally := by
  constructor
  · have hfollow : (paperOrderSystem.follow (fun _ _ _ _ => true)
        [.submitSingle (sampleLatencySignal 1000) (sampleWindow "market" 10000)
            samplePaperConfig 1000,
          .submitSpread [sampleLegSignal 1000 .up, sampleLegSignal 1000 .down]
            (sampleWindow "market" 10000) samplePaperConfig 1000,
          .processDueOrders
            { now := 2000, nowUs := none, currentWindow := some (sampleWindow "market" 10000),
              bookState := { sampleBook 2000 with down := none } } samplePaperConfig]
        (.none, { engine := .new, db := .new,
                  bankroll := .newInMemory 1000 1000 samplePaperConfig })).any (fun reached =>
          decide (reached.1.docket.entries.length = 3 ∧ reached.2.tally.pending = [] ∧
            reached.2.tally.spreadLeggingFailures = 1)) = true := by
      decide +kernel
    obtain ⟨history, state, hrun, hproperty⟩ := System.exists_run_of_follow hfollow
      fun _ _ _ _ _ => trivial
    obtain ⟨hqueued, hpending, hlegging⟩ := of_decide_eq_true hproperty
    exact ⟨history, state, hqueued, hpending, hlegging,
      (orders_conserved SampleStrategy).1 _ _ history state hrun⟩
  · have hfollow : (engineOrderSystem.follow (fun _ _ message _ => decide (Unanswered message))
        [.evaluate (sampleDecision (sampleWindow "market" 10000) 1000),
          .evaluate (sampleDecision (sampleWindow "market" 10000) 2000)]
        (.none, RuntimeDecisionEngine.new samplePaperConfig [SampleStrategy.mk .up]
          sampleSeed)).any (fun reached =>
          decide (reached.1.docket.entries.length = 1 ∧
            reached.2.tally.filledOrders = 1)) = true := by
      decide +kernel
    obtain ⟨history, engine, hrun, hproperty⟩ := System.exists_run_of_follow hfollow
      fun _ _ _ _ => of_decide_eq_true
    obtain ⟨hqueued, hfilled⟩ := of_decide_eq_true hproperty
    exact ⟨history, engine, hqueued, hfilled,
      (orders_conserved SampleStrategy).2 samplePaperConfig _ _ history engine (by decide) hrun⟩

end BubaPaint
