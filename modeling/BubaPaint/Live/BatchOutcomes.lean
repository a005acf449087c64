import BubaPaint.Live.SubmissionWorker

/-!
# Outcomes of a batch

Two questions about the feedback of one batch, asked of every request, every reply of the venue and
every database failure: whether a one-legged spread always ends in the unknown-order state, and
whether each order is settled once without freeing capital the venue may have used.

Main results:

- Theorem `batch_releases_safely_iff`: when each order of a batch is settled once and safely.
- Theorem `spread_terminal_iff`: when a one-legged spread ends in the unknown-order state.
-/

namespace BubaPaint

open Effects Program List LiveSubmissionFeedback

/-! ## Settling each order once -/

/-- What the feedback says about one order. -/
inductive Settlement where
  | filled (fillPrice filledSize : ℚ)
  | released
  | unsettled
  deriving DecidableEq

def settlementOf : LiveSubmissionOrderResult → Settlement
  | .filled acceptedSize fillPrice _ => .filled fillPrice acceptedSize
  | .rejected _ | .dryRun _ | .blocked _ _ (some _) => .released
  | .blocked _ _ none => .unsettled

def fillOf : QueuedOrderIntent × Settlement → Option LiveOrderFillFeedback
  | (order, .filled fillPrice filledSize) =>
    some { signalId := order.signalId, fillPrice := fillPrice, filledSize := filledSize }
  | _ => none

/-- The release entry of a settled order: its strategy with exactly its own reserved cost. -/
def releaseOf : QueuedOrderIntent × Settlement → Option (String × ℚ)
  | (order, .released) => some (order.strategy, order.reservedCost)
  | _ => none

def rejectedOf : QueuedOrderIntent × Settlement → Option ℤ
  | (order, .released) => some order.signalId
  | _ => none

/-- The feedback settles every order of the list once: the fills, the releases and the rejected
signals are those of the settlements, and an unsettled order comes with a state update. -/
structure SettlesOnce (orders : List QueuedOrderIntent) (feedback : LiveSubmissionFeedback)
    (settlements : List (QueuedOrderIntent × Settlement)) : Prop where
  orders : settlements.map Prod.fst = orders
  fills : feedback.fills = settlements.filterMap fillOf
  releases : feedback.releases = settlements.filterMap releaseOf
  rejected : feedback.rejectedSignalIds = settlements.filterMap rejectedOf
  unsettled : ∀ order, (order, Settlement.unsettled) ∈ settlements → feedback.stateUpdate.isSome

/-- The settlements behind a batch: those of its order runs, and releases for the rest. -/
def settlementsOf (orders : List QueuedOrderIntent) (runs : List OrderRun) :
    List (QueuedOrderIntent × Settlement) :=
  (runs.map fun run => (run.order, settlementOf run.result)) ++
    (orders.drop runs.length).map fun order => (order, .released)

variable {orders : List QueuedOrderIntent} {feedback : LiveSubmissionFeedback}
variable {settlements : List (QueuedOrderIntent × Settlement)}

/-- Settling one more result extends a settled prefix. -/
theorem SettlesOnce.settleResult (h : SettlesOnce orders feedback settlements)
    (order : QueuedOrderIntent) {result : LiveSubmissionOrderResult}
    (hrelease : ∀ amount, result.released? = some amount → amount = order.reservedCost) :
    SettlesOnce (orders ++ [order]) (settleResult feedback order result)
      (settlements ++ [(order, settlementOf result)]) := by
  have hunsettled : settlementOf result ≠ .unsettled → ∀ order',
      (order', Settlement.unsettled) ∈ settlements ++ [(order, settlementOf result)] →
        feedback.stateUpdate.isSome := by
    intro hne order' hmem
    rcases mem_append.mp hmem with hold | hnew
    · exact h.unsettled order' hold
    · rw [mem_singleton, Prod.mk.injEq] at hnew
      exact absurd hnew.2.symm hne
  cases result with
  | filled acceptedSize fillPrice liveOrderId =>
    constructor
    · simp [h.orders]
    · simp [BubaPaint.settleResult, fill, settlementOf, fillOf, h.fills]
    · simp [BubaPaint.settleResult, fill, settlementOf, releaseOf, h.releases]
    · simp [BubaPaint.settleResult, fill, settlementOf, rejectedOf, h.rejected]
    · exact hunsettled (by simp [settlementOf])
  | rejected release | dryRun release =>
    obtain rfl := hrelease release rfl
    constructor
    · simp [h.orders]
    · simp [BubaPaint.settleResult, release, settlementOf, fillOf, h.fills]
    · simp [BubaPaint.settleResult, release, settlementOf, releaseOf, h.releases]
    · simp [BubaPaint.settleResult, release, settlementOf, rejectedOf, h.rejected]
    · exact hunsettled (by simp [settlementOf])
  | blocked state reason release =>
    cases release with
    | some amount =>
      obtain rfl := hrelease amount rfl
      constructor
      · simp [h.orders]
      · simp [BubaPaint.settleResult, release, settlementOf, fillOf, h.fills]
      · simp [BubaPaint.settleResult, release, settlementOf, releaseOf, h.releases]
      · simp [BubaPaint.settleResult, release, settlementOf, rejectedOf, h.rejected]
      · intro _ _
        rfl
    | none =>
      constructor
      · simp [h.orders]
      · simp [BubaPaint.settleResult, settlementOf, fillOf, h.fills]
      · simp [BubaPaint.settleResult, settlementOf, releaseOf, h.releases]
      · simp [BubaPaint.settleResult, settlementOf, rejectedOf, h.rejected]
      · intro _ _
        rfl

theorem SettlesOnce.releaseUnsubmitted (h : SettlesOnce orders feedback settlements)
    (rest : List QueuedOrderIntent) :
    SettlesOnce (orders ++ rest) (releaseUnsubmittedOrdersAfterBlock feedback rest)
      (settlements ++ rest.map fun order => (order, .released)) := by
  rw [releaseUnsubmittedOrdersAfterBlock_eq]
  constructor
  · simp [h.orders, Function.comp_def]
  · simp [h.fills, filterMap_map, Function.comp_def, fillOf]
  · simp [h.releases, filterMap_map, Function.comp_def, releaseOf]
  · simp [h.rejected, filterMap_map, Function.comp_def, rejectedOf]
  · intro order hmem
    simp only [mem_append, mem_map, Prod.mk.injEq, reduceCtorEq, and_false,
      exists_false, or_false] at hmem
    exact h.unsettled order hmem

theorem settleRuns_settlesOnce (done : List QueuedOrderIntent) (runs : List OrderRun)
    (unsubmitted : List QueuedOrderIntent) (feedback : LiveSubmissionFeedback)
    (settlements : List (QueuedOrderIntent × Settlement))
    (h : SettlesOnce done feedback settlements)
    (houtcome : ∀ run ∈ runs,
      OutcomeOf run.order (venueReplies run.calls) (orderStored run.calls) run.result) :
    SettlesOnce (done ++ (runs.map OrderRun.order ++ unsubmitted))
      (settleRuns feedback (runs.map OrderRun.order ++ unsubmitted) runs)
      (settlements ++ settlementsOf (runs.map OrderRun.order ++ unsubmitted) runs) := by
  induction runs generalizing done feedback settlements with
  | nil =>
    have hrest := h.releaseUnsubmitted unsubmitted
    cases unsubmitted <;> simpa [settleRuns, settlementsOf] using hrest
  | cons run runs ih =>
    have hstep := h.settleResult run.order fun amount hamount =>
      (houtcome run mem_cons_self).released_eq hamount
    have hrest := ih (done ++ [run.order]) _ _ hstep fun r hr =>
      houtcome r (mem_cons_of_mem _ hr)
    simpa [settleRuns, settlementsOf] using hrest

theorem SettlesOnce.withStateUpdate (h : SettlesOnce orders feedback settlements)
    (update : LiveSubmissionStateUpdate) :
    SettlesOnce orders { feedback with stateUpdate := some update } settlements :=
  ⟨h.orders, h.fills, h.releases, h.rejected, fun _ _ => rfl⟩

section Batches

variable (config : Config) (sessionId : ℕ) (request : LiveSubmissionRequest)
variable (oracle : ℕ → Answer) (world : World)

/-- In every run of the batch the feedback settles each order of the request once. -/
theorem batchFeedback_settlesOnce :
    SettlesOnce request.orders
      (Live.run (submitLiveOrdersFromWorker config sessionId request) oracle world).1
      (settlementsOf request.orders
        (orderRuns config sessionId request request.orders oracle world)) := by
  rw [run_submitLiveOrdersFromWorker]
  have houtcome := orderRuns_outcome config sessionId request request.orders oracle world
  obtain ⟨unsubmitted, horders, -⟩ :=
    orderRuns_orders config sessionId request request.orders oracle world
  generalize orderRuns config sessionId request request.orders oracle world = runs at *
  have hempty : SettlesOnce [] (.start request.nowMs) [] :=
    ⟨rfl, rfl, rfl, rfl, by simp⟩
  have hloop := settleRuns_settlesOnce [] runs unsubmitted _ [] hempty houtcome
  simp only [nil_append, ← horders] at hloop
  unfold batchFeedback
  simp only
  split
  · exact hloop.withStateUpdate _
  · exact hloop

end Batches

/-! ## Freed capital -/

/-- The venue definitely did not take the order: each of its replies is a response whose status is
not blocking and that refuses the order or accepts nothing of it. -/
def DefinitelyNotTaken (replies : List (Except String LiveOrderIntentResponse)) : Prop :=
  ∀ reply ∈ replies, ∃ response, reply = .ok response ∧
    liveOrderResponseIsBlocking response = false ∧
    (response.ok = false ∨ ∃ acceptedSize, response.acceptedSize = some acceptedSize ∧
      acceptedSize ≤ 0)

/-- The feedback settles each order once, and releases none that the venue may have taken: a
submitted order is released only if the venue definitely did not take it, and the orders that have
no order run were never sent to the venue. -/
structure SettlesSafely (orders : List QueuedOrderIntent) (runs : List OrderRun)
    (calls : List Exchange) (feedback : LiveSubmissionFeedback) : Prop where
  once : SettlesOnce orders feedback (settlementsOf orders runs)
  notTaken : ∀ run ∈ runs, settlementOf run.result = .released →
    DefinitelyNotTaken (venueReplies run.calls)
  unsent : venueReplies calls = runs.flatMap fun run => venueReplies run.calls

/-- The venue answered the order with a blocking status that refuses it or accepts nothing of it,
and the response was stored. -/
def AnsweredBlocking (run : OrderRun) : Prop :=
  ∃ response, venueReplies run.calls = [.ok response] ∧ orderStored run.calls = true ∧
    liveOrderResponseIsBlocking response = true ∧
    (response.ok = false ∨ ∃ acceptedSize, response.acceptedSize = some acceptedSize ∧
      acceptedSize ≤ 0)

variable {run first second : OrderRun} {state : ControlState} {reason : String}
variable {release : Option ℚ} {a b : QueuedOrderIntent} {feedback : LiveSubmissionFeedback}

theorem ResponseOutcome.released_iff {order : QueuedOrderIntent}
    {response : LiveOrderIntentResponse} {result : LiveSubmissionOrderResult}
    (h : ResponseOutcome order response result) :
    settlementOf result = .released ↔
      response.ok = false ∨ ∃ acceptedSize, response.acceptedSize = some acceptedSize ∧
        acceptedSize ≤ 0 := by
  unfold ResponseOutcome at h
  split at h <;> rename_i hok
  · split at h
    · obtain ⟨reason, rfl⟩ := h
      simp [settlementOf, hok]
    · subst h
      simp [settlementOf, hok]
  · split at h <;> rename_i hsize
    · obtain ⟨reason, rfl⟩ := h
      simp [settlementOf, hok, hsize]
    · split at h <;> rename_i hnonpos
      · subst h
        simp [settlementOf, hok, hsize, hnonpos]
      · split at h
        · obtain ⟨reason, rfl⟩ := h
          simp [settlementOf, hok, hsize, hnonpos]
        · obtain ⟨liveOrderId, rfl⟩ := h
          simp [settlementOf, hok, hsize, hnonpos]

theorem notTaken_iff
    (h : OutcomeOf run.order (venueReplies run.calls) (orderStored run.calls) run.result) :
    (settlementOf run.result = .released → DefinitelyNotTaken (venueReplies run.calls)) ↔
      ¬ AnsweredBlocking run := by
  unfold AnsweredBlocking
  generalize venueReplies run.calls = replies at *
  generalize orderStored run.calls = stored at *
  rcases replies with _ | ⟨(error | response), _ | ⟨reply, replies⟩⟩
  · simp [DefinitelyNotTaken]
  · obtain ⟨reason, hresult⟩ := h
    simp [hresult, settlementOf]
  · exact h.elim
  · cases stored with
    | false =>
      obtain ⟨reason, hresult⟩ := h
      simp [hresult, settlementOf]
    | true =>
      have houtcome : ResponseOutcome run.order response run.result := h
      rw [houtcome.released_iff]
      constructor
      · rintro hsafe ⟨response', hreply, -, hblocking, hrefused⟩
        cases hreply
        obtain ⟨response', hreply, hnot, -⟩ := hsafe hrefused (.ok response) (by simp)
        cases hreply
        rw [hblocking] at hnot
        cases hnot
      · intro hnot hrefused reply hreply
        obtain rfl := mem_singleton.mp hreply
        refine ⟨response, rfl, ?_, hrefused⟩
        by_contra hblocking
        exact hnot ⟨response, rfl, rfl, by simpa using hblocking, hrefused⟩
  · exact h.elim

/-- For every request, every venue reply and every database failure: the feedback settles each order
once and frees no capital the venue may have used, exactly when the venue answered no order of the
batch with a stored blocking response that refuses it or accepts nothing of it. -/
theorem batch_releases_safely_iff (config : Config) (sessionId : ℕ)
    (request : LiveSubmissionRequest) (oracle : ℕ → Answer) (world : World) :
    SettlesSafely request.orders (orderRuns config sessionId request request.orders oracle world)
        ((Live.run (submitLiveOrdersFromWorker config sessionId request) oracle
          world).2.exchanges.drop world.exchanges.length)
        (Live.run (submitLiveOrdersFromWorker config sessionId request) oracle world).1 ↔
      ∀ run ∈ orderRuns config sessionId request request.orders oracle world,
        ¬ AnsweredBlocking run := by
  have houtcome := orderRuns_outcome config sessionId request request.orders oracle world
  constructor
  · intro hsafe run hrun
    exact (notTaken_iff (houtcome run hrun)).mp (hsafe.notTaken run hrun)
  · intro hnone
    obtain ⟨own, hown, hreplies⟩ :=
      submitLiveOrdersFromWorker_venueReplies config sessionId request oracle world
    refine ⟨batchFeedback_settlesOnce config sessionId request oracle world, ?_, ?_⟩
    · intro run hrun
      exact (notTaken_iff (houtcome run hrun)).mpr (hnone run hrun)
    · rw [hown, drop_left, hreplies]

def timeoutAnswer : Answer :=
  { sampleAnswer 1000 with submitOrderIntent := .ok (sampleResponse false "timeout" none) }

/-- An order answered with a timeout is released, although the venue may have taken it. -/
theorem batch_releases_timed_out_order :
    ¬ SettlesSafely sampleSingle.orders
      (orderRuns sampleConfig 1 sampleSingle sampleSingle.orders (fun _ => timeoutAnswer)
        sampleWorld)
      ((Live.run (submitLiveOrdersFromWorker sampleConfig 1 sampleSingle)
        (fun _ => timeoutAnswer) sampleWorld).2.exchanges.drop sampleWorld.exchanges.length)
      (Live.run (submitLiveOrdersFromWorker sampleConfig 1 sampleSingle) (fun _ => timeoutAnswer)
        sampleWorld).1 := by
  intro hsafe
  have hnotTaken := hsafe.notTaken (orderRun sampleConfig 1 sampleSingle (sampleOrder 1 .up)
    (fun _ => timeoutAnswer) sampleWorld)
  have hrun : orderRuns sampleConfig 1 sampleSingle sampleSingle.orders (fun _ => timeoutAnswer)
      sampleWorld = [orderRun sampleConfig 1 sampleSingle (sampleOrder 1 .up)
        (fun _ => timeoutAnswer) sampleWorld] :=
    orderRuns_singleton ..
  have hreleased : settlementOf (orderRun sampleConfig 1 sampleSingle (sampleOrder 1 .up)
      (fun _ => timeoutAnswer) sampleWorld).result = .released := by
    decide +kernel
  have hblocking : ((venueReplies (orderRun sampleConfig 1 sampleSingle (sampleOrder 1 .up)
      (fun _ => timeoutAnswer) sampleWorld).calls).any fun reply =>
        match reply with
        | .ok response => liveOrderResponseIsBlocking response
        | .error _ => false) = true := by
    decide +kernel
  rw [any_eq_true] at hblocking
  obtain ⟨reply, hreply, hblocks⟩ := hblocking
  obtain ⟨response, rfl, hnot, -⟩ := hnotTaken (by simp [hrun]) hreleased reply hreply
  simp only [hnot, Bool.false_eq_true] at hblocks

/-! ## The two legs of a spread -/

/-- A leg whose fill is unknown: it ended as an unknown order, or was blocked after its venue
call. -/
def FillUnknown (run : OrderRun) : Prop :=
  (∃ reason release, run.result = .blocked .unknownOrder reason release) ∨
    (venueReplies run.calls ≠ [] ∧ run.result.isBlocked = true)

/-- What the feedback of a spread has to say: the unknown-order state when exactly one leg filled or
the fill of a leg is unknown, and no state when both legs filled or both were rejected. -/
structure SpreadSettled (runs : List OrderRun) (feedback : LiveSubmissionFeedback) : Prop where
  residual : (filledRuns runs = 1 ∨ ∃ run ∈ runs, FillUnknown run) →
    ∃ reason, feedback.stateUpdate = some { state := .unknownOrder, reason := reason }
  complete : runs.length = 2 →
    ((∀ run ∈ runs, run.result.isFilled = true) ∨
      ∀ run ∈ runs, ∃ release, run.result = .rejected release) →
    feedback.stateUpdate = none

/-- The first leg filled and the second was disarmed by a failure before its venue call. -/
def SecondLegDisarmed (runs : List OrderRun) : Prop :=
  ∃ first second reason release, runs = [first, second] ∧ first.result.isFilled = true ∧
    second.result = .blocked .disarmed reason release

theorem stateUpdate_batchFeedback_one (request : LiveSubmissionRequest) (run : OrderRun)
    (hresult : run.result = .blocked state reason release) (horders : request.orders = [a, b]) :
    (batchFeedback request [run]).stateUpdate = some { state := state, reason := reason } := by
  unfold batchFeedback
  rw [horders]
  simp [settleRuns, settleResult, hresult, releaseUnsubmittedOrdersAfterBlock_eq]

theorem stateUpdate_batchFeedback_two (request : LiveSubmissionRequest) (first second : OrderRun)
    (hfirst : first.result.isBlocked = false) (horders : request.orders = [a, b])
    (hspread : a.strategy = spreadCapture ∨ b.strategy = spreadCapture) :
    (batchFeedback request [first, second]).stateUpdate =
      match second.result with
      | .blocked state reason _ => some { state := state, reason := reason }
      | _ =>
        if filledRuns [first, second] = 1 then
          some { state := .unknownOrder, reason := "spread residual exposure detected" }
        else
          none := by
  have hany : (request.orders.any fun order => order.strategy == spreadCapture) = true := by
    rw [horders]
    simpa using hspread
  unfold batchFeedback
  rw [hany, horders]
  cases hone : first.result with
  | blocked state reason release => simp [hone, LiveSubmissionOrderResult.isBlocked] at hfirst
  | _ =>
    cases htwo : second.result with
    | blocked state reason release =>
      simp [settleRuns, settleResult, hone, htwo, releaseUnsubmittedOrdersAfterBlock_eq]
    | _ =>
      simp only [settleRuns, settleResult, hone, htwo, releaseUnsubmittedOrdersAfterBlock_eq,
        stateUpdate_start, stateUpdate_release, stateUpdate_fill, Option.isNone_none,
          length_cons,
        length_nil, true_and]
      split <;> rfl

theorem orderRuns_pair (config : Config) (sessionId : ℕ) (request : LiveSubmissionRequest)
    (a b : QueuedOrderIntent) (oracle : ℕ → Answer) (world : World) :
    (∃ run, orderRuns config sessionId request [a, b] oracle world = [run] ∧
      run.result.isBlocked = true) ∨
    ∃ first second, orderRuns config sessionId request [a, b] oracle world = [first, second] ∧
      first.result.isBlocked = false := by
  rw [orderRuns]
  split <;> rename_i hblocked
  · exact .inl ⟨_, rfl, hblocked⟩
  · rw [orderRuns_singleton]
    exact .inr ⟨_, _, rfl, Bool.eq_false_iff.mpr hblocked⟩

theorem not_fillUnknown (h : run.result.isBlocked = false) : ¬ FillUnknown run := by
  rintro (⟨reason, release, hresult⟩ | ⟨-, hblocked⟩)
  · rw [hresult] at h
    cases h
  · rw [h] at hblocked
    cases hblocked

theorem FillUnknown.state_eq (h : FillUnknown run)
    (hresult : run.result = .blocked state reason release)
    (houtcome : OutcomeOf run.order (venueReplies run.calls) (orderStored run.calls) run.result) :
    state = .unknownOrder := by
  rw [hresult] at houtcome
  rcases houtcome.blocked_state with hstate | ⟨-, hreplies⟩
  · exact hstate
  · rcases h with ⟨reason', release', hunknown⟩ | ⟨hcalled, -⟩
    · rw [hresult] at hunknown
      cases hunknown
      rfl
    · exact absurd hreplies hcalled

theorem spreadSettled_one (hresult : run.result = .blocked state reason release)
    (houtcome : OutcomeOf run.order (venueReplies run.calls) (orderStored run.calls) run.result)
    (hupdate : feedback.stateUpdate = some { state := state, reason := reason }) :
    SpreadSettled [run] feedback := by
  constructor
  · rintro (hone | ⟨run', hmem, hunknown⟩)
    · simp [hresult] at hone
    · obtain rfl := mem_singleton.mp hmem
      rw [hunknown.state_eq hresult houtcome] at hupdate
      exact ⟨reason, hupdate⟩
  · intro hlength
    simp at hlength

theorem spreadSettled_blocked_iff (hfirst : first.result.isBlocked = false)
    (hresult : second.result = .blocked state reason release)
    (houtcome : OutcomeOf second.order (venueReplies second.calls) (orderStored second.calls)
      second.result) (hupdate : feedback.stateUpdate = some { state := state, reason := reason }) :
    SpreadSettled [first, second] feedback ↔
      ¬ (first.result.isFilled = true ∧ state = .disarmed) := by
  have hcomplete : ¬ ((∀ run ∈ [first, second], run.result.isFilled = true) ∨
      ∀ run ∈ [first, second], ∃ release, run.result = .rejected release) := by
    rintro (hall | hall)
    · have hsecond := hall second (by simp)
      simp [hresult] at hsecond
    · obtain ⟨release', hsecond⟩ := hall second (by simp)
      rw [hresult] at hsecond
      cases hsecond
  constructor
  · rintro hsettled ⟨hfilled, rfl⟩
    have hone : filledRuns [first, second] = 1 := by
      simp [hfilled, hresult]
    obtain ⟨reason', hreason⟩ := hsettled.residual (.inl hone)
    rw [hupdate] at hreason
    cases hreason
  · intro hnot
    refine ⟨?_, fun _ h => absurd h hcomplete⟩
    rintro (hone | ⟨run, hmem, hunknown⟩)
    · have hfilled : first.result.isFilled = true := by
        by_contra hnotFilled
        simp [hnotFilled, hresult] at hone
      rw [hresult] at houtcome
      rcases houtcome.blocked_state with rfl | ⟨hdisarmed, -⟩
      · exact ⟨reason, hupdate⟩
      · exact absurd ⟨hfilled, hdisarmed⟩ hnot
    · rcases mem_pair.mp hmem with rfl | rfl
      · exact absurd hunknown (not_fillUnknown hfirst)
      · rw [hunknown.state_eq hresult houtcome] at hupdate
        exact ⟨reason, hupdate⟩

theorem spreadSettled_two {residual : LiveSubmissionStateUpdate}
    (hresidual : residual.state = .unknownOrder) (hfirst : first.result.isBlocked = false)
    (hsecond : second.result.isBlocked = false)
    (hupdate : feedback.stateUpdate =
      if filledRuns [first, second] = 1 then some residual else none) :
    SpreadSettled [first, second] feedback := by
  constructor
  · rintro (hone | ⟨run, hmem, hunknown⟩)
    · rw [if_pos hone] at hupdate
      refine ⟨residual.reason, ?_⟩
      rw [hupdate, ← hresidual]
    · rcases mem_pair.mp hmem with rfl | rfl
      · exact absurd hunknown (not_fillUnknown hfirst)
      · exact absurd hunknown (not_fillUnknown hsecond)
  · rintro - (hall | hall)
    · have hone := hall first (by simp)
      have htwo := hall second (by simp)
      rw [hupdate, if_neg]
      simp [hone, htwo]
    · obtain ⟨release, hone⟩ := hall first (by simp)
      obtain ⟨release', htwo⟩ := hall second (by simp)
      rw [hupdate, if_neg]
      simp [hone, htwo]

/-- For every spread, every venue reply and every database failure: the feedback is what a
one-legged or complete spread needs, exactly when it is not the case that the first leg filled and
the second was disarmed before its venue call. -/
theorem spread_terminal_iff (config : Config) (sessionId : ℕ) (request : LiveSubmissionRequest)
    (a b : QueuedOrderIntent) (horders : request.orders = [a, b])
    (hspread : a.strategy = spreadCapture ∨ b.strategy = spreadCapture) (oracle : ℕ → Answer)
    (world : World) :
    SpreadSettled (orderRuns config sessionId request request.orders oracle world)
        (Live.run (submitLiveOrdersFromWorker config sessionId request) oracle world).1 ↔
      ¬ SecondLegDisarmed (orderRuns config sessionId request request.orders oracle world) := by
  rw [run_submitLiveOrdersFromWorker]
  have houtcome := orderRuns_outcome config sessionId request request.orders oracle world
  have hpair := orderRuns_pair config sessionId request a b oracle world
  rw [← horders] at hpair
  generalize orderRuns config sessionId request request.orders oracle world = runs at *
  rcases hpair with ⟨run, rfl, hblocked⟩ | ⟨first, second, rfl, hfirst⟩
  · have hnot : ¬ SecondLegDisarmed [run] := by
      rintro ⟨first, second, reason, release, hruns, -⟩
      simp at hruns
    cases hresult : run.result with
    | blocked state reason release =>
      have hupdate := stateUpdate_batchFeedback_one request run hresult horders
      exact iff_of_true (spreadSettled_one hresult (houtcome run (by simp)) hupdate) hnot
    | _ => simp [hresult, LiveSubmissionOrderResult.isBlocked] at hblocked
  · have hupdate := stateUpdate_batchFeedback_two request first second hfirst horders hspread
    cases hresult : second.result with
    | blocked state reason release =>
      rw [hresult] at hupdate
      rw [spreadSettled_blocked_iff hfirst hresult (houtcome second (by simp)) hupdate]
      apply not_congr
      constructor
      · rintro ⟨hfilled, rfl⟩
        exact ⟨first, second, reason, release, rfl, hfilled, hresult⟩
      · rintro ⟨first', second', reason', release', hruns, hfilled, hdisarmed⟩
        obtain ⟨rfl, rfl⟩ := hruns
        rw [hresult] at hdisarmed
        cases hdisarmed
        exact ⟨hfilled, rfl⟩
    | _ =>
      have hsecond : second.result.isBlocked = false := by
        rw [hresult]
        rfl
      rw [hresult] at hupdate
      refine iff_of_true (spreadSettled_two rfl hfirst hsecond hupdate) ?_
      rintro ⟨first', second', reason, release, hruns, -, hdisarmed⟩
      obtain ⟨rfl, rfl⟩ := hruns
      rw [hresult] at hdisarmed
      cases hdisarmed

/-- A database failure at the second leg's intent, after the first leg filled. -/
def secondLegFailure : ℕ → Answer
  | 11 => sampleFailure 1000
  | _ => sampleAnswer 1000

/-- The first leg fills, the second cannot persist its intent: the feedback only disarms. -/
theorem spread_not_terminal :
    sampleSpread.orders.length = 2 ∧
      (∀ order ∈ sampleSpread.orders, order.strategy = spreadCapture) ∧
      ¬ SpreadSettled
        (orderRuns sampleConfig 1 sampleSpread sampleSpread.orders secondLegFailure sampleWorld)
        (Live.run (submitLiveOrdersFromWorker sampleConfig 1 sampleSpread) secondLegFailure
          sampleWorld).1 := by
  refine ⟨rfl, by decide, ?_⟩
  intro hsettled
  have hone : filledRuns (orderRuns sampleConfig 1 sampleSpread sampleSpread.orders
      secondLegFailure sampleWorld) = 1 := by
    decide +kernel
  have hdisarmed : ((Live.run (submitLiveOrdersFromWorker sampleConfig 1 sampleSpread)
      secondLegFailure sampleWorld).1.stateUpdate.map fun update => update.state) =
        some .disarmed := by
    decide +kernel
  obtain ⟨reason, hreason⟩ := hsettled.residual (.inl hone)
  rw [hreason] at hdisarmed
  cases hdisarmed

/-- With a healthy database both legs of the sample spread fill and the feedback is settled. -/
theorem spread_terminal_iff_sample :
    SpreadSettled
        (orderRuns sampleConfig 1 sampleSpread sampleSpread.orders (fun _ => sampleAnswer 1000)
          sampleWorld)
        (Live.run (submitLiveOrdersFromWorker sampleConfig 1 sampleSpread)
          (fun _ => sampleAnswer 1000) sampleWorld).1 ↔
      ¬ SecondLegDisarmed
        (orderRuns sampleConfig 1 sampleSpread sampleSpread.orders (fun _ => sampleAnswer 1000)
          sampleWorld) :=
  spread_terminal_iff sampleConfig 1 sampleSpread (sampleOrder 1 .up) (sampleOrder 2 .down) rfl
    (.inl rfl) (fun _ => sampleAnswer 1000) sampleWorld

end BubaPaint
