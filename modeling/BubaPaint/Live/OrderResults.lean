import BubaPaint.Live.OrderSubmission

/-!
# Results of one order and the calls behind them

The result of one order is a function of how far it got: whether the venue was called, what it
replied, and whether the reply was stored. This file states that function as a relation between a
result and the exchanges that led to it and proves it for the whole submission path.

Main results:

- Theorem `submitOneLiveOrderFromWorker_emits`: a result follows from the calls behind it.
-/

namespace BubaPaint

open Effects Program LiveCall

def venueReplies (seen : List Exchange) : List (Except String LiveOrderIntentResponse) :=
  seen.filterMap fun exchange =>
    match exchange with
    | ⟨.submitOrderIntent _, reply⟩ => some reply
    | _ => none

def orderStored (seen : List Exchange) : Bool :=
  seen.any fun exchange =>
    match exchange with
    | ⟨.database (.logLiveOrder _), .ok _⟩ => true
    | _ => false

/-- Calls that neither submit an order nor store an order row. -/
def LiveCall.neutral : LiveCall → Prop
  | .submitOrderIntent _ | .database (.logLiveOrder _) => False
  | _ => True

variable {own : List Exchange} {order : QueuedOrderIntent} {result : LiveSubmissionOrderResult}
variable {amount : ℚ} {replies : List (Except String LiveOrderIntentResponse)} {stored : Bool}
variable (seen seen' : List Exchange) (sessionId intentId nowMs : ℕ) (c : LiveCall)

theorem LiveCall.neutral_of_leavesOrders (h : c.leavesOrders) : c.neutral := by
  cases c with
  | submitOrderIntent request => exact h
  | database call =>
    cases call with
    | logLiveOrder order => exact h
    | _ => trivial
  | _ => trivial

@[simp]
theorem venueReplies_append :
    venueReplies (seen ++ seen') = venueReplies seen ++ venueReplies seen' := by
  simp [venueReplies]

@[simp]
theorem orderStored_append :
    orderStored (seen ++ seen') = (orderStored seen || orderStored seen') := by
  simp [orderStored]

theorem venueReplies_of_neutral (h : ∀ x ∈ own, x.1.neutral) : venueReplies own = [] := by
  unfold venueReplies
  rw [List.filterMap_eq_nil_iff]
  rintro ⟨call, reply⟩ hx
  have hneutral := h _ hx
  cases call with
  | submitOrderIntent request => exact hneutral.elim
  | _ => rfl

theorem orderStored_of_neutral (h : ∀ x ∈ own, x.1.neutral) : orderStored own = false := by
  unfold orderStored
  rw [List.any_eq_false]
  rintro ⟨call, reply⟩ hx
  have hneutral := h _ hx
  cases call with
  | database call =>
    cases call with
    | logLiveOrder order => exact hneutral.elim
    | _ => simp
  | _ => simp

theorem emits_of_neutral {α : Type} {post : α → Prop} {p : Live α}
    (h : Always neutral post p) (seen : List Exchange) :
    Emits (fun a seen' => post a ∧ venueReplies seen' = venueReplies seen ∧
      orderStored seen' = orderStored seen) p seen := by
  refine (h.emits seen).mono ?_
  rintro a _ ⟨hpost, own, rfl, hown⟩
  refine ⟨hpost, ?_, ?_⟩
  · rw [venueReplies_append, venueReplies_of_neutral hown, List.append_nil]
  · rw [orderStored_append, orderStored_of_neutral hown, Bool.or_false]

/-! ## What a result says about the order -/

/-- The tolerance within which an accepted size counts as the requested one. -/
def fillTolerance (order : QueuedOrderIntent) : ℚ :=
  max f64Epsilon (|order.requestedSize| * 4 * f64Epsilon)

/-- The result of a stored venue response. -/
def ResponseOutcome (order : QueuedOrderIntent) (response : LiveOrderIntentResponse)
    (result : LiveSubmissionOrderResult) : Prop :=
  if response.ok = false then
    if liveOrderResponseIsBlocking response then
      ∃ reason, result = .blocked .unknownOrder reason (some order.reservedCost)
    else
      result = .rejected order.reservedCost
  else
    match response.acceptedSize with
    | none => ∃ reason, result = .blocked .unknownOrder reason none
    | some acceptedSize =>
      if acceptedSize ≤ 0 then
        result = .rejected order.reservedCost
      else if acceptedSize > order.requestedSize + fillTolerance order ∨
          acceptedSize + fillTolerance order < order.requestedSize then
        ∃ reason, result = .blocked .unknownOrder reason none
      else
        ∃ liveOrderId,
          result = .filled acceptedSize (liveResponseFillPrice order response) liveOrderId

/-- The result of an order, by the venue's replies and whether an order row was stored. -/
def OutcomeOf (order : QueuedOrderIntent) (replies : List (Except String LiveOrderIntentResponse))
    (stored : Bool) (result : LiveSubmissionOrderResult) : Prop :=
  match replies with
  | [] =>
    result = .rejected order.reservedCost ∨ result = .dryRun order.reservedCost ∨
      (∃ reason, result = .blocked .disarmed reason (some order.reservedCost)) ∨
      ∃ reason, result = .blocked .unknownOrder reason none
  | [.error _] => ∃ reason, result = .blocked .unknownOrder reason none
  | [.ok response] =>
    if stored then ResponseOutcome order response result
    else ∃ reason, result = .blocked .unknownOrder reason none
  | _ => False

def LiveSubmissionOrderResult.released? : LiveSubmissionOrderResult → Option ℚ
  | .filled .. => none
  | .rejected release | .dryRun release => some release
  | .blocked _ _ release => release

theorem ResponseOutcome.released_eq {response : LiveOrderIntentResponse}
    (h : ResponseOutcome order response result) (hamount : result.released? = some amount) :
    amount = order.reservedCost := by
  unfold ResponseOutcome at h
  split at h
  · split at h
    · obtain ⟨reason, rfl⟩ := h
      exact (Option.some.inj hamount).symm
    · subst h
      exact (Option.some.inj hamount).symm
  · split at h
    · obtain ⟨reason, rfl⟩ := h
      cases hamount
    · split at h
      · subst h
        exact (Option.some.inj hamount).symm
      · split at h
        · obtain ⟨reason, rfl⟩ := h
          cases hamount
        · obtain ⟨liveOrderId, rfl⟩ := h
          cases hamount

/-- A release is always the reserved cost of its own order. -/
theorem OutcomeOf.released_eq (h : OutcomeOf order replies stored result)
    (hamount : result.released? = some amount) : amount = order.reservedCost := by
  rcases replies with _ | ⟨(error | response), _ | ⟨reply, replies⟩⟩
  · rcases h with rfl | rfl | ⟨reason, rfl⟩ | ⟨reason, rfl⟩
    · exact (Option.some.inj hamount).symm
    · exact (Option.some.inj hamount).symm
    · exact (Option.some.inj hamount).symm
    · cases hamount
  · obtain ⟨reason, rfl⟩ := h
    cases hamount
  · exact h.elim
  · cases stored with
    | true => exact ResponseOutcome.released_eq h hamount
    | false =>
      obtain ⟨reason, rfl⟩ := h
      cases hamount
  · exact h.elim

/-- A blocked order is unknown, unless it was disarmed before its venue call. -/
theorem OutcomeOf.blocked_state {state : ControlState} {reason : String} {release : Option ℚ}
    (h : OutcomeOf order replies stored (.blocked state reason release)) :
    state = .unknownOrder ∨ state = .disarmed ∧ replies = [] := by
  have hunknown : ∀ {reason' : String},
      LiveSubmissionOrderResult.blocked state reason release =
        .blocked .unknownOrder reason' none → state = .unknownOrder := by
    intro reason' heq
    cases heq
    rfl
  rcases replies with _ | ⟨(error | response), _ | ⟨reply, replies⟩⟩
  · rcases h with heq | heq | ⟨reason', heq⟩ | ⟨reason', heq⟩
    · cases heq
    · cases heq
    · cases heq
      exact .inr ⟨rfl, rfl⟩
    · exact .inl (hunknown heq)
  · obtain ⟨reason', heq⟩ := h
    exact .inl (hunknown heq)
  · exact h.elim
  · cases stored with
    | true =>
      simp only [OutcomeOf, if_true, ResponseOutcome] at h
      split at h
      · split at h
        · obtain ⟨reason', heq⟩ := h
          cases heq
          exact .inl rfl
        · cases h
      · split at h
        · obtain ⟨reason', heq⟩ := h
          exact .inl (hunknown heq)
        · split at h
          · cases h
          · split at h
            · obtain ⟨reason', heq⟩ := h
              exact .inl (hunknown heq)
            · obtain ⟨liveOrderId, heq⟩ := h
              cases heq
    | false =>
      obtain ⟨reason', heq⟩ := h
      exact .inl (hunknown heq)
  · exact h.elim

theorem LiveCall.neutral_of_books (h : c.books nowMs) : c.neutral :=
  neutral_of_leavesOrders c (leavesOrders_of_books h)

/-! ## The steps of the path -/

theorem persistLiveWorkerState_always (state : ControlState) (actor reason : String) (nowMs : ℕ) :
    Always (books nowMs) (fun _ => True)
      (persistLiveWorkerState sessionId state actor reason nowMs).run := by
  have hrecord := recordLiveControlState_always sessionId state actor reason nowMs
  unfold persistLiveWorkerState
  simp only [always_run_bind, ExceptT.run_mk, call_eq, always_request, always_pure,
    forall_except, afterOk_ok, afterOk_error, books, leavesOrders,
    DatabaseCall.leavesOrders, true_and, and_true, forall_const]
  refine hrecord.mono (fun _ h => h) ?_
  rintro (error | stateId) _ <;>
    simp [books, leavesOrders, DatabaseCall.leavesOrders]

theorem blockLiveResponseWithState_always (reason : String) (release : Option ℚ) :
    Always (books nowMs) (fun result => result = .blocked .unknownOrder reason release)
      (blockLiveResponseWithState sessionId nowMs reason release) := by
  have hpersist := persistLiveWorkerState_always sessionId .unknownOrder "system" reason nowMs
  unfold blockLiveResponseWithState
  rw [always_bind]
  exact hpersist.mono (fun _ h => h) fun _ _ => rfl

theorem persistLiveOrderIntentFromWorker_always (input : LiveOrderWorkerSubmission) (notional : ℚ) :
    Always neutral (fun _ => True) (persistLiveOrderIntentFromWorker input notional).run := by
  unfold persistLiveOrderIntentFromWorker liveDecisionEvidenceFromEvent
  simp only [always_run_bind, ExceptT.run_mk, call_eq, always_request, always_pure,
    forall_except, afterOk_ok, afterOk_error, neutral, true_and, and_true, forall_const]
  split
  · split <;> simp [neutral]
  · simp

/-- Calls that keep books at one time, or write the row of one intent. -/
def LiveCall.prepares (intentId nowMs : ℕ) : LiveCall → Prop
  | .database (.tryReserveVenueAttempt id ..) | .database (.markLiveOrderIntentDryRun id) |
    .database (.markLiveOrderIntentSubmitting id) => id = intentId
  | c => c.books nowMs

theorem LiveCall.prepares_of_books (h : c.books nowMs) : c.prepares intentId nowMs := by
  cases c with
  | database call => cases call <;> first | exact h | exact h.elim
  | _ => exact h

theorem LiveCall.neutral_of_prepares (h : c.prepares intentId nowMs) : c.neutral := by
  cases c with
  | database call => cases call <;> trivial
  | submitOrderIntent request => exact h
  | _ => trivial

theorem reserveLiveOrderSubmission_always (maxSessionOrders maxSessionFills : ℕ)
    (reservedCost : ℚ) :
    Always (prepares intentId nowMs)
      (fun r => ∀ result, r = .error result → result = .rejected reservedCost ∨
        ∃ reason, result = .blocked .unknownOrder reason none)
      (reserveLiveOrderSubmission sessionId intentId nowMs maxSessionOrders maxSessionFills
        reservedCost) := by
  have hblock : ∀ reason, Always (prepares intentId nowMs)
      (fun blocked => blocked = .blocked .unknownOrder reason none)
      (blockLiveResponseWithState sessionId nowMs reason none) := by
    intro reason
    exact (blockLiveResponseWithState_always sessionId nowMs reason none).mono
      (prepares_of_books intentId nowMs) fun _ h => h
  unfold reserveLiveOrderSubmission
  simp only [always_bind, call_eq, always_request, always_pure, forall_except]
  refine ⟨trivial, ?_, by simp⟩
  intro _
  refine ⟨trivial, ?_, by simp⟩
  rintro (_ | existing)
  · simp only [always_bind, always_request, always_pure, forall_except]
    refine ⟨rfl, ?_, by simp⟩
    rintro (_ | _ | _)
    · simp
    · simp only [always_bind]
      refine (hblock _).mono (fun _ h => h) ?_
      rintro _ rfl
      simp
    · simp
  · simp only [always_bind]
    refine (hblock _).mono (fun _ h => h) ?_
    rintro _ rfl
    simp

theorem dryRunLiveOrderOutcome_always (order : QueuedOrderIntent)
    (request : LiveOrderIntentRequest) (nowMs : ℕ) :
    Always (prepares intentId nowMs) (fun result => result = .dryRun order.reservedCost)
      (dryRunLiveOrderOutcome sessionId intentId order request nowMs) := by
  unfold dryRunLiveOrderOutcome
  simp [forall_except, prepares, books, leavesOrders, DatabaseCall.leavesOrders]

theorem markIntentSubmittingOrBlock_always (reservedCost : ℚ) :
    Always (prepares intentId nowMs)
      (fun r => ∀ result, r = some result →
        ∃ reason, result = .blocked .disarmed reason (some reservedCost))
      (markIntentSubmittingOrBlock intentId reservedCost) := by
  unfold markIntentSubmittingOrBlock
  simp [forall_except, prepares, books, leavesOrders, DatabaseCall.leavesOrders]

theorem persistResponseFillFromWorker_always (liveOrderId nowMs : ℕ)
    (response : LiveOrderIntentResponse) (fillPrice : ℚ) :
    Always (fun c => ∃ fill, c = .database (.logLiveFill fill)) (fun _ => True)
      (persistResponseFillFromWorker sessionId intentId liveOrderId nowMs response
        fillPrice).run := by
  unfold persistResponseFillFromWorker
  cases response.acceptedSize with
  | none => trivial
  | some acceptedSize =>
    simp only
    split <;> simp

/-- The classification of the accepted size of a positive response. -/
def ClassifiedSize (order : QueuedOrderIntent) (response : LiveOrderIntentResponse) :
    Except LiveSubmissionOrderResult (Option ℚ) → Prop
  | .ok none => ∃ acceptedSize, response.acceptedSize = some acceptedSize ∧ acceptedSize ≤ 0
  | .ok (some acceptedSize) =>
    response.acceptedSize = some acceptedSize ∧ ¬ acceptedSize ≤ 0 ∧
      ¬ (acceptedSize > order.requestedSize + fillTolerance order ∨
        acceptedSize + fillTolerance order < order.requestedSize)
  | .error result =>
    (∃ reason, result = .blocked .unknownOrder reason none) ∧
      ∀ acceptedSize, response.acceptedSize = some acceptedSize → ¬ acceptedSize ≤ 0 ∧
        (acceptedSize > order.requestedSize + fillTolerance order ∨
          acceptedSize + fillTolerance order < order.requestedSize)

theorem classifyAcceptedLiveSize_always (order : QueuedOrderIntent) (nowMs : ℕ)
    (response : LiveOrderIntentResponse) :
    Always (books nowMs) (ClassifiedSize order response)
      (classifyAcceptedLiveSize sessionId order nowMs response) := by
  have hblock := fun reason => blockLiveResponseWithState_always sessionId nowMs reason none
  unfold classifyAcceptedLiveSize
  cases hsize : response.acceptedSize with
  | none =>
    simp only [always_bind]
    refine (hblock _).mono (fun _ h => h) ?_
    rintro _ rfl
    simp [ClassifiedSize, hsize]
  | some acceptedSize =>
    simp only
    by_cases hnonpos : acceptedSize ≤ 0
    · rw [if_pos hnonpos]
      exact ⟨acceptedSize, hsize, hnonpos⟩
    · rw [if_neg hnonpos]
      by_cases hover : acceptedSize > order.requestedSize + fillTolerance order
      · rw [if_pos (by exact hover)]
        simp only [always_bind]
        refine (hblock _).mono (fun _ h => h) ?_
        rintro _ rfl
        refine ⟨⟨_, rfl⟩, ?_⟩
        intro size h
        rw [hsize] at h
        cases h
        exact ⟨hnonpos, .inl hover⟩
      · rw [if_neg (by exact hover)]
        by_cases hunder : acceptedSize + fillTolerance order < order.requestedSize
        · rw [if_pos (by exact hunder)]
          simp only [always_bind]
          refine (hblock _).mono (fun _ h => h) ?_
          rintro _ rfl
          refine ⟨⟨_, rfl⟩, ?_⟩
          intro size h
          rw [hsize] at h
          cases h
          exact ⟨hnonpos, .inr hunder⟩
        · rw [if_neg (by exact hunder)]
          exact ⟨hsize, hnonpos, not_or.mpr ⟨hover, hunder⟩⟩

/-! ## The response and the error of the venue -/

section Settling

variable {seen : List Exchange}
variable (config : Config) (sessionId : ℕ)

/-- The result of a stored response, given that the trace shows the response and the row. -/
theorem emits_settle (order : QueuedOrderIntent) (intentId liveOrderId nowMs : ℕ)
    (response : LiveOrderIntentResponse) (hok : response.ok = true)
    (hreplies : venueReplies seen = [.ok response]) (hstored : orderStored seen = true) :
    Emits (fun result seen' => OutcomeOf order (venueReplies seen') (orderStored seen') result)
      (classifyAcceptedLiveSize sessionId order nowMs response >>= fun classified =>
        settleClassifiedSize config sessionId order intentId liveOrderId nowMs response classified)
      seen := by
  have hclassify := classifyAcceptedLiveSize_always sessionId order nowMs response
  rw [emits_bind]
  refine (emits_of_neutral (hclassify.mono (neutral_of_books nowMs)
    fun _ h => h) _).mono ?_
  rintro (blocked | _ | acceptedSize) seen' ⟨hclass, hr, hs⟩
  · obtain ⟨⟨reason, rfl⟩, houtside⟩ := hclass
    rw [settleClassifiedSize, emits_pure, hr, hs, hreplies, hstored]
    simp only [OutcomeOf, ResponseOutcome, hok, if_true, Bool.true_eq_false, if_false]
    cases hsize : response.acceptedSize with
    | none => exact ⟨reason, rfl⟩
    | some acceptedSize =>
      obtain ⟨hpos, hout⟩ := houtside acceptedSize hsize
      simp only [if_neg hpos, if_pos hout]
      exact ⟨reason, rfl⟩
  · obtain ⟨acceptedSize, hsize, hnonpos⟩ := hclass
    rw [settleClassifiedSize, emits_pure, hr, hs, hreplies, hstored]
    simp [OutcomeOf, ResponseOutcome, hok, hsize, hnonpos]
  · obtain ⟨hsize, hpos, hwithin⟩ := hclass
    have hfill := persistResponseFillFromWorker_always sessionId intentId liveOrderId nowMs
      response (liveResponseFillPrice order response)
    simp only [settleClassifiedSize, emits_bind]
    refine (emits_of_neutral (hfill.mono (fun _ hfill => hfill.elim fun _ heq => heq ▸ trivial)
      fun _ h => h) _).mono ?_
    rintro _ seen'' ⟨-, hr', hs'⟩
    have houtcome : OutcomeOf order (venueReplies seen'') (orderStored seen'')
        (.filled acceptedSize (liveResponseFillPrice order response) liveOrderId) := by
      rw [hr', hs', hr, hs, hreplies, hstored]
      simp only [OutcomeOf, ResponseOutcome, hok, hsize, if_true, Bool.true_eq_false,
        if_false, if_neg hpos, if_neg hwithin]
      exact ⟨liveOrderId, rfl⟩
    by_cases hreconcile : config.liveOnchainReconcileEnabled
    · rw [if_pos hreconcile]
      simp only [emits_bind, call_eq, emits_request, emits_pure]
      intro _
      rw [venueReplies_append, orderStored_append]
      simpa [venueReplies, orderStored] using houtcome
    · rw [if_neg hreconcile]
      exact houtcome

/-- The result of a response fits the response and whether its row was stored. -/
theorem handleLiveOrderResponseFromWorker_emits (order : QueuedOrderIntent) (intentId nowMs : ℕ)
    (response : LiveOrderIntentResponse) (hreplies : venueReplies seen = [.ok response])
    (hstored : orderStored seen = false) :
    Emits (fun result seen' => OutcomeOf order (venueReplies seen') (orderStored seen') result)
      (handleLiveOrderResponseFromWorker config sessionId order intentId nowMs response) seen := by
  unfold handleLiveOrderResponseFromWorker persistOrderResponseFromWorker
  simp only [emits_bind, call_eq, emits_request, emits_pure, forall_except, ExceptT.run_mk]
  refine ⟨fun _ => ⟨?_, ?_⟩, ?_⟩
  · intro liveOrderId
    cases hok : response.ok with
    | false =>
      simp only [Bool.not_false, if_true]
      by_cases hblocking : liveOrderResponseIsBlocking response
      · rw [if_pos hblocking]
        have hblock := blockLiveResponseWithState_always sessionId nowMs
          "blocking venue order response" (some order.reservedCost)
        refine (emits_of_neutral (hblock.mono (neutral_of_books nowMs)
          fun _ h => h) _).mono ?_
        rintro _ _ ⟨rfl, hr, hs⟩
        rw [hr, hs, venueReplies_append, venueReplies_append, hreplies]
        simp [venueReplies, orderStored, OutcomeOf, ResponseOutcome, hok, hblocking]
      · rw [if_neg hblocking, emits_pure, venueReplies_append, venueReplies_append, hreplies]
        simp [venueReplies, orderStored, OutcomeOf, ResponseOutcome, hok, hblocking]
    | true =>
      refine emits_settle config sessionId order intentId liveOrderId nowMs response hok ?_ ?_
      · rw [venueReplies_append, venueReplies_append, hreplies]
        rfl
      · simp [orderStored]
  · intro error
    rw [venueReplies_append, venueReplies_append, orderStored_append, orderStored_append,
      hreplies, hstored]
    exact ⟨_, rfl⟩
  · intro error
    rw [venueReplies_append, orderStored_append, hreplies, hstored]
    exact ⟨_, rfl⟩

theorem handleLiveOrderErrorFromWorker_emits (order : QueuedOrderIntent)
    (request : LiveOrderIntentRequest) (intentId nowMs : ℕ) (errorMessage : String)
    (hreplies : venueReplies seen = [.error errorMessage]) :
    Emits (fun result seen' => OutcomeOf order (venueReplies seen') (orderStored seen') result)
      (handleLiveOrderErrorFromWorker sessionId order request intentId nowMs errorMessage)
      seen := by
  have hpersist := persistLiveWorkerState_always sessionId .unknownOrder "system"
    "sidecar order submission outcome unknown" nowMs
  have htail : ∀ seen' : List Exchange, venueReplies seen' = [.error errorMessage] →
      Emits (fun _ seen'' => OutcomeOf order (venueReplies seen'') (orderStored seen'')
          (.blocked .unknownOrder "sidecar order submission outcome unknown" none))
        (persistLiveWorkerState sessionId .unknownOrder "system"
          "sidecar order submission outcome unknown" nowMs).run seen' := by
    intro seen' hseen'
    refine (emits_of_neutral (hpersist.mono (neutral_of_books nowMs)
      fun _ h => h) seen').mono ?_
    rintro _ seen'' ⟨-, hr, -⟩
    rw [hr, hseen']
    exact ⟨_, rfl⟩
  unfold handleLiveOrderErrorFromWorker
  simp only [emits_bind, call_eq, emits_request, emits_pure, forall_except]
  have hgrown : ∀ own : List Exchange, venueReplies own = [] →
      venueReplies (seen ++ own) = [.error errorMessage] := by
    intro own hown
    rw [venueReplies_append, hreplies, hown]
    rfl
  simp only [List.append_assoc]
  refine ⟨fun _ => ⟨fun _ => ⟨fun _ => ⟨?_, ?_⟩, fun _ => ⟨?_, ?_⟩⟩,
    fun _ => ⟨fun _ => ⟨?_, ?_⟩, fun _ => ⟨?_, ?_⟩⟩⟩, fun _ => ⟨?_, ?_⟩⟩ <;>
  · intro _
    exact htail _ (hgrown _ rfl)

end Settling

/-- In every run of the submission path, whatever the database and the venue answer, the result of
the order fits the exchanges that led to it. -/
theorem submitOneLiveOrderFromWorker_emits (input : LiveOrderWorkerSubmission) :
    Emits (fun result seen =>
        OutcomeOf input.order (venueReplies seen) (orderStored seen) result)
      (submitOneLiveOrderFromWorker input) [] := by
  unfold submitOneLiveOrderFromWorker
  simp only [emits_bind]
  have hpersist := persistLiveOrderIntentFromWorker_always input
    (input.order.requestedPrice * input.order.requestedSize)
  refine (emits_of_neutral hpersist []).mono ?_
  rintro (error | ⟨intentId, _ | reason⟩) seen ⟨-, hr, hs⟩
  · rw [emits_pure, hr, hs]
    exact .inr (.inr (.inl ⟨_, rfl⟩))
  · simp only [emits_bind]
    have hreserve := reserveLiveOrderSubmission_always input.sessionId intentId input.nowMs
      input.config.liveMaxSessionOrders input.config.liveMaxSessionFills input.order.reservedCost
    refine (emits_of_neutral (hreserve.mono (neutral_of_prepares intentId input.nowMs)
      fun _ h => h) seen).mono ?_
    rintro (blocked | _) seen₁ ⟨hblocked, hr₁, hs₁⟩
    · rw [emits_pure, hr₁, hs₁, hr, hs]
      rcases hblocked blocked rfl with rfl | ⟨reason, rfl⟩
      · exact .inl rfl
      · exact .inr (.inr (.inr ⟨reason, rfl⟩))
    · by_cases hdry : input.config.liveDryRun
      · simp only [if_pos hdry]
        have hdryRun := dryRunLiveOrderOutcome_always input.sessionId intentId input.order
          (buildLiveOrderRequestFromWorker input.sessionId intentId input.order
            (input.order.requestedPrice * input.order.requestedSize)) input.nowMs
        refine (emits_of_neutral (hdryRun.mono (neutral_of_prepares intentId input.nowMs)
          fun _ h => h) seen₁).mono ?_
        rintro _ seen₂ ⟨rfl, hr₂, hs₂⟩
        rw [hr₂, hs₂, hr₁, hs₁, hr, hs]
        exact .inr (.inl rfl)
      · simp only [if_neg hdry, emits_bind]
        have hmark := markIntentSubmittingOrBlock_always intentId input.nowMs
          input.order.reservedCost
        refine (emits_of_neutral (hmark.mono (neutral_of_prepares intentId input.nowMs)
          fun _ h => h) seen₁).mono ?_
        rintro (_ | blocked) seen₂ ⟨hblocked, hr₂, hs₂⟩
        · simp only [call_eq, emits_bind, emits_request, emits_pure, forall_except]
          refine ⟨?_, ?_⟩
          · intro response
            apply handleLiveOrderResponseFromWorker_emits
            · rw [venueReplies_append, hr₂, hr₁, hr]
              rfl
            · rw [orderStored_append, hs₂, hs₁, hs]
              rfl
          · intro error
            apply handleLiveOrderErrorFromWorker_emits
            rw [venueReplies_append, hr₂, hr₁, hr]
            rfl
        · obtain ⟨reason, rfl⟩ := hblocked blocked rfl
          rw [emits_pure, hr₂, hs₂, hr₁, hs₁, hr, hs]
          exact .inr (.inr (.inl ⟨reason, rfl⟩))
  · rw [emits_pure, hr, hs]
    exact .inl rfl

end BubaPaint
