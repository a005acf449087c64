import BubaPaint.Decision.Types
import BubaPaint.Live.Control

/-!
# Submission of one live order

The submission worker carries one order from the durable intent over the venue-attempt reservation
and the `submitting` marker to the venue call, and turns the response, the error, or any database
failure on the way into the result of the order.
-/

namespace BubaPaint

open Effects

/-- Result of one worker-side live order submission. -/
inductive LiveSubmissionOrderResult where
  | filled (acceptedSize fillPrice : ℚ) (liveOrderId : ℕ)
  | rejected (release : ℚ)
  | blocked (state : ControlState) (reason : String) (release : Option ℚ)
  | dryRun (release : ℚ)

namespace LiveSubmissionOrderResult

/-- Whether the batch stops after this result. -/
def isBlocked : LiveSubmissionOrderResult → Bool
  | .blocked .. => true
  | _ => false

def isFilled : LiveSubmissionOrderResult → Bool
  | .filled .. => true
  | _ => false

@[simp]
theorem isFilled_filled (acceptedSize fillPrice : ℚ) (liveOrderId : ℕ) :
    (filled acceptedSize fillPrice liveOrderId).isFilled = true :=
  rfl

@[simp]
theorem isFilled_rejected (release : ℚ) : (rejected release).isFilled = false :=
  rfl

@[simp]
theorem isFilled_dryRun (release : ℚ) : (dryRun release).isFilled = false :=
  rfl

@[simp]
theorem isFilled_blocked (state : ControlState) (reason : String) (release : Option ℚ) :
    (blocked state reason release).isFilled = false :=
  rfl

end LiveSubmissionOrderResult

/-- Return the pre-submit status and rejection reason for one live order. -/
def liveOrderPreSubmitRejection (order : QueuedOrderIntent) (notional : ℚ) (config : Config) :
    IntentStatus × Option String :=
  if order.requestedPrice ≤ 0 ∨ order.requestedSize ≤ 0 ∨ order.limitPrice ≤ 0 then
    (.rejectedBeforeSubmit, some "invalid_price_or_size")
  else if notional + cashChangeEpsilonUsd < config.minBetUsd then
    (.rejectedBeforeSubmit, some "below_min_bet")
  else if notional > config.liveMaxSingleOrderUsd + cashChangeEpsilonUsd then
    (.rejectedBeforeSubmit, some "above_live_max_single_order")
  else
    (.submitted, none)

/-- Return the critical signal evidence for one live order signal id. -/
def criticalSignalEventForOrder (events : List LivePersistenceEvent) (signalId : ℤ) :
    Option LivePersistenceEvent :=
  events.find? fun event =>
    match event with
    | .signal evidence => evidence.signalId == signalId
    | _ => false

/-- Convert a live persistence signal event into a database-layer evidence view. -/
def liveDecisionEvidenceFromEvent (event : Option LivePersistenceEvent) (expectedSignalId : ℤ) :
    LiveResult LiveDecisionEvidence :=
  match event with
  | some (.signal evidence) =>
    if evidence.signalId ≠ expectedSignalId then
      throw s!"critical decision evidence signal id mismatch for signal_id={expectedSignalId}"
    else
      pure evidence
  | _ => throw s!"missing critical decision evidence for signal_id={expectedSignalId}"

/-! ## Steps before the venue call -/

/-- Worker-side immutable context for one live order submission. -/
structure LiveOrderWorkerSubmission where
  config : Config
  sessionId : ℕ
  order : QueuedOrderIntent
  decisionEvent : Option LivePersistenceEvent
  nowMs : ℕ

/-- Persist one worker-side live order intent before sidecar submission. -/
def persistLiveOrderIntentFromWorker (input : LiveOrderWorkerSubmission) (notional : ℚ) :
    LiveResult (ℕ × Option String) := do
  let order := input.order
  let (intentStatus, rejectReason) := liveOrderPreSubmitRejection order notional input.config
  Live.database .openRuntime
  let decisionEvidence ← liveDecisionEvidenceFromEvent input.decisionEvent order.signalId
  let intentId ← Live.database (.logLiveOrderIntentWithDecisionEvidence decisionEvidence
    { sessionId := input.sessionId, signalId := some order.signalId, marketId := order.marketId,
      strategy := order.strategy, side := order.side, orderType := "FOK", status := intentStatus,
      createdAtMs := input.nowMs, requestedPrice := some order.requestedPrice,
      requestedSize := some order.requestedSize, limitPrice := some order.limitPrice,
      executionGroupId := order.executionGroupId, venueAttemptedAtMs := none })
  return (intentId, rejectReason)

def persistLiveWorkerState (sessionId : ℕ) (state : ControlState) (actor reason : String)
    (nowMs : ℕ) : LiveResult Unit := do
  Live.database .openRuntime
  let _ ← recordLiveControlState sessionId state actor reason nowMs
  Live.database (.updateLiveSessionMetadata sessionId (.control state) none none)

/-- Persist a blocked live-response state and build the worker result. -/
def blockLiveResponseWithState (sessionId nowMs : ℕ) (reason : String) (release : Option ℚ) :
    Live LiveSubmissionOrderResult := do
  let _ ← (persistLiveWorkerState sessionId .unknownOrder "system" reason nowMs).run
  return .blocked .unknownOrder reason release

/-- Refuse to cross the venue-submission boundary twice for one intent. -/
def reserveLiveOrderSubmission (sessionId intentId nowMs maxSessionOrders maxSessionFills : ℕ)
    (reservedCost : ℚ) : Live (Except LiveSubmissionOrderResult Unit) := do
  match ← Live.call (.database .openRuntime) with
  | .error error =>
    return .error (.blocked .unknownOrder
      s!"failed to open database for submission idempotency check: {error}" none)
  | .ok _ =>
  match ← Live.call (.database (.findLiveOrderByIntent intentId)) with
  | .error error =>
    return .error (.blocked .unknownOrder
      s!"failed to check existing live order for idempotency: {error}" none)
  | .ok (some _) =>
    let blocked ← blockLiveResponseWithState sessionId nowMs
      "intent already has a live order; reconcile before any retry" none
    return .error blocked
  | .ok none =>
  match ← Live.call (.database (.tryReserveVenueAttempt intentId nowMs sessionId maxSessionOrders
      maxSessionFills)) with
  | .ok .reserved => return .ok ()
  | .ok .alreadyAttempted =>
    let blocked ← blockLiveResponseWithState sessionId nowMs
      "intent already attempted venue submission; reconcile before any retry" none
    return .error blocked
  | .ok .capReached => return .error (.rejected reservedCost)
  | .error error =>
    return .error (.blocked .unknownOrder s!"failed to reserve venue attempt: {error}" none)

def buildLiveOrderRequestFromWorker (sessionId intentId : ℕ) (order : QueuedOrderIntent)
    (notional : ℚ) : LiveOrderIntentRequest where
  sessionId := sessionId
  intentId := intentId
  marketId := order.marketId
  tokenId := order.tokenId
  side := "BUY"
  orderType := "FOK"
  limitPrice := order.limitPrice
  size := order.requestedSize
  amountUsd := some notional
  clientOrderId := s!"buba-live-{sessionId}-{intentId}"

/-- Record a would-submit dry-run outcome for one live order without contacting the venue. -/
def dryRunLiveOrderOutcome (sessionId intentId : ℕ) (order : QueuedOrderIntent)
    (request : LiveOrderIntentRequest) (nowMs : ℕ) : Live LiveSubmissionOrderResult := do
  match ← Live.call (.database .openRuntime) with
  | .ok _ =>
    let _ ← Live.call (.database (.markLiveOrderIntentDryRun intentId))
    let _ ← Live.call (.database (.logLiveReconciliationEvent
      { sessionId := sessionId, timestampMs := nowMs, severity := .info,
        eventType := "dry_run_would_submit", localValue := some request.size,
        remoteValue := none }))
    return .dryRun order.reservedCost
  | .error _ => return .dryRun order.reservedCost

/-- Durably mark one intent `submitting` immediately before its venue call, or return a blocked
result if the marker cannot be written. -/
def markIntentSubmittingOrBlock (intentId : ℕ) (reservedCost : ℚ) :
    Live (Option LiveSubmissionOrderResult) := do
  match ← Live.call (.database .openRuntime) with
  | .error error =>
    return some (.blocked .disarmed s!"failed to open db for submitting marker: {error}"
      (some reservedCost))
  | .ok _ =>
  match ← Live.call (.database (.markLiveOrderIntentSubmitting intentId)) with
  | .error error =>
    return some (.blocked .disarmed s!"failed to record submitting marker: {error}"
      (some reservedCost))
  | .ok _ => return none

/-! ## The venue response -/

/-- Return whether one order response blocks all future live submissions. -/
def liveOrderResponseIsBlocking (response : LiveOrderIntentResponse) : Bool :=
  response.status == "unknown_submission" || response.status == "venue_restart" ||
    response.status == "timeout" || response.status == "pending_unknown"

def splitSign : List Char → Bool × List Char
  | '-' :: rest => (true, rest)
  | '+' :: rest => (false, rest)
  | rest => (false, rest)

def digitsValue (digits : List Char) : ℕ :=
  digits.foldl (fun value c => 10 * value + (c.toNat - '0'.toNat)) 0

/-- Parse one decimal floating-point literal. The literals of infinities and of not-a-number are
not accepted: every caller discards such values. -/
def parseDecimal (text : String) : Option ℚ :=
  let (negative, unsigned) := splitSign text.toList
  let (integral, rest) := unsigned.span Char.isDigit
  let (fractional, rest) :=
    match rest with
    | '.' :: rest => rest.span Char.isDigit
    | rest => ([], rest)
  if integral.isEmpty && fractional.isEmpty then
    none
  else
    let exponent : Option ℤ :=
      match rest with
      | [] => some 0
      | c :: rest =>
        if c = 'e' ∨ c = 'E' then
          let (negativeExponent, digits) := splitSign rest
          if digits.isEmpty || !digits.all Char.isDigit then none
          else some (if negativeExponent then -(digitsValue digits : ℤ) else digitsValue digits)
        else
          none
    exponent.map fun exponent =>
      let mantissa : ℚ := digitsValue (integral ++ fractional)
      let scale : ℤ := exponent - (fractional.length : ℤ)
      let magnitude :=
        if 0 ≤ scale then mantissa * 10 ^ scale.toNat else mantissa / 10 ^ (-scale).toNat
      if negative then -magnitude else magnitude

/-- Parse one numeric amount from a raw order response fragment. -/
def rawAmount : Json.Value → Option ℚ
  | .number value => some value.toRat
  | .string text => parseDecimal text
  | _ => none

/-- Return the best typed fill price available from one sidecar response. -/
def liveResponseFillPrice (order : QueuedOrderIntent) (response : LiveOrderIntentResponse) : ℚ :=
  let rawPrice : Option ℚ := do
    let details ← response.detailsJson
    let raw ← details.get? "raw_response"
    let taking ← rawAmount (← raw.get? "takingAmount")
    let making ← rawAmount (← raw.get? "makingAmount")
    if 0 < taking ∧ 0 < making then some (making / taking) else none
  (rawPrice.filter fun price => decide (0 < price)).getD order.requestedPrice

/-- Classify the accepted live order size from a successful venue response. -/
def classifyAcceptedLiveSize (sessionId : ℕ) (order : QueuedOrderIntent) (nowMs : ℕ)
    (response : LiveOrderIntentResponse) : Live (Except LiveSubmissionOrderResult (Option ℚ)) := do
  match response.acceptedSize with
  | none =>
    let blocked ← blockLiveResponseWithState sessionId nowMs
      "venue response missing accepted size" none
    return .error blocked
  | some acceptedSize =>
    if acceptedSize ≤ 0 then
      return .ok none
    let fillTolerance := max f64Epsilon (|order.requestedSize| * 4 * f64Epsilon)
    if acceptedSize > order.requestedSize + fillTolerance then
      let blocked ← blockLiveResponseWithState sessionId nowMs
        "venue response accepted more size than requested" none
      return .error blocked
    if acceptedSize + fillTolerance < order.requestedSize then
      let blocked ← blockLiveResponseWithState sessionId nowMs
        "FOK order returned a partial fill; reconcile before any retry" none
      return .error blocked
    return .ok (some acceptedSize)

/-- Persist one sidecar order response as a live order row. -/
def persistOrderResponseFromWorker (sessionId intentId : ℕ) (order : QueuedOrderIntent)
    (nowMs : ℕ) (response : LiveOrderIntentResponse) : LiveResult ℕ :=
  Live.database (.logLiveOrder
    { sessionId := sessionId, intentId := intentId, venueOrderId := response.venueOrderId,
      clientOrderId := some response.clientOrderId, marketId := order.marketId,
      tokenId := some order.tokenId, side := "BUY", orderType := "FOK", status := response.status,
      statusReason := response.statusReason, createdAtMs := nowMs,
      acknowledgedAtMs := some nowMs, updatedAtMs := nowMs,
      requestedPrice := some order.requestedPrice, limitPrice := some order.limitPrice,
      requestedSize := some order.requestedSize, acceptedSize := response.acceptedSize,
      onchainReconcileStatus := none })

/-- Persist one fill inferred from a successful sidecar order response. -/
def persistResponseFillFromWorker (sessionId intentId liveOrderId nowMs : ℕ)
    (response : LiveOrderIntentResponse) (fillPrice : ℚ) : LiveResult Unit :=
  match response.acceptedSize with
  | some acceptedSize =>
    if 0 < acceptedSize then do
      let _ ← Live.database (.logLiveFill
        { sessionId := sessionId, intentId := some intentId, liveOrderId := some liveOrderId,
          venueTradeId := none, filledAtMs := nowMs, price := fillPrice, size := acceptedSize,
          liquiditySide := some "taker", status := .venueResponsePendingReconciliation })
    else
      pure ()
  | none => pure ()

/-- The rest of a stored positive response, once its accepted size is classified. -/
def settleClassifiedSize (config : Config) (sessionId : ℕ) (order : QueuedOrderIntent)
    (intentId liveOrderId nowMs : ℕ) (response : LiveOrderIntentResponse) :
    Except LiveSubmissionOrderResult (Option ℚ) → Live LiveSubmissionOrderResult
  | .ok none => return .rejected order.reservedCost
  | .error blocked => return blocked
  | .ok (some acceptedSize) => do
      let fillPrice := liveResponseFillPrice order response
      let _ ← (persistResponseFillFromWorker sessionId intentId liveOrderId nowMs response
        fillPrice).run
      if config.liveOnchainReconcileEnabled then
        let _ ← Live.call (.database (.setLiveOrderReconcileStatus liveOrderId .pending))
        return .filled acceptedSize fillPrice liveOrderId
      else
        return .filled acceptedSize fillPrice liveOrderId

/-- Persist one worker-side live order response. -/
def handleLiveOrderResponseFromWorker (config : Config) (sessionId : ℕ)
    (order : QueuedOrderIntent) (intentId nowMs : ℕ) (response : LiveOrderIntentResponse) :
    Live LiveSubmissionOrderResult := do
  match ← Live.call (.database .openRuntime) with
  | .error error =>
    return .blocked .unknownOrder s!"failed to open database for live order response: {error}" none
  | .ok _ =>
  match ← (persistOrderResponseFromWorker sessionId intentId order nowMs response).run with
  | .error error =>
    return .blocked .unknownOrder s!"failed to persist live order response: {error}" none
  | .ok liveOrderId =>
  if !response.ok then
    if liveOrderResponseIsBlocking response then
      blockLiveResponseWithState sessionId nowMs "blocking venue order response"
        (some order.reservedCost)
    else
      return .rejected order.reservedCost
  else
    let classified ← classifyAcceptedLiveSize sessionId order nowMs response
    settleClassifiedSize config sessionId order intentId liveOrderId nowMs response classified

/-- Persist one worker-side unknown submission and try cancel-all. -/
def handleLiveOrderErrorFromWorker (sessionId : ℕ) (order : QueuedOrderIntent)
    (request : LiveOrderIntentRequest) (intentId nowMs : ℕ) (errorMessage : String) :
    Live LiveSubmissionOrderResult := do
  match ← Live.call (.database .openRuntime) with
  | .ok _ =>
    let _ ← Live.call (.database (.logLiveOrder
      { sessionId := sessionId, intentId := intentId, venueOrderId := none,
        clientOrderId := some request.clientOrderId, marketId := order.marketId,
        tokenId := some order.tokenId, side := "BUY", orderType := "FOK",
        status := "unknown_submission", statusReason := some errorMessage,
        createdAtMs := nowMs, acknowledgedAtMs := none, updatedAtMs := nowMs,
        requestedPrice := some order.requestedPrice, limitPrice := some order.limitPrice,
        requestedSize := some order.requestedSize, acceptedSize := none,
        onchainReconcileStatus := none }))
    let _ ← Live.call (.database (.logLiveReconciliationEvent
      { sessionId := sessionId, timestampMs := nowMs, severity := .critical,
        eventType := "unknown_submission", localValue := none, remoteValue := none }))
    pure ()
  | .error _ => pure ()
  let _ ← Live.call .cancelAll
  let _ ← (persistLiveWorkerState sessionId .unknownOrder "system"
    "sidecar order submission outcome unknown" nowMs).run
  return .blocked .unknownOrder "sidecar order submission outcome unknown" none

/-- Submit one live order intent from the submission worker. -/
def submitOneLiveOrderFromWorker (input : LiveOrderWorkerSubmission) :
    Live LiveSubmissionOrderResult := do
  let order := input.order
  let notional := order.requestedPrice * order.requestedSize
  match ← (persistLiveOrderIntentFromWorker input notional).run with
  | .error error =>
    return .blocked .disarmed
      s!"failed to persist live decision evidence and intent: {error}" (some order.reservedCost)
  | .ok (_, some _) => return .rejected order.reservedCost
  | .ok (intentId, none) =>
  match ← reserveLiveOrderSubmission input.sessionId intentId input.nowMs
      input.config.liveMaxSessionOrders input.config.liveMaxSessionFills order.reservedCost with
  | .error blocked => return blocked
  | .ok _ =>
  let request := buildLiveOrderRequestFromWorker input.sessionId intentId order notional
  if input.config.liveDryRun then
    dryRunLiveOrderOutcome input.sessionId intentId order request input.nowMs
  else
  match ← markIntentSubmittingOrBlock intentId order.reservedCost with
  | some blocked => return blocked
  | none =>
  match ← Live.call (.submitOrderIntent request) with
  | .ok response =>
    handleLiveOrderResponseFromWorker input.config input.sessionId order intentId input.nowMs
      response
  | .error error =>
    handleLiveOrderErrorFromWorker input.sessionId order request intentId input.nowMs error

end BubaPaint
