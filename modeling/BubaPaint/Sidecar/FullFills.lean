import BubaPaint.Live.Bootstrap
import BubaPaint.Sidecar.Executions
import Mathlib.Tactic.FieldSimp

/-!
# Full fills

The bot asks for a number of shares and sends the dollars they cost at the requested price. The
venue spends the dollars at its own price, the sidecar reports the shares they bought, and the bot
compares these with the shares it asked for.

Main results:

- Theorem `full_fill_recognised_iff`: when a complete fill is recognised.
-/

namespace BubaPaint

open Effects Program List

/-- The attempt posts its order, and the venue spends the order's whole amount at one price. -/
structure FullFill (sidecar : SidecarConfig) (attempt : Attempt) (price : ℚ) : Prop where
  posted : 0 < attempt.posts sidecar
  filled : ∀ order tickSize negRisk,
    .createAndPostMarketOrder order tickSize negRisk ∈ attempt.awaited sidecar →
    ∃ response, attempt.replies (.createAndPostMarketOrder order tickSize negRisk) =
        .resolved (some response) ∧ response.success = some true ∧
      response.takingAmount.bind parseNumber =
        some (order.amount / price * collateralDecimals) ∧
      response.makingAmount.bind parseNumber = some (order.amount * collateralDecimals)

variable {sidecar : SidecarConfig} {price acceptedSize : ℚ} {order : QueuedOrderIntent}
variable {response : LiveOrderIntentResponse} {result : LiveSubmissionOrderResult}
variable {calls : List Exchange} {sent : LiveOrderIntentRequest}
variable {reply : Except String LiveOrderIntentResponse}

theorem sideFromRequest_buy : sideFromRequest "BUY" = some .buy := by
  decide

theorem validateRequest_buy {request : LiveOrderIntentRequest} (hside : request.side = "BUY")
    {side : Side} {orderType : OrderType} {orderAmount : ℚ}
    (hvalid : validateRequest sidecar request = .ok (side, orderType, orderAmount)) :
    side = .buy ∧ request.amountUsd = some orderAmount ∧ 0 < orderAmount := by
  unfold validateRequest at hvalid
  rw [hside, sideFromRequest_buy] at hvalid
  cases horder : orderTypeFromRequest request.orderType with
  | none =>
    rw [horder] at hvalid
    cases hvalid
  | some _ =>
    rw [horder] at hvalid
    simp only [if_true] at hvalid
    split at hvalid
    · cases hvalid
    · cases hamount : request.amountUsd.filter isPositiveFinite with
      | none =>
        rw [hamount] at hvalid
        cases hvalid
      | some amount =>
        rw [hamount] at hvalid
        dsimp only at hvalid
        split at hvalid
        · cases hvalid
        · cases hvalid
          obtain ⟨hsome, hpositive⟩ := Option.filter_eq_some_iff.mp hamount
          exact ⟨rfl, hsome, of_decide_eq_true hpositive⟩

/-- The response to a full fill of a buy reports the shares that the dollars bought. -/
theorem Attempt.fullFill_response {attempt : Attempt} (hside : attempt.request.side = "BUY")
    (h : FullFill sidecar attempt price) :
    ∃ amount, attempt.request.amountUsd = some amount ∧ 0 < amount ∧
      (attempt.result sidecar).response.ok = true ∧
      (attempt.result sidecar).response.acceptedSize = some (amount / price) := by
  have hposted := h.posted
  rcases attempt.execution_cases sidecar with ⟨reason, -, hawaited, -⟩ | ⟨side, orderType, amount,
    hvalid, hexecution⟩
  · simp [Attempt.posts, hawaited] at hposted
  · obtain ⟨rfl, hamount, hpositive⟩ := validateRequest_buy hside hvalid
    refine ⟨amount, hamount, hpositive, ?_⟩
    have hprep := attempt.countP_preparation attempt.request .buy amount
    have hfilled := h.filled
    unfold Attempt.posts Attempt.awaited at hposted
    unfold Attempt.awaited at hfilled
    unfold Attempt.result
    rw [hexecution] at hposted hfilled ⊢
    rcases submitValidOrder_ends attempt.replies sidecar attempt.request .buy orderType amount
      with ⟨error, -, hrequests, -⟩ | ⟨rejection, -, hrequests, -⟩ |
        ⟨market, error, -, -, hrequests, -⟩ | ⟨market, tickSize, -, -, hrequests, hresult⟩
    · rw [hrequests, hprep] at hposted
      exact absurd hposted (Nat.lt_irrefl 0)
    · rw [hrequests, hprep] at hposted
      exact absurd hposted (Nat.lt_irrefl 0)
    · rw [hrequests, hprep] at hposted
      exact absurd hposted (Nat.lt_irrefl 0)
    · obtain ⟨response, hreply, hsuccess, htaking, -⟩ := hfilled _ _ _ (by
        rw [hrequests]
        exact mem_append_right _ mem_cons_self)
      have houtcome : postOutcome sidecar attempt.request .buy orderType amount
          (attempt.replies (postCall attempt.request .buy orderType amount market tickSize)) =
            .ok (submittedOrder attempt.request .buy orderType amount response) := by
        have hpost : attempt.replies
            (postCall attempt.request .buy orderType amount market tickSize) =
              .resolved (some response) := hreply
        rw [hpost]
        rfl
      rw [hresult, houtcome]
      constructor
      · change (response.success == some true) = true
        rw [hsuccess]
        rfl
      · change (response.takingAmount.bind parseNumber).map collateralUnitsToUsd = _
        rw [htaking, Option.map_some]
        have hscale : collateralDecimals ≠ 0 := by norm_num [collateralDecimals]
        exact congrArg some (mul_div_cancel_right₀ _ hscale)

/-! ## The bot -/

/-- The only order a submission sends is the one it is for. -/
def LiveCall.sends (sessionId : ℕ) (order : QueuedOrderIntent) : LiveCall → Prop
  | .submitOrderIntent sent =>
    ∃ intentId, sent = buildLiveOrderRequestFromWorker sessionId intentId order
      (order.requestedPrice * order.requestedSize)
  | _ => True

theorem LiveCall.sends_of_neutral (sessionId : ℕ) (order : QueuedOrderIntent) (c : LiveCall)
    (h : c.neutral) : c.sends sessionId order := by
  cases c with
  | submitOrderIntent request => exact h.elim
  | _ => trivial

theorem LiveCall.sends_of_settles (sessionId : ℕ) (order : QueuedOrderIntent)
    (intentId nowMs : ℕ) (c : LiveCall) (h : c.settles intentId nowMs) :
    c.sends sessionId order := by
  cases c with
  | submitOrderIntent request => exact h.elim
  | _ => trivial

theorem submitOneLiveOrderFromWorker_sends (input : LiveOrderWorkerSubmission) :
    Always (LiveCall.sends input.sessionId input.order) (fun _ => True)
      (submitOneLiveOrderFromWorker input) := by
  have hneutral := LiveCall.sends_of_neutral input.sessionId input.order
  have hpersist := (persistLiveOrderIntentFromWorker_always input
    (input.order.requestedPrice * input.order.requestedSize)).mono hneutral fun _ h => h
  unfold submitOneLiveOrderFromWorker
  simp only [always_bind]
  refine hpersist.mono (fun _ h => h) ?_
  rintro (error | ⟨intentId, _ | reason⟩) -
  · trivial
  · have hprepares : ∀ c, LiveCall.prepares intentId input.nowMs c →
        c.sends input.sessionId input.order :=
      fun c h => hneutral c (LiveCall.neutral_of_prepares intentId input.nowMs c h)
    have hsettles := LiveCall.sends_of_settles input.sessionId input.order intentId input.nowMs
    simp only [always_bind]
    refine (reserveLiveOrderSubmission_always input.sessionId intentId input.nowMs
      input.config.liveMaxSessionOrders input.config.liveMaxSessionFills
      input.order.reservedCost).mono hprepares ?_
    rintro (blocked | _) -
    · trivial
    · dsimp only
      split
      · exact (dryRunLiveOrderOutcome_always input.sessionId intentId input.order _
          input.nowMs).mono hprepares fun _ _ => trivial
      · rw [always_bind]
        refine (markIntentSubmittingOrBlock_always intentId input.nowMs
          input.order.reservedCost).mono hprepares ?_
        rintro (_ | blocked) -
        · refine ⟨⟨intentId, rfl⟩, ?_⟩
          rintro (error | response)
          · exact (handleLiveOrderErrorFromWorker_always ..).mono hsettles fun _ h => h
          · exact (handleLiveOrderResponseFromWorker_always ..).mono hsettles fun _ h => h
        · trivial
  · trivial

theorem ResponseOutcome.isFilled_iff (h : ResponseOutcome order response result)
    (hok : response.ok = true) (hsize : response.acceptedSize = some acceptedSize)
    (hpositive : 0 < acceptedSize) :
    result.isFilled = true ↔ |acceptedSize - order.requestedSize| ≤ fillTolerance order := by
  unfold ResponseOutcome at h
  simp only [hok, hsize, Bool.true_eq_false, if_false, if_neg (not_le.mpr hpositive)] at h
  rw [abs_le]
  split at h <;> rename_i hwithin
  · obtain ⟨reason, rfl⟩ := h
    apply iff_of_false
    · simp
    · rintro ⟨hbelow, habove⟩
      rcases hwithin with hmore | hless <;> linarith
  · obtain ⟨liveOrderId, rfl⟩ := h
    rw [not_or, gt_iff_lt, not_lt, not_lt] at hwithin
    apply iff_of_true
    · rfl
    · constructor <;> linarith [hwithin.1, hwithin.2]

theorem venueReplies_of_mem {stored : Bool} (h : OutcomeOf order (venueReplies calls) stored result)
    (hmem : (⟨.submitOrderIntent sent, reply⟩ : Exchange) ∈ calls) :
    venueReplies calls = [reply] := by
  have hreply : reply ∈ venueReplies calls :=
    mem_filterMap.mpr ⟨⟨.submitOrderIntent sent, reply⟩, hmem, rfl⟩
  generalize venueReplies calls = replies at h hreply ⊢
  rcases replies with _ | ⟨first, _ | ⟨second, rest⟩⟩
  · cases hreply
  · rw [mem_singleton.mp hreply]
  · cases first <;> exact h.elim

theorem OutcomeOf.isFilled_iff (h : OutcomeOf order (venueReplies calls) (orderStored calls) result)
    (hanswer : (⟨.submitOrderIntent sent, .ok response⟩ : Exchange) ∈ calls)
    (hok : response.ok = true) (hsize : response.acceptedSize = some acceptedSize)
    (hpositive : 0 < acceptedSize) :
    result.isFilled = true ↔
      orderStored calls = true ∧ |acceptedSize - order.requestedSize| ≤ fillTolerance order := by
  rw [venueReplies_of_mem h hanswer] at h
  cases hstored : orderStored calls with
  | true =>
    rw [hstored] at h
    have hfilled := ResponseOutcome.isFilled_iff h hok hsize hpositive
    simpa using hfilled
  | false =>
    rw [hstored] at h
    obtain ⟨reason, rfl⟩ := h
    simp

/-- For every requested price, requested size and execution price: a buy that the venue fills
completely at that price ends in a fill exactly when the bot stores the response and the shares
bought are the shares asked for, up to the tolerance. -/
theorem full_fill_recognised_iff (sidecar : SidecarConfig) (config : Config) (sessionId : ℕ)
    (request : LiveSubmissionRequest) (order : QueuedOrderIntent) (oracle : ℕ → Answer)
    (world : World) (attempt : Attempt) (price : ℚ) (hprice : 0 < price)
    (hfill : FullFill sidecar attempt price)
    (hanswer : (⟨.submitOrderIntent attempt.request, .ok (attempt.result sidecar).response⟩ :
      Exchange) ∈ (orderRun config sessionId request order oracle world).calls) :
    (orderRun config sessionId request order oracle world).result.isFilled = true ↔
      orderStored (orderRun config sessionId request order oracle world).calls = true ∧
        |order.requestedSize * order.requestedPrice / price - order.requestedSize| ≤
          fillTolerance order := by
  have hsends : attempt.request.side = "BUY" ∧
      attempt.request.amountUsd = some (order.requestedPrice * order.requestedSize) := by
    obtain ⟨own, hown, -, hpermitted⟩ := Live.run_emits
      ((submitOneLiveOrderFromWorker_sends (submissionOf config sessionId request order)).emits [])
      oracle world
    have hcalls := orderRun_exchanges config sessionId request order oracle world
    rw [hown, append_cancel_left_eq] at hcalls
    obtain ⟨own', rfl, hsent⟩ := hpermitted
    rw [← hcalls] at hanswer
    obtain ⟨intentId, hrequest⟩ := hsent _ hanswer
    rw [hrequest]
    exact ⟨rfl, rfl⟩
  obtain ⟨amount, hamount, hpositive, hok, hsize⟩ := attempt.fullFill_response hsends.1 hfill
  have houtcome := orderRun_outcome config sessionId request order oracle world
  have hcost : amount = order.requestedPrice * order.requestedSize :=
    Option.some.inj (hamount.symm.trans hsends.2)
  have hfilled := OutcomeOf.isFilled_iff houtcome hanswer hok hsize (div_pos hpositive hprice)
  rw [hfilled, order_orderRun, hcost, mul_comm order.requestedPrice]

/-! ## Sample fills -/

theorem exists_replies {α : Type} (p : Live α) (reply : Except String LiveOrderIntentResponse)
    (oracle : ℕ → Answer) (hreply : ∀ n, (oracle n).submitOrderIntent = reply) (world : World) :
    ∃ own, (Live.run p oracle world).2.exchanges = world.exchanges ++ own ∧
      ∀ sent r, (⟨.submitOrderIntent sent, r⟩ : Exchange) ∈ own → r = reply := by
  induction p generalizing oracle world with
  | pure a => exact ⟨[], (append_nil _).symm, fun sent r hmem => absurd hmem not_mem_nil⟩
  | request c next ih =>
    obtain ⟨own, hown, hreplies⟩ := ih (LiveCall.answer (oracle 0) c world).1
      (fun n => oracle (n + 1)) (fun n => hreply (n + 1))
      (LiveCall.answer (oracle 0) c world).2
    refine ⟨⟨c, (LiveCall.answer (oracle 0) c world).1⟩ :: own, ?_, ?_⟩
    · refine hown.trans ?_
      simp [LiveCall.answer]
    · intro sent r hmem
      rcases mem_cons.mp hmem with heq | hmem
      · cases heq
        exact hreply 0
      · exact hreplies sent r hmem

deriving instance DecidableEq for LiveOrderIntentRequest

def sampleFilled (price : ℚ) : Attempt :=
  { sampleAttempt with
    replies := sampleReplies (.ok { walletAddress := some "wallet" }) (sampleVenueFill price) }

def sampleFilledAnswer (price : ℚ) : ℕ → Answer :=
  fun _ => { sampleAnswer 1000 with
    submitOrderIntent := .ok ((sampleFilled price).result sampleSidecar).response }

def sampleFilledRun (price : ℚ) : OrderRun :=
  orderRun sampleConfig 1 sampleSingle (sampleOrder 1 .up) (sampleFilledAnswer price) sampleWorld

def sendsSample (calls : List Exchange) : Bool :=
  calls.any fun exchange =>
    match exchange with
    | ⟨.submitOrderIntent sent, _⟩ => decide (sent = sampleAttempt.request)
    | _ => false

theorem sampleFilledRun_replies
    (hmem : (⟨.submitOrderIntent sent, reply⟩ : Exchange) ∈ (sampleFilledRun price).calls) :
    reply = .ok ((sampleFilled price).result sampleSidecar).response := by
  obtain ⟨own, hown, hreplies⟩ := exists_replies
    (submitOneLiveOrderFromWorker (submissionOf sampleConfig 1 sampleSingle (sampleOrder 1 .up)))
    _ (sampleFilledAnswer price) (fun _ => rfl) sampleWorld
  have hcalls := orderRun_exchanges sampleConfig 1 sampleSingle (sampleOrder 1 .up)
    (sampleFilledAnswer price) sampleWorld
  rw [hown, append_cancel_left_eq] at hcalls
  apply hreplies sent
  rw [hcalls]
  exact hmem

theorem sampleFilledRun_answer (h : sendsSample (sampleFilledRun price).calls = true) :
    (⟨.submitOrderIntent (sampleFilled price).request,
      .ok ((sampleFilled price).result sampleSidecar).response⟩ : Exchange) ∈
        (sampleFilledRun price).calls := by
  obtain ⟨exchange, hmem, hsample⟩ := any_eq_true.mp h
  split at hsample
  · rename_i sent reply
    have hsent : sent = sampleAttempt.request := of_decide_eq_true hsample
    have hreply := sampleFilledRun_replies hmem
    subst hsent hreply
    exact hmem
  · cases hsample

theorem sampleFilled_fullFill (h : 0 < (sampleFilled price).posts sampleSidecar) :
    FullFill sampleSidecar (sampleFilled price) price where
  posted := h
  filled _ _ _ _ := ⟨_, rfl, rfl, rfl, rfl⟩

/-- A full fill at half the requested price is blocked as an unknown order. -/
theorem improved_fill_blocked :
    FullFill sampleSidecar (sampleFilled (1 / 4)) (1 / 4) ∧
      (1 / 4 : ℚ) ≤ (sampleOrder 1 .up).limitPrice ∧
      (⟨.submitOrderIntent (sampleFilled (1 / 4)).request,
        .ok ((sampleFilled (1 / 4)).result sampleSidecar).response⟩ : Exchange) ∈
          (sampleFilledRun (1 / 4)).calls ∧
      orderStored (sampleFilledRun (1 / 4)).calls = true ∧
      (sampleFilledRun (1 / 4)).result.isFilled = false ∧
      (sampleFilledRun (1 / 4)).result.isBlocked = true := by
  refine ⟨sampleFilled_fullFill ?_, ?_, sampleFilledRun_answer ?_, ?_, ?_, ?_⟩ <;> decide +kernel

/-- A full fill at the requested price is a fill. -/
theorem full_fill_recognised_iff_sample :
    (sampleFilledRun (1 / 2)).result.isFilled = true ↔
      orderStored (sampleFilledRun (1 / 2)).calls = true ∧
        |(sampleOrder 1 .up).requestedSize * (sampleOrder 1 .up).requestedPrice / (1 / 2) -
          (sampleOrder 1 .up).requestedSize| ≤ fillTolerance (sampleOrder 1 .up) :=
  full_fill_recognised_iff sampleSidecar sampleConfig 1 sampleSingle (sampleOrder 1 .up) _
    sampleWorld (sampleFilled (1 / 2)) (1 / 2) (by norm_num)
    (sampleFilled_fullFill (by decide +kernel)) (sampleFilledRun_answer (by decide +kernel))

end BubaPaint
