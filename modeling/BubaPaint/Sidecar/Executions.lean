import BubaPaint.Live.SubmissionWorker
import BubaPaint.Sidecar.Provider

/-!
# One execution of an order submission

An attempt is an intent together with what every await of its submission comes to. Its execution
posts at most one order, and what it posts it stores.

Main results:

- Theorem `toldApart_iff`: when the response of an attempt tells its order apart.
-/

namespace BubaPaint

open Effects Program List

/-- One intent, with what every await of its submission comes to. -/
structure Attempt where
  request : LiveOrderIntentRequest
  replies : (c : SidecarCall) → c.Reply

def SidecarCall.isPost : SidecarCall → Bool
  | .createAndPostMarketOrder .. => true
  | .prepare _ => false

namespace Attempt

variable (config : SidecarConfig) (attempt : Attempt)

/-- The execution of an attempt whose client order id is new. -/
def execution : Sidecar SubmitResult :=
  submitOrderIntent config ∅ attempt.request

/-- What the execution ends with. -/
def result : SubmitResult :=
  valueUnder attempt.replies (attempt.execution config)

def awaited : List SidecarCall :=
  requestsUnder attempt.replies (attempt.execution config)

def posts : ℕ :=
  (attempt.awaited config).countP SidecarCall.isPost

end Attempt

/-! ## Preparing an order -/

section Preparing

variable {α β : Type} (replies : (c : SidecarCall) → c.Reply)

def StepFails (step : PreparationStep) : Prop :=
  ∃ error, replies (.prepare step) = .error error

/-- A program that posts no order, and throws exactly when a step it awaits fails. -/
structure Prepares (x : SidecarResult α) : Prop where
  postless : ∀ c ∈ requestsUnder replies x.run, c.isPost = false
  throws_iff : (∃ error, valueUnder replies x.run = .error error) ↔
    ∃ step, .prepare step ∈ requestsUnder replies x.run ∧ StepFails replies step

variable {replies}

theorem Prepares.pure (a : α) : Prepares replies (pure a : SidecarResult α) where
  postless := by simp
  throws_iff := by simp

theorem Prepares.await (step : PreparationStep) : Prepares replies (Sidecar.await step) where
  postless := by
    intro c hc
    obtain rfl : c = .prepare step := by simpa [Sidecar.await] using hc
    rfl
  throws_iff := by simp [Sidecar.await, StepFails]

theorem Prepares.calm {x : SidecarResult α} (h : Prepares replies x) {a : α}
    (hvalue : valueUnder replies x.run = .ok a) :
    ∀ step, .prepare step ∈ requestsUnder replies x.run → ¬ StepFails replies step := by
  intro step hstep hfails
  obtain ⟨error, herror⟩ := h.throws_iff.mpr ⟨step, hstep, hfails⟩
  rw [hvalue] at herror
  cases herror

/-- A sequence prepares an order if both parts do. -/
theorem Prepares.bind {x : SidecarResult α} {f : α → SidecarResult β} (h : Prepares replies x)
    (h' : ∀ a, Prepares replies (f a)) : Prepares replies (x >>= f) := by
  cases hvalue : valueUnder replies x.run with
  | error error =>
    have hrequests : requestsUnder replies (x >>= f).run = requestsUnder replies x.run := by
      simp [hvalue]
    constructor
    · rw [hrequests]
      exact h.postless
    · rw [hrequests, ← h.throws_iff, valueUnder_run_bind, hvalue]
      exact ⟨fun _ => ⟨error, rfl⟩, fun _ => ⟨error, rfl⟩⟩
  | ok a =>
    have hrequests : requestsUnder replies (x >>= f).run =
        requestsUnder replies x.run ++ requestsUnder replies (f a).run := by
      simp [hvalue]
    constructor
    · rw [hrequests]
      intro c hc
      rcases mem_append.mp hc with hc | hc
      · exact h.postless c hc
      · exact (h' a).postless c hc
    · have hthrows : (∃ error, valueUnder replies (x >>= f).run = .error error) ↔
          ∃ error, valueUnder replies (f a).run = .error error := by
        rw [valueUnder_run_bind, hvalue]
        exact Iff.rfl
      rw [hrequests, hthrows, (h' a).throws_iff]
      constructor
      · rintro ⟨step, hstep, hfails⟩
        exact ⟨step, mem_append_right _ hstep, hfails⟩
      · rintro ⟨step, hstep, hfails⟩
        rcases mem_append.mp hstep with hstep | hstep
        · exact absurd hfails (h.calm hvalue step hstep)
        · exact ⟨step, hstep, hfails⟩

theorem validateOrderAccount_prepares (authState : AuthState) (request : LiveOrderIntentRequest)
    (side : Side) (orderAmount : ℚ) (account : LiveAccountState) :
    Prepares replies (validateOrderAccount authState request side orderAmount account) := by
  unfold validateOrderAccount
  cases side with
  | buy =>
    dsimp only
    split
    · exact .pure _
    · split
      · split
        · exact .pure _
        · exact .pure _
      · exact .pure _
  | sell =>
    dsimp only
    split
    · refine .bind (.await _) fun positions => ?_
      split
      · exact .pure _
      · exact .pure _
    · exact .pure _

theorem prepareOrder_prepares (request : LiveOrderIntentRequest) (side : Side) (orderAmount : ℚ) :
    Prepares replies (prepareOrder request side orderAmount) := by
  refine .bind (.await _) fun authState => .bind (.await _) fun discovered =>
    .bind (.await _) fun markets => ?_
  dsimp only
  split
  · exact .pure _
  · refine .bind (.await _) fun account =>
      .bind (validateOrderAccount_prepares ..) fun failure => ?_
    split
    · exact .pure _
    · exact .pure _

theorem prepareOrder_rejection {request : LiveOrderIntentRequest} {side : Side} {orderAmount : ℚ}
    {rejection : LiveOrderIntentResponse}
    (h : valueUnder replies (prepareOrder request side orderAmount).run = .ok (.error rejection)) :
    liveOrderResponseIsBlocking rejection = false := by
  unfold prepareOrder at h
  rw [valueUnder_run_bind] at h
  obtain ⟨authState, -, h⟩ := ok_of_bind h
  rw [valueUnder_run_bind] at h
  obtain ⟨discovered, -, h⟩ := ok_of_bind h
  rw [valueUnder_run_bind] at h
  obtain ⟨markets, -, h⟩ := ok_of_bind h
  dsimp only at h
  split at h
  · cases h
    rfl
  · rw [valueUnder_run_bind] at h
    obtain ⟨account, -, h⟩ := ok_of_bind h
    rw [valueUnder_run_bind] at h
    obtain ⟨failure, -, h⟩ := ok_of_bind h
    split at h
    · cases h
      rfl
    · cases h

end Preparing

/-! ## Posting an order -/

section Posting

variable (replies : (c : SidecarCall) → c.Reply) (config : SidecarConfig)
variable (request : LiveOrderIntentRequest) (side : Side) (orderType : OrderType) (orderAmount : ℚ)
variable (market : ActiveMarket)

theorem postOrder_of_error {error : ThrownError} (h : orderTickSize market = .error error) :
    requestsUnder replies (postOrder config request side orderType orderAmount market).run = [] ∧
      valueUnder replies (postOrder config request side orderType orderAmount market).run =
        .error (.stage (stageError .orderSubmission error)) := by
  unfold postOrder
  rw [h]
  exact ⟨rfl, rfl⟩

theorem postOrder_of_ok {tickSize : TickSize} (h : orderTickSize market = .ok tickSize) :
    requestsUnder replies (postOrder config request side orderType orderAmount market).run =
        [postCall request side orderType orderAmount market tickSize] ∧
      valueUnder replies (postOrder config request side orderType orderAmount market).run =
        postOutcome config request side orderType orderAmount
          (replies (postCall request side orderType orderAmount market tickSize)) := by
  unfold postOrder
  rw [h]
  exact ⟨rfl, rfl⟩

theorem failedOrder_blocking (failure : ProviderStageError) :
    liveOrderResponseIsBlocking (failedOrder request failure) = true := by
  unfold failedOrder liveOrderResponseIsBlocking
  by_cases h : isVenueRestart failure
  · simp [h]
  · simp [h]

theorem submitValidOrder_value :
    valueUnder replies (submitValidOrder config request side orderType orderAmount) =
      concludeOrder request
        (valueUnder replies (attemptOrder config request side orderType orderAmount).run) :=
  valueUnder_bind ..

theorem submitValidOrder_requests :
    requestsUnder replies (submitValidOrder config request side orderType orderAmount) =
      requestsUnder replies (attemptOrder config request side orderType orderAmount).run :=
  (requestsUnder_bind ..).trans (append_nil _)

/-- How the submission of a valid order ends. -/
inductive SubmissionEnds (preparation : Sidecar (Except ThrownError
    (Except LiveOrderIntentResponse ActiveMarket))) (submission : Sidecar SubmitResult) : Prop
  /-- A step of the preparation failed. -/
  | failed (error : ThrownError) (hprep : valueUnder replies preparation = .error error)
      (hrequests : requestsUnder replies submission = requestsUnder replies preparation)
      (hresult : valueUnder replies submission = concludeOrder request (.error error))
  /-- The order was rejected. -/
  | rejected (rejection : LiveOrderIntentResponse)
      (hprep : valueUnder replies preparation = .ok (.error rejection))
      (hrequests : requestsUnder replies submission = requestsUnder replies preparation)
      (hresult : valueUnder replies submission = { response := rejection, stored := false })
  /-- The arguments of the post failed. -/
  | unposted (market : ActiveMarket) (error : ThrownError)
      (hprep : valueUnder replies preparation = .ok (.ok market))
      (htick : orderTickSize market = .error error)
      (hrequests : requestsUnder replies submission = requestsUnder replies preparation)
      (hresult : valueUnder replies submission =
        concludeOrder request (.error (.stage (stageError .orderSubmission error))))
  /-- The order was posted. -/
  | posted (market : ActiveMarket) (tickSize : TickSize)
      (hprep : valueUnder replies preparation = .ok (.ok market))
      (htick : orderTickSize market = .ok tickSize)
      (hrequests : requestsUnder replies submission = requestsUnder replies preparation ++
        [postCall request side orderType orderAmount market tickSize])
      (hresult : valueUnder replies submission = concludeOrder request
        ((postOutcome config request side orderType orderAmount
          (replies (postCall request side orderType orderAmount market tickSize))).map
            fun response => { response := response, stored := true }))

theorem submitValidOrder_ends :
    SubmissionEnds replies config request side orderType orderAmount
      (prepareOrder request side orderAmount).run
      (submitValidOrder config request side orderType orderAmount) := by
  have hvalue := submitValidOrder_value replies config request side orderType orderAmount
  have hrequests := submitValidOrder_requests replies config request side orderType orderAmount
  unfold attemptOrder at hvalue hrequests
  rw [valueUnder_run_bind] at hvalue
  rw [requestsUnder_run_bind] at hrequests
  cases hprep : valueUnder replies (prepareOrder request side orderAmount).run with
  | error error =>
    rw [hprep] at hvalue hrequests
    exact .failed error hprep (by simpa using hrequests) hvalue
  | ok prepared =>
    rw [hprep] at hvalue hrequests
    cases prepared with
    | error rejection =>
      exact .rejected rejection hprep (by simpa using hrequests) hvalue
    | ok market =>
      simp only [afterOk_ok, requestsUnder_run_bind] at hrequests
      replace hvalue := hvalue.trans (congrArg _ (valueUnder_run_bind ..))
      cases htick : orderTickSize market with
      | error error =>
        obtain ⟨hpost, hthrown⟩ := postOrder_of_error replies config request side orderType
          orderAmount market htick
        rw [hpost, hthrown] at hrequests
        rw [hthrown] at hvalue
        exact .unposted market error hprep htick (by simpa using hrequests) hvalue
      | ok tickSize =>
        obtain ⟨hpost, hanswer⟩ := postOrder_of_ok replies config request side orderType
          orderAmount market htick
        rw [hpost, hanswer] at hrequests
        rw [hanswer] at hvalue
        refine .posted market tickSize hprep htick ?_ (hvalue.trans ?_)
        · rw [hrequests]
          cases postOutcome config request side orderType orderAmount
            (replies (postCall request side orderType orderAmount market tickSize)) <;> simp
        · cases postOutcome config request side orderType orderAmount
            (replies (postCall request side orderType orderAmount market tickSize)) <;> rfl

end Posting

namespace Attempt

variable (config : SidecarConfig) (attempt : Attempt)

theorem execution_cases :
    (∃ reason, validateRequest config attempt.request = .error reason ∧
      attempt.awaited config = [] ∧
      attempt.result config =
        { response := rejectedOrder attempt.request "validation_failed" reason,
          stored := false }) ∨
    ∃ side orderType orderAmount,
      validateRequest config attempt.request = .ok (side, orderType, orderAmount) ∧
      attempt.execution config =
        submitValidOrder config attempt.request side orderType orderAmount := by
  unfold awaited result execution submitOrderIntent
  rw [AList.lookup_empty]
  cases hvalid : validateRequest config attempt.request with
  | error reason =>
    left
    exact ⟨reason, rfl, rfl, rfl⟩
  | ok valid =>
    rcases valid with ⟨side, orderType, orderAmount⟩
    right
    exact ⟨side, orderType, orderAmount, rfl, rfl⟩

theorem countP_preparation (request : LiveOrderIntentRequest) (side : Side) (orderAmount : ℚ) :
    (requestsUnder attempt.replies (prepareOrder request side orderAmount).run).countP
      SidecarCall.isPost = 0 := by
  rw [countP_eq_zero]
  intro c hc
  simp [(prepareOrder_prepares request side orderAmount).postless c hc]

/-- An execution posts at most one order, and what it posts is stored. -/
theorem posts_le_one :
    attempt.posts config ≤ 1 ∧
      (0 < attempt.posts config → (attempt.result config).stored = true) := by
  unfold posts result
  rcases attempt.execution_cases config with ⟨reason, -, hawaited, -⟩ | ⟨side, orderType,
    orderAmount, -, hexecution⟩
  · simp [hawaited]
  · unfold awaited
    rw [hexecution]
    have hprep := attempt.countP_preparation attempt.request side orderAmount
    rcases submitValidOrder_ends attempt.replies config attempt.request side orderType orderAmount
      with ⟨error, -, hrequests, hresult⟩ | ⟨rejection, -, hrequests, hresult⟩ |
        ⟨market, error, -, -, hrequests, hresult⟩ | ⟨market, tickSize, -, -, hrequests, hresult⟩
    · rw [hrequests, hprep]
      exact ⟨Nat.zero_le 1, fun h => absurd h (Nat.lt_irrefl 0)⟩
    · rw [hrequests, hprep]
      exact ⟨Nat.zero_le 1, fun h => absurd h (Nat.lt_irrefl 0)⟩
    · rw [hrequests, hprep]
      exact ⟨Nat.zero_le 1, fun h => absurd h (Nat.lt_irrefl 0)⟩
    · rw [hrequests, countP_append, hprep, hresult]
      constructor
      · simp [postCall, SidecarCall.isPost]
      · intro _
        cases postOutcome config attempt.request side orderType orderAmount
          (attempt.replies (postCall attempt.request side orderType orderAmount market tickSize)) <;>
        rfl

end Attempt

/-! ## Rejections and unknown outcomes -/

/-- The venue's answer says whether it took the order, by a flag or by a status. -/
def OrderResponse.definite (response : OrderResponse) : Bool :=
  response.success.isSome || response.status.any nonBlank

/-- Whether an await is a post that the venue answered definitely. -/
def SidecarCall.answered : (c : SidecarCall) → c.Reply → Bool
  | .createAndPostMarketOrder .., .resolved (some response) => response.definite
  | _, _ => false

/-- Whether an await is a post that the venue answered without saying whether it took the order. -/
def SidecarCall.vague : (c : SidecarCall) → c.Reply → Bool
  | .createAndPostMarketOrder .., .resolved (some response) => !response.definite
  | _, _ => false

variable {c : SidecarCall} {response : LiveOrderIntentResponse}

theorem SidecarCall.answered_of_postless (h : c.isPost = false) (reply : c.Reply) :
    c.answered reply = false := by
  cases c with
  | prepare step => rfl
  | createAndPostMarketOrder order tickSize negRisk => cases h

theorem SidecarCall.vague_of_postless (h : c.isPost = false) (reply : c.Reply) :
    c.vague reply = false := by
  cases c with
  | prepare step => rfl
  | createAndPostMarketOrder order tickSize negRisk => cases h

/-- The response tells an order that was never posted from one whose outcome is unknown. -/
structure ToldApart (config : SidecarConfig) (attempt : Attempt)
    (response : LiveOrderIntentResponse) : Prop where
  unsent : attempt.posts config = 0 → liveOrderResponseIsBlocking response = false
  unknown : 0 < attempt.posts config →
    (∀ c ∈ attempt.awaited config, c.answered (attempt.replies c) = false) →
    liveOrderResponseIsBlocking response = true

/-- No step that prepares the order fails, a market that takes the order has a tick size that the
venue knows, and the venue's answer is not a vague one. -/
structure Decided (config : SidecarConfig) (attempt : Attempt) : Prop where
  prepared : ∀ step, .prepare step ∈ attempt.awaited config → ¬ StepFails attempt.replies step
  ticked : ∀ side orderType orderAmount,
    validateRequest config attempt.request = .ok (side, orderType, orderAmount) →
    ∀ market, valueUnder attempt.replies (prepareOrder attempt.request side orderAmount).run =
      .ok (.ok market) → ∃ tickSize, orderTickSize market = .ok tickSize
  answered : ∀ c ∈ attempt.awaited config, c.vague (attempt.replies c) = false

theorem blocking_of_status (other : LiveOrderIntentResponse) (h : response.status = other.status) :
    liveOrderResponseIsBlocking response = liveOrderResponseIsBlocking other := by
  unfold liveOrderResponseIsBlocking
  rw [h]

theorem ToldApart.of_status {config : SidecarConfig} {attempt : Attempt}
    {response' : LiveOrderIntentResponse} (h : ToldApart config attempt response')
    (hstatus : response.status = response'.status) : ToldApart config attempt response where
  unsent hposts := (blocking_of_status response' hstatus).trans (h.unsent hposts)
  unknown hposts hanswers :=
    (blocking_of_status response' hstatus).trans (h.unknown hposts hanswers)

theorem normalizeOrderStatus_of_vague {response : OrderResponse}
    (h : response.definite = false) : normalizeOrderStatus response = "rejected" := by
  obtain ⟨hsuccess, hstatus⟩ := (Bool.or_eq_false_iff ..).mp h
  have hnone : response.status.filter nonBlank = none := by
    cases hvalue : response.status with
    | none => rfl
    | some status =>
      rw [hvalue] at hstatus
      simpa [Option.filter] using hstatus
  unfold normalizeOrderStatus
  rw [hnone]
  have hflag : response.success ≠ some true := by
    intro htrue
    rw [htrue] at hsuccess
    cases hsuccess
  exact if_neg hflag

theorem concludeOrder_error_blocking (request : LiveOrderIntentRequest) (error : ThrownError) :
    liveOrderResponseIsBlocking (concludeOrder request (.error error)).response = true :=
  failedOrder_blocking request _

/-- What a posted order is answered with. -/
theorem postOutcome_toldApart_iff (config : SidecarConfig) (request : LiveOrderIntentRequest)
    (side : Side) (orderType : OrderType) (orderAmount : ℚ) (market : ActiveMarket)
    (tickSize : TickSize) (replies : (c : SidecarCall) → c.Reply) :
    ((postCall request side orderType orderAmount market tickSize).answered
        (replies (postCall request side orderType orderAmount market tickSize)) = false →
      liveOrderResponseIsBlocking (concludeOrder request
        ((postOutcome config request side orderType orderAmount
          (replies (postCall request side orderType orderAmount market tickSize))).map
            fun response => { response := response, stored := true })).response = true) ↔
      (postCall request side orderType orderAmount market tickSize).vague
        (replies (postCall request side orderType orderAmount market tickSize)) = false := by
  have hthrown : ∀ error : ThrownError, liveOrderResponseIsBlocking (concludeOrder request
      ((Except.error error : Except ThrownError LiveOrderIntentResponse).map
        fun response => { response := response, stored := true })).response = true :=
    fun error => concludeOrder_error_blocking request error
  unfold postCall
  match replies (.createAndPostMarketOrder _ _ _) with
  | .resolved (some response) =>
    simp only [SidecarCall.answered, SidecarCall.vague]
    cases hdefinite : response.definite with
    | true => simp
    | false =>
      have hstatus := normalizeOrderStatus_of_vague hdefinite
      have hcalm : liveOrderResponseIsBlocking
          (submittedOrder request side orderType orderAmount response) = false :=
        blocking_of_status (rejectedOrder request "rejected" "") hstatus
      refine iff_of_false (fun h => ?_) (by simp)
      have hblocking := h rfl
      exact absurd hblocking (by rw [Bool.not_eq_true]; exact hcalm)
  | .resolved none => exact iff_of_true (fun _ => hthrown _) rfl
  | .rejected error => exact iff_of_true (fun _ => hthrown _) rfl
  | .pending => exact iff_of_true (fun _ => hthrown _) rfl

section ValidOrder

variable {config : SidecarConfig} {attempt : Attempt} {side : Side} {orderType : OrderType}
  {orderAmount : ℚ}
variable {error : ThrownError} {rejection : LiveOrderIntentResponse} {market : ActiveMarket}
variable {tickSize : TickSize}

theorem Attempt.posts_eq_zero
    (hawaited : attempt.awaited config =
      requestsUnder attempt.replies (prepareOrder attempt.request side orderAmount).run) :
    attempt.posts config = 0 := by
  unfold Attempt.posts
  rw [hawaited]
  exact attempt.countP_preparation attempt.request side orderAmount

theorem Decided.ticked_iff
    (hvalid : validateRequest config attempt.request = .ok (side, orderType, orderAmount)) :
    (∀ side orderType orderAmount,
      validateRequest config attempt.request = .ok (side, orderType, orderAmount) →
      ∀ market, valueUnder attempt.replies (prepareOrder attempt.request side orderAmount).run =
        .ok (.ok market) → ∃ tickSize, orderTickSize market = .ok tickSize) ↔
      ∀ market, valueUnder attempt.replies (prepareOrder attempt.request side orderAmount).run =
        .ok (.ok market) → ∃ tickSize, orderTickSize market = .ok tickSize := by
  constructor
  · intro h
    exact h side orderType orderAmount hvalid
  · intro h side' orderType' orderAmount' hvalid'
    obtain ⟨rfl, rfl, rfl⟩ : side = side' ∧ orderType = orderType' ∧
        orderAmount = orderAmount' := by
      have heq := hvalid.symm.trans hvalid'
      simpa using heq
    exact h

theorem preparation_not_vague (c : SidecarCall)
    (hc : c ∈ requestsUnder attempt.replies (prepareOrder attempt.request side orderAmount).run) :
    c.vague (attempt.replies c) = false :=
  SidecarCall.vague_of_postless
    ((prepareOrder_prepares attempt.request side orderAmount).postless c hc) _

theorem not_toldApart_of_thrown
    (hawaited : attempt.awaited config =
      requestsUnder attempt.replies (prepareOrder attempt.request side orderAmount).run)
    (hresult : attempt.result config = concludeOrder attempt.request (.error error)) :
    ¬ ToldApart config attempt (attempt.result config).response := by
  intro h
  have hcalm := h.unsent (Attempt.posts_eq_zero hawaited)
  rw [hresult, concludeOrder_error_blocking] at hcalm
  cases hcalm

theorem not_decided_of_thrown
    (hthrown : valueUnder attempt.replies
      (prepareOrder attempt.request side orderAmount).run = .error error)
    (hawaited : attempt.awaited config =
      requestsUnder attempt.replies (prepareOrder attempt.request side orderAmount).run) :
    ¬ Decided config attempt := by
  have hprepares : Prepares attempt.replies (prepareOrder attempt.request side orderAmount) :=
    prepareOrder_prepares attempt.request side orderAmount
  obtain ⟨step, hstep, hfails⟩ := hprepares.throws_iff.mp ⟨error, hthrown⟩
  intro h
  refine h.prepared step ?_ hfails
  rw [hawaited]
  exact hstep

theorem toldApart_of_rejection
    (hrejected : valueUnder attempt.replies
      (prepareOrder attempt.request side orderAmount).run = .ok (.error rejection))
    (hawaited : attempt.awaited config =
      requestsUnder attempt.replies (prepareOrder attempt.request side orderAmount).run)
    (hresponse : (attempt.result config).response = rejection) :
    ToldApart config attempt (attempt.result config).response where
  unsent _ := by
    rw [hresponse]
    exact prepareOrder_rejection hrejected
  unknown hposted := by
    have hposts := Attempt.posts_eq_zero hawaited
    omega

theorem decided_of_rejection
    (hvalid : validateRequest config attempt.request = .ok (side, orderType, orderAmount))
    (hrejected : valueUnder attempt.replies
      (prepareOrder attempt.request side orderAmount).run = .ok (.error rejection))
    (hawaited : attempt.awaited config =
      requestsUnder attempt.replies (prepareOrder attempt.request side orderAmount).run) :
    Decided config attempt where
  prepared := by
    have hprepares : Prepares attempt.replies (prepareOrder attempt.request side orderAmount) :=
      prepareOrder_prepares attempt.request side orderAmount
    rw [hawaited]
    exact hprepares.calm hrejected
  ticked := by
    rw [Decided.ticked_iff hvalid, hrejected]
    intro market hready
    cases hready
  answered := by
    rw [hawaited]
    exact preparation_not_vague

theorem toldApart_iff_of_posted
    (hawaited : attempt.awaited config =
      requestsUnder attempt.replies (prepareOrder attempt.request side orderAmount).run ++
        [postCall attempt.request side orderType orderAmount market tickSize])
    (hresult : attempt.result config = concludeOrder attempt.request
      ((postOutcome config attempt.request side orderType orderAmount
        (attempt.replies (postCall attempt.request side orderType orderAmount market
          tickSize))).map fun response => { response := response, stored := true })) :
    ToldApart config attempt (attempt.result config).response ↔
      (postCall attempt.request side orderType orderAmount market tickSize).vague
        (attempt.replies (postCall attempt.request side orderType orderAmount market
          tickSize)) = false := by
  have hposts : 0 < attempt.posts config := by
    unfold Attempt.posts
    rw [hawaited, countP_append]
    simp [postCall, SidecarCall.isPost]
  have hprepares : Prepares attempt.replies (prepareOrder attempt.request side orderAmount) :=
    prepareOrder_prepares attempt.request side orderAmount
  have hanswer := postOutcome_toldApart_iff config attempt.request side orderType orderAmount
    market tickSize attempt.replies
  rw [← hanswer]
  constructor
  · intro h hunanswered
    have hblocking := h.unknown hposts
    rw [hawaited, hresult] at hblocking
    apply hblocking
    intro c hc
    rcases mem_append.mp hc with hc | hc
    · exact SidecarCall.answered_of_postless (hprepares.postless c hc) _
    · rw [mem_singleton.mp hc]
      exact hunanswered
  · intro h
    constructor
    · intro hnone
      omega
    · intro _ hunanswered
      rw [hawaited] at hunanswered
      rw [hresult]
      apply h
      apply hunanswered
      exact mem_append_right _ mem_cons_self

theorem decided_iff_of_posted
    (hvalid : validateRequest config attempt.request = .ok (side, orderType, orderAmount))
    (hready : valueUnder attempt.replies
      (prepareOrder attempt.request side orderAmount).run = .ok (.ok market))
    (htick : orderTickSize market = .ok tickSize)
    (hawaited : attempt.awaited config =
      requestsUnder attempt.replies (prepareOrder attempt.request side orderAmount).run ++
        [postCall attempt.request side orderType orderAmount market tickSize]) :
    Decided config attempt ↔
      (postCall attempt.request side orderType orderAmount market tickSize).vague
        (attempt.replies (postCall attempt.request side orderType orderAmount market
          tickSize)) = false := by
  have hprepares : Prepares attempt.replies (prepareOrder attempt.request side orderAmount) :=
    prepareOrder_prepares attempt.request side orderAmount
  constructor
  · intro h
    apply h.answered
    rw [hawaited]
    exact mem_append_right _ mem_cons_self
  · intro h
    constructor
    · rw [hawaited]
      intro step hstep
      rcases mem_append.mp hstep with hstep | hstep
      · exact hprepares.calm hready step hstep
      · cases mem_singleton.mp hstep
    · rw [Decided.ticked_iff hvalid, hready]
      rintro _ ⟨⟩
      exact ⟨tickSize, htick⟩
    · rw [hawaited]
      intro c hc
      rcases mem_append.mp hc with hc | hc
      · exact preparation_not_vague c hc
      · rw [mem_singleton.mp hc]
        exact h

end ValidOrder

variable {config : SidecarConfig} {attempt : Attempt} {reason : String}

theorem toldApart_of_invalid (hawaited : attempt.awaited config = [])
    (hresult : attempt.result config =
      { response := rejectedOrder attempt.request "validation_failed" reason,
        stored := false }) :
    ToldApart config attempt (attempt.result config).response where
  unsent _ := by
    rw [hresult]
    rfl
  unknown hposted := by
    unfold Attempt.posts at hposted
    rw [hawaited] at hposted
    cases hposted

theorem decided_of_invalid (hinvalid : validateRequest config attempt.request = .error reason)
    (hawaited : attempt.awaited config = []) : Decided config attempt where
  prepared step hstep := by
    rw [hawaited] at hstep
    cases hstep
  ticked side orderType orderAmount hvalid := by
    rw [hinvalid] at hvalid
    cases hvalid
  answered c hc := by
    rw [hawaited] at hc
    cases hc

/-- One execution tells its order apart exactly when every step before the post succeeds and the
venue's answer is not a vague one. -/
theorem toldApart_iff (config : SidecarConfig) (attempt : Attempt) :
    ToldApart config attempt (attempt.result config).response ↔ Decided config attempt := by
  rcases attempt.execution_cases config with ⟨reason, hinvalid, hawaited, hresult⟩ | ⟨side,
    orderType, orderAmount, hvalid, hexecution⟩
  · exact iff_of_true (toldApart_of_invalid hawaited hresult) (decided_of_invalid hinvalid hawaited)
  · have hcases := submitValidOrder_ends attempt.replies config attempt.request side orderType
      orderAmount
    rw [← hexecution] at hcases
    rcases hcases with ⟨error, hthrown, hawaited, hresult⟩ |
      ⟨rejection, hrejected, hawaited, hresult⟩ |
      ⟨market, error, hready, htick, hawaited, hresult⟩ |
      ⟨market, tickSize, hready, htick, hawaited, hresult⟩
    · exact iff_of_false (not_toldApart_of_thrown hawaited hresult)
        (not_decided_of_thrown hthrown hawaited)
    · have hresponse : (attempt.result config).response = rejection :=
        congrArg SubmitResult.response hresult
      exact iff_of_true (toldApart_of_rejection hrejected hawaited hresponse)
        (decided_of_rejection hvalid hrejected hawaited)
    · -- An unknown tick size throws after the preparation, and is reported like a failed step.
      apply iff_of_false (not_toldApart_of_thrown hawaited hresult)
      intro h
      obtain ⟨tickSize, hknown⟩ := (Decided.ticked_iff hvalid).mp h.ticked market hready
      rw [htick] at hknown
      cases hknown
    · exact (toldApart_iff_of_posted hawaited hresult).trans
        (decided_iff_of_posted hvalid hready htick hawaited).symm

def sampleSidecar : SidecarConfig where
  maxOrderUsd := 0
  sdkTimeoutMs := 10000

def sampleMarket : ActiveMarket where
  conditionId := "market"
  minOrderSize := some 5
  tickSize := some (1 / 100)
  acceptingOrders := true
  tokens := ["token", "other"]
  negRisk := some false
  metadataSource := .clobV2
  metadataError := none

def sampleReplies (authentication : Except ThrownError AuthState)
    (answer : UserMarketOrder → PromiseOutcome (Option OrderResponse)) :
    (c : SidecarCall) → c.Reply
  | .prepare .getAuthState => authentication
  | .prepare .discoverActiveMarkets => .ok [sampleMarket]
  | .prepare (.enrichActiveMarkets markets) => .ok markets
  | .prepare (.observeAccountState ..) => .ok (sampleAccount 1000)
  | .prepare (.fetchPositions _) => .ok []
  | .createAndPostMarketOrder order _ _ => answer order

def sampleVenueFill (price : ℚ) (order : UserMarketOrder) : PromiseOutcome (Option OrderResponse) :=
  .resolved (some
    { success := some true, errorMsg := none, orderId := some "venue-order",
      status := some "matched",
      takingAmount := some (.number (.float (order.amount / price * collateralDecimals))),
      makingAmount := some (.number (.float (order.amount * collateralDecimals))) })

def sampleAttempt : Attempt where
  request := buildLiveOrderRequestFromWorker 1 1 (sampleOrder 1 .up) 5
  replies := sampleReplies (.ok { walletAddress := some "wallet" }) (sampleVenueFill (1 / 2))

def sampleUnauthenticated : Attempt :=
  { sampleAttempt with
    replies := sampleReplies (.error (.other (some 401) "unauthorized")) (sampleVenueFill (1 / 2)) }

end BubaPaint
