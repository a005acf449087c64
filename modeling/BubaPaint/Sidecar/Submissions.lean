import BubaPaint.Library.Runs
import BubaPaint.Sidecar.Executions

/-!
# Concurrent submissions

Calls of `submitOrderIntent` on one provider run interleaved: a call runs from one await to the
next, looks for a stored response when it starts, and stores its own when it ends. Two calls with one
client order id that overlap both find nothing stored.

Main results:

- Theorem `submissions_told_apart_iff`: when a response tells what became of its order.
-/

namespace BubaPaint

open Effects Program

/-- One call in flight: its number, its intent, what its awaits come to, and what is left of it. -/
structure SubmitCall where
  call : ℕ
  attempt : Attempt
  program : Sidecar SubmitResult

def SubmitCall.clientOrderId (call : SubmitCall) : String :=
  call.attempt.request.clientOrderId

/-- The provider: the responses it has stored, the calls in flight, and how many have started. -/
structure SidecarProvider where
  submittedOrderResponses : AList fun _ : String => LiveOrderIntentResponse
  calls : List SubmitCall
  started : ℕ

def SidecarProvider.start : SidecarProvider where
  submittedOrderResponses := ∅
  calls := []
  started := 0

/-- A call starts, or its pending await is over. -/
inductive SidecarAction where
  | submit (attempt : Attempt)
  | resume (index : ℕ)

namespace SidecarProvider

variable (config : SidecarConfig) (provider : SidecarProvider)

def newCall (attempt : Attempt) : SubmitCall where
  call := provider.started
  attempt := attempt
  program := submitOrderIntent config provider.submittedOrderResponses attempt.request

/-- Let a call run up to its next await: it stays in flight, or it ends and stores its response. -/
def proceed (call : SubmitCall) : SidecarProvider :=
  match call.program with
  | .request _ _ => { provider with calls := provider.calls ++ [call] }
  | .pure result =>
    if result.stored then
      { provider with
        submittedOrderResponses :=
          provider.submittedOrderResponses.insert call.clientOrderId result.response }
    else provider

def step : SidecarAction → Option SidecarProvider
  | .submit attempt =>
    some ({ provider with started := provider.started + 1 }.proceed
      (provider.newCall config attempt))
  | .resume index =>
    match provider.calls[index]? with
    | none => none
    | some call =>
      match call.program with
      | .pure _ => none
      | .request c next =>
        some ({ provider with calls := provider.calls.eraseIdx index }.proceed
          { call with program := next (call.attempt.replies c) })

end SidecarProvider

/-- What a call does. A response comes from an attempt: the call's own, or the one whose response was
stored. -/
inductive SubmitEvent where
  | started (call : ℕ) (clientOrderId : String)
  | posted (call : ℕ) (clientOrderId : String)
  | returned (call : ℕ) (clientOrderId : String) (origin : Attempt)
      (response : LiveOrderIntentResponse)

def SubmitEvent.posts (clientOrderId : String) : SubmitEvent → Bool
  | .posted _ id => id == clientOrderId
  | _ => false

/-- The events of the provider, the newest first, and the attempts whose responses are stored. -/
structure SubmitHistory where
  events : List SubmitEvent
  origins : AList fun _ : String => Attempt

def SubmitHistory.start : SubmitHistory where
  events := []
  origins := ∅

namespace SubmitHistory

def note (history : SubmitHistory) (call : SubmitCall) (origin : Attempt) : SubmitHistory :=
  match call.program with
  | .pure result =>
    { events := .returned call.call call.clientOrderId origin result.response :: history.events
      origins :=
        if result.stored then history.origins.insert call.clientOrderId origin
        else history.origins }
  | .request (.createAndPostMarketOrder ..) _ =>
    { history with events := .posted call.call call.clientOrderId :: history.events }
  | .request (.prepare _) _ => history

/-- Note a step. A call that finds a stored response returns the one of its origin. -/
def record (config : SidecarConfig) (history : SubmitHistory) (provider : SidecarProvider)
    (action : SidecarAction) (_ : SidecarProvider) : SubmitHistory :=
  match action with
  | .submit attempt =>
    { history with
      events := .started provider.started attempt.request.clientOrderId :: history.events }.note
      (provider.newCall config attempt)
      ((history.origins.lookup attempt.request.clientOrderId).getD attempt)
  | .resume index =>
    match provider.calls[index]? with
    | none => history
    | some call =>
      match call.program with
      | .pure _ => history
      | .request c next =>
        history.note { call with program := next (call.attempt.replies c) } call.attempt

end SubmitHistory

/-- The runs of a provider. -/
def submissionSystem (config : SidecarConfig) :
    System SidecarProvider SidecarAction SubmitHistory where
  step := SidecarProvider.step config
  record := SubmitHistory.record config

/-! ## Responses and their origins -/

/-- What a call in flight still has to do is what its execution has left. -/
structure SubmitCall.Pending (config : SidecarConfig) (call : SubmitCall) : Prop where
  value : valueUnder call.attempt.replies call.program = call.attempt.result config
  awaits : ∃ c next, call.program = .request c next

/-- Every stored and every returned response comes from the execution of an attempt with its id. -/
structure Originates (config : SidecarConfig) (history : SubmitHistory)
    (provider : SidecarProvider) : Prop where
  pending : ∀ call ∈ provider.calls, call.Pending config
  stored : ∀ id response, provider.submittedOrderResponses.lookup id = some response →
    ∃ origin, history.origins.lookup id = some origin ∧ origin.request.clientOrderId = id ∧
      response = (origin.result config).response
  unstored : ∀ id, id ∉ provider.submittedOrderResponses → id ∉ history.origins
  returned : ∀ call id origin response, .returned call id origin response ∈ history.events →
    origin.request.clientOrderId = id ∧
      response.status = (origin.result config).response.status

variable {config : SidecarConfig} {history : SubmitHistory} {provider provider' : SidecarProvider}
variable {attempt : Attempt}

theorem Originates.mono {history' : SubmitHistory} (h : Originates config history provider)
    (hcalls : ∀ call ∈ provider'.calls, call ∈ provider.calls)
    (hresponses : provider'.submittedOrderResponses = provider.submittedOrderResponses)
    (horigins : history'.origins = history.origins)
    (hevents : ∀ call id origin response, .returned call id origin response ∈ history'.events →
      .returned call id origin response ∈ history.events) :
    Originates config history' provider' where
  pending call hcall := h.pending call (hcalls call hcall)
  stored := by
    rw [hresponses, horigins]
    exact h.stored
  unstored := by
    rw [hresponses, horigins]
    exact h.unstored
  returned call id origin response hreturned :=
    h.returned call id origin response (hevents call id origin response hreturned)

/-- A call that runs to its next await, or to its end, keeps the origins. -/
theorem Originates.proceed (h : Originates config history provider) {call : SubmitCall}
    {origin : Attempt} (hpending : ∀ c next, call.program = .request c next → call.Pending config)
    (hends : ∀ result, call.program = .pure result →
      origin.request.clientOrderId = call.clientOrderId ∧
        result.response.status = (origin.result config).response.status ∧
        (result.stored = true → result.response = (origin.result config).response)) :
    Originates config (history.note call origin) (provider.proceed call) := by
  cases hprogram : call.program with
  | request c next =>
    have hadded : ∀ call' ∈ (provider.proceed call).calls, call'.Pending config := by
      intro call' hcall'
      unfold SidecarProvider.proceed at hcall'
      rw [hprogram] at hcall'
      rcases List.mem_append.mp hcall' with hcall' | hcall'
      · exact h.pending call' hcall'
      · rw [List.mem_singleton.mp hcall']
        exact hpending c next hprogram
    have hresponses : (provider.proceed call).submittedOrderResponses =
        provider.submittedOrderResponses := by
      unfold SidecarProvider.proceed
      rw [hprogram]
    have horigins : (history.note call origin).origins = history.origins := by
      unfold SubmitHistory.note
      rw [hprogram]
      cases c <;> rfl
    have hevents : ∀ number id origin' response,
        SubmitEvent.returned number id origin' response ∈ (history.note call origin).events →
        .returned number id origin' response ∈ history.events := by
      intro number id origin' response hreturned
      unfold SubmitHistory.note at hreturned
      rw [hprogram] at hreturned
      cases c with
      | prepare step => exact hreturned
      | createAndPostMarketOrder order tickSize negRisk => simpa using hreturned
    constructor
    · exact hadded
    · rw [hresponses, horigins]
      exact h.stored
    · rw [hresponses, horigins]
      exact h.unstored
    · intro number id origin' response hreturned
      exact h.returned number id origin' response (hevents number id origin' response hreturned)
  | pure result =>
    obtain ⟨hid, hstatus, hresponse⟩ := hends result hprogram
    unfold SidecarProvider.proceed SubmitHistory.note
    rw [hprogram]
    dsimp only
    constructor
    · intro call' hcall'
      apply h.pending call'
      split at hcall' <;> exact hcall'
    · intro id response hlookup
      split at hlookup
      · rename_i hstored
        rw [if_pos hstored]
        by_cases hsame : id = call.clientOrderId
        · subst hsame
          rw [AList.lookup_insert] at hlookup
          cases hlookup
          exact ⟨origin, AList.lookup_insert _, hid, hresponse hstored⟩
        · rw [AList.lookup_insert_ne hsame] at hlookup
          rw [AList.lookup_insert_ne hsame]
          exact h.stored id response hlookup
      · rename_i hstored
        rw [if_neg hstored]
        exact h.stored id response hlookup
    · intro id hid'
      split at hid'
      · rename_i hstored
        rw [if_pos hstored]
        rw [AList.mem_insert, not_or] at hid' ⊢
        exact ⟨hid'.1, h.unstored id hid'.2⟩
      · rename_i hstored
        rw [if_neg hstored]
        exact h.unstored id hid'
    · intro number id origin' response hreturned
      rcases List.mem_cons.mp hreturned with heq | hreturned
      · cases heq
        exact ⟨hid, hstatus⟩
      · exact h.returned number id origin' response hreturned

theorem newCall_of_new
    (h : provider.submittedOrderResponses.lookup attempt.request.clientOrderId = none) :
    (provider.newCall config attempt).program = attempt.execution config := by
  simp only [SidecarProvider.newCall, Attempt.execution, submitOrderIntent, h, AList.lookup_empty]

theorem newCall_of_stored {prior : LiveOrderIntentResponse}
    (h : provider.submittedOrderResponses.lookup attempt.request.clientOrderId = some prior) :
    (provider.newCall config attempt).program =
      .pure { response := duplicateOrder prior, stored := false } := by
  simp only [SidecarProvider.newCall, submitOrderIntent, h]
  rfl

theorem duplicateOrder_status (prior : LiveOrderIntentResponse) :
    (duplicateOrder prior).status = prior.status :=
  rfl

theorem newCall_pending {c : SidecarCall} {next : c.Reply → Sidecar SubmitResult}
    (hprogram : (provider.newCall config attempt).program = .request c next) :
    (provider.newCall config attempt).Pending config := by
  cases hprior : provider.submittedOrderResponses.lookup attempt.request.clientOrderId with
  | some prior =>
    rw [newCall_of_stored hprior] at hprogram
    cases hprogram
  | none =>
    refine ⟨?_, c, next, hprogram⟩
    rw [newCall_of_new hprior]
    rfl

theorem Originates.newCall_ends (h : Originates config history provider) {result : SubmitResult}
    (hprogram : (provider.newCall config attempt).program = .pure result) :
    let origin := (history.origins.lookup attempt.request.clientOrderId).getD attempt
    origin.request.clientOrderId = attempt.request.clientOrderId ∧
      result.response.status = (origin.result config).response.status ∧
      (result.stored = true → result.response = (origin.result config).response) := by
  intro origin
  cases hprior : provider.submittedOrderResponses.lookup attempt.request.clientOrderId with
  | some prior =>
    rw [newCall_of_stored hprior] at hprogram
    obtain ⟨origin', horigin, hid, hresponse⟩ := h.stored _ _ hprior
    have hsame : origin = origin' := by
      simp [origin, horigin]
    obtain rfl := Program.pure.inj hprogram
    rw [hsame, ← hresponse]
    refine ⟨hid, duplicateOrder_status prior, fun hstored => ?_⟩
    exact absurd hstored Bool.false_ne_true
  | none =>
    rw [newCall_of_new hprior] at hprogram
    have hresult : result = attempt.result config := by
      unfold Attempt.result
      rw [hprogram]
      rfl
    have hnew : history.origins.lookup attempt.request.clientOrderId = none := by
      rw [AList.lookup_eq_none] at hprior ⊢
      exact h.unstored _ hprior
    have hsame : origin = attempt := by
      simp [origin, hnew]
    rw [hsame, hresult]
    exact ⟨rfl, rfl, fun _ => rfl⟩

/-- Every step keeps the origins. -/
theorem Originates.step {action : SidecarAction} (h : Originates config history provider)
    (hstep : provider.step config action = some provider') :
    Originates config (history.record config provider action provider') provider' := by
  cases action with
  | submit attempt =>
    cases hstep
    have hbase : Originates config
        { history with
          events := .started provider.started attempt.request.clientOrderId :: history.events }
        { provider with started := provider.started + 1 } :=
      h.mono (fun _ hcall => hcall) rfl rfl fun _ _ _ _ hreturned => by simpa using hreturned
    exact hbase.proceed (fun c next => newCall_pending) (fun result => h.newCall_ends)
  | resume index =>
    unfold SidecarProvider.step at hstep
    unfold SubmitHistory.record
    dsimp only at hstep ⊢
    cases hcall : provider.calls[index]? with
    | none =>
      rw [hcall] at hstep
      cases hstep
    | some call =>
      rw [hcall] at hstep
      have hpending := h.pending call (List.mem_of_getElem? hcall)
      obtain ⟨c, next, hprogram⟩ := hpending.awaits
      have hvalue := hpending.value
      rw [hprogram] at hvalue
      dsimp only at hstep ⊢
      rw [hprogram] at hstep ⊢
      cases hstep
      have hbase : Originates config history
          { provider with calls := provider.calls.eraseIdx index } :=
        h.mono (fun _ hcall => List.mem_of_mem_eraseIdx hcall) rfl rfl fun _ _ _ _ h => h
      apply hbase.proceed
      · intro c' next' hprogram'
        exact ⟨hvalue, c', next', hprogram'⟩
      · intro result hprogram'
        dsimp only at hprogram'
        have hresult : result = call.attempt.result config := by
          rw [← hvalue, valueUnder_request, hprogram']
          rfl
        rw [hresult]
        exact ⟨rfl, rfl, fun _ => rfl⟩

theorem originates_start (config : SidecarConfig) :
    Originates config SubmitHistory.start SidecarProvider.start := by
  constructor
  · intro call hcall
    cases hcall
  · intro id response hlookup
    cases hlookup
  · intro id _
    exact AList.notMem_empty id
  · intro call id origin response hreturned
    cases hreturned

theorem originates_run
    {meets : SubmitHistory → SidecarProvider →
      SidecarAction → SidecarProvider → Prop}
    (hrun : (submissionSystem config).Run meets (SubmitHistory.start, SidecarProvider.start)
      history provider) : Originates config history provider := by
  exact hrun.invariant (Originates config) (originates_start config)
    fun _ _ _ _ h hstep _ => h.step hstep

/-- In every run, whatever the awaits of its calls come to, every response is about an order with its
id, and tells the order apart exactly when every step before the post succeeds and the venue's answer
is not a vague one. -/
theorem submissions_told_apart_iff (config : SidecarConfig) (history : SubmitHistory)
    (provider : SidecarProvider)
    (hrun : (submissionSystem config).Run (fun _ _ _ _ => True)
      (SubmitHistory.start, SidecarProvider.start) history provider)
    (call : ℕ) (id : String) (origin : Attempt) (response : LiveOrderIntentResponse)
    (hreturned : .returned call id origin response ∈ history.events) :
    origin.request.clientOrderId = id ∧
      (ToldApart config origin response ↔ Decided config origin) := by
  obtain ⟨hid, hstatus⟩ := (originates_run hrun).returned call id origin response hreturned
  refine ⟨hid, ?_⟩
  rw [← toldApart_iff]
  exact ⟨fun h => h.of_status hstatus.symm, fun h => h.of_status hstatus⟩

/-- A check for a return that blocks an order its origin has not posted. -/
def blocksUnposted (config : SidecarConfig) (history : SubmitHistory) : Bool :=
  match history.events with
  | .returned _ _ origin response :: _ =>
    origin.posts config == 0 && liveOrderResponseIsBlocking response
  | _ => false

/-- An order that was never posted is reported as an unknown submission. -/
theorem unposted_order_blocks :
    ∃ history provider, (submissionSystem sampleSidecar).Run (fun _ _ _ _ => True)
        (SubmitHistory.start, SidecarProvider.start) history provider ∧
      ∃ call id origin response, .returned call id origin response ∈ history.events ∧
        ¬ ToldApart sampleSidecar origin response := by
  have hfollow : ((submissionSystem sampleSidecar).follow (fun _ _ _ _ => true)
      [.submit sampleUnauthenticated, .resume 0]
      (SubmitHistory.start, SidecarProvider.start)).any (fun x =>
        blocksUnposted sampleSidecar x.1) = true := by
    decide +kernel
  obtain ⟨history, provider, hrun, hblocks⟩ := System.exists_run_of_follow hfollow
    fun _ _ _ _ _ => trivial
  refine ⟨history, provider, hrun, ?_⟩
  unfold blocksUnposted at hblocks
  split at hblocks
  · rename_i call id origin response rest hevents
    rw [Bool.and_eq_true, beq_iff_eq] at hblocks
    have hmem : .returned call id origin response ∈ history.events := by
      rw [hevents]
      exact List.mem_cons_self
    refine ⟨call, id, origin, response, hmem, fun h => ?_⟩
    have hcalm := h.unsent hblocks.1
    rw [hblocks.2] at hcalm
    cases hcalm
  · cases hblocks

/-- The sample order is posted, answered, and told apart. -/
theorem submissions_told_apart_sample :
    ∃ history provider, (submissionSystem sampleSidecar).Run (fun _ _ _ _ => True)
        (SubmitHistory.start, SidecarProvider.start) history provider ∧
      ∃ call id origin response, .returned call id origin response ∈ history.events ∧
        origin.request.clientOrderId = id ∧
          (ToldApart sampleSidecar origin response ↔ Decided sampleSidecar origin) := by
  have hfollow : ((submissionSystem sampleSidecar).follow (fun _ _ _ _ => true)
      [.submit sampleAttempt, .resume 0, .resume 0, .resume 0, .resume 0, .resume 0]
      (SubmitHistory.start, SidecarProvider.start)).any (fun x =>
        match x.1.events with
        | .returned .. :: _ => true
        | _ => false) = true := by
    decide +kernel
  obtain ⟨history, provider, hrun, hreturned⟩ := System.exists_run_of_follow hfollow
    fun _ _ _ _ _ => trivial
  refine ⟨history, provider, hrun, ?_⟩
  split at hreturned
  · rename_i call id origin response rest hevents
    have hmem : .returned call id origin response ∈ history.events := by
      rw [hevents]
      exact List.mem_cons_self
    exact ⟨call, id, origin, response, hmem,
      submissions_told_apart_iff sampleSidecar history provider hrun call id origin response hmem⟩
  · cases hreturned

end BubaPaint
