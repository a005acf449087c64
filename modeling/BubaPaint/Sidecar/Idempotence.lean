import BubaPaint.Sidecar.Submissions

/-!
# One post for each client order id

As long as a call starts only when no call with its id is in flight, an id whose response is not
stored has been posted by at most the one call in flight, and a stored response stays: every later
call repeats it.

Main results:

- Theorem `submissions_idempotent`: without overlapping calls an id is posted once.
-/

namespace BubaPaint

open Effects Program List SidecarProvider SubmitHistory

def postCount (events : List SubmitEvent) (id : String) : ℕ :=
  events.countP (SubmitEvent.posts id)

/-- A response reports the same outcome as another. -/
structure Repeats (response first : LiveOrderIntentResponse) : Prop where
  ok : response.ok = first.ok
  status : response.status = first.status
  venueOrderId : response.venueOrderId = first.venueOrderId
  acceptedSize : response.acceptedSize = first.acceptedSize

theorem Repeats.refl (response : LiveOrderIntentResponse) : Repeats response response :=
  ⟨rfl, rfl, rfl, rfl⟩

theorem Repeats.symm {response first : LiveOrderIntentResponse} (h : Repeats response first) :
    Repeats first response :=
  ⟨h.ok.symm, h.status.symm, h.venueOrderId.symm, h.acceptedSize.symm⟩

theorem Repeats.trans {response first second : LiveOrderIntentResponse} (h : Repeats response first)
    (h' : Repeats first second) : Repeats response second :=
  ⟨h.ok.trans h'.ok, h.status.trans h'.status, h.venueOrderId.trans h'.venueOrderId,
    h.acceptedSize.trans h'.acceptedSize⟩

theorem repeats_duplicateOrder (prior : LiveOrderIntentResponse) :
    Repeats (duplicateOrder prior) prior :=
  ⟨rfl, rfl, rfl, rfl⟩

/-- Every call that starts after a posted order with its id was answered reports the same outcome.
The newest event is first. -/
def RepeatsPosted (config : SidecarConfig) (events : List SubmitEvent) : Prop :=
  ∀ later earlier a id origin first, events = later ++ .returned a id origin first :: earlier →
    0 < origin.posts config → ∀ b origin' response, .started b id ∈ later →
      .returned b id origin' response ∈ later → Repeats response first

/-- Each id is posted at most once, and its outcome is repeated. -/
structure PostsOnce (config : SidecarConfig) (events : List SubmitEvent) : Prop where
  once : ∀ id, postCount events id ≤ 1
  repeated : RepeatsPosted config events

/-- No call starts while another one with its client order id is in flight. -/
def NoOverlap (_ : SubmitHistory) (provider : SidecarProvider) (action : SidecarAction)
    (_ : SidecarProvider) : Prop :=
  match action with
  | .submit attempt =>
    ∀ call ∈ provider.calls, call.clientOrderId ≠ attempt.request.clientOrderId
  | .resume _ => True

section Events

variable {config : SidecarConfig} {events : List SubmitEvent}

theorem RepeatsPosted.posted (h : RepeatsPosted config events) (call : ℕ) (id : String) :
    RepeatsPosted config (.posted call id :: events) := by
  intro later earlier a id' origin first heq hposts b origin' response hstarted hreturned
  cases later with
  | nil => cases heq
  | cons event later =>
    obtain ⟨rfl, htail⟩ := List.cons.inj heq
    refine h later earlier a id' origin first htail hposts b origin' response ?_ ?_
    · simpa using hstarted
    · simpa using hreturned

theorem RepeatsPosted.started (h : RepeatsPosted config events) {call : ℕ} (id : String)
    (hnew : ∀ id origin response, .returned call id origin response ∉ events) :
    RepeatsPosted config (.started call id :: events) := by
  intro later earlier a id' origin first heq hposts b origin' response hstarted hreturned
  cases later with
  | nil => cases heq
  | cons event later =>
    obtain ⟨rfl, htail⟩ := List.cons.inj heq
    have hreturned' : .returned b id' origin' response ∈ later := by simpa using hreturned
    rcases mem_cons.mp hstarted with hhead | hstarted'
    · cases hhead
      refine absurd ?_ (hnew id origin' response)
      rw [htail]
      exact mem_append_left _ hreturned'
    · exact h later earlier a id' origin first htail hposts b origin' response hstarted' hreturned'

theorem RepeatsPosted.returned (h : RepeatsPosted config events) (call : ℕ) {id : String}
    (origin : Attempt) {response : LiveOrderIntentResponse}
    (hagrees : ∀ a origin' first, .returned a id origin' first ∈ events →
      0 < origin'.posts config → Repeats response first) :
    RepeatsPosted config (.returned call id origin response :: events) := by
  intro later earlier a id' origin' first heq hposts b origin'' response' hstarted hreturned
  cases later with
  | nil => cases hstarted
  | cons event later =>
    obtain ⟨rfl, htail⟩ := List.cons.inj heq
    have hstarted' : .started b id' ∈ later := by simpa using hstarted
    rcases mem_cons.mp hreturned with hhead | hreturned'
    · cases hhead
      apply hagrees a origin' first _ hposts
      rw [htail]
      exact mem_append_right _ mem_cons_self
    · exact h later earlier a id' origin' first htail hposts b origin'' response' hstarted'
        hreturned'

variable (call : ℕ) (id id' : String)

@[simp]
theorem postCount_started : postCount (.started call id :: events) id' = postCount events id' := by
  simp [postCount, SubmitEvent.posts]

@[simp]
theorem postCount_returned (origin : Attempt) (response : LiveOrderIntentResponse) :
    postCount (.returned call id origin response :: events) id' = postCount events id' := by
  simp [postCount, SubmitEvent.posts]

theorem postCount_posted : postCount (.posted call id :: events) id = postCount events id + 1 := by
  simp [postCount, SubmitEvent.posts]

theorem postCount_posted_ne {id id' : String} (h : id ≠ id') :
    postCount (.posted call id :: events) id' = postCount events id' := by
  simp [postCount, SubmitEvent.posts, h]

end Events

/-! ## The invariant -/

/-- The posts a call may still issue after the await it is at. -/
def SubmitCall.postsLeft (call : SubmitCall) : ℕ :=
  (requestsUnder call.attempt.replies call.program).tail.countP SidecarCall.isPost

/-- The posts of every id belong to its stored response or to its only call in flight. The id
`running` is left open while its call runs. -/
structure Exclusive (config : SidecarConfig) (history : SubmitHistory) (provider : SidecarProvider)
    (running : Option String) : Prop where
  distinct : (provider.calls.map SubmitCall.clientOrderId).Nodup
  unstored : ∀ call ∈ provider.calls,
    call.clientOrderId ∉ provider.submittedOrderResponses
  posting : ∀ call ∈ provider.calls,
    postCount history.events call.clientOrderId + call.postsLeft = call.attempt.posts config
  idle : ∀ id, id ∉ provider.submittedOrderResponses →
    (∀ call ∈ provider.calls, call.clientOrderId ≠ id) → running ≠ some id →
    postCount history.events id = 0
  once : ∀ id, postCount history.events id ≤ 1
  settled : ∀ call id origin first, .returned call id origin first ∈ history.events →
    0 < origin.posts config →
    ∃ stored, provider.submittedOrderResponses.lookup id = some stored ∧ Repeats first stored
  numbered : ∀ call ∈ provider.calls, call.call < provider.started
  past : ∀ call id origin first, .returned call id origin first ∈ history.events →
    call < provider.started
  repeated : RepeatsPosted config history.events

section Step

variable {config : SidecarConfig} {history : SubmitHistory} {provider : SidecarProvider}
variable {call : SubmitCall} {c : SidecarCall} {index : ℕ}
variable {next : c.Reply → Sidecar SubmitResult}

theorem note_awaits (hprogram : call.program = .request c next) (origin : Attempt) :
    (history.note call origin).events =
      if c.isPost then .posted call.call call.clientOrderId :: history.events
      else history.events := by
  unfold note
  rw [hprogram]
  cases c <;> rfl

/-- A call that reaches an await stays in flight with the posts it has left. -/
theorem Exclusive.awaits (hprogram : call.program = .request c next)
    (h : Exclusive config history provider (some call.clientOrderId))
    (hfree : call.clientOrderId ∉ provider.submittedOrderResponses)
    (hothers : ∀ other ∈ provider.calls, other.clientOrderId ≠ call.clientOrderId)
    (hnumber : call.call < provider.started)
    (hcount : postCount history.events call.clientOrderId +
      (requestsUnder call.attempt.replies call.program).countP SidecarCall.isPost =
        call.attempt.posts config) :
    Exclusive config (history.note call call.attempt)
      { provider with calls := provider.calls ++ [call] } none := by
  have hnote : (history.note call call.attempt).events =
      if c.isPost then .posted call.call call.clientOrderId :: history.events
      else history.events := note_awaits hprogram call.attempt
  have hleft : call.postsLeft =
      (requestsUnder call.attempt.replies (next (call.attempt.replies c))).countP
        SidecarCall.isPost := by
    unfold SubmitCall.postsLeft
    rw [hprogram]
    rfl
  have hown : postCount (history.note call call.attempt).events call.clientOrderId +
      call.postsLeft = call.attempt.posts config := by
    rw [hprogram, requestsUnder_request, countP_cons] at hcount
    rw [hnote, hleft]
    cases hpost : c.isPost with
    | true =>
      simp only [hpost, if_true] at hcount ⊢
      rw [postCount_posted]
      omega
    | false =>
      simp only [hpost, Bool.false_eq_true, if_false] at hcount ⊢
      omega
  have hother : ∀ id, id ≠ call.clientOrderId →
      postCount (history.note call call.attempt).events id = postCount history.events id := by
    intro id hid
    rw [hnote]
    split
    · exact postCount_posted_ne _ hid.symm
    · rfl
  have hreturned : ∀ number id origin first,
      SubmitEvent.returned number id origin first ∈ (history.note call call.attempt).events →
      .returned number id origin first ∈ history.events := by
    intro number id origin first hmem
    rw [hnote] at hmem
    split at hmem
    · simpa using hmem
    · exact hmem
  constructor
  · rw [map_append, nodup_append]
    refine ⟨h.distinct, nodup_singleton _, ?_⟩
    intro id hid id' hid'
    obtain ⟨other, hmem, rfl⟩ := mem_map.mp hid
    rw [mem_singleton.mp hid']
    exact hothers other hmem
  · intro other hmem
    rcases mem_append.mp hmem with hmem | hmem
    · exact h.unstored other hmem
    · rw [mem_singleton.mp hmem]
      exact hfree
  · intro other hmem
    rcases mem_append.mp hmem with hmem | hmem
    · rw [hother _ (hothers other hmem)]
      exact h.posting other hmem
    · rw [mem_singleton.mp hmem]
      exact hown
  · intro id hid hcalls _
    have hne : id ≠ call.clientOrderId :=
      (hcalls call (mem_append_right _ mem_cons_self)).symm
    rw [hother id hne]
    refine h.idle id hid (fun other hmem => hcalls other (mem_append_left _ hmem)) ?_
    exact fun heq => hne (Option.some.inj heq).symm
  · intro id
    by_cases hid : id = call.clientOrderId
    · have hone := (call.attempt.posts_le_one config).1
      rw [hid]
      omega
    · rw [hother id hid]
      exact h.once id
  · intro number id origin first hmem hposts
    exact h.settled number id origin first (hreturned number id origin first hmem) hposts
  · intro other hmem
    rcases mem_append.mp hmem with hmem | hmem
    · exact h.numbered other hmem
    · rw [mem_singleton.mp hmem]
      exact hnumber
  · intro number id origin first hmem
    exact h.past number id origin first (hreturned number id origin first hmem)
  · rw [hnote]
    split
    · exact h.repeated.posted _ _
    · exact h.repeated

/-- A call that ends stores what it has posted. -/
theorem Exclusive.ends {result : SubmitResult} (hprogram : call.program = .pure result)
    (h : Exclusive config history provider (some call.clientOrderId))
    (hvalue : valueUnder call.attempt.replies call.program = call.attempt.result config)
    (hfree : call.clientOrderId ∉ provider.submittedOrderResponses)
    (hothers : ∀ other ∈ provider.calls, other.clientOrderId ≠ call.clientOrderId)
    (hnumber : call.call < provider.started)
    (hcount : postCount history.events call.clientOrderId = call.attempt.posts config) :
    Exclusive config (history.note call call.attempt) (provider.proceed call) none := by
  have hresult : result = call.attempt.result config := by
    rw [← hvalue, hprogram]
    rfl
  have hstores := (call.attempt.posts_le_one config).2
  rw [← hresult] at hstores
  have hunsettled : ∀ number origin first,
      .returned number call.clientOrderId origin first ∈ history.events →
      ¬ 0 < origin.posts config := by
    intro number origin first hreturned hposts
    obtain ⟨stored, hstored, -⟩ := h.settled number _ origin first hreturned hposts
    rw [AList.lookup_eq_none.mpr hfree] at hstored
    cases hstored
  have hevents : (history.note call call.attempt).events =
      .returned call.call call.clientOrderId call.attempt result.response :: history.events := by
    unfold note
    rw [hprogram]
  have hcalls : (provider.proceed call).calls = provider.calls := by
    unfold proceed
    rw [hprogram]
    dsimp only
    split <;> rfl
  have hstarted : (provider.proceed call).started = provider.started := by
    unfold proceed
    rw [hprogram]
    dsimp only
    split <;> rfl
  have hresponses : (provider.proceed call).submittedOrderResponses =
      if result.stored then
        provider.submittedOrderResponses.insert call.clientOrderId result.response
      else provider.submittedOrderResponses := by
    unfold proceed
    rw [hprogram]
    dsimp only
    split <;> rfl
  have hkept : ∀ id, id ≠ call.clientOrderId →
      (provider.proceed call).submittedOrderResponses.lookup id =
        provider.submittedOrderResponses.lookup id := by
    intro id hid
    rw [hresponses]
    split
    · exact AList.lookup_insert_ne hid
    · rfl
  have hmem : ∀ id, id ≠ call.clientOrderId →
      id ∉ (provider.proceed call).submittedOrderResponses →
      id ∉ provider.submittedOrderResponses := by
    intro id hid hnone
    rw [← AList.lookup_eq_none, hkept id hid] at hnone
    exact AList.lookup_eq_none.mp hnone
  constructor
  · rw [hcalls]
    exact h.distinct
  · rw [hcalls]
    intro other hother
    rw [← AList.lookup_eq_none, hkept _ (hothers other hother), AList.lookup_eq_none]
    exact h.unstored other hother
  · rw [hcalls, hevents]
    intro other hother
    rw [postCount_returned]
    exact h.posting other hother
  · rw [hcalls, hevents]
    intro id hid hnone _
    rw [postCount_returned]
    by_cases hsame : id = call.clientOrderId
    · subst hsame
      have hunstored : ¬ result.stored = true := by
        intro hstored
        rw [hresponses, if_pos hstored, AList.mem_insert] at hid
        exact hid (.inl rfl)
      have hzero : ¬ 0 < call.attempt.posts config := fun hposts => hunstored (hstores hposts)
      omega
    · exact h.idle id (hmem id hsame hid) hnone fun heq => hsame (Option.some.inj heq).symm
  · rw [hevents]
    intro id
    rw [postCount_returned]
    exact h.once id
  · rw [hevents]
    intro number id origin first hreturned hposts
    rcases mem_cons.mp hreturned with heq | hreturned
    · cases heq
      refine ⟨result.response, ?_, .refl _⟩
      rw [hresponses, if_pos (hstores hposts)]
      exact AList.lookup_insert _
    · have hne : id ≠ call.clientOrderId := by
        rintro rfl
        exact hunsettled number origin first hreturned hposts
      rw [hkept id hne]
      exact h.settled number id origin first hreturned hposts
  · rw [hcalls, hstarted]
    exact h.numbered
  · rw [hevents, hstarted]
    intro number id origin first hreturned
    rcases mem_cons.mp hreturned with heq | hreturned
    · cases heq
      exact hnumber
    · exact h.past number id origin first hreturned
  · rw [hevents]
    apply h.repeated.returned
    intro number origin first hreturned hposts
    exact absurd hposts (hunsettled number origin first hreturned)

/-- A call runs to its next await, or to its end. -/
theorem Exclusive.proceed (h : Exclusive config history provider (some call.clientOrderId))
    (hvalue : valueUnder call.attempt.replies call.program = call.attempt.result config)
    (hfree : call.clientOrderId ∉ provider.submittedOrderResponses)
    (hothers : ∀ other ∈ provider.calls, other.clientOrderId ≠ call.clientOrderId)
    (hnumber : call.call < provider.started)
    (hcount : postCount history.events call.clientOrderId +
      (requestsUnder call.attempt.replies call.program).countP SidecarCall.isPost =
        call.attempt.posts config) :
    Exclusive config (history.note call call.attempt) (provider.proceed call) none := by
  cases hprogram : call.program with
  | request c next =>
    have hproceed : provider.proceed call =
        { provider with calls := provider.calls ++ [call] } := by
      unfold SidecarProvider.proceed
      rw [hprogram]
    rw [hproceed]
    exact h.awaits hprogram hfree hothers hnumber hcount
  | pure result =>
    rw [hprogram] at hcount
    exact h.ends hprogram hvalue hfree hothers hnumber hcount

section Calls

variable (h : Exclusive config history provider none)

include h

/-- A call starts. -/
theorem Exclusive.start (id : String) :
    Exclusive config { history with events := .started provider.started id :: history.events }
      { provider with started := provider.started + 1 } none where
  distinct := h.distinct
  unstored := h.unstored
  posting call hcall := by
    rw [postCount_started]
    exact h.posting call hcall
  idle id' hid' hcalls hrunning := by
    rw [postCount_started]
    exact h.idle id' hid' hcalls hrunning
  once id' := by
    rw [postCount_started]
    exact h.once id'
  settled number id' origin first hreturned :=
    h.settled number id' origin first (by simpa using hreturned)
  numbered call hcall := Nat.lt_succ_of_lt (h.numbered call hcall)
  past number id' origin first hreturned :=
    Nat.lt_succ_of_lt (h.past number id' origin first (by simpa using hreturned))
  repeated := h.repeated.started id fun id' origin response hreturned =>
    Nat.lt_irrefl _ (h.past _ id' origin response hreturned)

/-- The id of a call that runs may be left open. -/
theorem Exclusive.release (id : String) : Exclusive config history provider (some id) :=
  { h with idle := fun id' hid' hcalls _ => h.idle id' hid' hcalls nofun }

theorem Exclusive.others (hcall : provider.calls[index]? = some call) :
    ∀ other ∈ provider.calls.eraseIdx index, other.clientOrderId ≠ call.clientOrderId := by
  intro other hother hid
  obtain ⟨i, hne, hi⟩ := mem_eraseIdx_iff_getElem?.mp hother
  have hid' : (provider.calls.map SubmitCall.clientOrderId)[i]? =
      (provider.calls.map SubmitCall.clientOrderId)[index]? := by
    rw [List.getElem?_map, List.getElem?_map, hi, hcall]
    exact congrArg some hid
  have hlt : i < (provider.calls.map SubmitCall.clientOrderId).length := by
    rw [length_map]
    exact (List.getElem?_eq_some_iff.mp hi).1
  exact hne ((List.getElem?_inj hlt h.distinct).mp hid')

theorem Exclusive.take (hcall : provider.calls[index]? = some call) :
    Exclusive config history { provider with calls := provider.calls.eraseIdx index }
      (some call.clientOrderId) where
  distinct := List.Nodup.sublist ((eraseIdx_sublist _ _).map _) h.distinct
  unstored other hother := h.unstored other (mem_of_mem_eraseIdx hother)
  posting other hother := h.posting other (mem_of_mem_eraseIdx hother)
  idle id hid hcalls hrunning := by
    refine h.idle id hid (fun other hother heq => ?_) nofun
    obtain ⟨i, hi⟩ := mem_iff_getElem?.mp hother
    by_cases hindex : i = index
    · subst hindex
      rw [hcall] at hi
      cases hi
      exact hrunning (congrArg some heq)
    · exact hcalls other (mem_eraseIdx_iff_getElem?.mpr ⟨i, hindex, hi⟩) heq
  once := h.once
  settled := h.settled
  numbered other hother := h.numbered other (mem_of_mem_eraseIdx hother)
  past := h.past
  repeated := h.repeated

/-- A call that finds a stored response repeats it. -/
theorem Exclusive.duplicate {prior : LiveOrderIntentResponse} (origin : Attempt)
    (hprior : provider.submittedOrderResponses.lookup call.clientOrderId = some prior)
    (hprogram : call.program = .pure { response := duplicateOrder prior, stored := false })
    (hnumber : call.call < provider.started) :
    Exclusive config (history.note call origin) (provider.proceed call) none := by
  have hevents : (history.note call origin).events =
      .returned call.call call.clientOrderId origin (duplicateOrder prior) :: history.events := by
    unfold note
    rw [hprogram]
  have hproceed : provider.proceed call = provider := by
    unfold SidecarProvider.proceed
    rw [hprogram]
    rfl
  have hcounts : ∀ id, postCount (history.note call origin).events id =
      postCount history.events id := by
    intro id
    rw [hevents, postCount_returned]
  rw [hproceed]
  constructor
  · exact h.distinct
  · exact h.unstored
  · intro other hother
    rw [hcounts]
    exact h.posting other hother
  · intro id hid hcalls hrunning
    rw [hcounts]
    exact h.idle id hid hcalls hrunning
  · intro id
    rw [hcounts]
    exact h.once id
  · rw [hevents]
    intro number id origin' first hreturned hposts
    rcases mem_cons.mp hreturned with heq | hreturned
    · cases heq
      exact ⟨prior, hprior, repeats_duplicateOrder prior⟩
    · exact h.settled number id origin' first hreturned hposts
  · exact h.numbered
  · rw [hevents]
    intro number id origin' first hreturned
    rcases mem_cons.mp hreturned with heq | hreturned
    · cases heq
      exact hnumber
    · exact h.past number id origin' first hreturned
  · rw [hevents]
    apply h.repeated.returned
    intro number origin' first hreturned hposts
    obtain ⟨stored, hstored, hrepeats⟩ := h.settled number _ origin' first hreturned hposts
    rw [hprior] at hstored
    cases hstored
    exact (repeats_duplicateOrder prior).trans hrepeats.symm

end Calls

end Step

variable {history : SubmitHistory} {provider provider' : SidecarProvider} {action : SidecarAction}

/-- Every step without an overlap keeps the invariant. -/
theorem Exclusive.step {config : SidecarConfig} (h : Exclusive config history provider none)
    (horigins : Originates config history provider)
    (hstep : provider.step config action = some provider')
    (hoverlap : NoOverlap history provider action provider') :
    Exclusive config (history.record config provider action provider') provider' none := by
  cases action with
  | submit attempt =>
    cases hstep
    have hbase := h.start attempt.request.clientOrderId
    cases hprior : provider.submittedOrderResponses.lookup attempt.request.clientOrderId with
    | some prior =>
      exact hbase.duplicate _ hprior (newCall_of_stored hprior) (Nat.lt_succ_self _)
    | none =>
      have hfree := AList.lookup_eq_none.mp hprior
      have hprogram : (provider.newCall config attempt).program = attempt.execution config :=
        newCall_of_new hprior
      have hidle : postCount history.events attempt.request.clientOrderId = 0 :=
        h.idle _ hfree (fun call hcall heq => hoverlap call hcall heq) nofun
      have hnew : history.origins.lookup attempt.request.clientOrderId = none := by
        rw [AList.lookup_eq_none]
        exact horigins.unstored _ hfree
      unfold record
      dsimp only
      rw [hnew]
      apply Exclusive.proceed
      · exact hbase.release _
      · rw [hprogram]
        rfl
      · exact hfree
      · exact hoverlap
      · exact Nat.lt_succ_self _
      · rw [hprogram]
        change postCount (.started provider.started attempt.request.clientOrderId :: history.events)
            attempt.request.clientOrderId +
          (requestsUnder attempt.replies (attempt.execution config)).countP
            SidecarCall.isPost = attempt.posts config
        rw [postCount_started, hidle, Nat.zero_add]
        rfl
  | resume index =>
    unfold step at hstep
    unfold record
    dsimp only at hstep ⊢
    cases hcall : provider.calls[index]? with
    | none =>
      rw [hcall] at hstep
      cases hstep
    | some call =>
      rw [hcall] at hstep
      have hmem := mem_of_getElem? hcall
      have hpending := horigins.pending call hmem
      obtain ⟨c, next, hprogram⟩ := hpending.awaits
      have hvalue := hpending.value
      have hcount := h.posting call hmem
      unfold SubmitCall.postsLeft at hcount
      rw [hprogram] at hvalue hcount
      dsimp only at hstep ⊢
      rw [hprogram] at hstep ⊢
      cases hstep
      have hbase := h.take hcall
      have hothers := h.others hcall
      apply Exclusive.proceed
      · exact hbase
      · exact hvalue
      · exact h.unstored call hmem
      · exact hothers
      · exact h.numbered call hmem
      · exact hcount

theorem exclusive_start (config : SidecarConfig) :
    Exclusive config start start none := by
  constructor
  · exact nodup_nil
  · intro call hcall
    cases hcall
  · intro call hcall
    cases hcall
  · intro id _ _ _
    rfl
  · intro id
    exact Nat.zero_le 1
  · intro call id origin first hreturned
    cases hreturned
  · intro call hcall
    cases hcall
  · intro call id origin first hreturned
    cases hreturned
  · intro later earlier a id origin first heq
    cases later <;> cases heq

/-- In every run in which no call starts while another with its client order id is in flight, each id
is posted at most once, and every call that starts after the order's outcome was returned repeats
it. -/
theorem submissions_idempotent (config : SidecarConfig) (history : SubmitHistory)
    (provider : SidecarProvider)
    (hrun : (submissionSystem config).Run NoOverlap (start, start)
      history provider) : PostsOnce config history.events := by
  have hinv : Originates config history provider ∧ Exclusive config history provider none := by
    refine hrun.invariant
      (fun history provider => Originates config history provider ∧
        Exclusive config history provider none) ?_ ?_
    · exact ⟨originates_start config, exclusive_start config⟩
    · intro history provider action provider' hinv hstep hoverlap
      exact ⟨hinv.1.step hstep, hinv.2.step hinv.1 hstep hoverlap⟩
  exact ⟨hinv.2.once, hinv.2.repeated⟩

/-- Two overlapping calls with one client order id both post their order. -/
theorem overlapping_calls_post_twice :
    ∃ history provider, (submissionSystem sampleSidecar).Run (fun _ _ _ _ => True)
        (start, start) history provider ∧
      ¬ PostsOnce sampleSidecar history.events := by
  have hfollow : ((submissionSystem sampleSidecar).follow (fun _ _ _ _ => true)
      (.submit sampleAttempt :: .submit sampleAttempt :: List.replicate 8 (.resume 0))
      (start, start)).any (fun x =>
        postCount x.1.events sampleAttempt.request.clientOrderId == 2) = true := by
    decide +kernel
  obtain ⟨history, provider, hrun, htwo⟩ := System.exists_run_of_follow hfollow
    fun _ _ _ _ _ => trivial
  refine ⟨history, provider, hrun, fun h => ?_⟩
  have hone := h.once sampleAttempt.request.clientOrderId
  have hcount : postCount history.events sampleAttempt.request.clientOrderId = 2 :=
    beq_iff_eq.mp htwo
  omega

/-- A check that is enough for a step without an overlap. -/
def noOverlap (_ : SubmitHistory) (provider : SidecarProvider) (action : SidecarAction)
    (_ : SidecarProvider) : Bool :=
  match action with
  | .submit attempt =>
    provider.calls.all fun call => call.clientOrderId != attempt.request.clientOrderId
  | .resume _ => true

theorem noOverlap_of_check (h : noOverlap history provider action provider' = true) :
    NoOverlap history provider action provider' := by
  cases action with
  | submit attempt =>
    intro call hcall
    have hne := all_eq_true.mp h call hcall
    simpa using hne
  | resume index => trivial

/-- The sample order is submitted again after its response, and is posted once. -/
theorem submissions_idempotent_sample :
    ∃ history provider, (submissionSystem sampleSidecar).Run NoOverlap
        (start, start) history provider ∧
      postCount history.events sampleAttempt.request.clientOrderId = 1 ∧ provider.started = 2 ∧
      PostsOnce sampleSidecar history.events := by
  have hfollow : ((submissionSystem sampleSidecar).follow noOverlap
      (.submit sampleAttempt :: (List.replicate 5 (.resume 0) ++ [.submit sampleAttempt]))
      (start, start)).any (fun x =>
        postCount x.1.events sampleAttempt.request.clientOrderId == 1 && x.2.started == 2) =
      true := by
    decide +kernel
  obtain ⟨history, provider, hrun, hposted⟩ := System.exists_run_of_follow hfollow
    fun _ _ _ _ => noOverlap_of_check
  rw [Bool.and_eq_true, beq_iff_eq, beq_iff_eq] at hposted
  exact ⟨history, provider, hrun, hposted.1, hposted.2,
    submissions_idempotent sampleSidecar history provider hrun⟩

end BubaPaint
