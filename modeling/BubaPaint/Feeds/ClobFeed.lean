import BubaPaint.Feeds.ClobBooks
import BubaPaint.Library.Runs

/-!
# The CLOB feed

The feed task as a state machine: it waits for a first token pair, connects, subscribes, handles
messages, reconnects after a pause, and takes up the latest token pair of its request queue either
while connected or on its way to the next connection. A step goes from one point where the task
waits to the next.

Main results:

- Theorem `emitted_books_are_subscribed`: whose data the emitted books hold.
-/

namespace BubaPaint

open Effects List

/-! ## The task -/

/-- The reconnect settings of the feed. -/
structure ClobFeedSettings where
  minStableMs : ℕ
  maxFailures : ℕ

/-- Where the task waits. -/
inductive ClobFeedPhase where
  | awaitingTokens
  | connecting
  | subscribing (connectionId : String) (connectedAtMs : ℕ)
  | connected (connectionId : String) (connectedAtMs : ℕ) (pending : List ClobDelivery)
  | closing
  | sleeping
  | stopped
  deriving DecidableEq

/-- How a connection, or the attempt at one, comes to its end. -/
inductive ClobFeedEnd where
  | connectFailed (error : String)
  | connectTimedOut (timeoutMs : ℕ)
  | subscriptionFailed (error : String)
  | pongFailed
  | serverClosed
  | websocketError (error : String)
  | streamEnded
  | pingFailed
  | idleTimeout
  deriving DecidableEq

def ClobFeedEnd.causeClass : ClobFeedEnd → String
  | .connectFailed _ => "connection_failed"
  | .connectTimedOut _ => "connect_timeout"
  | .subscriptionFailed _ => "connection_failed"
  | .pongFailed => "ping_failure"
  | .serverClosed => "connection_failed"
  | .websocketError _ => "websocket_error"
  | .streamEnded => "connection_failed"
  | .pingFailed => "ping_failure"
  | .idleTimeout => "idle_timeout"

def ClobFeedEnd.error : ClobFeedEnd → Option String
  | .connectFailed error => some error
  | .connectTimedOut timeoutMs =>
    some ("websocket connect timed out after " ++ toString timeoutMs ++ "ms")
  | .subscriptionFailed error => some ("failed to send subscription: " ++ error)
  | .pongFailed => some "failed to send pong"
  | .serverClosed => some "server sent close frame"
  | .websocketError error => some error
  | .streamEnded => some "stream ended"
  | .pingFailed => some "failed to send ping"
  | .idleTimeout => none

/-- The state of the feed task with its two channels. -/
structure ClobFeed where
  phase : ClobFeedPhase
  tokens : Option Subscription
  bookState : BookState
  attempt : ℕ
  rapidDisconnectCount : ℕ
  connectAfterResubscribe : Bool
  /-- The requests waiting in the resubscribe channel. -/
  requests : List Subscription
  handleDropped : Bool
  /-- What went into the message channel. -/
  sent : List FeedMessage
  receiverDropped : Bool

/-- What the task does, and what is done to it. -/
inductive ClobFeedAction where
  | resubscribe (tokens : Subscription)
  | dropHandle
  | dropReceiver
  | receiveTokens
  | connect (connectionId : String) (nowMs : ℕ)
  | subscribed
  | text (deliveries : List ClobDelivery)
  | handle
  | takeResubscribe
  | closed
  | fail (reason : ClobFeedEnd) (nowMs : ℕ)
  | woken
  deriving DecidableEq

namespace ClobFeed

/-- The task as it is spawned. -/
def new : ClobFeed where
  phase := .awaitingTokens
  tokens := none
  bookState := .empty
  attempt := 0
  rapidDisconnectCount := 0
  connectAfterResubscribe := false
  requests := []
  handleDropped := false
  sent := []
  receiverDropped := false

def send (feed : ClobFeed) (message : FeedMessage) : ClobFeed :=
  if feed.receiverDropped then feed else { feed with sent := feed.sent ++ [message] }

/-- Drain queued resubscribe requests so reconnects always use the newest token pair. -/
def applyLatestResubscribe (feed : ClobFeed) : ClobFeed :=
  { feed with tokens := feed.requests.getLast?.or feed.tokens, requests := [] }

def loopStart (feed : ClobFeed) : ClobFeed :=
  { feed.applyLatestResubscribe with
    connectAfterResubscribe := feed.connectAfterResubscribe || !feed.requests.isEmpty
    phase := .connecting }

def receiveTokens (feed : ClobFeed) : Option ClobFeed :=
  match feed.requests with
  | tokens :: requests =>
    some { feed with tokens := some tokens, bookState := .empty, requests }.loopStart
  | [] => if feed.handleDropped then some { feed with phase := .stopped } else none

def takeResubscribe (feed : ClobFeed) : Option ClobFeed :=
  match feed.requests with
  | tokens :: requests =>
    some { { feed with tokens := some tokens, requests }.applyLatestResubscribe with
      bookState := .empty
      connectAfterResubscribe := true
      phase := .closing }
  | [] => if feed.handleDropped then some { feed with phase := .stopped } else none

/-- Handle the next update of a message; a closed channel ends the message. -/
def handle (feed : ClobFeed) (connectionId : String) (connectedAtMs : ℕ) (delivery : ClobDelivery)
    (pending : List ClobDelivery) : Option ClobFeed := do
  let tokens ← feed.tokens
  let (bookState, message) := handleClobUpdate tokens connectionId feed.bookState delivery
  let feed := { feed with bookState }
  match message with
  | none => return { feed with phase := .connected connectionId connectedAtMs pending }
  | some message =>
    let pending := if feed.receiverDropped then [] else pending
    return { feed.send message with phase := .connected connectionId connectedAtMs pending }

def disconnect (settings : ClobFeedSettings) (feed : ClobFeed) (connectionId : Option String)
    (lifetimeMs : Option ℕ) (reason : ClobFeedEnd) : ClobFeed :=
  let stable := lifetimeMs.any (settings.minStableMs ≤ ·)
  let attempt := if stable then 0 else feed.attempt
  let rapidDisconnectCount :=
    if stable ∨ settings.maxFailures ≤ attempt then 0
    else if lifetimeMs.isSome then feed.rapidDisconnectCount + 1
    else feed.rapidDisconnectCount
  { feed.send (.feedDisconnected connectionId reason.causeClass (attempt + 1)
      feed.connectAfterResubscribe reason.error) with
    attempt
    rapidDisconnectCount
    connectAfterResubscribe := false
    phase := .sleeping }

/-- End the connection, or the attempt, that the task is at. -/
def fail (settings : ClobFeedSettings) (feed : ClobFeed) (reason : ClobFeedEnd) (nowMs : ℕ) :
    Option ClobFeed :=
  match feed.phase, reason with
  | .connecting, .connectFailed _ => some (feed.disconnect settings none none reason)
  | .connecting, .connectTimedOut _ => some (feed.disconnect settings none none reason)
  | .subscribing connectionId connectedAtMs, .subscriptionFailed _ =>
    some (feed.disconnect settings connectionId (some (nowMs - connectedAtMs)) reason)
  | .connected connectionId connectedAtMs [], .pongFailed
  | .connected connectionId connectedAtMs [], .serverClosed
  | .connected connectionId connectedAtMs [], .websocketError _
  | .connected connectionId connectedAtMs [], .streamEnded
  | .connected connectionId connectedAtMs [], .pingFailed
  | .connected connectionId connectedAtMs [], .idleTimeout =>
    some (feed.disconnect settings connectionId (some (nowMs - connectedAtMs)) reason)
  | _, _ => none

/-- One step. -/
def step (settings : ClobFeedSettings) (feed : ClobFeed) : ClobFeedAction → Option ClobFeed
  | .resubscribe tokens =>
    if feed.handleDropped = false ∧ feed.requests.length < 4 then
      some { feed with requests := feed.requests ++ [tokens] }
    else none
  | .dropHandle => some { feed with handleDropped := true }
  | .dropReceiver => some { feed with receiverDropped := true }
  | .receiveTokens =>
    match feed.phase with
    | .awaitingTokens => feed.receiveTokens
    | _ => none
  | .connect connectionId nowMs =>
    match feed.phase with
    | .connecting =>
      some { feed.send (.feedConnected connectionId) with
        phase := .subscribing connectionId nowMs }
    | _ => none
  | .subscribed =>
    match feed.phase with
    | .subscribing connectionId connectedAtMs =>
      some { feed with phase := .connected connectionId connectedAtMs [] }
    | _ => none
  | .text deliveries =>
    match feed.phase with
    | .connected connectionId connectedAtMs [] =>
      some { feed with phase := .connected connectionId connectedAtMs deliveries }
    | _ => none
  | .handle =>
    match feed.phase with
    | .connected connectionId connectedAtMs (delivery :: pending) =>
      feed.handle connectionId connectedAtMs delivery pending
    | _ => none
  | .takeResubscribe =>
    match feed.phase with
    | .connected _ _ [] => feed.takeResubscribe
    | _ => none
  | .closed =>
    match feed.phase with
    | .closing => some { feed with attempt := 0, rapidDisconnectCount := 0 }.loopStart
    | _ => none
  | .fail reason nowMs => feed.fail settings reason nowMs
  | .woken =>
    match feed.phase with
    | .sleeping =>
      some { feed with
        attempt := if settings.maxFailures ≤ feed.attempt then 0 else feed.attempt + 1 }.loopStart
    | _ => none

/-! ## What a step does -/

def handled (feed : ClobFeed) : ClobFeedAction → Option ClobDelivery
  | .handle =>
    match feed.phase with
    | .connected _ _ (delivery :: _) => some delivery
    | _ => none
  | _ => none

def newBooks (feed feed' : ClobFeed) : List BookState :=
  (feed'.sent.drop feed.sent.length).filterMap FeedMessage.bookState?

variable {feed feed' : ClobFeed} {message : FeedMessage} {connectionId : String}

@[simp]
theorem sent_send (feed : ClobFeed) (message : FeedMessage) :
    (feed.send message).sent = feed.sent ++ if feed.receiverDropped then [] else [message] := by
  unfold send
  split <;> simp_all

@[simp]
theorem bookState_send (feed : ClobFeed) (message : FeedMessage) :
    (feed.send message).bookState = feed.bookState := by
  unfold send
  split <;> rfl

@[simp]
theorem tokens_send (feed : ClobFeed) (message : FeedMessage) :
    (feed.send message).tokens = feed.tokens := by
  unfold send
  split <;> rfl

/-- A step that sends at most messages without books. -/
def Quiet (feed feed' : ClobFeed) : Prop :=
  newBooks feed feed' = []

theorem quiet_of_sent_eq (hsent : feed'.sent = feed.sent) : Quiet feed feed' := by
  simp [Quiet, newBooks, hsent]

theorem quiet_of_send (hsent : feed'.sent = (feed.send message).sent)
    (hbooks : message.bookState? = none) : Quiet feed feed' := by
  unfold Quiet newBooks
  rw [hsent, sent_send, drop_left]
  split <;> simp [hbooks]

/-- How a step that handles no update treats tokens and books. -/
inductive Rebooked (feed feed' : ClobFeed) (action : ClobFeedAction) : Prop
  | cleared (hbooks : feed'.bookState = .empty)
  | kept (hbooks : feed'.bookState = feed.bookState) (htokens : feed'.tokens = feed.tokens)
      (hphase : feed'.phase ≠ .closing ∨ feed'.phase = feed.phase)
  | drained (hbooks : feed'.bookState = feed.bookState)
      (htokens : feed'.tokens = feed.requests.getLast?.or feed.tokens)
      (hphase : feed'.phase = .connecting)
      (hstart : action = .closed ∧ feed.phase = .closing ∨ action = .woken)

theorem disconnect_spec (settings : ClobFeedSettings) (feed : ClobFeed)
    (connectionId : Option String) (lifetimeMs : Option ℕ) (reason : ClobFeedEnd)
    (action : ClobFeedAction) :
    Quiet feed (feed.disconnect settings connectionId lifetimeMs reason) ∧
      Rebooked feed (feed.disconnect settings connectionId lifetimeMs reason) action := by
  refine ⟨quiet_of_send rfl rfl, .kept ?_ ?_ (.inl ?_)⟩
  · exact bookState_send ..
  · exact tokens_send ..
  · simp [disconnect]

theorem clobMessage_bookState {books : BookState} {update : ClobUpdate} {carried : BookState}
    (hmessage : clobMessage books connectionId update = some message)
    (hcarried : message.bookState? = some carried) : carried = books := by
  unfold clobMessage at hmessage
  split at hmessage <;> cases hmessage <;> cases hcarried <;> rfl

theorem handle_spec {connectedAtMs : ℕ} {delivery : ClobDelivery} {pending : List ClobDelivery}
    (hhandle : feed.handle connectionId connectedAtMs delivery pending = some feed') :
    ∃ tokens, feed.tokens = some tokens ∧ feed'.tokens = some tokens ∧
      feed'.bookState = applyClobUpdate tokens feed.bookState delivery ∧
      (∀ books ∈ newBooks feed feed', books = feed'.bookState) ∧ feed'.phase ≠ .closing := by
  obtain ⟨tokens, htokens, hhandle⟩ := Option.bind_eq_some_iff.mp hhandle
  simp only [handleClobUpdate] at hhandle
  refine ⟨tokens, htokens, ?_⟩
  split at hhandle
  · cases hhandle
    exact ⟨htokens, rfl, by simp [newBooks], nofun⟩
  · rename_i message hmessage
    cases hhandle
    refine ⟨by simp [htokens], by simp, ?_, nofun⟩
    intro books hbooks
    simp only [newBooks, sent_send, drop_left, bookState_send] at hbooks ⊢
    split at hbooks
    · simp at hbooks
    · simp only [mem_filterMap, mem_singleton, exists_eq_left] at hbooks
      exact clobMessage_bookState hmessage hbooks

/-- A step handles an update or leaves the books, clears them, or drains the requests. -/
theorem step_cases {settings : ClobFeedSettings} {action : ClobFeedAction}
    (hstep : feed.step settings action = some feed') :
    (∃ tokens delivery, feed.handled action = some delivery ∧ feed.tokens = some tokens ∧
        feed'.tokens = some tokens ∧
        feed'.bookState = applyClobUpdate tokens feed.bookState delivery ∧
        (∀ books ∈ newBooks feed feed', books = feed'.bookState) ∧ feed'.phase ≠ .closing) ∨
      (feed.handled action = none ∧ Quiet feed feed' ∧ Rebooked feed feed' action) := by
  cases action with
  | resubscribe tokens =>
    simp only [step] at hstep
    split at hstep
    · cases hstep
      exact .inr ⟨rfl, quiet_of_sent_eq rfl, .kept rfl rfl (.inr rfl)⟩
    · cases hstep
  | dropHandle | dropReceiver =>
    cases hstep
    exact .inr ⟨rfl, quiet_of_sent_eq rfl, .kept rfl rfl (.inr rfl)⟩
  | receiveTokens =>
    simp only [step] at hstep
    split at hstep
    · unfold receiveTokens at hstep
      split at hstep
      · cases hstep
        exact .inr ⟨rfl, quiet_of_sent_eq rfl, .cleared rfl⟩
      · split at hstep
        · cases hstep
          exact .inr ⟨rfl, quiet_of_sent_eq rfl, .kept rfl rfl (.inl nofun)⟩
        · cases hstep
    · cases hstep
  | connect connectionId nowMs =>
    simp only [step] at hstep
    split at hstep
    · cases hstep
      exact .inr ⟨rfl, quiet_of_send rfl rfl, .kept (bookState_send ..) (tokens_send ..)
        (.inl nofun)⟩
    · cases hstep
  | subscribed | text deliveries =>
    simp only [step] at hstep
    split at hstep
    · cases hstep
      exact .inr ⟨rfl, quiet_of_sent_eq rfl, .kept rfl rfl (.inl nofun)⟩
    · cases hstep
  | handle =>
    simp only [step] at hstep
    split at hstep
    · rename_i delivery pending hphase
      obtain ⟨tokens, hspec⟩ := handle_spec hstep
      exact .inl ⟨tokens, delivery, by simp [handled, hphase], hspec⟩
    · cases hstep
  | takeResubscribe =>
    simp only [step] at hstep
    split at hstep
    · unfold takeResubscribe at hstep
      split at hstep
      · cases hstep
        exact .inr ⟨rfl, quiet_of_sent_eq rfl, .cleared rfl⟩
      · split at hstep
        · cases hstep
          exact .inr ⟨rfl, quiet_of_sent_eq rfl, .kept rfl rfl (.inl nofun)⟩
        · cases hstep
    · cases hstep
  | closed =>
    simp only [step] at hstep
    split at hstep
    · rename_i hphase
      cases hstep
      exact .inr ⟨rfl, quiet_of_sent_eq rfl, .drained rfl rfl rfl (.inl ⟨rfl, hphase⟩)⟩
    · cases hstep
  | fail reason nowMs =>
    simp only [step, fail] at hstep
    split at hstep <;> cases hstep <;> exact .inr ⟨rfl, disconnect_spec ..⟩
  | woken =>
    simp only [step] at hstep
    split at hstep
    · cases hstep
      exact .inr ⟨rfl, quiet_of_sent_eq rfl, .drained rfl rfl rfl (.inr rfl)⟩
    · cases hstep

end ClobFeed

/-! ## Runs -/

/-- A pair of books that was sent on, with the tokens subscribed and the updates received then. -/
structure BookEmission where
  tokens : Option Subscription
  received : List ClobDelivery
  bookState : BookState

/-- What the feed has received and what books it has sent on. -/
structure ClobFeedHistory where
  received : List ClobDelivery
  emissions : List BookEmission

/-- The feed with what it has received and sent on. -/
def clobFeedSystem (settings : ClobFeedSettings) :
    System ClobFeed ClobFeedAction ClobFeedHistory where
  step := ClobFeed.step settings
  record history feed action feed' :=
    let received := history.received ++ (feed.handled action).toList
    { received
      emissions := history.emissions ++
        (feed.newBooks feed').map fun bookState => ⟨feed'.tokens, received, bookState⟩ }

/-- Before anything has happened. -/
def ClobFeed.start : ClobFeedHistory × ClobFeed :=
  (⟨[], []⟩, .new)

/-- Books that hold only data from updates about the tokens subscribed. -/
def BookEmission.OfSubscription (emission : BookEmission) : Prop :=
  ∃ tokens, emission.tokens = some tokens ∧
    BooksMadeFrom tokens emission.received emission.bookState

/-- Waking up for the next connection with a token pair that keeps the token of every side whose
book is there. -/
def KeepsPresentSides (feed : ClobFeed) (action : ClobFeedAction) : Prop :=
  action = .woken → ∀ tokens ∈ feed.requests.getLast?, ∀ side,
    (sideBook feed.bookState side).isSome = true →
      feed.tokens.map (·.token side) = some (tokens.token side)

/-- The books of a feed hold only data about its tokens, and none while a connection is closed for
new tokens. -/
structure ClobFeed.Current (history : ClobFeedHistory) (feed : ClobFeed) : Prop where
  made : ∀ tokens, feed.tokens = some tokens →
    BooksMadeFrom tokens history.received feed.bookState
  closing : feed.phase = .closing → feed.bookState = .empty

variable {history : ClobFeedHistory} {feed feed' : ClobFeed} {action : ClobFeedAction}

theorem ClobFeed.Current.drained {tokens : Subscription} (hcurrent : Current history feed)
    (hkeeps : ∀ side, (sideBook feed.bookState side).isSome = true →
      feed.tokens.map (·.token side) = some (tokens.token side)) :
    BooksMadeFrom tokens history.received feed.bookState := by
  intro side
  cases hside : sideBook feed.bookState side with
  | none => exact madeFrom_none _ _
  | some book =>
    obtain ⟨old, hold, htoken⟩ := Option.map_eq_some_iff.mp (hkeeps side (by simp [hside]))
    rw [← htoken, ← hside]
    exact hcurrent.made old hold side

theorem ClobFeed.Current.rebooked (hcurrent : Current history feed)
    (hrebooked : ClobFeed.Rebooked feed feed' action) (hkeeps : KeepsPresentSides feed action) :
    Current history feed' := by
  cases hrebooked with
  | cleared hbooks => exact ⟨fun tokens _ => hbooks ▸ booksMadeFrom_empty _ _, fun _ => hbooks⟩
  | kept hbooks htokens hphase =>
    constructor
    · rw [hbooks, htokens]
      exact hcurrent.made
    · intro hclosing
      rw [hbooks]
      rcases hphase with hne | heq
      · exact absurd hclosing hne
      · exact hcurrent.closing (heq ▸ hclosing)
  | drained hbooks htokens hphase hstart =>
    refine ⟨fun tokens hsome => ?_, fun hclosing => by rw [hphase] at hclosing; cases hclosing⟩
    rw [hbooks]
    rcases hstart with ⟨-, hclosing⟩ | hwoken
    · rw [hcurrent.closing hclosing]
      exact booksMadeFrom_empty _ _
    · rw [htokens] at hsome
      cases hlast : feed.requests.getLast? with
      | none =>
        rw [hlast, Option.none_or] at hsome
        exact hcurrent.made tokens hsome
      | some latest =>
        rw [hlast, Option.some_or] at hsome
        cases hsome
        exact hcurrent.drained (hkeeps hwoken tokens hlast)

/-- A step keeps the books current unless it wakes up to other tokens for a side with a book. -/
theorem ClobFeed.Current.step {settings : ClobFeedSettings} (hcurrent : Current history feed)
    (hstep : feed.step settings action = some feed') (hkeeps : KeepsPresentSides feed action) :
    Current ((clobFeedSystem settings).record history feed action feed') feed' ∧
      ∀ books ∈ feed.newBooks feed', BookEmission.OfSubscription
        ⟨feed'.tokens, history.received ++ (feed.handled action).toList, books⟩ := by
  rcases ClobFeed.step_cases hstep with
    ⟨tokens, delivery, hhandled, htokens, htokens', hbooks, hnew, hphase⟩ |
    ⟨hhandled, hquiet, hrebooked⟩
  · have hmade : BooksMadeFrom tokens (history.received ++ [delivery]) feed'.bookState := by
      rw [hbooks]
      exact (hcurrent.made tokens htokens).applyClobUpdate delivery
    constructor
    · constructor
      · intro other hother
        rw [htokens'] at hother
        cases hother
        simpa [clobFeedSystem, hhandled] using hmade
      · intro hclosing
        exact absurd hclosing hphase
    · intro books hmem
      rw [hnew books hmem]
      exact ⟨tokens, htokens', by simpa [hhandled] using hmade⟩
  · have hrecord : (clobFeedSystem settings).record history feed action feed' = history := by
      simp [clobFeedSystem, hhandled, show feed.newBooks feed' = [] from hquiet]
    constructor
    · rw [hrecord]
      exact hcurrent.rebooked hrebooked hkeeps
    · intro books hmem
      rw [hquiet] at hmem
      cases hmem

/-- Whose data the books sent on hold. In every run of the feed in which no token pair taken up
after a pause changes the token of a side whose book is there, each pair of books sent on holds on
each side only data from updates about the token subscribed for it. -/
theorem emitted_books_are_subscribed (settings : ClobFeedSettings) (history : ClobFeedHistory)
    (feed : ClobFeed)
    (hrun : System.Run (clobFeedSystem settings) (fun _ feed action _ =>
      KeepsPresentSides feed action) ClobFeed.start history feed) :
    ∀ emission ∈ history.emissions, emission.OfSubscription := by
  have hinv := hrun.invariant
    (fun history feed => ClobFeed.Current history feed ∧
      ∀ emission ∈ history.emissions, emission.OfSubscription)
    ⟨⟨fun _ htokens => (by cases htokens), fun _ => rfl⟩, by simp [ClobFeed.start]⟩
    (by
      rintro history feed action feed' ⟨hcurrent, hemissions⟩ hstep hkeeps
      obtain ⟨hcurrent', hnew⟩ := hcurrent.step hstep hkeeps
      refine ⟨hcurrent', fun emission hemission => ?_⟩
      rcases mem_append.mp hemission with hold | hlast
      · exact hemissions emission hold
      · obtain ⟨books, hbooks, rfl⟩ := mem_map.mp hlast
        exact hnew books hbooks)
  exact hinv.2

def sampleFeedSettings : ClobFeedSettings where
  minStableMs := 10000
  maxFailures := 5

def sampleDelivery (assetId : String) : ClobDelivery where
  update := .bestBidAsk assetId (9 / 10) (92 / 100) (some 50) (some 40) 1000 none
  entriesAtMs := 1001
  directAtMs := 1001

def sampleBrokenConnection : List ClobFeedAction :=
  [.resubscribe ⟨"A", "B"⟩, .receiveTokens, .connect "clob-1" 1000, .subscribed,
    .text [sampleDelivery "A"], .handle, .fail .streamEnded 2000]

/-- A new pair is requested while the feed waits to reconnect: the books of the next connection
show the old UP token's quote as the new one's. -/
theorem stale_book_emitted :
    ¬∀ history feed, System.Run (clobFeedSystem sampleFeedSettings) (fun _ _ _ _ => True)
      ClobFeed.start history feed → ∀ emission ∈ history.emissions, emission.OfSubscription := by
  intro hall
  have hfollow : ((clobFeedSystem sampleFeedSettings).follow (fun _ _ _ _ => true)
      (sampleBrokenConnection ++ [.resubscribe ⟨"C", "D"⟩, .woken, .connect "clob-2" 3000,
        .subscribed, .text [sampleDelivery "D"], .handle]) ClobFeed.start).any (fun x =>
      x.1.emissions.any fun emission =>
        decide (emission.tokens = some ⟨"C", "D"⟩) && emission.bookState.up.isSome &&
          emission.received.all fun delivery => !delivery.update.mentions "C") = true := by
    decide +kernel
  obtain ⟨history, feed, hrun, hstale⟩ := System.exists_run_of_follow hfollow
    fun _ _ _ _ _ => trivial
  obtain ⟨emission, hemission, hstale⟩ := any_eq_true.mp hstale
  simp only [Bool.and_eq_true, decide_eq_true_eq, all_eq_true, Bool.not_eq_true'] at hstale
  obtain ⟨⟨htokens, hup⟩, hreceived⟩ := hstale
  obtain ⟨tokens, hsome, hmade⟩ := hall history feed hrun emission hemission
  rw [htokens] at hsome
  cases hsome
  have hnone := (hmade .up).eq_none_of_not_mentions hreceived
  exact absurd hup (by simp [show emission.bookState.up = none from hnone])

def wakesWithoutRequest (_ : ClobFeedHistory) (feed : ClobFeed) (action : ClobFeedAction)
    (_ : ClobFeed) : Bool :=
  action ≠ .woken || feed.requests.isEmpty

theorem emitted_books_are_subscribed_sample :
    ∃ history feed, System.Run (clobFeedSystem sampleFeedSettings) (fun _ feed action _ =>
      KeepsPresentSides feed action) ClobFeed.start history feed ∧ history.emissions.length = 2 ∧
      ∀ emission ∈ history.emissions, emission.OfSubscription := by
  have hfollow : ((clobFeedSystem sampleFeedSettings).follow wakesWithoutRequest
      (sampleBrokenConnection ++ [.woken, .connect "clob-2" 3000, .subscribed,
        .text [sampleDelivery "B"], .handle]) ClobFeed.start).any (fun x =>
      x.1.emissions.length == 2) = true := by
    decide +kernel
  have hkeeps : ∀ history feed action feed', wakesWithoutRequest history feed action feed' = true →
      KeepsPresentSides feed action := by
    intro _ feed action _ hcheck hwoken tokens htokens
    simp only [wakesWithoutRequest, hwoken, ne_eq, not_true_eq_false, decide_false,
      Bool.false_or, List.isEmpty_iff] at hcheck
    rw [hcheck] at htokens
    cases htokens
  obtain ⟨history, feed, hrun, hlength⟩ := System.exists_run_of_follow hfollow hkeeps
  exact ⟨history, feed, hrun, by simpa using hlength,
    emitted_books_are_subscribed sampleFeedSettings history feed hrun⟩

end BubaPaint
