import BubaPaint.Feeds.ClobBooks
import BubaPaint.Feeds.LiveStorage

/-!
# Rows of live CLOB messages

The live loop turns each CLOB message with books into rows of the capture store: one for the side
that the message is about, or one for each side if it is about neither token of the current window.
The rows carry the asset and the market of that window.
-/

namespace BubaPaint

/-! ## Building -/

def MarketWindow.tokens (window : MarketWindow) : Subscription where
  up := window.upTokenId
  down := window.downTokenId

/-- What the rows of one live CLOB message are made of. -/
structure LiveClobLogEvent where
  receiveMs : ℕ
  receiveMicros : Option ℕ
  eventMs : ℕ
  eventMicros : Option ℕ
  eventType : String
  bookState : BookState
  currentWindow : Option MarketWindow
  assetId : Option String
  sourceTopic : Option String
  connectionId : String
  payloadJson : Option String
  detailsJson : Option String

/-- Carry the fields that vary between materialized per-side CLOB rows. -/
structure LiveClobRowSpec where
  source : String
  assetId : Option String
  marketId : Option String

def TopOfBook.persisted (book : TopOfBook) : PersistedTopOfBook ℚ where
  bestBid := book.bestBid
  bestAsk := book.bestAsk
  bidSize := book.bidSize
  askSize := book.askSize

/-- Append one materialized CLOB row when the corresponding book side exists. -/
def pushLiveClobEvent (context : LiveClobLogEvent) (book : Option TopOfBook)
    (spec : LiveClobRowSpec) : List (FeedEvent ℚ) :=
  match book with
  | none => []
  | some book =>
    [{ id := none
       receivedAtMs := UInt64.ofNat context.receiveMs
       eventAtMs := UInt64.ofNat context.eventMs
       receivedAtUs := context.receiveMicros.map UInt64.ofNat
       eventAtUs := context.eventMicros.map UInt64.ofNat
       source := spec.source
       eventType := context.eventType
       sourceTopic := context.sourceTopic
       sourceSymbol := none
       connectionId := some context.connectionId
       sequenceKey := none
       marketId := spec.marketId
       assetId := spec.assetId
       price := none
       tradeSize := none
       signedQuantity := none
       bestBid := some book.bestBid
       bestAsk := some book.bestAsk
       bidSize := some book.bidSize
       askSize := some book.askSize
       depthBidNotional := none
       depthAskNotional := none
       depthImbalance := none
       microprice := none
       payloadJson := context.payloadJson
       detailsJson := context.detailsJson
       fidelity := .rawEvent }]

def windowSideEvents (event : LiveClobLogEvent) (window : MarketWindow) :
    SignalDirection → List (FeedEvent ℚ)
  | .up => pushLiveClobEvent event event.bookState.up
      { source := "clob_up", assetId := some window.upTokenId, marketId := some window.marketId }
  | .down => pushLiveClobEvent event event.bookState.down
      { source := "clob_down", assetId := some window.downTokenId
        marketId := some window.marketId }

/-- Build the relevant per-side CLOB rows for one live top-of-book event. -/
def buildLiveClobEvents (event : LiveClobLogEvent) : List (FeedEvent ℚ) :=
  match event.currentWindow with
  | some window =>
    if event.assetId = some window.upTokenId then windowSideEvents event window .up
    else if event.assetId = some window.downTokenId then windowSideEvents event window .down
    else windowSideEvents event window .up ++ windowSideEvents event window .down
  | none =>
    pushLiveClobEvent event event.bookState.up
        { source := "clob_up", assetId := event.assetId, marketId := none } ++
      pushLiveClobEvent event event.bookState.down
        { source := "clob_down", assetId := event.assetId, marketId := none }

variable {row : FeedEvent ℚ} {event : LiveClobLogEvent} {storage : FeedEventStorageState ℚ}
variable {logged : List (FeedEvent ℚ) × FeedEventStorageState ℚ}

theorem mem_pushLiveClobEvent {context : LiveClobLogEvent} {book : Option TopOfBook}
    {spec : LiveClobRowSpec} (hrow : row ∈ pushLiveClobEvent context book spec) :
    row.assetId = spec.assetId ∧ row.marketId = spec.marketId ∧
      ∃ top, book = some top ∧ persistedTopOfBook row = some top.persisted := by
  cases book with
  | none => cases hrow
  | some top =>
    rw [List.mem_singleton.mp hrow]
    exact ⟨rfl, rfl, top, rfl, rfl⟩

theorem mem_windowSideEvents {window : MarketWindow} {side : SignalDirection}
    (hrow : row ∈ windowSideEvents event window side) :
    row.assetId = some (window.tokens.token side) ∧ row.marketId = some window.marketId ∧
      ∃ top, sideBook event.bookState side = some top ∧
        persistedTopOfBook row = some top.persisted := by
  cases side with
  | up => exact mem_pushLiveClobEvent hrow
  | down => exact mem_pushLiveClobEvent hrow

theorem mem_buildLiveClobEvents {marketId : String} (hrow : row ∈ buildLiveClobEvents event)
    (hmarket : row.marketId = some marketId) :
    ∃ window side, event.currentWindow = some window ∧ marketId = window.marketId ∧
      row.assetId = some (window.tokens.token side) ∧
      ∃ top, sideBook event.bookState side = some top ∧
        persistedTopOfBook row = some top.persisted := by
  have hside : ∀ {window side}, event.currentWindow = some window →
      row ∈ windowSideEvents event window side → ∃ window side,
        event.currentWindow = some window ∧ marketId = window.marketId ∧
        row.assetId = some (window.tokens.token side) ∧
        ∃ top, sideBook event.bookState side = some top ∧
          persistedTopOfBook row = some top.persisted := by
    intro window side hwindow hmem
    obtain ⟨hasset, hwindowMarket, htop⟩ := mem_windowSideEvents hmem
    exact ⟨window, side, hwindow, Option.some.inj (hmarket.symm.trans hwindowMarket), hasset, htop⟩
  unfold buildLiveClobEvents at hrow
  cases hwindow : event.currentWindow with
  | some window =>
    simp only [hwindow] at hrow
    rw [← hwindow]
    split at hrow
    · exact hside hwindow hrow
    split at hrow
    · exact hside hwindow hrow
    · rcases List.mem_append.mp hrow with hup | hdown
      · exact hside hwindow hup
      · exact hside hwindow hdown
  | none =>
    simp only [hwindow] at hrow
    have hnone : row.marketId = none := by
      rcases List.mem_append.mp hrow with hup | hdown
      · exact (mem_pushLiveClobEvent hup).2.1
      · exact (mem_pushLiveClobEvent hdown).2.1
    rw [hnone] at hmarket
    cases hmarket

/-! ## Storing -/

/-- A stored row says of the top of book what the row it was made from says, under the same asset,
and names no other market. -/
def StoredAs (event row : FeedEvent ℚ) : Prop :=
  row.assetId = event.assetId ∧ persistedTopOfBook row = persistedTopOfBook event ∧
    (row.marketId = event.marketId ∨ row.marketId = none)

theorem storedAs_sanitizeReplayEvent (event : FeedEvent ℚ) :
    StoredAs event (sanitizeReplayEvent (withMicroprice event)) := by
  refine ⟨rfl, rfl, ?_⟩
  unfold sanitizeReplayEvent
  split
  · exact .inr rfl
  · exact .inl rfl

theorem eq_of_prepareClob {event : FeedEvent ℚ} (hrow : (storage.prepareClob event).1 = some row) :
    row = event ∨ row = withMicroprice event ∨
      row = sanitizeReplayEvent (withMicroprice event) := by
  unfold FeedEventStorageState.prepareClob at hrow
  split at hrow
  · unfold FeedEventStorageState.prepareClobBookSnapshot at hrow
    dsimp only at hrow
    split at hrow
    · cases hrow
      exact .inr (.inl rfl)
    split at hrow
    · cases hrow
    · cases hrow
      exact .inr (.inr rfl)
  split at hrow
  · unfold FeedEventStorageState.prepareClobTopOfBook at hrow
    split at hrow
    · cases hrow
      exact .inl rfl
    split at hrow
    · cases hrow
    · dsimp only at hrow
      split at hrow
      · cases hrow
      · cases hrow
        exact .inr (.inr rfl)
  · cases hrow
    exact .inl rfl

theorem storedAs_prepareClob {event : FeedEvent ℚ}
    (hrow : (storage.prepareClob event).1 = some row) : StoredAs event row := by
  rcases eq_of_prepareClob hrow with rfl | rfl | rfl
  · exact ⟨rfl, rfl, .inl rfl⟩
  · exact ⟨rfl, rfl, .inl rfl⟩
  · exact storedAs_sanitizeReplayEvent event

/-- Offer one row to the writer, whose queue takes rows of some sources, and count it if taken. -/
def enqueueCountedFeedEvent (accepts : String → Bool) (storage : FeedEventStorageState ℚ)
    (event : FeedEvent ℚ) : List (FeedEvent ℚ) × FeedEventStorageState ℚ :=
  if accepts event.source then
    ([event], storage.recordEnqueuedKey event.source event.eventType)
  else ([], storage)

/-- Log one row of a message: filter it, and offer it to the writer. -/
def logFeedEvent (accepts : String → Bool)
    (logged : List (FeedEvent ℚ) × FeedEventStorageState ℚ) (feedEvent : FeedEvent ℚ) :
    List (FeedEvent ℚ) × FeedEventStorageState ℚ :=
  match logged.2.prepareClob feedEvent with
  | (some prepared, storage) =>
    let (rows, storage) := enqueueCountedFeedEvent accepts storage prepared
    (logged.1 ++ rows, storage)
  | (none, storage) => (logged.1, storage)

/-- Log one live CLOB message: the rows that reach the writer, and the filters after them. -/
def logLiveClobEvent (accepts : String → Bool) (storage : FeedEventStorageState ℚ)
    (event : LiveClobLogEvent) : List (FeedEvent ℚ) × FeedEventStorageState ℚ :=
  (buildLiveClobEvents event).foldl (logFeedEvent accepts) ([], storage)

variable {accepts : String → Bool}

theorem mem_logFeedEvent {feedEvent : FeedEvent ℚ}
    (hrow : row ∈ (logFeedEvent accepts logged feedEvent).1) :
    row ∈ logged.1 ∨ (logged.2.prepareClob feedEvent).1 = some row := by
  unfold logFeedEvent at hrow
  cases hprepared : logged.2.prepareClob feedEvent with
  | mk prepared storage =>
    rw [hprepared] at hrow
    cases prepared with
    | none => exact .inl hrow
    | some prepared =>
      rcases List.mem_append.mp hrow with hold | hnew
      · exact .inl hold
      · right
        unfold enqueueCountedFeedEvent at hnew
        split at hnew
        · rw [List.mem_singleton.mp hnew]
        · cases hnew

theorem mem_foldl_logFeedEvent {events : List (FeedEvent ℚ)}
    (hrow : row ∈ (events.foldl (logFeedEvent accepts) logged).1) :
    row ∈ logged.1 ∨ ∃ feedEvent ∈ events, ∃ storage : FeedEventStorageState ℚ,
      (storage.prepareClob feedEvent).1 = some row := by
  induction events generalizing logged with
  | nil => exact .inl hrow
  | cons feedEvent rest ih =>
    rcases ih hrow with hlogged | ⟨other, hother, hprepared⟩
    · rcases mem_logFeedEvent hlogged with hold | hprepared
      · exact .inl hold
      · exact .inr ⟨feedEvent, List.mem_cons_self, logged.2, hprepared⟩
    · exact .inr ⟨other, List.mem_cons_of_mem _ hother, hprepared⟩

/-- Every row that reaches the writer is a row of the message as some filters prepared it. -/
theorem mem_logLiveClobEvent (hrow : row ∈ (logLiveClobEvent accepts storage event).1) :
    ∃ feedEvent ∈ buildLiveClobEvents event, ∃ storage : FeedEventStorageState ℚ,
      (storage.prepareClob feedEvent).1 = some row := by
  rcases mem_foldl_logFeedEvent hrow with hempty | hfound
  · cases hempty
  · exact hfound

end BubaPaint
