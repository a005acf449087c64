import BubaPaint.Library.Traces
import BubaPaint.Live.MarketData

/-!
# Capture of feed messages

The live loop answers each message of a feed twice: it brings its own state up to date, and it
stores what the replay is to see of the message. A price leaves one row, books leave one for each
side the message is about unless the storage filters have seen the same before, and a stale notice
leaves none: it goes to the table of feed health.
-/

namespace BubaPaint

open Effects FeedEventStorageState List

/-- What a message of another feed carries for its row, and which rows the writer's queue takes. -/
structure PriceReceipt where
  eventMs : ℕ
  eventMicros : Option ℕ := none
  (sourceTopic sourceSymbol tradeSequenceKey : Option String := none)
  connectionId : String
  (payloadJson detailsJson : Option String := none)
  accepts : String → Bool

/-- The row of a message of another feed, before its numbers are filled in. -/
def priceFeedEvent (state : LiveState) (receive : CaptureReceiveTimes) (receipt : PriceReceipt)
    (source eventType : String) : FeedEvent ℚ where
  id := none
  receivedAtMs := UInt64.ofNat receive.ms
  eventAtMs := UInt64.ofNat receipt.eventMs
  receivedAtUs := receive.micros.map UInt64.ofNat
  eventAtUs := receipt.eventMicros.map UInt64.ofNat
  source
  eventType
  sourceTopic := receipt.sourceTopic
  sourceSymbol := receipt.sourceSymbol
  connectionId := some receipt.connectionId
  sequenceKey := none
  marketId := state.currentWindow.map fun window => window.marketId
  assetId := none
  price := none
  tradeSize := none
  signedQuantity := none
  bestBid := none
  bestAsk := none
  bidSize := none
  askSize := none
  depthBidNotional := none
  depthAskNotional := none
  depthImbalance := none
  microprice := none
  payloadJson := receipt.payloadJson
  detailsJson := receipt.detailsJson
  fidelity := .rawEvent

/-- The row that a message of another feed leaves, as the filters prepare it. -/
def preparePrice (state : LiveState) (storage : FeedEventStorageState ℚ)
    (receive : CaptureReceiveTimes) (receipt : PriceReceipt) :
    PriceMessage → Option (FeedEvent ℚ) × FeedEventStorageState ℚ
  | .binanceTrade price quantity signedQuantity =>
    let event :=
      { priceFeedEvent state receive receipt "binance" "aggTrade" with
        sequenceKey := receipt.tradeSequenceKey
        price := some price }
    (some (storage.prepareBinanceTrade event quantity signedQuantity), storage)
  | .binanceBookTicker bestBid bestAsk bidSize askSize sequenceKey =>
    let event :=
      { priceFeedEvent state receive receipt "binance" "bookTicker" with
        sequenceKey
        bestBid := some bestBid
        bestAsk := some bestAsk
        bidSize := some bidSize
        askSize := some askSize }
    (storage.prepareBinanceBookTicker event, storage)
  | .binanceDepth bidLevels askLevels sequenceKey =>
    let event :=
      { priceFeedEvent state receive receipt "binance" "depth" with
        sequenceKey
        bestBid := bidLevels.head?.map fun level => level.price
        bestAsk := askLevels.head?.map fun level => level.price
        bidSize := bidLevels.head?.map fun level => level.size
        askSize := askLevels.head?.map fun level => level.size }
    storage.prepareBinanceDepth event receipt.sourceSymbol bidLevels askLevels
  | .chainlinkPrice price =>
    let event :=
      { priceFeedEvent state receive receipt "chainlink" "chainlink_price" with
        price := some price }
    (some (storage.prepareChainlinkPrice event), storage)
  -- the notice is logged as a feed health event
  | .chainlinkStale => (none, storage)

/-- A message with what its rows are made of. -/
inductive CapturedMessage where
  | price (receipt : PriceReceipt) (message : PriceMessage)
  | clob (receipt : ClobReceipt) (message : FeedMessage)

/-- The live loop's state and its storage filters. -/
structure LiveCapture where
  live : LiveState
  storage : FeedEventStorageState ℚ

namespace LiveCapture

/-- Handle one message: the rows that reach the writer, and what the loop knows after it. -/
def receive (capture : LiveCapture) (input : CaptureReceiveTimes × CapturedMessage) :
    List (FeedEvent ℚ) × LiveCapture :=
  match input.2 with
  | .price receipt message =>
    let live := capture.live.receivePrice input.1 message
    match preparePrice capture.live capture.storage input.1 receipt message with
    | (some row, storage) =>
      let (rows, storage) := enqueueCountedFeedEvent receipt.accepts storage row
      (rows, { live, storage })
    | (none, storage) => ([], { live, storage })
  | .clob receipt message =>
    match clobLogEvent capture.live input.1 receipt message with
    -- rows of metadata carry no quote, and the replay passes over their source
    | none => ([], capture)
    | some event =>
      let signalState := capture.live.signalState.updateClob event.bookState input.1.ms
        input.1.micros
      let (rows, storage) := logLiveClobEvent receipt.accepts capture.storage event
      (rows, { live := { capture.live with signalState }, storage })

end LiveCapture

/-! ## Times of rows -/

/-- Times of 64 bits, as the clocks give them. -/
def CaptureReceiveTimes.Fits (receive : CaptureReceiveTimes) : Prop :=
  receive.ms < 2 ^ 64 ∧ ∀ micros ∈ receive.micros, micros < 2 ^ 64

instance (receive : CaptureReceiveTimes) : Decidable receive.Fits :=
  inferInstanceAs (Decidable (_ ∧ _))

def FeedEvent.receiveTimes (row : FeedEvent ℚ) : CaptureReceiveTimes where
  ms := row.receivedAtMs.toNat
  micros := row.receivedAtUs.map UInt64.toNat

/-- A captured event that bears the time its message was received. -/
structure Stamped (receive : CaptureReceiveTimes) (row : FeedEvent ℚ) : Prop where
  receivedAtMs : row.receivedAtMs = UInt64.ofNat receive.ms
  receivedAtUs : row.receivedAtUs = receive.micros.map UInt64.ofNat
  fidelity : row.fidelity = .rawEvent

theorem Stamped.receiveTimes_eq {receive : CaptureReceiveTimes} {row : FeedEvent ℚ}
    (h : Stamped receive row) (hfits : receive.Fits) : row.receiveTimes = receive := by
  have hms : row.receivedAtMs.toNat = receive.ms := by
    rw [h.receivedAtMs, UInt64.toNat_ofNat_of_lt' hfits.1]
  have hmicros : row.receivedAtUs.map UInt64.toNat = receive.micros := by
    rw [h.receivedAtUs]
    cases hsome : receive.micros with
    | none => rfl
    | some micros => exact congrArg some (UInt64.toNat_ofNat_of_lt' (hfits.2 micros hsome))
  unfold FeedEvent.receiveTimes
  rw [hms, hmicros]

section Stamps

variable {receive : CaptureReceiveTimes} {row : FeedEvent ℚ}

theorem stamped_of_preparePrice {state : LiveState} {storage : FeedEventStorageState ℚ}
    {receipt : PriceReceipt} {message : PriceMessage}
    (hrow : (preparePrice state storage receive receipt message).1 = some row) :
    Stamped receive row := by
  cases message with
  | binanceTrade price quantity signedQuantity =>
    cases hrow
    unfold prepareBinanceTrade
    split <;> exact ⟨rfl, rfl, rfl⟩
  | binanceBookTicker bestBid bestAsk bidSize askSize sequenceKey =>
    unfold preparePrice prepareBinanceBookTicker at hrow
    dsimp only at hrow
    split at hrow
    · cases hrow
    · cases hrow
      exact ⟨rfl, rfl, rfl⟩
    · cases hrow
      exact ⟨rfl, rfl, rfl⟩
  | binanceDepth bidLevels askLevels sequenceKey =>
    unfold preparePrice prepareBinanceDepth at hrow
    dsimp only at hrow
    split at hrow
    · cases hrow
      exact ⟨rfl, rfl, rfl⟩
    · cases hrow
      exact ⟨rfl, rfl, rfl⟩
    · split at hrow
      · cases hrow
      · cases hrow
        exact ⟨rfl, rfl, rfl⟩
  | chainlinkPrice price =>
    cases hrow
    unfold prepareChainlinkPrice
    split <;> exact ⟨rfl, rfl, rfl⟩
  | chainlinkStale => cases hrow

theorem stamped_of_mem_buildLiveClobEvents {event : LiveClobLogEvent}
    (hms : event.receiveMs = receive.ms) (hmicros : event.receiveMicros = receive.micros)
    (hrow : row ∈ buildLiveClobEvents event) : Stamped receive row := by
  have hpush : ∀ {book spec}, row ∈ pushLiveClobEvent event book spec → Stamped receive row := by
    intro book spec hmem
    unfold pushLiveClobEvent at hmem
    split at hmem
    · cases hmem
    · rw [mem_singleton.mp hmem]
      exact ⟨congrArg UInt64.ofNat hms, congrArg (Option.map UInt64.ofNat) hmicros, rfl⟩
  have hside : ∀ {window side}, row ∈ windowSideEvents event window side →
      Stamped receive row := by
    intro window side hmem
    cases side <;> exact hpush hmem
  unfold buildLiveClobEvents at hrow
  split at hrow
  · split at hrow
    · exact hside hrow
    split at hrow
    · exact hside hrow
    · rcases mem_append.mp hrow with hup | hdown
      · exact hside hup
      · exact hside hdown
  · rcases mem_append.mp hrow with hup | hdown
    · exact hpush hup
    · exact hpush hdown

/-- Every row that a message leaves bears the time the message was received. -/
theorem stamped_of_mem_receive {capture : LiveCapture}
    {input : CaptureReceiveTimes × CapturedMessage} (hrow : row ∈ (capture.receive input).1) :
    Stamped input.1 row := by
  obtain ⟨receive, message⟩ := input
  unfold LiveCapture.receive at hrow
  cases message with
  | price receipt message =>
    dsimp only at hrow
    split at hrow
    · rename_i prepared storage hprepared
      unfold enqueueCountedFeedEvent at hrow
      split at hrow
      · rw [mem_singleton.mp hrow]
        exact stamped_of_preparePrice (congrArg Prod.fst hprepared)
      · cases hrow
    · cases hrow
  | clob receipt message =>
    dsimp only at hrow
    split at hrow
    · cases hrow
    · rename_i event hevent
      obtain ⟨feedEvent, hbuilt, storage, hprepared⟩ := mem_logLiveClobEvent hrow
      have htimes : event.receiveMs = receive.ms ∧ event.receiveMicros = receive.micros := by
        cases message <;> cases hevent <;> exact ⟨rfl, rfl⟩
      have hstamped := stamped_of_mem_buildLiveClobEvents htimes.1 htimes.2 hbuilt
      rcases eq_of_prepareClob hprepared with rfl | rfl | rfl
      · exact hstamped
      · exact ⟨hstamped.1, hstamped.2, hstamped.3⟩
      · exact ⟨hstamped.1, hstamped.2, hstamped.3⟩

end Stamps

/-! ## Rows of the sides -/

def SignalDirection.clobSource : SignalDirection → String
  | .up => "clob_up"
  | .down => "clob_down"

/-- Under which key the filters remember the rows of one side of a window. -/
def MarketWindow.clobKey (window : MarketWindow) (side : SignalDirection) : String :=
  side.clobSource ++ ":" ++ window.tokens.token side

/-- The sides of a window that a message is about: both unless it names one of the tokens. -/
def MarketWindow.sidesAbout (window : MarketWindow) (assetId : Option String) :
    List SignalDirection :=
  if assetId = some window.upTokenId then [.up]
  else if assetId = some window.downTokenId then [.down]
  else [.up, .down]

/-- A book that the filters have not seen: a snapshot on another connection than the last one, or
another top of book than the last mutation's. -/
def FeedEventStorageState.IsNew (storage : FeedEventStorageState ℚ) (event : LiveClobLogEvent)
    (key : String) (book : TopOfBook) : Prop :=
  if event.eventType = "book" then storage.clobBookConnections key ≠ some event.connectionId
  else storage.clobTopOfBook key ≠ some book.persisted

instance (storage : FeedEventStorageState ℚ) (event : LiveClobLogEvent) (key : String)
    (book : TopOfBook) : Decidable (storage.IsNew event key book) := by
  unfold FeedEventStorageState.IsNew
  infer_instance

/-- A row of one side that says what the message's book of that side says. -/
structure SideRow (event : LiveClobLogEvent) (side : SignalDirection) (row : FeedEvent ℚ) :
    Prop where
  receivedAtMs : row.receivedAtMs = UInt64.ofNat event.receiveMs
  receivedAtUs : row.receivedAtUs = event.receiveMicros.map UInt64.ofNat
  source : row.source = side.clobSource
  bid : row.bestBid = (sideBook event.bookState side).map fun book => book.bestBid
  ask : row.bestAsk = (sideBook event.bookState side).map fun book => book.bestAsk
  bidSize : row.bidSize = (sideBook event.bookState side).map fun book => book.bidSize
  askSize : row.askSize = (sideBook event.bookState side).map fun book => book.askSize

variable {row : FeedEvent ℚ} {book : TopOfBook}

theorem SideRow.sanitize {event : LiveClobLogEvent} {side : SignalDirection}
    (h : SideRow event side row) : SideRow event side (sanitizeReplayEvent (withMicroprice row)) :=
  ⟨h.receivedAtMs, h.receivedAtUs, h.source, h.bid, h.ask, h.bidSize, h.askSize⟩

variable {event : LiveClobLogEvent} {window : MarketWindow} {side : SignalDirection}

theorem clobKey_injective {other : SignalDirection}
    (h : window.clobKey side = window.clobKey other) : side = other := by
  have hchars := congrArg String.toList h
  cases side <;> cases other
  · rfl
  · simp [MarketWindow.clobKey, SignalDirection.clobSource] at hchars
  · simp [MarketWindow.clobKey, SignalDirection.clobSource] at hchars
  · rfl

theorem buildLiveClobEvents_eq (hwindow : event.currentWindow = some window) :
    buildLiveClobEvents event =
      (window.sidesAbout event.assetId).flatMap (windowSideEvents event window) := by
  unfold buildLiveClobEvents MarketWindow.sidesAbout
  simp only [hwindow]
  split
  · simp
  split
  · simp
  · simp

theorem exists_windowSideEvents (window : MarketWindow)
    (hbook : sideBook event.bookState side = some book) :
    ∃ row, windowSideEvents event window side = [row] ∧ SideRow event side row ∧
      clobStorageKey row = window.clobKey side ∧ row.eventType = event.eventType ∧
      row.connectionId = some event.connectionId ∧
      persistedTopOfBook row = some book.persisted := by
  cases side with
  | up =>
    have hup : event.bookState.up = some book := hbook
    unfold windowSideEvents pushLiveClobEvent
    simp only [hup]
    exact ⟨_, rfl, ⟨rfl, rfl, rfl, by simp [hbook], by simp [hbook], by simp [hbook],
      by simp [hbook]⟩, rfl, rfl, rfl, rfl⟩
  | down =>
    have hdown : event.bookState.down = some book := hbook
    unfold windowSideEvents pushLiveClobEvent
    simp only [hdown]
    exact ⟨_, rfl, ⟨rfl, rfl, rfl, by simp [hbook], by simp [hbook], by simp [hbook],
      by simp [hbook]⟩, rfl, rfl, rfl, rfl⟩

theorem prepareClob_of_isNew {storage : FeedEventStorageState ℚ}
    (hprofile : storage.profile = .replayGrade)
    (hkind : event.eventType = "book" ∨ event.eventType = "price_change" ∨
      event.eventType = "best_bid_ask") (htype : row.eventType = event.eventType)
    (hconnection : row.connectionId = some event.connectionId)
    (htop : persistedTopOfBook row = some book.persisted)
    (hnew : storage.IsNew event (clobStorageKey row) book) :
    ∃ storage', storage.prepareClob row =
        (some (sanitizeReplayEvent (withMicroprice row)), storage') ∧
      storage'.profile = .replayGrade ∧
      ∀ key, key ≠ clobStorageKey row → ∀ other,
        storage'.IsNew event key other ↔ storage.IsNew event key other := by
  unfold FeedEventStorageState.IsNew at hnew
  split at hnew
  · rename_i hbook
    have hprepared := prepareClob_book hprofile (htype.trans hbook)
    rw [hconnection, Option.getD_some, if_neg hnew] at hprepared
    refine ⟨_, hprepared, hprofile, ?_⟩
    intro key hkey other
    simp [FeedEventStorageState.IsNew, hbook, Function.update_of_ne hkey]
  · rename_i hbook
    have hmutation := hkind.resolve_left hbook
    rw [← htype] at hmutation
    have hprepared := prepareClob_mutation hprofile hmutation htop
    rw [if_neg hnew] at hprepared
    refine ⟨_, hprepared, hprofile, ?_⟩
    intro key hkey other
    simp [FeedEventStorageState.IsNew, hbook, Function.update_of_ne hkey]

/-- The rows of some sides whose books are new to the filters all reach the writer. -/
theorem exists_sideRows {accepts : String → Bool} {sides : List SignalDirection}
    {logged : List (FeedEvent ℚ) × FeedEventStorageState ℚ}
    (haccepts : ∀ side : SignalDirection, accepts side.clobSource = true)
    (hprofile : logged.2.profile = .replayGrade)
    (hkind : event.eventType = "book" ∨ event.eventType = "price_change" ∨
      event.eventType = "best_bid_ask")
    (hdistinct : sides.Nodup)
    (hnew : ∀ side ∈ sides, ∃ book, sideBook event.bookState side = some book ∧
      logged.2.IsNew event (window.clobKey side) book) :
    ∃ rows storage, (sides.flatMap (windowSideEvents event window)).foldl (logFeedEvent accepts)
        logged = (logged.1 ++ rows, storage) ∧
      storage.profile = .replayGrade ∧ List.Forall₂ (SideRow event) sides rows := by
  induction sides generalizing logged with
  | nil => exact ⟨[], logged.2, by simp, hprofile, .nil⟩
  | cons side rest ih =>
    obtain ⟨book, hbook, hfresh⟩ := hnew side mem_cons_self
    obtain ⟨row, hrows, hside, hkey, htype, hconnection, htop⟩ :=
      exists_windowSideEvents window hbook
    rw [← hkey] at hfresh
    obtain ⟨storage, hprepared, hkept, hothers⟩ :=
      prepareClob_of_isNew hprofile hkind htype hconnection htop hfresh
    let stored := sanitizeReplayEvent (withMicroprice row)
    have hstored : SideRow event side stored := hside.sanitize
    let next : List (FeedEvent ℚ) × FeedEventStorageState ℚ :=
      (logged.1 ++ [stored], storage.recordEnqueuedKey stored.source stored.eventType)
    have hstep : logFeedEvent accepts logged row = next := by
      have htaken : accepts stored.source = true := by
        rw [hstored.source]
        exact haccepts side
      unfold logFeedEvent
      rw [hprepared]
      simp [enqueueCountedFeedEvent, next, stored, htaken]
    have hnext : next.2.profile = .replayGrade := hkept
    have hlater : ∀ other ∈ rest, ∃ book, sideBook event.bookState other = some book ∧
        next.2.IsNew event (window.clobKey other) book := by
      intro other hother
      obtain ⟨book, hbook, hfresh⟩ := hnew other (mem_cons_of_mem _ hother)
      refine ⟨book, hbook, (hothers _ ?_ book).mpr hfresh⟩
      rw [hkey]
      intro hsame
      rw [clobKey_injective hsame] at hother
      exact (nodup_cons.mp hdistinct).1 hother
    obtain ⟨rows, final, hfinal, hfinalProfile, hsides⟩ :=
      ih hnext (nodup_cons.mp hdistinct).2 hlater
    refine ⟨stored :: rows, final, ?_, hfinalProfile, .cons hstored hsides⟩
    rw [flatMap_cons, foldl_append, hrows, foldl_cons, foldl_nil, hstep,
      hfinal, append_assoc, singleton_append]

end BubaPaint
