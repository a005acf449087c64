import BubaPaint.Feeds.BookOrigins
import BubaPaint.Live.ClobRows

/-!
# Market data of the live loop

The live loop receives the messages of the feeds in batches and evaluates the strategies after each
batch that changed something. Market discovery opens and closes windows meanwhile: activating one
asks the CLOB feed, through a task of its own, for the window's tokens and empties the books.

Main results:

- Theorem `quotes_are_of_window`: quotes are of the window they are used for.
-/

namespace BubaPaint

open Effects List

/-! ## The state of the loop -/

/-- What the live loop knows of the market. -/
structure LiveState where
  signalState : SignalState
  currentWindow : Option MarketWindow
  windowOpenPrices : String → Option ℚ
  knownWindows : List MarketWindow
  latestDecisionSequence : ℕ

/-- One evaluation handed to the strategy worker, by what it says of the market. -/
structure StrategyEvaluationRequest where
  decisionSequence : ℕ
  window : MarketWindow
  bookState : BookState
  nowMs : ℕ
  nowUs : Option ℕ
  deriving DecidableEq

/-- Feed-derived decision state awaiting one latest-state evaluation. -/
structure PendingDecisionEvaluation where
  dirty : Bool
  latestInputAtMs : ℕ
  latestInputAtUs : Option ℕ

/-- When the loop received a message, by its clock. -/
structure CaptureReceiveTimes where
  ms : ℕ
  micros : Option ℕ
  deriving DecidableEq

namespace PendingDecisionEvaluation

def default : PendingDecisionEvaluation where
  dirty := false
  latestInputAtMs := 0
  latestInputAtUs := none

/-- Mark the current feed state as needing one decision evaluation. -/
def markDirty (_ : PendingDecisionEvaluation) (receive : CaptureReceiveTimes) :
    PendingDecisionEvaluation where
  dirty := true
  latestInputAtMs := receive.ms
  latestInputAtUs := receive.micros

end PendingDecisionEvaluation

namespace LiveState

def new : LiveState where
  signalState := .new
  currentWindow := none
  windowOpenPrices := fun _ => none
  knownWindows := []
  latestDecisionSequence := 0

def recordOpenPrice (state : LiveState) (marketId : String) (price : ℚ) : LiveState :=
  { state with
    windowOpenPrices := Function.update state.windowOpenPrices marketId
      ((state.windowOpenPrices marketId).or (some price)) }

/-- Activate a market window: set it as current, reset the book state, and capture the open price.
The tokens to resubscribe to are handed to a task of their own. -/
def activateWindow (state : LiveState) (window : MarketWindow) : LiveState :=
  let state := { state with signalState := { state.signalState with bookState := .empty } }
  let state :=
    match state.signalState.binancePrice with
    | some openPrice => state.recordOpenPrice window.marketId openPrice
    | none => state
  { state with currentWindow := some window }

def rememberWindow (state : LiveState) (window : MarketWindow) : LiveState :=
  { state with
    knownWindows :=
      (state.knownWindows.filter fun known => known.marketId != window.marketId) ++ [window] }

/-- Forget a window that has closed, and its books if it was the current one. -/
def windowClosed (state : LiveState) (closedId : String) : LiveState :=
  if state.knownWindows.any fun window => window.marketId == closedId then
    let state :=
      { state with
        knownWindows := state.knownWindows.filter fun window => window.marketId != closedId
        windowOpenPrices := Function.update state.windowOpenPrices closedId none }
    if state.currentWindow.any fun window => window.marketId == closedId then
      { state with
        currentWindow := none
        signalState := { state.signalState with bookState := .empty } }
    else state
  else state

/-- Enqueue one evaluation of the current window, if there is one and a Binance price. -/
def enqueueStrategyEvaluation (state : LiveState) (nowMs : ℕ) (nowUs : Option ℕ) :
    Option StrategyEvaluationRequest × LiveState :=
  match state.currentWindow, state.signalState.binancePrice with
  | some window, some _ =>
    let decisionSequence := saturatingAdd state.latestDecisionSequence 1
    (some { decisionSequence, window, bookState := state.signalState.bookState, nowMs, nowUs },
      { state with latestDecisionSequence := decisionSequence })
  | _, _ => (none, state)

end LiveState

/-- A message of a feed other than the CLOB feed. -/
inductive PriceMessage where
  | binanceTrade (price quantity : ℚ) (signedQuantity : Option ℚ)
  | binanceBookTicker (bestBid bestAsk bidSize askSize : ℚ) (sequenceKey : Option String)
  | binanceDepth (bidLevels askLevels : List (OrderLevel ℚ)) (sequenceKey : Option String)
  | chainlinkPrice (price : ℚ)
  | chainlinkStale

/-- The state after a message of another feed. -/
def LiveState.receivePrice (state : LiveState) (receive : CaptureReceiveTimes) :
    PriceMessage → LiveState
  | .binanceTrade price quantity signedQuantity =>
    let state :=
      { state with
        signalState := state.signalState.updateBinanceTrade price quantity signedQuantity
          receive.ms receive.micros }
    match state.currentWindow with
    | some window => state.recordOpenPrice window.marketId price
    | none => state
  | .binanceBookTicker bestBid bestAsk bidSize askSize sequenceKey =>
    { state with
      signalState := state.signalState.updateBinanceBook bestBid bestAsk bidSize askSize
        receive.ms sequenceKey }
  | .binanceDepth bidLevels askLevels sequenceKey =>
    { state with
      signalState := state.signalState.updateBinanceDepth bidLevels askLevels receive.ms
        sequenceKey }
  | .chainlinkPrice price =>
    { state with
      signalState := state.signalState.updateChainlink price receive.ms receive.micros }
  | .chainlinkStale =>
    { state with signalState := { state.signalState with chainlinkPrice := none } }

/-- The texts a CLOB message carries for its rows, and which rows the writer's queue takes. -/
structure ClobReceipt where
  (sourceTopic payloadJson detailsJson : Option String := none)
  accepts : String → Bool

/-- One message of a batch: the next one of the CLOB feed, or one of another feed. -/
inductive LoopInput where
  | clob (receipt : ClobReceipt)
  | price (message : PriceMessage)

/-- What the rows of a CLOB message are made of, if it carries books. -/
def clobLogEvent (state : LiveState) (receive : CaptureReceiveTimes) (receipt : ClobReceipt) :
    FeedMessage → Option LiveClobLogEvent
  | .clobBook bookState timestampMs timestampUs assetId connectionId =>
    some (logEvent "book" bookState timestampMs timestampUs assetId connectionId)
  | .clobPriceChange bookState timestampMs timestampUs assetId connectionId =>
    some (logEvent "price_change" bookState timestampMs timestampUs assetId connectionId)
  | .clobBestBidAsk bookState timestampMs timestampUs assetId connectionId =>
    some (logEvent "best_bid_ask" bookState timestampMs timestampUs assetId connectionId)
  | .clobMetaEvent .. | .feedConnected .. | .feedDisconnected .. => none
where
  logEvent (eventType : String) (bookState : BookState) (timestampMs : ℕ)
      (timestampUs : Option ℕ) (assetId : Option String) (connectionId : String) :
      LiveClobLogEvent :=
    { receiveMs := receive.ms
      receiveMicros := receive.micros
      eventMs := timestampMs
      eventMicros := timestampUs
      eventType
      bookState
      currentWindow := state.currentWindow
      assetId
      sourceTopic := receipt.sourceTopic
      connectionId
      payloadJson := receipt.payloadJson
      detailsJson := receipt.detailsJson }

/-! ## The runtime -/

/-- The loop with what it shares state with: the CLOB feed and how many of its messages were
received, the tasks that wait to hand the feed a token pair, the windows whose activation is
scheduled, and the storage filters. -/
structure MarketDataRuntime where
  feed : ClobFeed
  readCount : ℕ
  resubscribing : List Subscription
  scheduled : List MarketWindow
  live : LiveState
  storage : FeedEventStorageState ℚ

/-- What happens: the CLOB feed takes a step, a task hands it its token pair, the loop receives a
batch, and market discovery opens or closes a window. -/
inductive MarketDataAction where
  | feed (action : ClobFeedAction)
  | handOver (index : ℕ)
  | receiveFeed (batch : List (CaptureReceiveTimes × LoopInput))
  | newWindow (window : MarketWindow) (nowMs : ℕ)
  | activateScheduled (index : ℕ)
  | windowClosed (closedId : String)

/-- A batch that is being received: the loop so far, what awaits an evaluation, and the rows that
reached the writer. -/
structure FeedBatch where
  runtime : MarketDataRuntime
  pending : PendingDecisionEvaluation
  rows : List (FeedEvent ℚ)

namespace MarketDataRuntime

def new (profile : FeedEventStorageProfile) : MarketDataRuntime where
  feed := .new
  readCount := 0
  resubscribing := []
  scheduled := []
  live := .new
  storage := .new profile

def activate (runtime : MarketDataRuntime) (window : MarketWindow) : MarketDataRuntime :=
  { runtime with
    live := runtime.live.activateWindow window
    resubscribing := runtime.resubscribing ++ [window.tokens] }

def receiveClob (batch : FeedBatch) (receive : CaptureReceiveTimes) (receipt : ClobReceipt)
    (message : FeedMessage) : FeedBatch :=
  let runtime := { batch.runtime with readCount := batch.runtime.readCount + 1 }
  match clobLogEvent runtime.live receive receipt message with
  | none => { batch with runtime }
  | some event =>
    let signalState := runtime.live.signalState.updateClob event.bookState receive.ms receive.micros
    let (rows, storage) := logLiveClobEvent receipt.accepts runtime.storage event
    { runtime := { runtime with live := { runtime.live with signalState }, storage }
      pending := batch.pending.markDirty receive
      rows := batch.rows ++ rows }

def receiveOne (batch : FeedBatch) (input : CaptureReceiveTimes × LoopInput) : Option FeedBatch :=
  match input.2 with
  | .clob receipt =>
    batch.runtime.feed.sent[batch.runtime.readCount]?.map (receiveClob batch input.1 receipt)
  | .price message =>
    some { batch with
      runtime :=
        { batch.runtime with live := batch.runtime.live.receivePrice input.1 message }
      pending := batch.pending.markDirty input.1 }

/-- Receive a batch and evaluate the current window if something has changed. -/
def receiveBatch (runtime : MarketDataRuntime) (inputs : List (CaptureReceiveTimes × LoopInput)) :
    Option (FeedBatch × Option StrategyEvaluationRequest) := do
  let batch ← inputs.foldlM receiveOne { runtime, pending := .default, rows := [] }
  if batch.pending.dirty then
    let (request, live) := batch.runtime.live.enqueueStrategyEvaluation
      batch.pending.latestInputAtMs batch.pending.latestInputAtUs
    return ({ batch with runtime := { batch.runtime with live } }, request)
  else
    return (batch, none)

/-- One step. The token pairs of the feed come from the tasks alone. -/
def step (settings : ClobFeedSettings) (runtime : MarketDataRuntime) :
    MarketDataAction → Option MarketDataRuntime
  | .feed (.resubscribe _) => none
  | .feed action => (runtime.feed.step settings action).map fun feed => { runtime with feed }
  | .handOver index => do
      let tokens ← runtime.resubscribing[index]?
      let feed ← runtime.feed.step settings (.resubscribe tokens)
      return { runtime with feed, resubscribing := runtime.resubscribing.eraseIdx index }
  | .receiveFeed inputs => (runtime.receiveBatch inputs).map fun received => received.1.runtime
  | .newWindow window nowMs =>
    let runtime := { runtime with live := runtime.live.rememberWindow window }
    if window.startTime ≤ nowMs then some (runtime.activate window)
    else some { runtime with scheduled := runtime.scheduled ++ [window] }
  | .activateScheduled index => do
      let window ← runtime.scheduled[index]?
      return { runtime with scheduled := runtime.scheduled.eraseIdx index }.activate window
  | .windowClosed closedId =>
    some { runtime with live := runtime.live.windowClosed closedId }

def activated (runtime : MarketDataRuntime) : MarketDataAction → Option MarketWindow
  | .newWindow window nowMs => if window.startTime ≤ nowMs then some window else none
  | .activateScheduled index => runtime.scheduled[index]?
  | .feed _ | .handOver _ | .receiveFeed _ | .windowClosed _ => none

def feedAction (runtime : MarketDataRuntime) : MarketDataAction → Option ClobFeedAction
  | .feed action => some action
  | .handOver index => runtime.resubscribing[index]?.map .resubscribe
  | .receiveFeed _ | .newWindow .. | .activateScheduled _ | .windowClosed _ => none

end MarketDataRuntime

/-! ## What happened to quotes -/

/-- A quote made from updates about a token, with its freshness filled in. -/
def QuoteFrom (token : String) (received : List ClobDelivery) (quote : Option TopOfBook) : Prop :=
  ∃ book, MadeFrom token received book ∧ quote = book.map normalizeObservedTimestamp

/-- The books a window was evaluated with, and the updates received since it was activated. -/
structure QuoteUse where
  window : MarketWindow
  bookState : BookState
  received : List ClobDelivery

/-- A row that reached the writer, with the current window and the updates received so far. -/
structure RowUse where
  row : FeedEvent ℚ
  window : Option MarketWindow
  received : List ClobDelivery

/-- The quotes of each side come from updates about the window's own token of that side. -/
def QuoteUse.OfWindow (use : QuoteUse) : Prop :=
  ∀ side, QuoteFrom (use.window.tokens.token side) use.received (sideBook use.bookState side)

/-- A row that names an asset and a market names a token of that market, and holds a book made from
updates about that token. -/
def RowUse.OfAsset (use : RowUse) : Prop :=
  ∀ marketId assetId, use.row.marketId = some marketId → use.row.assetId = some assetId →
    ∃ window side, use.window = some window ∧ window.marketId = marketId ∧
      window.tokens.token side = assetId ∧
      ∃ top, MadeFrom assetId use.received (some top) ∧
        persistedTopOfBook use.row = some top.persisted

/-- What the CLOB feed has received and sent, how much of it before the current window was
activated, and what quotes were used for. -/
structure MarketDataHistory where
  log : FeedLog
  activatedAt : ℕ
  uses : List QuoteUse
  rows : List RowUse

namespace MarketDataHistory

/-- Nothing has happened yet. -/
def empty : MarketDataHistory where
  log := .empty
  activatedAt := 0
  uses := []
  rows := []

/-- Every quote used comes from its window, and every row from its asset. -/
structure Attributed (history : MarketDataHistory) : Prop where
  uses : ∀ use ∈ history.uses, use.OfWindow
  rows : ∀ use ∈ history.rows, use.OfAsset

/-- What has happened after an action. -/
def record (history : MarketDataHistory) (runtime : MarketDataRuntime) (action : MarketDataAction)
    (runtime' : MarketDataRuntime) : MarketDataHistory :=
  let received :=
    match action with
    | .receiveFeed inputs => runtime.receiveBatch inputs
    | _ => none
  { log :=
      match runtime.feedAction action with
      | some feedAction => history.log.record runtime.feed feedAction runtime'.feed
      | none => history.log
    activatedAt :=
      if (runtime.activated action).isSome then history.log.received.length
      else history.activatedAt
    uses := history.uses ++ (received.bind (·.2)).toList.map fun request =>
      { window := request.window, bookState := request.bookState
        received := history.log.received.drop history.activatedAt }
    rows := history.rows ++ (received.toList.flatMap (·.1.rows)).map fun row =>
      { row, window := runtime.live.currentWindow, received := history.log.received } }

end MarketDataHistory

/-- The live loop with its CLOB feed as a transition system. -/
def marketDataSystem (settings : ClobFeedSettings) :
    System MarketDataRuntime MarketDataAction MarketDataHistory where
  step := MarketDataRuntime.step settings
  record := MarketDataHistory.record

/-- A message that carries books was sent for a window's tokens, with books that have been empty
under them since the window was activated. -/
def BookOrigin.Serves (origin : BookOrigin) (window : MarketWindow) (activatedAt : ℕ) : Prop :=
  origin.tokens = some window.tokens ∧ ∃ since ∈ origin.since, activatedAt ≤ since

instance (origin : BookOrigin) (window : MarketWindow) (activatedAt : ℕ) :
    Decidable (origin.Serves window activatedAt) :=
  inferInstanceAs (Decidable (_ ∧ _))

/-- A message of the CLOB feed serves a window if it carries any book. -/
def MessageServes (history : MarketDataHistory) (feed : ClobFeed) (window : MarketWindow)
    (index : ℕ) : Prop :=
  ∀ message ∈ feed.sent[index]?, ∀ books ∈ message.bookState?,
    books = .empty ∨ ∃ origin ∈ history.log.origins[index]?,
      origin.Serves window history.activatedAt

instance (history : MarketDataHistory) (feed : ClobFeed) (window : MarketWindow) (index : ℕ) :
    Decidable (MessageServes history feed window index) :=
  inferInstanceAs (Decidable (∀ message ∈ feed.sent[index]?, _))

def clobCount (inputs : List (CaptureReceiveTimes × LoopInput)) : ℕ :=
  inputs.countP fun input =>
    match input.2 with
    | .clob _ => true
    | .price _ => false

/-- Every CLOB message that is received while a window is current serves that window. -/
def ReceivesServing (history : MarketDataHistory) (runtime : MarketDataRuntime)
    (action : MarketDataAction) : Prop :=
  match action with
  | .receiveFeed inputs => ∀ window ∈ runtime.live.currentWindow, ∀ offset < clobCount inputs,
      MessageServes history runtime.feed window (runtime.readCount + offset)
  | .feed _ | .handOver _ | .newWindow .. | .activateScheduled _ | .windowClosed _ => True

instance (history : MarketDataHistory) (runtime : MarketDataRuntime) (action : MarketDataAction) :
    Decidable (ReceivesServing history runtime action) :=
  match action with
  | .receiveFeed inputs => inferInstanceAs (Decidable (∀ window ∈ runtime.live.currentWindow,
      ∀ offset < clobCount inputs, _))
  | .feed _ | .handOver _ | .newWindow .. | .activateScheduled _ | .windowClosed _ =>
    inferInstanceAs (Decidable True)

variable {history : MarketDataHistory} {live : LiveState}

theorem bookState?_of_clobLogEvent {state : LiveState} {receive : CaptureReceiveTimes}
    {receipt : ClobReceipt} {message : FeedMessage} {event : LiveClobLogEvent}
    (hevent : clobLogEvent state receive receipt message = some event) :
    message.bookState? = some event.bookState ∧ event.currentWindow = state.currentWindow := by
  cases message <;> cases hevent <;> exact ⟨rfl, rfl⟩

theorem LiveState.receivePrice_market (state : LiveState) (receive : CaptureReceiveTimes)
    (message : PriceMessage) :
    (state.receivePrice receive message).signalState.bookState = state.signalState.bookState ∧
      (state.receivePrice receive message).currentWindow = state.currentWindow := by
  cases message with
  | binanceTrade price quantity signedQuantity =>
    rcases state with ⟨signalState, _ | window, openPrices, known, sequence⟩
    · exact ⟨rfl, rfl⟩
    · exact ⟨rfl, rfl⟩
  | binanceBookTicker bestBid bestAsk bidSize askSize sequenceKey
  | binanceDepth bidLevels askLevels sequenceKey | chainlinkPrice price | chainlinkStale =>
    exact ⟨rfl, rfl⟩

theorem QuoteFrom.mono {token : String} {received received' : List ClobDelivery}
    {quote : Option TopOfBook} (h : QuoteFrom token received quote)
    (hsublist : List.Sublist received received') : QuoteFrom token received' quote := by
  obtain ⟨book, hmade, hquote⟩ := h
  exact ⟨book, hmade.mono hsublist, hquote⟩

theorem quoteFrom_none (token : String) (received : List ClobDelivery) :
    QuoteFrom token received none :=
  ⟨none, madeFrom_none _ _, rfl⟩

/-- The books at hand show the current window's own tokens, as updated since its activation. -/
def ShowsWindow (history : MarketDataHistory) (live : LiveState) : Prop :=
  ∀ window, live.currentWindow = some window → ∀ side, QuoteFrom (window.tokens.token side)
    (history.log.received.drop history.activatedAt) (sideBook live.signalState.bookState side)

theorem ShowsWindow.congr {live' : LiveState} (h : ShowsWindow history live)
    (hbooks : live'.signalState.bookState = live.signalState.bookState)
    (hwindow : live'.currentWindow = live.currentWindow) : ShowsWindow history live' := by
  unfold ShowsWindow
  rw [hbooks, hwindow]
  exact h

theorem showsWindow_of_empty (history : MarketDataHistory)
    (hempty : live.signalState.bookState = .empty) : ShowsWindow history live := by
  intro window _ side
  rw [hempty, sideBook_empty]
  exact quoteFrom_none _ _

theorem showsWindow_activateWindow (history : MarketDataHistory) (live : LiveState)
    (window : MarketWindow) : ShowsWindow history (live.activateWindow window) := by
  apply showsWindow_of_empty
  unfold LiveState.activateWindow
  dsimp only
  split <;> rfl

theorem ShowsWindow.windowClosed (h : ShowsWindow history live) (closedId : String) :
    ShowsWindow history (live.windowClosed closedId) := by
  unfold LiveState.windowClosed
  split
  · dsimp only
    split
    · exact showsWindow_of_empty history rfl
    · exact h
  · exact h

/-! ## Batches -/

section Batch

variable {history : MarketDataHistory} {start : MarketDataRuntime} {batch batch' : FeedBatch}
variable {message : FeedMessage} {inputs : List (CaptureReceiveTimes × LoopInput)}

theorem MessageServes.booksMadeFrom {feed : ClobFeed} {window : MarketWindow} {index : ℕ}
    {books : BookState} (htraced : history.log.Traced feed)
    (hserves : MessageServes history feed window index)
    (hmessage : feed.sent[index]? = some message) (hbooks : message.bookState? = some books) :
    BooksMadeFrom window.tokens (history.log.received.drop history.activatedAt) books := by
  rcases hserves message hmessage books hbooks with rfl | ⟨origin, horigin, htokens, since, hsince,
    hle⟩
  · exact booksMadeFrom_empty _ _
  · have hcovers := htraced.sent index message books origin hmessage hbooks horigin
    obtain ⟨-, hmade⟩ := hcovers since window.tokens hsince htokens
    exact hmade.mono (drop_sublist_drop_left _ hle)

/-- A batch that is being received: the feed and the window are those of its start, the books show
the window, and the rows name its assets. -/
structure FeedBatch.Fits (history : MarketDataHistory) (start : MarketDataRuntime)
    (batch : FeedBatch) : Prop where
  feed : batch.runtime.feed = start.feed
  window : batch.runtime.live.currentWindow = start.live.currentWindow
  shows : ShowsWindow history batch.runtime.live
  rows : ∀ row ∈ batch.rows, RowUse.OfAsset
    { row, window := start.live.currentWindow, received := history.log.received }

theorem rowUse_of_logLiveClobEvent {accepts : String → Bool} {storage : FeedEventStorageState ℚ}
    {event : LiveClobLogEvent} {row : FeedEvent ℚ} {received : List ClobDelivery}
    (hmade : ∀ window, event.currentWindow = some window →
      BooksMadeFrom window.tokens received event.bookState)
    (hrow : row ∈ (logLiveClobEvent accepts storage event).1) :
    RowUse.OfAsset { row, window := event.currentWindow, received } := by
  intro marketId assetId hmarket hasset
  obtain ⟨feedEvent, hbuilt, storage, hprepared⟩ := mem_logLiveClobEvent hrow
  obtain ⟨hstoredAsset, hstoredTop, hstoredMarket⟩ := storedAs_prepareClob hprepared
  have hnamed : feedEvent.marketId = some marketId := by
    rcases hstoredMarket with heq | hnone
    · rw [← heq]
      exact hmarket
    · rw [hnone] at hmarket
      cases hmarket
  obtain ⟨window, side, hwindow, hid, hside, top, htop, hpersisted⟩ :=
    mem_buildLiveClobEvents hbuilt hnamed
  have htoken : window.tokens.token side = assetId :=
    Option.some.inj ((hstoredAsset.trans hside).symm.trans hasset)
  refine ⟨window, side, hwindow, hid.symm, htoken, top, ?_, hstoredTop.trans hpersisted⟩
  rw [← htoken, ← htop]
  exact hmade window hwindow side

theorem FeedBatch.Fits.receiveClob (h : batch.Fits history start)
    (htraced : history.log.Traced start.feed)
    (hmessage : start.feed.sent[batch.runtime.readCount]? = some message)
    (hserves : ∀ window, start.live.currentWindow = some window →
      MessageServes history start.feed window batch.runtime.readCount)
    (receive : CaptureReceiveTimes) (receipt : ClobReceipt) :
    (MarketDataRuntime.receiveClob batch receive receipt message).Fits history start := by
  unfold MarketDataRuntime.receiveClob
  dsimp only
  cases hevent : clobLogEvent batch.runtime.live receive receipt message with
  | none => exact ⟨h.feed, h.window, h.shows, h.rows⟩
  | some event =>
    obtain ⟨hbooks, hcurrent⟩ := bookState?_of_clobLogEvent hevent
    have hmade : ∀ window, start.live.currentWindow = some window → BooksMadeFrom window.tokens
        (history.log.received.drop history.activatedAt) event.bookState :=
      fun window hwindow => (hserves window hwindow).booksMadeFrom htraced hmessage hbooks
    refine ⟨h.feed, h.window, ?_, ?_⟩
    · intro window hwindow side
      rw [SignalState.sideBook_updateClob]
      exact ⟨_, hmade window (h.window ▸ hwindow) side, rfl⟩
    · intro row hrow
      rcases mem_append.mp hrow with hold | hnew
      · exact h.rows row hold
      · rw [← h.window, ← hcurrent]
        refine rowUse_of_logLiveClobEvent (fun window hwindow side => ?_) hnew
        rw [hcurrent, h.window] at hwindow
        exact (hmade window hwindow side).mono (drop_sublist _ _)

theorem FeedBatch.Fits.receiveOne (h : batch.Fits history start)
    (htraced : history.log.Traced start.feed) {input : CaptureReceiveTimes × LoopInput}
    (hserves : ∀ window, start.live.currentWindow = some window → ∀ offset < clobCount [input],
      MessageServes history start.feed window (batch.runtime.readCount + offset))
    (hreceive : MarketDataRuntime.receiveOne batch input = some batch') :
    batch'.Fits history start ∧
      batch'.runtime.readCount = batch.runtime.readCount + clobCount [input] := by
  obtain ⟨receive, receipt | price⟩ := input
  · obtain ⟨message, hmessage, rfl⟩ := Option.map_eq_some_iff.mp hreceive
    rw [h.feed] at hmessage
    refine ⟨h.receiveClob htraced hmessage (fun window hwindow => ?_) receive receipt, ?_⟩
    · exact hserves window hwindow 0 (by simp [clobCount])
    · unfold MarketDataRuntime.receiveClob
      dsimp only
      split <;> simp [clobCount]
  · cases hreceive
    obtain ⟨hbooks, hwindow⟩ := batch.runtime.live.receivePrice_market receive price
    refine ⟨⟨h.feed, hwindow.trans h.window, h.shows.congr hbooks hwindow, h.rows⟩, ?_⟩
    simp [clobCount]

theorem clobCount_cons (input : CaptureReceiveTimes × LoopInput)
    (rest : List (CaptureReceiveTimes × LoopInput)) :
    clobCount (input :: rest) = clobCount [input] + clobCount rest := by
  unfold clobCount
  rw [← countP_append, singleton_append]

theorem FeedBatch.Fits.foldlM (htraced : history.log.Traced start.feed)
    (h : batch.Fits history start)
    (hserves : ∀ window, start.live.currentWindow = some window → ∀ offset < clobCount inputs,
      MessageServes history start.feed window (batch.runtime.readCount + offset))
    (hreceive : inputs.foldlM MarketDataRuntime.receiveOne batch = some batch') :
    batch'.Fits history start := by
  induction inputs generalizing batch with
  | nil =>
    cases hreceive
    exact h
  | cons input rest ih =>
    rw [foldlM_cons] at hreceive
    obtain ⟨next, hnext, hrest⟩ := Option.bind_eq_some_iff.mp hreceive
    obtain ⟨hfits, hcount⟩ := h.receiveOne htraced
      (fun window hwindow offset hoffset => hserves window hwindow offset (by
        rw [clobCount_cons input rest]
        omega)) hnext
    refine ih hfits (fun window hwindow offset hoffset => ?_) hrest
    rw [hcount, Nat.add_assoc]
    refine hserves window hwindow _ ?_
    rw [clobCount_cons input rest]
    omega

theorem MarketDataRuntime.receiveBatch_spec {request : Option StrategyEvaluationRequest}
    (htraced : history.log.Traced start.feed) (hshows : ShowsWindow history start.live)
    (hserves : ReceivesServing history start (.receiveFeed inputs))
    (hreceive : start.receiveBatch inputs = some (batch, request)) :
    batch.Fits history start ∧ ∀ evaluation, request = some evaluation → QuoteUse.OfWindow
      { window := evaluation.window, bookState := evaluation.bookState
        received := history.log.received.drop history.activatedAt } := by
  obtain ⟨received, hreceived, hreceive⟩ := Option.bind_eq_some_iff.mp hreceive
  have hstart :
    FeedBatch.Fits history start { runtime := start, pending := .default, rows := [] } :=
    ⟨rfl, rfl, hshows, by simp⟩
  have hfits : received.Fits history start := hstart.foldlM htraced hserves hreceived
  dsimp only at hreceive
  split at hreceive
  · unfold LiveState.enqueueStrategyEvaluation at hreceive
    split at hreceive
    · rename_i window _ hwindow _
      cases hreceive
      refine ⟨⟨hfits.feed, hfits.window, hfits.shows, hfits.rows⟩, ?_⟩
      intro evaluation hevaluation
      cases hevaluation
      exact hfits.shows window hwindow
    · cases hreceive
      exact ⟨⟨hfits.feed, hfits.window, hfits.shows, hfits.rows⟩, by simp⟩
  · cases hreceive
    exact ⟨hfits, by simp⟩

end Batch

/-! ## Runs -/

/-- The origins of all books are known, the books at hand show the current window, and every use so
far was right. -/
structure Followed (history : MarketDataHistory) (runtime : MarketDataRuntime) : Prop where
  traced : history.log.Traced runtime.feed
  shows : ShowsWindow history runtime.live
  attributed : history.Attributed

namespace Followed

variable {settings : ClobFeedSettings} {history : MarketDataHistory}
variable {runtime runtime' : MarketDataRuntime} {action : MarketDataAction}

theorem start (profile : FeedEventStorageProfile) : Followed .empty (.new profile) where
  traced := FeedLog.traced_new
  shows := showsWindow_of_empty _ rfl
  attributed := ⟨by simp [MarketDataHistory.empty], by simp [MarketDataHistory.empty]⟩

theorem attributed_of_not_received (h : history.Attributed)
    (hnone : ∀ inputs, action ≠ .receiveFeed inputs) :
    (history.record runtime action runtime').Attributed := by
  cases action with
  | receiveFeed inputs => exact absurd rfl (hnone inputs)
  | _ => exact ⟨by simpa [MarketDataHistory.record] using h.uses,
      by simpa [MarketDataHistory.record] using h.rows⟩

theorem shows_record (h : ShowsWindow history runtime.live) {feedAction : ClobFeedAction}
    (hlive : runtime'.live = runtime.live) (hfeed : runtime.feedAction action = some feedAction)
    (hactivated : runtime.activated action = none) :
    ShowsWindow (history.record runtime action runtime') runtime'.live := by
  intro window hwindow side
  rw [hlive] at hwindow ⊢
  refine (h window hwindow side).mono ?_
  simp only [MarketDataHistory.record, hfeed, hactivated, FeedLog.record, Option.isSome_none,
    Bool.false_eq_true, if_false, drop_append]
  exact sublist_append_left _ _

theorem fed (h : Followed history runtime) {feedAction : ClobFeedAction}
    (hstep : runtime.feed.step settings feedAction = some runtime'.feed)
    (hlive : runtime'.live = runtime.live) (hfeed : runtime.feedAction action = some feedAction)
    (hactivated : runtime.activated action = none)
    (hnone : ∀ inputs, action ≠ .receiveFeed inputs) :
    Followed (history.record runtime action runtime') runtime' where
  traced := by
    simp only [MarketDataHistory.record, hfeed]
    exact h.traced.step hstep
  shows := shows_record h.shows hlive hfeed hactivated
  attributed := attributed_of_not_received h.attributed hnone

theorem activate (h : Followed history runtime) {window : MarketWindow}
    (hfeed : runtime'.feed = runtime.feed)
    (hlive : ∃ live : LiveState, runtime'.live = live.activateWindow window)
    (haction : runtime.feedAction action = none) (hnone : ∀ inputs, action ≠ .receiveFeed inputs) :
    Followed (history.record runtime action runtime') runtime' where
  traced := by
    simp only [MarketDataHistory.record, haction, hfeed]
    exact h.traced
  shows := by
    obtain ⟨live, hlive⟩ := hlive
    rw [hlive]
    exact showsWindow_activateWindow _ _ _
  attributed := attributed_of_not_received h.attributed hnone

theorem quiet (h : Followed history runtime) (hfeed : runtime'.feed = runtime.feed)
    (hshows : ShowsWindow history runtime'.live) (haction : runtime.feedAction action = none)
    (hactivated : runtime.activated action = none)
    (hnone : ∀ inputs, action ≠ .receiveFeed inputs) :
    Followed (history.record runtime action runtime') runtime' where
  traced := by
    simp only [MarketDataHistory.record, haction, hfeed]
    exact h.traced
  shows := by
    intro window hwindow side
    simp only [MarketDataHistory.record, haction, hactivated, Option.isSome_none,
      Bool.false_eq_true, if_false]
    exact hshows window hwindow side
  attributed := attributed_of_not_received h.attributed hnone

theorem received (h : Followed history runtime) {inputs : List (CaptureReceiveTimes × LoopInput)}
    (hstep : runtime.step settings (.receiveFeed inputs) = some runtime')
    (hserves : ReceivesServing history runtime (.receiveFeed inputs)) :
    Followed (history.record runtime (.receiveFeed inputs) runtime') runtime' := by
  obtain ⟨⟨batch, request⟩, hreceive, rfl⟩ := Option.map_eq_some_iff.mp hstep
  obtain ⟨hfits, hrequest⟩ := MarketDataRuntime.receiveBatch_spec h.traced h.shows hserves hreceive
  refine ⟨hfits.feed ▸ h.traced, hfits.shows, ⟨fun use huse => ?_, fun use huse => ?_⟩⟩
  · simp only [MarketDataHistory.record, hreceive] at huse
    rcases mem_append.mp huse with hold | hnew
    · exact h.attributed.uses use hold
    · obtain ⟨evaluation, hevaluation, rfl⟩ := mem_map.mp hnew
      exact hrequest evaluation (by simpa using hevaluation)
  · simp only [MarketDataHistory.record, hreceive] at huse
    rcases mem_append.mp huse with hold | hnew
    · exact h.attributed.rows use hold
    · obtain ⟨row, hrow, rfl⟩ := mem_map.mp hnew
      exact hfits.rows row (by simpa using hrow)

/-- Every step keeps track, if the messages received serve the current window. -/
theorem step (h : Followed history runtime) (hstep : runtime.step settings action = some runtime')
    (hserves : ReceivesServing history runtime action) :
    Followed (history.record runtime action runtime') runtime' := by
  cases action with
  | feed feedAction =>
    have hstepped : (runtime.feed.step settings feedAction).map (fun feed =>
        { runtime with feed }) = some runtime' := by
      cases feedAction with
      | resubscribe => cases hstep
      | _ => exact hstep
    obtain ⟨feed', hfeed, rfl⟩ := Option.map_eq_some_iff.mp hstepped
    exact h.fed hfeed rfl rfl rfl (by simp)
  | handOver index =>
    obtain ⟨tokens, htokens, hstep⟩ := Option.bind_eq_some_iff.mp hstep
    obtain ⟨feed', hfeed, hstep⟩ := Option.bind_eq_some_iff.mp hstep
    cases hstep
    exact h.fed hfeed rfl (by simp [MarketDataRuntime.feedAction, htokens]) rfl (by simp)
  | receiveFeed inputs => exact h.received hstep hserves
  | newWindow window nowMs =>
    simp only [MarketDataRuntime.step] at hstep
    split at hstep
    · cases hstep
      exact h.activate rfl ⟨_, rfl⟩ rfl (by simp)
    · rename_i hlater
      cases hstep
      exact h.quiet rfl (h.shows.congr rfl rfl) rfl
        (by simp [MarketDataRuntime.activated, hlater]) (by simp)
  | activateScheduled index =>
    obtain ⟨window, hwindow, hstep⟩ := Option.bind_eq_some_iff.mp hstep
    cases hstep
    exact h.activate rfl ⟨_, rfl⟩ rfl (by simp)
  | windowClosed closedId =>
    cases hstep
    exact h.quiet rfl (h.shows.windowClosed closedId) rfl rfl (by simp)

end Followed

/-- Whose quotes windows are evaluated with and rows store. In every run of the live loop in which
the CLOB messages received while a window is current were sent for that window's tokens, out of
books that had been empty under them since its activation, each quote used to evaluate a window
comes from updates about the window's own token of that side received since it was activated, and
each row that names an asset and a market holds a book made from updates about that asset, a token
of that market. -/
theorem quotes_are_of_window (settings : ClobFeedSettings) (profile : FeedEventStorageProfile)
    (history : MarketDataHistory) (runtime : MarketDataRuntime)
    (hrun : System.Run (marketDataSystem settings) (fun history runtime action _ =>
      ReceivesServing history runtime action) (.empty, .new profile) history runtime) :
    history.Attributed := by
  have hfollowed := hrun.invariant Followed (Followed.start profile)
    fun history runtime action runtime' h hstep hserves => h.step hstep hserves
  exact hfollowed.attributed

def sampleTokenWindow (marketId up down : String) (startTime : ℕ) : MarketWindow where
  marketId
  upTokenId := up
  downTokenId := down
  startTime
  endTime := startTime + 300000
  slug := marketId

def sampleClobInput (ms : ℕ) : CaptureReceiveTimes × LoopInput :=
  (⟨ms, none⟩, .clob ⟨none, none, none, fun _ => true⟩)

def sampleFirstWindow : List MarketDataAction :=
  [.newWindow (sampleTokenWindow "first" "A" "B" 0) 1000, .handOver 0, .feed .receiveTokens,
    .feed (.connect "clob-1" 1000), .feed .subscribed, .feed (.text [sampleDelivery "A"]),
    .feed .handle]

/-- The book of the first window arrives when the second window is current: it is stored as a book of
the second window's UP token, and the second window is evaluated with it. -/
theorem old_market_quotes_used :
    ¬∀ history runtime, System.Run (marketDataSystem sampleFeedSettings) (fun _ _ _ _ => True)
      (.empty, .new .fullDebug) history runtime →
        (∀ use ∈ history.uses, use.OfWindow) ∨ ∀ use ∈ history.rows, use.OfAsset := by
  intro hall
  have hfollow : ((marketDataSystem sampleFeedSettings).follow (fun _ _ _ _ => true)
      (sampleFirstWindow ++ [.newWindow (sampleTokenWindow "second" "C" "D" 300000) 300000,
        .receiveFeed [(⟨300001, none⟩, .price (.binanceTrade 100 1 none)),
          sampleClobInput 300001, sampleClobInput 300001]])
      (.empty, .new .fullDebug)).any (fun x =>
      (x.1.uses.any fun use => use.window.upTokenId == "C" && use.bookState.up.isSome &&
          use.received.all fun delivery => !delivery.update.mentions "C") &&
        x.1.rows.any fun use => use.row.marketId == some "second" && use.row.assetId == some "C" &&
          use.received.all fun delivery => !delivery.update.mentions "C") = true := by
    decide +kernel
  obtain ⟨history, runtime, hrun, hwrong⟩ := System.exists_run_of_follow hfollow
    fun _ _ _ _ _ => trivial
  simp only [Bool.and_eq_true, any_eq_true, beq_iff_eq, all_eq_true,
    Bool.not_eq_true'] at hwrong
  obtain ⟨⟨use, huse, ⟨htoken, hup⟩, hreceived⟩, row, hrow, ⟨hmarket, hasset⟩, hrowReceived⟩ :=
    hwrong
  rcases hall history runtime hrun with huses | hrows
  · obtain ⟨book, hmade, hquote⟩ := huses use huse .up
    have hnone := hmade.eq_none_of_not_mentions (by
      intro delivery hdelivery
      show delivery.update.mentions use.window.upTokenId = false
      rw [htoken]
      exact hreceived delivery hdelivery)
    have hempty : use.bookState.up = none := by
      rw [hnone] at hquote
      exact hquote
    simp [hempty] at hup
  · obtain ⟨_, _, _, _, _, top, hmade, _⟩ := hrows row hrow "second" "C" hmarket hasset
    have hnone := hmade.eq_none_of_not_mentions hrowReceived
    cases hnone

theorem quotes_are_of_window_sample :
    ∃ history runtime, System.Run (marketDataSystem sampleFeedSettings)
      (fun history runtime action _ => ReceivesServing history runtime action)
      (.empty, .new .fullDebug) history runtime ∧
      history.uses.length = 2 ∧ history.rows.length = 2 ∧ history.Attributed := by
  have hfollow : ((marketDataSystem sampleFeedSettings).follow
      (fun history runtime action _ => decide (ReceivesServing history runtime action))
      (sampleFirstWindow ++ [
        .receiveFeed [(⟨1001, none⟩, .price (.binanceTrade 100 1 none)), sampleClobInput 1001,
          sampleClobInput 1001],
        .newWindow (sampleTokenWindow "second" "C" "D" 300000) 300000, .handOver 0,
        .feed .takeResubscribe, .feed .closed, .feed (.connect "clob-2" 300000), .feed .subscribed,
        .feed (.text [sampleDelivery "C"]), .feed .handle,
        .receiveFeed [sampleClobInput 300001, sampleClobInput 300001]])
      (.empty, .new .fullDebug)).any (fun x =>
        x.1.uses.length == 2 && x.1.rows.length == 2) = true := by
    decide +kernel
  obtain ⟨history, runtime, hrun, hlengths⟩ := System.exists_run_of_follow hfollow
    fun _ _ _ _ hcheck => of_decide_eq_true hcheck
  simp only [Bool.and_eq_true, beq_iff_eq] at hlengths
  exact ⟨history, runtime, hrun, hlengths.1, hlengths.2,
    quotes_are_of_window sampleFeedSettings .fullDebug history runtime hrun⟩

end BubaPaint
