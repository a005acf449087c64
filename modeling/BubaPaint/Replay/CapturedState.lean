import BubaPaint.Feeds.SignalFeatures
import BubaPaint.Live.Capture
import BubaPaint.Replay.DataDb
import BubaPaint.Replay.FeedState

/-!
# The captured state

A run is captured so that a replay can rebuild the state the live decisions were made on: the
Chainlink price, the age of each quote and the churn of the quotes. The replay knows the rows only.
It sees no stale notice, and of a quote neither a repetition nor a source time ahead of the receive
time; and it takes over one side after the other where the live loop takes over both.

Main results:

- Theorem `captured_state_rebuilt`: messages recorded in full rebuild the state.
-/

namespace BubaPaint

open Effects FeedEventStorageState LiveCapture TickGroup List FeedState

/-- When a message counts as received in the order of a replay. -/
def CaptureReceiveTimes.sortUs (receive : CaptureReceiveTimes) : ℕ :=
  receive.micros.getD (receive.ms * 1000)

def FeedEvent.tick (row : FeedEvent ℚ) : RawTick where
  timestamp := row.receivedAtMs.toNat
  timestampUs := row.receivedAtUs.map UInt64.toNat
  source := row.source
  eventType := row.eventType
  sequenceKey := row.sequenceKey
  marketId := row.marketId
  assetId := row.assetId
  price := row.price
  tradeSize := row.tradeSize
  signedQuantity := row.signedQuantity
  bid := row.bestBid
  ask := row.bestAsk
  bidSize := row.bidSize
  askSize := row.askSize
  depthBidNotional := row.depthBidNotional
  depthAskNotional := row.depthAskNotional
  depthImbalance := row.depthImbalance
  microprice := row.microprice
  fidelity := row.fidelity

def capturedGroups (rows : List (FeedEvent ℚ)) : List TickGroup :=
  tickGroups (sortByKey (fun tick => (tick.sortUs, 0, 0)) (rows.map FeedEvent.tick))

namespace FeedState

/-- The feed state that the rows of a run lead to by some time. -/
def replayUntil (state : FeedState) (rows : List (FeedEvent ℚ)) (nowMs : ℕ) : FeedState :=
  ((capturedGroups rows).filter fun group => decide (group.timestamp ≤ nowMs)).foldl update state

def takeRow (state : FeedState) (row : FeedEvent ℚ) : FeedState :=
  state.update row.tick.soleGroup

end FeedState

variable {books books' : BookState}

theorem capturedGroups_eq {rows : List (FeedEvent ℚ)}
    (hraw : ∀ row ∈ rows, row.fidelity = .rawEvent)
    (horder : rows.Pairwise fun first second =>
      first.receiveTimes.sortUs ≤ second.receiveTimes.sortUs) :
    capturedGroups rows = rows.map fun row => row.tick.soleGroup := by
  have hsorted : (rows.map FeedEvent.tick).Pairwise fun first second =>
      KeyLe (first.sortUs, 0, 0) (second.sortUs, 0, 0) := by
    refine pairwise_map.mpr (horder.imp ?_)
    intro first second hle
    have hkeys : first.tick.sortUs ≤ second.tick.sortUs := hle
    rcases hkeys.lt_or_eq with hlt | heq
    · exact keyLe_of_lt hlt
    · exact .inr ⟨heq, .inr ⟨rfl, le_rfl⟩⟩
  have hevents : ∀ tick ∈ rows.map FeedEvent.tick, tick.fidelity = .rawEvent := by
    intro tick htick
    obtain ⟨row, hrow, rfl⟩ := mem_map.mp htick
    exact hraw row hrow
  unfold capturedGroups sortByKey
  rw [hsorted.insertionSort_eq, tickGroups_of_rawEvent hevents, map_map]
  rfl

/-- What a book says: its four numbers, and when it was last known to be current. -/
def TopOfBook.quote (book : TopOfBook) : PersistedTopOfBook ℚ × ℕ :=
  (book.persisted, effectiveBookTimestamp book)

def SameQuotes (books books' : BookState) : Prop :=
  ∀ side, (sideBook books side).map TopOfBook.quote = (sideBook books' side).map TopOfBook.quote

@[simp]
theorem quote_normalizeObservedTimestamp (book : TopOfBook) :
    (normalizeObservedTimestamp book).quote = book.quote := by
  unfold normalizeObservedTimestamp
  split
  · rename_i hmissing
    simp [TopOfBook.quote, TopOfBook.persisted, effectiveBookTimestamp, hmissing.1]
  · rfl

theorem sameQuotes_updateClob (state : SignalState) (books : BookState) (eventMs : ℕ)
    (eventMicros : Option ℕ) :
    SameQuotes (state.updateClob books eventMs eventMicros).bookState books := by
  intro side
  rw [SignalState.sideBook_updateClob, Option.map_map]
  congr 1
  funext book
  exact quote_normalizeObservedTimestamp book

theorem SameQuotes.trans {books'' : BookState} (h : SameQuotes books books')
    (h' : SameQuotes books' books'') : SameQuotes books books'' :=
  fun side => (h side).trans (h' side)

theorem SameQuotes.symm (h : SameQuotes books books') : SameQuotes books' books :=
  fun side => (h side).symm

theorem SameQuotes.setSide (h : SameQuotes books books') (side : SignalDirection)
    {book book' : TopOfBook} (hquote : book.quote = book'.quote) :
    SameQuotes (books.setSide side book) (books'.setSide side book') := by
  intro other
  rw [sideBook_setSide, sideBook_setSide]
  split
  · exact congrArg some hquote
  · exact h other

theorem SameQuotes.currentSummedMidpoint_eq (h : SameQuotes books books') :
    currentSummedMidpoint books = currentSummedMidpoint books' := by
  have hprices : ∀ side, (sideBook books side).map (fun book => (book.bestBid, book.bestAsk)) =
      (sideBook books' side).map fun book => (book.bestBid, book.bestAsk) := by
    intro side
    have hpair := congrArg (Option.map fun quote : PersistedTopOfBook ℚ × ℕ =>
      (quote.1.bestBid, quote.1.bestAsk)) (h side)
    rw [Option.map_map, Option.map_map] at hpair
    exact hpair
  have hmidpoint : ∀ books : BookState, currentSummedMidpoint books =
      ((sideBook books .up).map fun book => (book.bestBid, book.bestAsk)).bind fun up =>
        ((sideBook books .down).map fun book => (book.bestBid, book.bestAsk)).map fun down =>
          (up.1 + up.2) / 2 + (down.1 + down.2) / 2 := by
    intro books
    rcases books with ⟨_ | up, _ | down⟩ <;> rfl
  rw [hmidpoint, hmidpoint, hprices, hprices]

theorem clobMidpoints_updateClob {state state' : SignalState}
    (hmidpoints : state.clobMidpoints = state'.clobMidpoints) (hquotes : SameQuotes books books')
    (eventMs : ℕ) (eventMicros eventMicros' : Option ℕ) :
    (state.updateClob books eventMs eventMicros).clobMidpoints =
      (state'.updateClob books' eventMs eventMicros').clobMidpoints := by
  have hleft := sameQuotes_updateClob state books eventMs eventMicros
  have hright := sameQuotes_updateClob state' books' eventMs eventMicros'
  have hnormalized : currentSummedMidpoint (state.updateClob books eventMs eventMicros).bookState =
      currentSummedMidpoint (state'.updateClob books' eventMs eventMicros').bookState :=
    (SameQuotes.trans (SameQuotes.trans hleft hquotes)
      (SameQuotes.symm hright)).currentSummedMidpoint_eq
  unfold SignalState.updateClob SignalState.prune at hnormalized ⊢
  dsimp only at hnormalized ⊢
  rw [hnormalized, hmidpoints]

/-- The live state and the replayed one say the same of everything that decisions read. -/
structure StatesAgree (live : SignalState) (replayed : FeedState) : Prop where
  chainlinkPrice : replayed.chainlinkPrice = live.chainlinkPrice
  signalPrice : replayed.signalState.chainlinkPrice = live.chainlinkPrice
  stored : SameQuotes replayed.bookState live.bookState
  shown : SameQuotes replayed.signalState.bookState live.bookState
  midpoints : replayed.signalState.clobMidpoints = live.clobMidpoints

theorem statesAgree_new : StatesAgree .new .new :=
  ⟨rfl, rfl, fun _ => rfl, fun _ => rfl, rfl⟩

section Steps

variable {live live' : SignalState} {replayed : FeedState}
variable {group : TickGroup} {sample : TickSample} {price : ℚ} {eventMs : ℕ}
variable {eventMicros : Option ℕ} {row : FeedEvent ℚ} {side : SignalDirection}
variable {event : LiveClobLogEvent} {book : TopOfBook} {sides : List SignalDirection}

theorem StatesAgree.congr (h : StatesAgree live replayed)
    (hprice : live'.chainlinkPrice = live.chainlinkPrice)
    (hquotes : SameQuotes live.bookState live'.bookState)
    (hmidpoints : live'.clobMidpoints = live.clobMidpoints) : StatesAgree live' replayed where
  chainlinkPrice := h.chainlinkPrice.trans hprice.symm
  signalPrice := h.signalPrice.trans hprice.symm
  stored := h.stored.trans hquotes
  shown := h.shown.trans hquotes
  midpoints := h.midpoints.trans hmidpoints.symm

def SignalState.market (state : SignalState) : Option ℚ × BookState × List QuoteObservation :=
  (state.chainlinkPrice, state.bookState, state.clobMidpoints)

@[simp]
theorem market_updateBinanceBook (state : SignalState) (sample : TickSample) (timestamp : ℕ) :
    (updateBinanceBook state sample timestamp).market = state.market := by
  unfold updateBinanceBook
  split <;> rfl

@[simp]
theorem market_updateBinanceDepth (state : SignalState) (sample : TickSample) (timestamp : ℕ) :
    (updateBinanceDepth state sample timestamp).market = state.market := by
  unfold updateBinanceDepth
  split <;> rfl

theorem StatesAgree.withSignalState (h : StatesAgree live replayed) {signalState : SignalState}
    (hmarket : signalState.market = replayed.signalState.market) (fromBookTicker : Bool) :
    StatesAgree live { replayed with
      signalState
      binanceBookFromBookTicker := fromBookTicker } := by
  simp only [SignalState.market, Prod.mk.injEq] at hmarket
  obtain ⟨hprice, hbooks, hmidpoints⟩ := hmarket
  exact {
    chainlinkPrice := h.chainlinkPrice
    signalPrice := hprice.trans h.signalPrice
    stored := h.stored
    shown := by
      rw [hbooks]
      exact h.shown
    midpoints := hmidpoints.trans h.midpoints }

theorem StatesAgree.updateBinance (h : StatesAgree live replayed)
    (htype : sample.eventType = "bookTicker" ∨ sample.eventType = "depth") :
    StatesAgree live (replayed.updateBinance group sample) := by
  unfold FeedState.updateBinance
  rcases htype with htype | htype
  · simp only [htype]
    exact h.withSignalState (market_updateBinanceBook ..) true
  · simp only [htype]
    refine h.withSignalState ((market_updateBinanceDepth ..).trans ?_) _
    split <;> simp

theorem StatesAgree.recordBinanceTrade (h : StatesAgree live replayed) {quantity : ℚ}
    {signedQuantity : Option ℚ} (htype : sample.eventType = "aggTrade")
    (hprice : sample.price = some price) (hms : group.timestamp = eventMs) :
    StatesAgree (live.updateBinanceTrade price quantity signedQuantity eventMs eventMicros)
      (replayed.updateBinance group sample) := by
  unfold FeedState.updateBinance FeedState.recordBinanceTrade
  simp only [htype, hprice, hms]
  refine ⟨h.chainlinkPrice, h.signalPrice, h.stored, h.shown, ?_⟩
  exact congrArg (List.dropWhile _) h.midpoints

theorem StatesAgree.updateChainlink (h : StatesAgree live replayed)
    (hprice : sample.price = some price) :
    StatesAgree (live.updateChainlink price eventMs eventMicros)
      (replayed.updateChainlink group sample) := by
  unfold FeedState.updateChainlink
  simp only [hprice]
  exact ⟨rfl, rfl, h.stored, h.shown, h.midpoints⟩

/-! ### Groups of one row -/

theorem takeRow_of_binance (hsource : row.source = "binance") :
    replayed.takeRow row = replayed.updateBinance row.tick.soleGroup row.tick.sample := by
  have hgroup : row.tick.soleGroup =
      { row.tick.startGroup with binance := some row.tick.sample } := by
    unfold RawTick.soleGroup add FeedEvent.tick
    simp only [hsource]
  unfold takeRow update
  rw [hgroup]
  rfl

theorem takeRow_of_chainlink (hsource : row.source = "chainlink") :
    replayed.takeRow row = replayed.updateChainlink row.tick.soleGroup row.tick.sample := by
  have hgroup : row.tick.soleGroup =
      { row.tick.startGroup with chainlink := some row.tick.sample } := by
    unfold RawTick.soleGroup add FeedEvent.tick
    simp only [hsource]
  unfold takeRow update
  rw [hgroup]
  rfl

theorem soleGroup_of_clobSource (hsource : row.source = side.clobSource) :
    row.tick.soleGroup.binance = none ∧ row.tick.soleGroup.chainlink = none ∧
      ∀ other, row.tick.soleGroup.clob other =
        if other = side then some row.tick.sample else none := by
  cases side with
  | up =>
    have hgroup : row.tick.soleGroup =
        { row.tick.startGroup with clobUp := some row.tick.sample } := by
      unfold RawTick.soleGroup add FeedEvent.tick
      simp only [hsource, SignalDirection.clobSource]
    rw [hgroup]
    exact ⟨rfl, rfl, fun other => by cases other <;> rfl⟩
  | down =>
    have hgroup : row.tick.soleGroup =
        { row.tick.startGroup with clobDown := some row.tick.sample } := by
      unfold RawTick.soleGroup add FeedEvent.tick
      simp only [hsource, SignalDirection.clobSource]
    rw [hgroup]
    exact ⟨rfl, rfl, fun other => by cases other <;> rfl⟩

/-- The book that a replay makes of a row: it counts as observed when the row was received. -/
def TopOfBook.receivedAt (book : TopOfBook) (receiveMs : ℕ) : TopOfBook :=
  { book with
    timestamp := receiveMs
    observedAtMs := receiveMs }

theorem takeRow_of_sideRow (hrow : SideRow event side row)
    (hbook : sideBook event.bookState side = some book)
    (hms : row.receivedAtMs.toNat = event.receiveMs) :
    let books := replayed.bookState.setSide side (book.receivedAt event.receiveMs)
    replayed.takeRow row =
      { replayed with
        bookState := books
        signalState := replayed.signalState.updateClob books event.receiveMs
          row.tick.soleGroup.timestampUs } := by
  obtain ⟨hbinance, hchainlink, hclob⟩ := soleGroup_of_clobSource hrow.source
  have hmoment : row.tick.soleGroup.timestamp = event.receiveMs :=
    (timestamp_soleGroup _).trans hms
  have hquotes : ∀ other, row.tick.soleGroup.quote other =
      if other = side then some (book.receivedAt event.receiveMs) else none := by
    intro other
    unfold quote
    rw [hclob, hmoment]
    split
    · simp [TickSample.topOfBook, RawTick.sample, FeedEvent.tick, hrow.bid, hrow.ask,
        hrow.bidSize, hrow.askSize, hbook, TopOfBook.receivedAt]
    · rfl
  have hcarries : row.tick.soleGroup.carriesClob = true := by
    have hsampled := hclob side
    rw [if_pos rfl] at hsampled
    cases side <;> simp_all [carriesClob, clob]
  have hbooks : ({ up := (row.tick.soleGroup.quote .up).or replayed.bookState.up
                   down := (row.tick.soleGroup.quote .down).or replayed.bookState.down } :
      BookState) = replayed.bookState.setSide side (book.receivedAt event.receiveMs) := by
    rw [hquotes, hquotes]
    cases side <;> rfl
  unfold takeRow update
  rw [hbinance, hchainlink]
  simp only [Option.elim_none]
  unfold updateClob
  rw [if_pos hcarries, hbooks, hmoment]

theorem StatesAgree.takeSide (h : StatesAgree live replayed) (hrow : SideRow event side row)
    (hbook : sideBook event.bookState side = some book)
    (hms : row.receivedAtMs.toNat = event.receiveMs)
    (hobserved : book.observedAtMs = event.receiveMs) (htimely : book.timestamp ≤ event.receiveMs) :
    StatesAgree (live.updateClob (live.bookState.setSide side book) event.receiveMs
      event.receiveMicros) (replayed.takeRow row) := by
  have hquote : (book.receivedAt event.receiveMs).quote = book.quote := by
    have hcurrent : effectiveBookTimestamp book = event.receiveMs := by
      unfold effectiveBookTimestamp
      omega
    refine Prod.ext rfl ?_
    exact (max_self event.receiveMs).trans hcurrent.symm
  have hsame := h.stored.setSide side hquote
  have hlive := sameQuotes_updateClob live (live.bookState.setSide side book) event.receiveMs
    event.receiveMicros
  have hreplayed := sameQuotes_updateClob replayed.signalState
    (replayed.bookState.setSide side (book.receivedAt event.receiveMs)) event.receiveMs
    row.tick.soleGroup.timestampUs
  rw [takeRow_of_sideRow hrow hbook hms]
  exact {
    chainlinkPrice := h.chainlinkPrice
    signalPrice := h.signalPrice
    stored := hsame.trans hlive.symm
    shown := SameQuotes.trans (SameQuotes.trans hreplayed hsame) hlive.symm
    midpoints := clobMidpoints_updateClob h.midpoints hsame event.receiveMs _ _ }

/-- Take over the books of some sides one after the other, as the replay does with their rows. -/
def sideBySide (event : LiveClobLogEvent) (live : SignalState) (sides : List SignalDirection) :
    SignalState :=
  sides.foldl
    (fun state side =>
      match sideBook event.bookState side with
      | some book =>
        state.updateClob (state.bookState.setSide side book) event.receiveMs event.receiveMicros
      | none => state)
    live

theorem sideBySide_cons (hbook : sideBook event.bookState side = some book) (live : SignalState)
    (rest : List SignalDirection) :
    sideBySide event live (side :: rest) =
      sideBySide event (live.updateClob (live.bookState.setSide side book) event.receiveMs
        event.receiveMicros) rest := by
  simp only [sideBySide, foldl_cons, hbook]

theorem chainlinkPrice_sideBySide (event : LiveClobLogEvent) (live : SignalState)
    (sides : List SignalDirection) :
    (sideBySide event live sides).chainlinkPrice = live.chainlinkPrice := by
  induction sides generalizing live with
  | nil => rfl
  | cons side rest ih =>
    refine (ih _).trans ?_
    dsimp only
    split <;> rfl

theorem quote_sideBySide
    (hbooks : ∀ side ∈ sides, ∃ book, sideBook event.bookState side = some book)
    (live : SignalState) (side : SignalDirection) :
    (sideBook (sideBySide event live sides).bookState side).map TopOfBook.quote =
      if side ∈ sides then (sideBook event.bookState side).map TopOfBook.quote
      else (sideBook live.bookState side).map TopOfBook.quote := by
  induction sides generalizing live with
  | nil => rfl
  | cons other rest ih =>
    obtain ⟨book, hbook⟩ := hbooks other mem_cons_self
    have hrest := ih fun side hside => hbooks side (mem_cons_of_mem _ hside)
    have hnext := sameQuotes_updateClob live (live.bookState.setSide other book) event.receiveMs
      event.receiveMicros side
    rw [sideBySide_cons hbook, hrest, hnext, sideBook_setSide]
    by_cases hlater : side ∈ rest
    · rw [if_pos hlater, if_pos (mem_cons_of_mem _ hlater)]
    · by_cases hsame : side = other
      · rw [if_neg hlater, if_pos hsame, if_pos (by simp [hsame]), hsame, hbook]
      · rw [if_neg hlater, if_neg hsame, if_neg (by simp [hsame, hlater])]

theorem StatesAgree.takeSides (h : StatesAgree live replayed) {rows : List (FeedEvent ℚ)}
    (hrows : List.Forall₂ (SideRow event) sides rows) (hfits : event.receiveMs < 2 ^ 64)
    (hbooks : ∀ side ∈ sides, ∃ book, sideBook event.bookState side = some book ∧
      book.observedAtMs = event.receiveMs ∧ book.timestamp ≤ event.receiveMs) :
    StatesAgree (sideBySide event live sides) (rows.foldl takeRow replayed) := by
  induction hrows generalizing live replayed with
  | nil => exact h
  | @cons side row rest rows hrow _ ih =>
    obtain ⟨book, hbook, hobserved, htimely⟩ := hbooks side mem_cons_self
    have hms : row.receivedAtMs.toNat = event.receiveMs := by
      rw [hrow.receivedAtMs, UInt64.toNat_ofNat_of_lt' hfits]
    rw [sideBySide_cons hbook, foldl_cons]
    exact ih (h.takeSide hrow hbook hms hobserved htimely)
      fun side hside => hbooks side (mem_cons_of_mem _ hside)

end Steps

/-! ## Messages -/

/-- Books about tokens of the current window: each side the message is about was observed when the
message was received, and the other side says what it said before. -/
def AboutWindow (window : MarketWindow) (live : SignalState) (event : LiveClobLogEvent) : Prop :=
  (∀ assetId ∈ event.assetId, assetId = window.upTokenId ∨ assetId = window.downTokenId) ∧
    (∀ side ∈ window.sidesAbout event.assetId, ∃ book ∈ sideBook event.bookState side,
      book.observedAtMs = event.receiveMs) ∧
    ∀ side ∈ [SignalDirection.up, SignalDirection.down], side ∉ window.sidesAbout event.assetId →
      (sideBook event.bookState side).map TopOfBook.quote =
        (sideBook live.bookState side).map TopOfBook.quote

/-- Books that are recorded in full: each side is new to the filters and has no source time ahead of
the receive time, and both sides at once leave the midpoints that one after the other leaves. -/
def RecordedBooks (window : MarketWindow) (capture : LiveCapture) (event : LiveClobLogEvent) :
    Prop :=
  (∀ side ∈ window.sidesAbout event.assetId, ∀ book ∈ sideBook event.bookState side,
      capture.storage.IsNew event (window.clobKey side) book ∧
        book.timestamp ≤ event.receiveMs) ∧
    (event.assetId = none →
      (sideBySide event capture.live.signalState [.up, .down]).clobMidpoints =
        (capture.live.signalState.updateClob event.bookState event.receiveMs
          event.receiveMicros).clobMidpoints)

instance (window : MarketWindow) (live : SignalState) (event : LiveClobLogEvent) :
    Decidable (AboutWindow window live event) := by
  unfold AboutWindow
  infer_instance

instance (window : MarketWindow) (capture : LiveCapture) (event : LiveClobLogEvent) :
    Decidable (RecordedBooks window capture event) := by
  unfold RecordedBooks
  infer_instance

section Books

variable {window : MarketWindow} {capture : LiveCapture} {event : LiveClobLogEvent}

theorem AboutWindow.sides (h : AboutWindow window capture.live.signalState event) :
    (∃ side, window.sidesAbout event.assetId = [side]) ∨
      event.assetId = none ∧ window.sidesAbout event.assetId = [.up, .down] := by
  unfold MarketWindow.sidesAbout
  split
  · exact .inl ⟨_, rfl⟩
  split
  · exact .inl ⟨_, rfl⟩
  · rename_i hup hdown
    refine .inr ⟨?_, rfl⟩
    cases hasset : event.assetId with
    | none => rfl
    | some assetId =>
      rcases h.1 assetId hasset with heq | heq
      · exact absurd (hasset.trans (congrArg some heq)) hup
      · exact absurd (hasset.trans (congrArg some heq)) hdown

theorem AboutWindow.sameQuotes (h : AboutWindow window capture.live.signalState event) :
    SameQuotes (sideBySide event capture.live.signalState
      (window.sidesAbout event.assetId)).bookState event.bookState := by
  intro side
  have hbooks : ∀ side ∈ window.sidesAbout event.assetId,
      ∃ book, sideBook event.bookState side = some book := by
    intro side hside
    obtain ⟨book, hbook, -⟩ := h.2.1 side hside
    exact ⟨book, hbook⟩
  rw [quote_sideBySide hbooks]
  split
  · rfl
  · rename_i hother
    exact (h.2.2 side (by cases side <;> simp) hother).symm

theorem RecordedBooks.midpoints (h : RecordedBooks window capture event)
    (habout : AboutWindow window capture.live.signalState event) :
    (sideBySide event capture.live.signalState (window.sidesAbout event.assetId)).clobMidpoints =
      (capture.live.signalState.updateClob event.bookState event.receiveMs
        event.receiveMicros).clobMidpoints := by
  have hquotes := habout.sameQuotes
  rcases habout.sides with ⟨side, hsides⟩ | ⟨hasset, hsides⟩
  · obtain ⟨book, hbook, -⟩ := habout.2.1 side (by simp [hsides])
    rw [hsides] at hquotes ⊢
    rw [sideBySide_cons hbook] at hquotes ⊢
    have hbooks := sameQuotes_updateClob capture.live.signalState
      (capture.live.signalState.bookState.setSide side book) event.receiveMs event.receiveMicros
    exact clobMidpoints_updateClob rfl (SameQuotes.trans hbooks.symm hquotes) _ _ _
  · rw [hsides]
    exact h.2 hasset

end Books

/-- A message whose rows the writer's queue takes, and whose books are about the window. -/
def MessageOfWindow (window : MarketWindow) (capture : LiveCapture)
    (input : CaptureReceiveTimes × CapturedMessage) : Prop :=
  match input.2 with
  | .price receipt _ => ∀ source ∈ ["binance", "chainlink"], receipt.accepts source = true
  | .clob receipt message =>
    (∀ side ∈ [SignalDirection.up, SignalDirection.down],
      receipt.accepts side.clobSource = true) ∧
      ∀ event ∈ clobLogEvent capture.live input.1 receipt message,
        AboutWindow window capture.live.signalState event

/-- A message whose rows say all that it says: a stale notice that gives up no price, or books that
are recorded in full. -/
def MessageRecorded (window : MarketWindow) (capture : LiveCapture)
    (input : CaptureReceiveTimes × CapturedMessage) : Prop :=
  match input.2 with
  | .price _ .chainlinkStale => capture.live.signalState.chainlinkPrice = none
  | .price _ _ => True
  | .clob receipt message => ∀ event ∈ clobLogEvent capture.live input.1 receipt message,
      RecordedBooks window capture event

instance (window : MarketWindow) (capture : LiveCapture)
    (input : CaptureReceiveTimes × CapturedMessage) :
    Decidable (MessageOfWindow window capture input) := by
  unfold MessageOfWindow
  split <;> infer_instance

instance (window : MarketWindow) (capture : LiveCapture)
    (input : CaptureReceiveTimes × CapturedMessage) :
    Decidable (MessageRecorded window capture input) := by
  unfold MessageRecorded
  split <;> infer_instance

/-- A replay that agrees with a live loop that captures one window in replay grade. -/
structure CaptureAgrees (window : MarketWindow) (capture : LiveCapture) (replayed : FeedState) :
    Prop where
  currentWindow : capture.live.currentWindow = some window
  profile : capture.storage.profile = .replayGrade
  agrees : StatesAgree capture.live.signalState replayed

section Receive

variable {window : MarketWindow} {capture : LiveCapture} {replayed : FeedState}
variable {receive : CaptureReceiveTimes}
variable {receipt : PriceReceipt} {message : PriceMessage} {row : FeedEvent ℚ}

theorem receive_price
    (hprepared : preparePrice capture.live capture.storage receive receipt message =
      (some row, capture.storage)) (haccepts : receipt.accepts row.source = true) :
    capture.receive (receive, .price receipt message) =
      ([row], {
        live := capture.live.receivePrice receive message
        storage := capture.storage.recordEnqueuedKey row.source row.eventType }) := by
  simp [LiveCapture.receive, hprepared, enqueueCountedFeedEvent, haccepts]

section Agreeing

variable (h : CaptureAgrees window capture replayed)

include h

theorem CaptureAgrees.receivePrice
    (hprepared : preparePrice capture.live capture.storage receive receipt message =
      (some row, capture.storage)) (haccepts : receipt.accepts row.source = true)
    (hrow : StatesAgree (capture.live.receivePrice receive message).signalState
      (replayed.takeRow row)) :
    CaptureAgrees window (capture.receive (receive, .price receipt message)).2
      ((capture.receive (receive, .price receipt message)).1.foldl takeRow replayed) := by
  rw [receive_price hprepared haccepts]
  exact {
    currentWindow := (capture.live.receivePrice_market receive message).2.trans h.currentWindow
    profile := h.profile
    agrees := hrow }

/-- Every message of another feed that is recorded keeps the two states alike. -/
theorem CaptureAgrees.price (hfits : receive.Fits)
    (hmessage : MessageOfWindow window capture (receive, .price receipt message))
    (hrecorded : MessageRecorded window capture (receive, .price receipt message)) :
    CaptureAgrees window (capture.receive (receive, .price receipt message)).2
      ((capture.receive (receive, .price receipt message)).1.foldl takeRow replayed) := by
  have hbinance : receipt.accepts "binance" = true := hmessage _ (by simp)
  have hchainlink : receipt.accepts "chainlink" = true := hmessage _ (by simp)
  cases message with
  | binanceTrade price quantity signedQuantity =>
    have hprepared : preparePrice capture.live capture.storage receive receipt
        (.binanceTrade price quantity signedQuantity) = (some _, capture.storage) := rfl
    rw [prepareBinanceTrade, h.profile] at hprepared
    refine h.receivePrice hprepared hbinance ?_
    have hlive : (capture.live.receivePrice receive
        (.binanceTrade price quantity signedQuantity)).signalState =
        capture.live.signalState.updateBinanceTrade price quantity signedQuantity receive.ms
          receive.micros := by
      unfold LiveState.receivePrice
      dsimp only
      split <;> rfl
    rw [takeRow_of_binance rfl, hlive]
    refine StatesAgree.recordBinanceTrade h.agrees ?_ ?_ ?_
    · rfl
    · rfl
    · exact (timestamp_soleGroup _).trans (UInt64.toNat_ofNat_of_lt' hfits.1)
  | binanceBookTicker bestBid bestAsk bidSize askSize sequenceKey =>
    have hprepared : preparePrice capture.live capture.storage receive receipt
        (.binanceBookTicker bestBid bestAsk bidSize askSize sequenceKey) =
        (_, capture.storage) := rfl
    rw [prepareBinanceBookTicker, h.profile] at hprepared
    refine h.receivePrice hprepared hbinance ?_
    rw [takeRow_of_binance rfl]
    refine (StatesAgree.updateBinance h.agrees (.inl ?_)).congr rfl (fun _ => rfl) rfl
    rfl
  | binanceDepth bidLevels askLevels sequenceKey =>
    have hprepared : preparePrice capture.live capture.storage receive receipt
        (.binanceDepth bidLevels askLevels sequenceKey) =
        capture.storage.prepareBinanceDepth _ _ _ _ := rfl
    rw [prepareBinanceDepth, h.profile] at hprepared
    refine h.receivePrice hprepared hbinance ?_
    rw [takeRow_of_binance rfl]
    refine (StatesAgree.updateBinance h.agrees (.inr ?_)).congr rfl (fun _ => rfl) rfl
    rfl
  | chainlinkPrice price =>
    have hprepared : preparePrice capture.live capture.storage receive receipt
        (.chainlinkPrice price) = (some _, capture.storage) := rfl
    rw [prepareChainlinkPrice, h.profile] at hprepared
    refine h.receivePrice hprepared hchainlink ?_
    rw [takeRow_of_chainlink rfl]
    exact h.agrees.updateChainlink rfl
  | chainlinkStale =>
    have hnone : capture.live.signalState.chainlinkPrice = none := hrecorded
    exact {
      currentWindow := h.currentWindow
      profile := h.profile
      agrees := h.agrees.congr hnone.symm (fun _ => rfl) rfl }

/-- Books that are recorded keep the two states alike. -/
theorem CaptureAgrees.clob (hfits : receive.Fits) {receipt : ClobReceipt} {message : FeedMessage}
    (hmessage : MessageOfWindow window capture (receive, .clob receipt message))
    (hrecorded : MessageRecorded window capture (receive, .clob receipt message)) :
    CaptureAgrees window (capture.receive (receive, .clob receipt message)).2
      ((capture.receive (receive, .clob receipt message)).1.foldl takeRow replayed) := by
  cases hlog : clobLogEvent capture.live receive receipt message with
  | none =>
    have hreceive : capture.receive (receive, .clob receipt message) = ([], capture) := by
      simp [LiveCapture.receive, hlog]
    rw [hreceive]
    exact h
  | some event =>
    have habout : AboutWindow window capture.live.signalState event := hmessage.2 event hlog
    have hbooks : RecordedBooks window capture event := hrecorded event hlog
    obtain ⟨hkind, hcurrent, hms, hmicros⟩ :
        (event.eventType = "book" ∨ event.eventType = "price_change" ∨
          event.eventType = "best_bid_ask") ∧
        event.currentWindow = capture.live.currentWindow ∧ event.receiveMs = receive.ms ∧
          event.receiveMicros = receive.micros := by
      cases message <;> cases hlog <;>
        simp [clobLogEvent.logEvent]
    have haccepts : ∀ side : SignalDirection, receipt.accepts side.clobSource = true :=
      fun side => hmessage.1 side (by cases side <;> simp)
    have hdistinct : (window.sidesAbout event.assetId).Nodup := by
      rcases habout.sides with ⟨side, hsides⟩ | ⟨-, hsides⟩
      · simp [hsides]
      · simp [hsides]
    have hnew : ∀ side ∈ window.sidesAbout event.assetId,
        ∃ book, sideBook event.bookState side = some book ∧
          capture.storage.IsNew event (window.clobKey side) book := by
      intro side hside
      obtain ⟨book, hbook, -⟩ := habout.2.1 side hside
      exact ⟨book, hbook, (hbooks.1 side hside book hbook).1⟩
    let logged : List (FeedEvent ℚ) × FeedEventStorageState ℚ := ([], capture.storage)
    have hstart : logged.2.profile = .replayGrade := h.profile
    obtain ⟨rows, storage, hlogged, hprofile, hsides⟩ :=
      exists_sideRows haccepts hstart hkind hdistinct hnew
    rw [← buildLiveClobEvents_eq (hcurrent.trans h.currentWindow)] at hlogged
    have hreceive : capture.receive (receive, .clob receipt message) =
        (rows, {
          live := { capture.live with
            signalState := capture.live.signalState.updateClob event.bookState event.receiveMs
              event.receiveMicros }
          storage }) := by
      simp only [LiveCapture.receive, hlog, logLiveClobEvent, hms, hmicros]
      rw [hlogged]
      rfl
    have htaken : StatesAgree (sideBySide event capture.live.signalState
        (window.sidesAbout event.assetId)) (rows.foldl takeRow replayed) := by
      refine h.agrees.takeSides hsides (hms ▸ hfits.1) ?_
      intro side hside
      obtain ⟨book, hbook, hobserved⟩ := habout.2.1 side hside
      exact ⟨book, hbook, hobserved, (hbooks.1 side hside book hbook).2⟩
    have hbooksAfter := sameQuotes_updateClob capture.live.signalState event.bookState
      event.receiveMs event.receiveMicros
    have hprice := chainlinkPrice_sideBySide event capture.live.signalState
      (window.sidesAbout event.assetId)
    rw [hreceive]
    refine ⟨h.currentWindow, hprofile, htaken.congr ?_ ?_ ?_⟩
    · exact hprice.symm
    · exact SameQuotes.trans habout.sameQuotes hbooksAfter.symm
    · exact (hbooks.midpoints habout).symm

/-- A message that is recorded in full keeps the two states alike. -/
theorem CaptureAgrees.step {input : CaptureReceiveTimes × CapturedMessage} (hfits : input.1.Fits)
    (hmessage : MessageOfWindow window capture input)
    (hrecorded : MessageRecorded window capture input) :
    CaptureAgrees window (capture.receive input).2
      ((capture.receive input).1.foldl takeRow replayed) := by
  obtain ⟨receive, message⟩ := input
  cases message with
  | price receipt message => exact h.price hfits hmessage hrecorded
  | clob receipt message => exact h.clob hfits hmessage hrecorded

end Agreeing

end Receive

/-! ## Runs -/

/-- What decisions read is the same in the live state and in the replayed one at some time. -/
structure RebuiltAt (live : SignalState) (replayed : FeedState) (nowMs : ℕ) : Prop where
  chainlinkPrice : replayed.chainlinkPrice = live.chainlinkPrice
  signalPrice : replayed.signalState.chainlinkPrice = live.chainlinkPrice
  quoteAge : ∀ side, (replayed.shown side).map (fun book => nowMs - effectiveBookTimestamp book) =
    (sideBook live.bookState side).map fun book => nowMs - effectiveBookTimestamp book
  quoteChurn : ∀ horizonMs, replayed.signalState.clobQuoteChurnPerS nowMs horizonMs =
    live.clobQuoteChurnPerS nowMs horizonMs

theorem StatesAgree.rebuiltAt {live : SignalState} {replayed : FeedState}
    (h : StatesAgree live replayed) (nowMs : ℕ) : RebuiltAt live replayed nowMs where
  chainlinkPrice := h.chainlinkPrice
  signalPrice := h.signalPrice
  quoteAge := by
    intro side
    have hage := congrArg (Option.map fun quote : PersistedTopOfBook ℚ × ℕ => nowMs - quote.2)
      (h.shown side)
    rw [Option.map_map, Option.map_map] at hage
    exact hage
  quoteChurn := by
    intro horizonMs
    unfold SignalState.clobQuoteChurnPerS
    rw [h.midpoints]

/-- The messages a live loop handles within one window of a capture in replay grade: they arrive one
after the other, and no row is dropped. -/
structure WindowMessages (window : MarketWindow) (start : LiveCapture)
    (inputs : List (CaptureReceiveTimes × CapturedMessage)) : Prop where
  currentWindow : start.live.currentWindow = some window
  profile : start.storage.profile = .replayGrade
  fits : ∀ input ∈ inputs, input.1.Fits
  clock : inputs.Pairwise fun first second =>
    first.1.ms < second.1.ms ∧ first.1.sortUs < second.1.sortUs
  messages : Follows (MessageOfWindow window) (fun capture input => (capture.receive input).2) start
    inputs

/-- At the time of every message, the replay of the stored rows has rebuilt what decisions read. -/
def Rebuilds (start : LiveCapture) (replayed : FeedState)
    (inputs : List (CaptureReceiveTimes × CapturedMessage)) : Prop :=
  ∀ sofar input, sofar ++ [input] <+: inputs →
    RebuiltAt (final LiveCapture.receive start (sofar ++ [input])).live.signalState
      (replayed.replayUntil (trace LiveCapture.receive start inputs).flatten input.1.ms)
      input.1.ms

section Runs

variable {start : LiveCapture} {inputs : List (CaptureReceiveTimes × CapturedMessage)}

theorem receiveTimes_of_mem_receive (hfits : ∀ input ∈ inputs, input.1.Fits) :
    ∀ capture : LiveCapture, ∀ input ∈ inputs, ∀ row ∈ (capture.receive input).1,
      row.receiveTimes = input.1 :=
  fun _ input hinput _ hrow => (stamped_of_mem_receive hrow).receiveTimes_eq (hfits input hinput)

theorem capturedGroups_trace (hfits : ∀ input ∈ inputs, input.1.Fits)
    (hclock : inputs.Pairwise fun first second =>
      first.1.ms < second.1.ms ∧ first.1.sortUs < second.1.sortUs) :
    capturedGroups (trace receive start inputs).flatten =
      (trace receive start inputs).flatten.map fun row => row.tick.soleGroup := by
  have hraw : ∀ rows ∈ trace receive start inputs,
      ∀ row ∈ rows, row.fidelity = .rawEvent :=
    forall_mem_trace start fun capture input _ row hrow => (stamped_of_mem_receive hrow).fidelity
  refine capturedGroups_eq ?_ ?_
  · intro row hrow
    obtain ⟨rows, hrows, hmem⟩ := mem_flatten.mp hrow
    exact hraw rows hrows row hmem
  · exact pairwise_flatten_trace (fun moment later => moment.sortUs ≤ later.sortUs)
      (fun _ => le_rfl) (receiveTimes_of_mem_receive hfits) start
      (hclock.imp fun hbefore => hbefore.2.le)

/-- By the time of a message, a replay has taken over the rows up to that message. -/
theorem replayUntil_trace {sofar late : List (CaptureReceiveTimes × CapturedMessage)}
    {input : CaptureReceiveTimes × CapturedMessage} {replayed : FeedState}
    (hfits : ∀ other ∈ sofar ++ [input] ++ late, other.1.Fits)
    (hclock : (sofar ++ [input] ++ late).Pairwise fun first second =>
      first.1.ms < second.1.ms ∧ first.1.sortUs < second.1.sortUs) :
    replayed.replayUntil (trace receive start (sofar ++ [input] ++ late)).flatten input.1.ms =
      (trace receive start (sofar ++ [input])).flatten.foldl takeRow replayed := by
  have hparts := pairwise_append.mp hclock
  have hfront := pairwise_append.mp hparts.1
  have hearly : ∀ row ∈ (trace receive start (sofar ++ [input])).flatten,
      row.receiveTimes.ms ≤ input.1.ms := by
    intro row hrow
    obtain ⟨other, hother, htimes⟩ := exists_input_of_mem_trace
      (receiveTimes_of_mem_receive fun other hother =>
        hfits other (mem_append_left _ hother)) start hrow
    rw [htimes]
    rcases mem_append.mp hother with hsofar | hlast
    · exact (hfront.2.2 other hsofar input (by simp)).1.le
    · rw [mem_singleton.mp hlast]
  have hlate : ∀ row ∈ (trace receive (final receive start (sofar ++ [input])) late).flatten,
      input.1.ms < row.receiveTimes.ms := by
    intro row hrow
    obtain ⟨other, hother, htimes⟩ := exists_input_of_mem_trace
      (receiveTimes_of_mem_receive fun other hother =>
        hfits other (mem_append_right _ hother)) _ hrow
    rw [htimes]
    exact (hparts.2.2 input (by simp) other hother).1
  unfold replayUntil
  rw [capturedGroups_trace hfits hclock, filter_map, foldl_map, trace_append,
    flatten_append, filter_append, filter_eq_self.mpr, filter_eq_nil_iff.mpr,
    append_nil]
  · rfl
  · intro row hrow
    have hafter := hlate row hrow
    simp only [Function.comp_apply, timestamp_soleGroup, decide_eq_true_eq, not_le]
    exact hafter
  · intro row hrow
    simp only [Function.comp_apply, timestamp_soleGroup, decide_eq_true_eq]
    exact hearly row hrow

/-- Where every message of a window is recorded in full, the replay rebuilds the state that live
decisions are made on, from any two states that agree. -/
theorem captured_state_rebuilt {window : MarketWindow} {replayed : FeedState}
    (hinputs : WindowMessages window start inputs)
    (hagrees : StatesAgree start.live.signalState replayed)
    (hrecorded : Follows (MessageRecorded window)
      (fun capture input => (capture.receive input).2) start inputs) :
    Rebuilds start replayed inputs := by
  rintro sofar input ⟨late, rfl⟩
  have hstart : CaptureAgrees window start replayed :=
    ⟨hinputs.currentWindow, hinputs.profile, hagrees⟩
  have hmessages := (Follows.of_forall_mem hinputs.fits).and (hinputs.messages.and hrecorded)
  have hend := agree_of_takeover
    (fun _ _ _ hallowed hagree => hagree.step hallowed.1 hallowed.2.1 hallowed.2.2) hstart
    hmessages.of_append
  rw [replayUntil_trace hinputs.fits hinputs.clock]
  exact hend.agrees.rebuiltAt input.1.ms

end Runs

def sampleLiveCapture : LiveCapture where
  live := LiveState.new.activateWindow (sampleTokenWindow "market" "A" "B" 0)
  storage := .new .replayGrade

def samplePriceInput (ms : ℕ) (message : PriceMessage) : CaptureReceiveTimes × CapturedMessage :=
  (⟨ms, some (ms * 1000)⟩, .price ⟨ms, none, none, none, none, "rtds-1", none, none, fun _ => true⟩
    message)

/-- A Chainlink price followed by a stale notice: the replay goes on with the price. -/
theorem stale_price_rebuilt :
    ¬∀ window start replayed inputs, WindowMessages window start inputs →
      StatesAgree start.live.signalState replayed → Rebuilds start replayed inputs := by
  intro hall
  have hinputs : WindowMessages (sampleTokenWindow "market" "A" "B" 0) sampleLiveCapture
      [samplePriceInput 1000 (.chainlinkPrice 100), samplePriceInput 2000 .chainlinkStale] :=
    ⟨rfl, rfl, by decide +kernel, by decide +kernel, by decide +kernel⟩
  have hrebuilt := hall _ _ .new _ hinputs statesAgree_new
    [samplePriceInput 1000 (.chainlinkPrice 100)] (samplePriceInput 2000 .chainlinkStale)
    (prefix_refl _)
  exact absurd hrebuilt.chainlinkPrice (by decide +kernel)

def sampleBooksInput (ms : ℕ) (message : BookState → FeedMessage)
    (up down : Option (ℚ × ℕ)) : CaptureReceiveTimes × CapturedMessage :=
  let book (quote : ℚ × ℕ) : TopOfBook :=
    { bestBid := quote.1
      bestAsk := quote.1 + 1 / 50
      bidSize := 50
      askSize := 40
      timestamp := quote.2
      observedAtMs := quote.2 }
  (⟨ms, some (ms * 1000)⟩, .clob ⟨none, none, none, fun _ => true⟩
    (message { up := up.map book, down := down.map book }))

/-- A stale notice before the first price, then prices and books: of both sides, of one, and of one
again. -/
def sampleMessages : List (CaptureReceiveTimes × CapturedMessage) :=
  [samplePriceInput 500 .chainlinkStale, samplePriceInput 1000 (.chainlinkPrice 100),
    sampleBooksInput 2000 (.clobBook · 2000 none none "clob-1") (some (1 / 2, 2000))
      (some (2 / 5, 2000)),
    sampleBooksInput 3000 (.clobPriceChange · 3000 none (some "B") "clob-1") (some (1 / 2, 2000))
      (some (9 / 20, 3000)),
    sampleBooksInput 4000 (.clobPriceChange · 4000 none (some "A") "clob-1")
      (some (11 / 20, 4000)) (some (9 / 20, 3000)),
    samplePriceInput 5000 (.binanceTrade 100 1 none)]

theorem captured_state_rebuilt_sample : Rebuilds sampleLiveCapture .new sampleMessages := by
  have hinputs : WindowMessages (sampleTokenWindow "market" "A" "B" 0) sampleLiveCapture
      sampleMessages :=
    ⟨rfl, rfl, by decide +kernel, by decide +kernel, by decide +kernel⟩
  have hrecorded : Follows (MessageRecorded (sampleTokenWindow "market" "A" "B" 0))
      (fun capture input => (capture.receive input).2) sampleLiveCapture sampleMessages := by
    decide +kernel
  exact captured_state_rebuilt hinputs statesAgree_new hrecorded

end BubaPaint
