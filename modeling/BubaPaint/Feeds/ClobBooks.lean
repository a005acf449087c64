import BubaPaint.Feeds.SignalState

/-!
# Books of the CLOB feed

What one message of the venue does to the books of the two subscribed tokens. A message names the
asset it is about; a batch of price changes names one for each entry.

Main results:

- Theorem `sideBook_applyClobUpdate`: each side follows the messages about its token.
-/

namespace BubaPaint

open List

/-- A single price-change entry. -/
structure ClobPriceChangeEntry where
  assetId : String
  side : String
  price : ℚ
  size : ℚ
  deriving DecidableEq

/-- Structured update parsed from a message. -/
inductive ClobUpdate where
  | bookSnapshot (assetId : String) (bestBid bestAsk bidSize askSize : ℚ) (timestamp : ℕ)
  | priceChange (assetId : Option String) (timestamp : ℕ) (timestampUs : Option ℕ)
      (changes : List ClobPriceChangeEntry) (bestBid bestAsk bidSize askSize : Option ℚ)
  | bestBidAsk (assetId : String) (bestBid bestAsk : ℚ) (bidSize askSize : Option ℚ)
      (timestamp : ℕ) (timestampUs : Option ℕ)
  | metaEvent (eventType : String) (assetId : Option String) (timestamp : ℕ)
      (timestampUs : Option ℕ)
  | ignored
  deriving DecidableEq

/-- An update together with what the clock read while it was handled: for the entries of a batch
and for a direct top of book. -/
structure ClobDelivery where
  update : ClobUpdate
  entriesAtMs : ℕ
  directAtMs : ℕ
  deriving DecidableEq

def ClobUpdate.mentions (token : String) : ClobUpdate → Bool
  | .bookSnapshot assetId .. => assetId == token
  | .priceChange assetId _ _ changes .. =>
    assetId == some token || changes.any (·.assetId == token)
  | .bestBidAsk assetId .. => assetId == token
  | .metaEvent .. => false
  | .ignored => false

/-- A message of the feed to the main loop. -/
inductive FeedMessage where
  | clobBook (bookState : BookState) (timestampMs : ℕ) (timestampUs : Option ℕ)
      (assetId : Option String) (connectionId : String)
  | clobPriceChange (bookState : BookState) (timestampMs : ℕ) (timestampUs : Option ℕ)
      (assetId : Option String) (connectionId : String)
  | clobBestBidAsk (bookState : BookState) (timestampMs : ℕ) (timestampUs : Option ℕ)
      (assetId : Option String) (connectionId : String)
  | clobMetaEvent (eventType : String) (timestampMs : ℕ) (timestampUs : Option ℕ)
      (assetId : Option String) (connectionId : String)
  | feedConnected (connectionId : String)
  | feedDisconnected (connectionId : Option String) (causeClass : String) (attempt : ℕ)
      (afterResubscribe : Bool) (error : Option String)
  deriving DecidableEq

def FeedMessage.bookState? : FeedMessage → Option BookState
  | .clobBook bookState .. => some bookState
  | .clobPriceChange bookState .. => some bookState
  | .clobBestBidAsk bookState .. => some bookState
  | .clobMetaEvent .. => none
  | .feedConnected .. => none
  | .feedDisconnected .. => none

/-! ## The two books -/

/-- The token pair a connection is subscribed to. -/
structure Subscription where
  up : String
  down : String
  deriving DecidableEq

def Subscription.token (tokens : Subscription) : SignalDirection → String
  | .up => tokens.up
  | .down => tokens.down

/-- The side an asset belongs to; the UP side is asked first. -/
def Subscription.side? (tokens : Subscription) (assetId : String) : Option SignalDirection :=
  if assetId = tokens.up then some .up
  else if assetId = tokens.down then some .down
  else none

/-- Whether messages about a side's token reach that side: they do not reach the DOWN side of a
pair that names one token twice. -/
def Subscription.Reaches (tokens : Subscription) (side : SignalDirection) : Prop :=
  tokens.side? (tokens.token side) = some side

instance (tokens : Subscription) (side : SignalDirection) : Decidable (tokens.Reaches side) :=
  inferInstanceAs (Decidable (_ = _))

def BookState.setSide (books : BookState) (side : SignalDirection) (book : TopOfBook) : BookState :=
  match side with
  | .up => { books with up := some book }
  | .down => { books with down := some book }

@[simp]
theorem sideBook_setSide (books : BookState) (side other : SignalDirection) (book : TopOfBook) :
    sideBook (books.setSide side book) other =
      if other = side then some book else sideBook books other := by
  cases side <;> cases other <;> rfl

def TopOfBook.unquoted (timestamp observedAtMs : ℕ) : TopOfBook where
  bestBid := 0
  bestAsk := 0
  bidSize := 0
  askSize := 0
  timestamp := timestamp
  observedAtMs := observedAtMs

def ClobPriceChangeEntry.apply (entry : ClobPriceChangeEntry) (timestampMs observedAtMs : ℕ)
    (book : TopOfBook) : TopOfBook :=
  let book :=
    match entry.side with
    | "BUY" => { book with bestBid := entry.price, bidSize := entry.size }
    | "SELL" => { book with bestAsk := entry.price, askSize := entry.size }
    | _ => book
  { book with timestamp := timestampMs, observedAtMs }

/-- Direct top-of-book fields carried by certain events. -/
structure DirectTopOfBookUpdate where
  assetId : String
  timestampMs : ℕ
  bestBid : Option ℚ
  bestAsk : Option ℚ
  bidSize : Option ℚ
  askSize : Option ℚ

/-- The size beside a price: the one stated, else none if the price is not positive, else the size
there was. -/
def directSize (current : ℚ) (price stated : Option ℚ) : ℚ :=
  stated.getD (if price.any (· ≤ 0) then 0 else current)

def DirectTopOfBookUpdate.apply (update : DirectTopOfBookUpdate) (observedAtMs : ℕ)
    (book : TopOfBook) : TopOfBook where
  bestBid := update.bestBid.getD book.bestBid
  bestAsk := update.bestAsk.getD book.bestAsk
  bidSize := directSize book.bidSize update.bestBid update.bidSize
  askSize := directSize book.askSize update.bestAsk update.askSize
  timestamp := update.timestampMs
  observedAtMs := observedAtMs

/-- Change the book of the side an asset belongs to; other assets are passed over. -/
def updateAsset (tokens : Subscription) (assetId : String) (f : Option TopOfBook → TopOfBook)
    (books : BookState) : BookState :=
  match tokens.side? assetId with
  | some side => books.setSide side (f (sideBook books side))
  | none => books

/-- Apply one batch of price changes to the in-memory binary book. -/
def applyPriceChangeEntries (tokens : Subscription) (changes : List ClobPriceChangeEntry)
    (timestampMs observedAtMs : ℕ) (books : BookState) : BookState :=
  changes.foldl
    (fun books entry =>
      updateAsset tokens entry.assetId
        (fun book => entry.apply timestampMs observedAtMs (book.getD (.unquoted 0 0))) books)
    books

/-- Apply a direct best-bid-ask update onto the current binary book state. -/
def applyDirectTob (tokens : Subscription) (update : DirectTopOfBookUpdate) (observedAtMs : ℕ)
    (books : BookState) : BookState :=
  updateAsset tokens update.assetId
    (fun book =>
      update.apply observedAtMs (book.getD (.unquoted update.timestampMs observedAtMs)))
    books

def applyBookSnapshot (tokens : Subscription) (assetId : String) (book : TopOfBook)
    (books : BookState) : BookState :=
  updateAsset tokens assetId (fun _ => book) books

/-- The books after one update. -/
def applyClobUpdate (tokens : Subscription) (books : BookState) (delivery : ClobDelivery) :
    BookState :=
  match delivery.update with
  | .ignored => books
  | .metaEvent .. => books
  | .priceChange assetId timestampMs _ changes bestBid bestAsk bidSize askSize =>
    let books :=
      applyPriceChangeEntries tokens changes timestampMs delivery.entriesAtMs books
    match assetId with
    | some assetId =>
      applyDirectTob tokens { assetId, timestampMs, bestBid, bestAsk, bidSize, askSize }
        delivery.directAtMs books
    | none => books
  | .bestBidAsk assetId bestBid bestAsk bidSize askSize timestampMs _ =>
    applyDirectTob tokens
      { assetId, timestampMs, bestBid := some bestBid, bestAsk := some bestAsk, bidSize, askSize }
      delivery.directAtMs books
  | .bookSnapshot assetId bestBid bestAsk bidSize askSize timestamp =>
    applyBookSnapshot tokens assetId
      { bestBid, bestAsk, bidSize, askSize, timestamp, observedAtMs := delivery.directAtMs } books

def clobMessage (books : BookState) (connectionId : String) : ClobUpdate → Option FeedMessage
  | .ignored => none
  | .metaEvent eventType assetId timestampMs timestampUs =>
    some (.clobMetaEvent eventType timestampMs timestampUs assetId connectionId)
  | .priceChange assetId timestampMs timestampUs .. =>
    some (.clobPriceChange books timestampMs timestampUs assetId connectionId)
  | .bestBidAsk assetId _ _ _ _ timestampMs timestampUs =>
    some (.clobBestBidAsk books timestampMs timestampUs (some assetId) connectionId)
  | .bookSnapshot assetId _ _ _ _ timestampMs =>
    some (.clobBook books timestampMs none (some assetId) connectionId)

/-- Route one parsed update to the matching state mutation and channel send. -/
def handleClobUpdate (tokens : Subscription) (connectionId : String) (books : BookState)
    (delivery : ClobDelivery) : BookState × Option FeedMessage :=
  let books := applyClobUpdate tokens books delivery
  (books, clobMessage books connectionId delivery.update)

def updateToken (token assetId : String) (f : Option TopOfBook → TopOfBook)
    (book : Option TopOfBook) : Option TopOfBook :=
  if assetId = token then some (f book) else book

/-- The book of a token after one update, whatever the feed is subscribed to. -/
def bookAfter (token : String) (book : Option TopOfBook) (delivery : ClobDelivery) :
    Option TopOfBook :=
  match delivery.update with
  | .ignored => book
  | .metaEvent .. => book
  | .priceChange assetId timestampMs _ changes bestBid bestAsk bidSize askSize =>
    let book := changes.foldl
      (fun book entry => updateToken token entry.assetId
        (fun book => entry.apply timestampMs delivery.entriesAtMs
          (book.getD (.unquoted 0 0))) book) book
    match assetId with
    | some assetId => directAfter token { assetId, timestampMs, bestBid, bestAsk, bidSize, askSize }
        delivery.directAtMs book
    | none => book
  | .bestBidAsk assetId bestBid bestAsk bidSize askSize timestampMs _ =>
    directAfter token
      { assetId, timestampMs, bestBid := some bestBid, bestAsk := some bestAsk, bidSize, askSize }
      delivery.directAtMs book
  | .bookSnapshot assetId bestBid bestAsk bidSize askSize timestamp =>
    updateToken token assetId
      (fun _ => { bestBid, bestAsk, bidSize, askSize, timestamp
                  observedAtMs := delivery.directAtMs }) book
where
  directAfter (token : String) (update : DirectTopOfBookUpdate) (observedAtMs : ℕ) :
      Option TopOfBook → Option TopOfBook :=
    updateToken token update.assetId fun book =>
      update.apply observedAtMs (book.getD (.unquoted update.timestampMs observedAtMs))

/-- The book that a list of updates makes of a token without one. -/
def bookOf (token : String) (deliveries : List ClobDelivery) : Option TopOfBook :=
  deliveries.foldl (bookAfter token) none

@[simp]
theorem bookOf_nil (token : String) : bookOf token [] = none :=
  rfl

theorem bookOf_append_singleton (token : String) (deliveries : List ClobDelivery)
    (delivery : ClobDelivery) :
    bookOf token (deliveries ++ [delivery]) =
      bookAfter token (bookOf token deliveries) delivery := by
  simp [bookOf]

theorem updateToken_of_ne {token assetId : String} (hne : assetId ≠ token)
    (f : Option TopOfBook → TopOfBook) (book : Option TopOfBook) :
    updateToken token assetId f book = book :=
  if_neg hne

theorem bookAfter_of_not_mentions {token : String} {delivery : ClobDelivery}
    (hmentions : ¬delivery.update.mentions token = true) (book : Option TopOfBook) :
    bookAfter token book delivery = book := by
  cases hupdate : delivery.update with
  | ignored => simp [bookAfter, hupdate]
  | metaEvent => simp [bookAfter, hupdate]
  | priceChange assetId timestampMs timestampUs changes =>
    simp only [hupdate, ClobUpdate.mentions, Bool.or_eq_true, beq_iff_eq, any_eq_true,
      not_or, not_exists, not_and] at hmentions
    have hentries : ∀ changes' ⊆ changes, changes'.foldl
        (fun book entry => updateToken token entry.assetId
          (fun book => entry.apply timestampMs delivery.entriesAtMs
            (book.getD (.unquoted 0 0))) book) book = book := by
      intro changes' hsubset
      induction changes' with
      | nil => rfl
      | cons entry changes' ih =>
        have hentry := hmentions.2 entry (hsubset mem_cons_self)
        rw [foldl_cons, updateToken_of_ne hentry]
        exact ih fun other hother => hsubset (mem_cons_of_mem _ hother)
    simp only [bookAfter, hupdate, hentries changes (List.Subset.refl _)]
    cases assetId with
    | none => rfl
    | some assetId => exact updateToken_of_ne (by simpa using hmentions.1) _ _
  | bestBidAsk assetId | bookSnapshot assetId =>
    simp only [bookAfter, hupdate]
    exact updateToken_of_ne (by simpa [hupdate, ClobUpdate.mentions] using hmentions) _ _

/-! ## Sides and tokens -/

section Sides

variable {tokens : Subscription} {side : SignalDirection}

theorem eq_token_of_side? {assetId : String} (hside : tokens.side? assetId = some side) :
    assetId = tokens.token side := by
  unfold Subscription.side? at hside
  split at hside
  · cases hside
    assumption
  · split at hside
    · cases hside
      assumption
    · cases hside

theorem reaches_of_side? {assetId : String} (hside : tokens.side? assetId = some side) :
    tokens.Reaches side := by
  rw [eq_token_of_side? hside] at hside
  exact hside

theorem side?_eq_some_iff (hreaches : tokens.Reaches side) (assetId : String) :
    tokens.side? assetId = some side ↔ assetId = tokens.token side := by
  constructor
  · exact eq_token_of_side?
  · rintro rfl
    exact hreaches

theorem sideBook_updateAsset (hreaches : tokens.Reaches side) (assetId : String)
    (f : Option TopOfBook → TopOfBook) (books : BookState) :
    sideBook (updateAsset tokens assetId f books) side =
      updateToken (tokens.token side) assetId f (sideBook books side) := by
  unfold updateAsset updateToken
  simp only [← side?_eq_some_iff hreaches]
  cases hside : tokens.side? assetId with
  | none => simp
  | some target => by_cases htarget : side = target <;> simp [htarget, eq_comm]

theorem sideBook_updateAsset_of_not_reaches (hreaches : ¬tokens.Reaches side) (assetId : String)
    (f : Option TopOfBook → TopOfBook) (books : BookState) :
    sideBook (updateAsset tokens assetId f books) side = sideBook books side := by
  unfold updateAsset
  cases hside : tokens.side? assetId with
  | none => rfl
  | some target =>
    have hne : side ≠ target := by
      rintro rfl
      exact hreaches (reaches_of_side? hside)
    simp [hne]

theorem sideBook_applyPriceChangeEntries (hreaches : tokens.Reaches side)
    (changes : List ClobPriceChangeEntry) (timestampMs observedAtMs : ℕ) (books : BookState) :
    sideBook (applyPriceChangeEntries tokens changes timestampMs observedAtMs books) side =
      changes.foldl
        (fun book entry => updateToken (tokens.token side) entry.assetId
          (fun book => entry.apply timestampMs observedAtMs (book.getD (.unquoted 0 0))) book)
        (sideBook books side) := by
  unfold applyPriceChangeEntries
  induction changes generalizing books with
  | nil => rfl
  | cons entry changes ih =>
    rw [foldl_cons, foldl_cons, ih, sideBook_updateAsset hreaches]

theorem sideBook_applyPriceChangeEntries_of_not_reaches (hreaches : ¬tokens.Reaches side)
    (changes : List ClobPriceChangeEntry) (timestampMs observedAtMs : ℕ) (books : BookState) :
    sideBook (applyPriceChangeEntries tokens changes timestampMs observedAtMs books) side =
      sideBook books side := by
  unfold applyPriceChangeEntries
  induction changes generalizing books with
  | nil => rfl
  | cons entry changes ih =>
    rw [foldl_cons, ih, sideBook_updateAsset_of_not_reaches hreaches]

/-- Each side follows the book of its token. -/
theorem sideBook_applyClobUpdate (hreaches : tokens.Reaches side) (books : BookState)
    (delivery : ClobDelivery) :
    sideBook (applyClobUpdate tokens books delivery) side =
      bookAfter (tokens.token side) (sideBook books side) delivery := by
  cases hupdate : delivery.update with
  | ignored => simp [applyClobUpdate, bookAfter, hupdate]
  | metaEvent => simp [applyClobUpdate, bookAfter, hupdate]
  | priceChange assetId =>
    simp only [applyClobUpdate, bookAfter, hupdate]
    cases assetId with
    | none => exact sideBook_applyPriceChangeEntries hreaches ..
    | some assetId =>
      simp only [applyDirectTob, bookAfter.directAfter, sideBook_updateAsset hreaches,
        sideBook_applyPriceChangeEntries hreaches]
  | bestBidAsk | bookSnapshot =>
    simp only [applyClobUpdate, bookAfter, hupdate]
    exact sideBook_updateAsset hreaches ..

theorem sideBook_applyClobUpdate_of_not_reaches (hreaches : ¬tokens.Reaches side)
    (books : BookState) (delivery : ClobDelivery) :
    sideBook (applyClobUpdate tokens books delivery) side = sideBook books side := by
  cases hupdate : delivery.update with
  | ignored => simp [applyClobUpdate, hupdate]
  | metaEvent => simp [applyClobUpdate, hupdate]
  | priceChange assetId =>
    simp only [applyClobUpdate, hupdate]
    cases assetId with
    | none => exact sideBook_applyPriceChangeEntries_of_not_reaches hreaches ..
    | some assetId =>
      simp only [applyDirectTob, sideBook_updateAsset_of_not_reaches hreaches,
        sideBook_applyPriceChangeEntries_of_not_reaches hreaches]
  | bestBidAsk | bookSnapshot =>
    simp only [applyClobUpdate, hupdate]
    exact sideBook_updateAsset_of_not_reaches hreaches ..

end Sides

/-- A book made of nothing but updates about a token, out of those received. -/
def MadeFrom (token : String) (received : List ClobDelivery) (book : Option TopOfBook) : Prop :=
  ∃ used, List.Sublist used received ∧
    (∀ delivery ∈ used, delivery.update.mentions token = true) ∧ book = bookOf token used

variable {token : String} {received : List ClobDelivery} {book : Option TopOfBook}

theorem madeFrom_none (token : String) (received : List ClobDelivery) :
    MadeFrom token received none :=
  ⟨[], nil_sublist _, by simp, rfl⟩

theorem MadeFrom.mono {received' : List ClobDelivery} (hmade : MadeFrom token received book)
    (hsublist : List.Sublist received received') : MadeFrom token received' book := by
  obtain ⟨used, hused, hmentions, hbook⟩ := hmade
  exact ⟨used, hused.trans hsublist, hmentions, hbook⟩

theorem MadeFrom.eq_none_of_not_mentions (hmade : MadeFrom token received book)
    (hreceived : ∀ delivery ∈ received, delivery.update.mentions token = false) : book = none := by
  obtain ⟨used, hused, hmentions, rfl⟩ := hmade
  have hnil : used = [] := by
    refine eq_nil_iff_forall_not_mem.mpr fun delivery hmem => ?_
    have hfalse := hreceived delivery (hused.subset hmem)
    rw [hmentions delivery hmem] at hfalse
    cases hfalse
  rw [hnil, bookOf_nil]

theorem MadeFrom.bookAfter (hmade : MadeFrom token received book) (delivery : ClobDelivery) :
    MadeFrom token (received ++ [delivery]) (bookAfter token book delivery) := by
  by_cases hmentions : delivery.update.mentions token = true
  · obtain ⟨used, hused, hall, rfl⟩ := hmade
    refine ⟨used ++ [delivery], hused.append (List.Sublist.refl _), ?_, ?_⟩
    · intro other hother
      rcases mem_append.mp hother with hused | hlast
      · exact hall other hused
      · rw [mem_singleton.mp hlast]
        exact hmentions
    · rw [bookOf_append_singleton]
  · rw [bookAfter_of_not_mentions hmentions]
    exact hmade.mono (sublist_append_left _ _)

/-- Books each of whose sides is made from the updates about the side's token. -/
def BooksMadeFrom (tokens : Subscription) (received : List ClobDelivery) (books : BookState) :
    Prop :=
  ∀ side, MadeFrom (tokens.token side) received (sideBook books side)

theorem booksMadeFrom_empty (tokens : Subscription) (received : List ClobDelivery) :
    BooksMadeFrom tokens received .empty := by
  intro side
  rw [sideBook_empty]
  exact madeFrom_none _ _

theorem BooksMadeFrom.applyClobUpdate {tokens : Subscription} {books : BookState}
    (hmade : BooksMadeFrom tokens received books) (delivery : ClobDelivery) :
    BooksMadeFrom tokens (received ++ [delivery]) (applyClobUpdate tokens books delivery) := by
  intro side
  by_cases hreaches : tokens.Reaches side
  · rw [sideBook_applyClobUpdate hreaches]
    exact (hmade side).bookAfter delivery
  · rw [sideBook_applyClobUpdate_of_not_reaches hreaches]
    exact (hmade side).mono (sublist_append_left _ _)

end BubaPaint
