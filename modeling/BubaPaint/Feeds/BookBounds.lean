import BubaPaint.Feeds.ClobMessages

/-!
# Bounds of the real book

The feed keeps the best price of each side and no depth. A reference order book is built beside it
from the same messages: a snapshot gives all levels, and each price change sets the size of one. The
feed takes the price of each change over as the best one, so what it keeps bounds the reference book
as long as the changes are made at the top.

Main results:

- Theorem `tracksTop_iff`: the feed tracks the top of the book iff changes are made there.
-/

namespace BubaPaint

open Effects List
open Json (Value)

abbrev OrderBook :=
  BookSide → Depth ℚ ℚ

def snapshotBook (message : Value) : OrderBook := fun side =>
  (((message.get? side.levelsField).bind Value.asArray).getD []).filterMap fun level => do
    let price ← parseF64Field level "price"
    let size ← parseF64Field level "size"
    return (price, size)

def OrderBook.change (token : String) (book : OrderBook) (entry : ClobPriceChangeEntry) :
    OrderBook := fun side =>
  if entry.assetId = token ∧ entry.side = side.entrySide then
    (book side).set entry.price entry.size
  else book side

/-- A token's levels after one message; there are none before the first snapshot. -/
def referenceAfter (token : String) (reference : Option OrderBook) (message : Value) :
    Option OrderBook :=
  match parseClobEvent message with
  | .bookSnapshot assetId .. => if assetId = token then some (snapshotBook message) else reference
  | .priceChange _ _ _ changes .. => reference.map fun book => changes.foldl (.change token) book
  | .bestBidAsk .. => reference
  | .metaEvent .. => reference
  | .ignored => reference

/-- The best price of a side that a message states for a token. -/
def carriedPrice (token : String) (side : BookSide) (message : Value) : Option ℚ :=
  match parseClobEvent message with
  | .priceChange assetId .. =>
    if assetId = some token then parseF64Field message side.quoteField else none
  | .bestBidAsk assetId .. =>
    if assetId = token then parseF64Field message side.quoteField else none
  | _ => none

def ClobPriceChangeEntry.isFor (token : String) (side : BookSide)
    (entry : ClobPriceChangeEntry) : Bool :=
  decide (entry.assetId = token) && decide (entry.side = side.entrySide)

/-- The price of the last entry that changes a side of a token's book. -/
def lastChangedPrice (token : String) (side : BookSide) (message : Value) : Option ℚ :=
  match parseClobEvent message with
  | .priceChange _ _ _ changes .. =>
    (changes.filter (·.isFor token side)).getLast?.map ClobPriceChangeEntry.price
  | _ => none

/-- A well-formed message: its prices are floating-point numbers, a direct top of book states both
prices, and a stated price is true of the book. -/
structure WellFormed (token : String) (reference : Option OrderBook) (message : Value) : Prop where
  finite : ∀ side, ∀ level ∈ snapshotBook message side, |level.1| ≤ f64Max
  stated : ∀ assetId bestBid bestAsk bidSize askSize timestamp timestampUs,
    parseClobEvent message =
      .bestBidAsk assetId bestBid bestAsk bidSize askSize timestamp timestampUs →
    ∀ side : BookSide, (parseF64Field message side.quoteField).isSome = true
  truthful : ∀ side, ∀ price ∈ carriedPrice token side message,
    ∀ book ∈ referenceAfter token reference message, (book side).Bounds side.NoBetter price

/-- Price changes at the top: unless the message states the best price of a side, the last change of
the side is no worse than any level the side then has. -/
def ChangesAtTop (token : String) (reference : Option OrderBook) (message : Value) : Prop :=
  ∀ side, carriedPrice token side message = none →
    ∀ price ∈ lastChangedPrice token side message,
      ∀ book ∈ referenceAfter token reference message, (book side).Bounds side.NoBetter price

def TopOfBook.best (top : TopOfBook) : BookSide → ℚ
  | .bid => top.bestBid
  | .ask => top.bestAsk

/-- The best price of a side that is kept for a token, 0 if there is none. -/
def bestOf (side : BookSide) (book : Option TopOfBook) : ℚ :=
  (book.map fun top => top.best side).getD 0

/-- A message as it arrives, with what the clock reads while it is handled. -/
structure ClobArrival where
  message : Value
  entriesAtMs : ℕ
  directAtMs : ℕ

def ClobArrival.delivery (arrival : ClobArrival) : ClobDelivery where
  update := parseClobEvent arrival.message
  entriesAtMs := arrival.entriesAtMs
  directAtMs := arrival.directAtMs

/-- The books of the feed after a list of messages. -/
def booksAfter (tokens : Subscription) (books : BookState) (arrivals : List ClobArrival) :
    BookState :=
  arrivals.foldl (fun books arrival => applyClobUpdate tokens books arrival.delivery) books

/-- The reference book of a token after a list of messages. -/
def referenceOf (token : String) (arrivals : List ClobArrival) : Option OrderBook :=
  arrivals.foldl (fun reference arrival => referenceAfter token reference arrival.message) none

/-- After a message: the best prices that are kept bound all levels, and those that the message
states are kept. -/
structure TracksTop (token : String) (reference : Option OrderBook) (message : Value)
    (kept : Option TopOfBook) : Prop where
  bounds : ∀ book ∈ reference, ∃ top ∈ kept, ∀ side,
    (book side).Bounds side.NoBetter (top.best side)
  stated : ∀ side, ∀ price ∈ carriedPrice token side message, ∃ top ∈ kept, top.best side = price

section Best

variable {token : String} {side : BookSide} {book : Option TopOfBook}

@[simp]
theorem best_unquoted (side : BookSide) (timestamp observedAtMs : ℕ) :
    (TopOfBook.unquoted timestamp observedAtMs).best side = 0 := by
  cases side <;> rfl

@[simp]
theorem bestOf_some (side : BookSide) (top : TopOfBook) : bestOf side (some top) = top.best side :=
  rfl

theorem best_getD_unquoted (side : BookSide) (book : Option TopOfBook)
    (timestamp observedAtMs : ℕ) :
    (book.getD (.unquoted timestamp observedAtMs)).best side = bestOf side book := by
  cases book with
  | none => simp [bestOf]
  | some top => rfl

theorem best_entry_apply (side : BookSide) (entry : ClobPriceChangeEntry)
    (timestampMs observedAtMs : ℕ) (top : TopOfBook) :
    (entry.apply timestampMs observedAtMs top).best side =
      if entry.side = side.entrySide then entry.price else top.best side := by
  unfold ClobPriceChangeEntry.apply
  split
  · next hbuy => cases side <;> simp [hbuy, TopOfBook.best, BookSide.entrySide]
  · next hsell => cases side <;> simp [hsell, TopOfBook.best, BookSide.entrySide]
  · next hbuy hsell =>
      have hbuy : entry.side ≠ "BUY" := hbuy
      have hsell : entry.side ≠ "SELL" := hsell
      cases side <;> simp [hbuy, hsell, TopOfBook.best, BookSide.entrySide]

theorem bestOf_entry (entry : ClobPriceChangeEntry) (timestampMs observedAtMs : ℕ) :
    bestOf side (updateToken token entry.assetId
      (fun book => entry.apply timestampMs observedAtMs (book.getD (.unquoted 0 0))) book) =
      if entry.isFor token side = true then entry.price else bestOf side book := by
  unfold updateToken ClobPriceChangeEntry.isFor
  by_cases hasset : entry.assetId = token
  · simp only [hasset, if_true, bestOf_some, best_entry_apply, best_getD_unquoted, decide_true,
      Bool.true_and, decide_eq_true_eq]
  · simp [hasset]

theorem bestOf_entries (changes : List ClobPriceChangeEntry) (timestampMs observedAtMs : ℕ) :
    bestOf side (changes.foldl (fun book entry => updateToken token entry.assetId
      (fun book => entry.apply timestampMs observedAtMs (book.getD (.unquoted 0 0))) book) book) =
      ((changes.filter (·.isFor token side)).getLast?.map ClobPriceChangeEntry.price).getD
        (bestOf side book) := by
  induction changes generalizing book with
  | nil => rfl
  | cons entry changes ih =>
    rw [foldl_cons, ih, bestOf_entry]
    by_cases hfor : entry.isFor token side = true
    · rw [filter_cons_of_pos hfor, List.getLast?_cons, if_pos hfor]
      cases (changes.filter (·.isFor token side)).getLast? <;> rfl
    · rw [filter_cons_of_neg hfor, if_neg hfor]

theorem bestOf_directAfter (update : DirectTopOfBookUpdate) (observedAtMs : ℕ) :
    bestOf side (bookAfter.directAfter token update observedAtMs book) =
      if update.assetId = token then
        (match side with
          | .bid => update.bestBid
          | .ask => update.bestAsk).getD (bestOf side book)
      else bestOf side book := by
  unfold bookAfter.directAfter updateToken
  by_cases hasset : update.assetId = token
  · rw [if_pos hasset, if_pos hasset, bestOf_some, ← best_getD_unquoted side book
      update.timestampMs observedAtMs]
    cases side <;> rfl
  · rw [if_neg hasset, if_neg hasset]

end Best

/-! ## One message -/

/-- The best prices that are kept for a token bound its reference book. -/
def BoundsReference (reference : Option OrderBook) (kept : Option TopOfBook) : Prop :=
  ∀ book ∈ reference, kept.isSome = true ∧
    ∀ side, (book side).Bounds side.NoBetter (bestOf side kept)

def IsSnapshotOf (token : String) (message : Value) : Prop :=
  ∃ bestBid bestAsk bidSize askSize timestamp, parseClobEvent message =
    .bookSnapshot token bestBid bestAsk bidSize askSize timestamp

section Message

variable {token : String} {reference : Option OrderBook} {kept : Option TopOfBook}
variable {arrival : ClobArrival}
variable {side : BookSide} {message : Value} {price : ℚ}

theorem isSome_updateToken {assetId : String} {f : Option TopOfBook → TopOfBook}
    (h : kept.isSome = true) : (updateToken token assetId f kept).isSome = true := by
  unfold updateToken
  split
  · rfl
  · exact h

theorem isSome_entries (h : kept.isSome = true) (changes : List ClobPriceChangeEntry)
    (timestampMs observedAtMs : ℕ) :
    (changes.foldl (fun book entry => updateToken token entry.assetId
      (fun book => entry.apply timestampMs observedAtMs (book.getD (.unquoted 0 0))) book)
      kept).isSome = true := by
  induction changes generalizing kept with
  | nil => exact h
  | cons entry changes ih => exact ih (isSome_updateToken h)

theorem isSome_bookAfter (h : kept.isSome = true) (delivery : ClobDelivery) :
    (bookAfter token kept delivery).isSome = true := by
  cases hupdate : delivery.update with
  | ignored => simpa [bookAfter, hupdate] using h
  | metaEvent => simpa [bookAfter, hupdate] using h
  | priceChange assetId =>
    simp only [bookAfter, hupdate]
    cases assetId with
    | none => exact isSome_entries h ..
    | some assetId => exact isSome_updateToken (isSome_entries h ..)
  | bestBidAsk | bookSnapshot =>
    simp only [bookAfter, hupdate]
    exact isSome_updateToken h

theorem boundsReference_of_snapshot (hformed : WellFormed token reference arrival.message)
    (hsnapshot : IsSnapshotOf token arrival.message) :
    BoundsReference (referenceAfter token reference arrival.message)
      (bookAfter token kept arrival.delivery) := by
  rcases parseClobEvent_cases arrival.message with ⟨_, _, _, _, h⟩ | ⟨_, _, _, _, _, h⟩ |
    ⟨_, _, _, _, _, _, h⟩ | ⟨assetId, bidSize, askSize, timestamp, h⟩ | h
  case inr.inr.inr.inl =>
    rcases hsnapshot with ⟨_, _, _, _, _, hown⟩
    cases h.symm.trans hown
    intro book hbook
    simp only [referenceAfter, h, if_true, Option.mem_some] at hbook
    subst hbook
    simp only [bookAfter, ClobArrival.delivery, h, updateToken, if_true, Option.isSome_some,
      bestOf_some, true_and]
    intro side level hlevel _
    have hfinite := hformed.finite side level hlevel
    rcases mem_filterMap.mp hlevel with ⟨entry, hentry, hread⟩
    have hsame : readLevel entry = level := by
      rcases Option.bind_eq_some_iff.mp hread with ⟨price, hprice, hread⟩
      rcases Option.bind_eq_some_iff.mp hread with ⟨size, hsize, hread⟩
      cases hread
      simp [readLevel, hprice, hsize]
    have hbest := noBetter_extractBestLevel side hentry (hsame ▸ hfinite)
    rw [hsame] at hbest
    cases side <;> exact hbest
  all_goals
    rcases hsnapshot with ⟨_, _, _, _, _, hown⟩
    cases h.symm.trans hown

theorem bestOf_bookAfter (hformed : WellFormed token reference arrival.message)
    (hsnapshot : ¬IsSnapshotOf token arrival.message) (side : BookSide) :
    bestOf side (bookAfter token kept arrival.delivery) =
      ((carriedPrice token side arrival.message).or
        (lastChangedPrice token side arrival.message)).getD (bestOf side kept) := by
  rcases parseClobEvent_cases arrival.message with ⟨_, _, _, _, h⟩ | ⟨assetId, _, _, _, _, h⟩ |
    ⟨assetId, _, _, changes, _, _, h⟩ | ⟨assetId, _, _, _, h⟩ | h
  · simp [bookAfter, ClobArrival.delivery, carriedPrice, lastChangedPrice, h]
  · have hstated := hformed.stated _ _ _ _ _ _ _ h side
    simp only [bookAfter, ClobArrival.delivery, carriedPrice, lastChangedPrice, h,
      bestOf_directAfter]
    by_cases hasset : assetId = token
    · rcases Option.isSome_iff_exists.mp hstated with ⟨price, hprice⟩
      cases side <;> simp_all [BookSide.quoteField]
    · simp [hasset]
  · simp only [bookAfter, ClobArrival.delivery, carriedPrice, lastChangedPrice, h]
    cases assetId with
    | none => simp [bestOf_entries]
    | some assetId =>
      simp only [bestOf_directAfter, bestOf_entries, Option.some.injEq]
      by_cases hasset : assetId = token
      · simp only [hasset, if_true]
        cases side with
        | bid => cases hprice : parseF64Field arrival.message "best_bid" <;>
            simp [BookSide.quoteField, hprice]
        | ask => cases hprice : parseF64Field arrival.message "best_ask" <;>
            simp [BookSide.quoteField, hprice]
      · simp [hasset]
  · have hasset : assetId ≠ token := by
      rintro rfl
      exact hsnapshot ⟨_, _, _, _, _, h⟩
    simp [bookAfter, ClobArrival.delivery, carriedPrice, lastChangedPrice, h, updateToken, hasset]
  · simp [bookAfter, ClobArrival.delivery, carriedPrice, lastChangedPrice, h]

theorem side_foldl_change {changes : List ClobPriceChangeEntry}
    (h : changes.filter (·.isFor token side) = []) (book : OrderBook) :
    changes.foldl (.change token) book side = book side := by
  induction changes generalizing book with
  | nil => rfl
  | cons entry changes ih =>
    by_cases hfor : entry.isFor token side = true
    · rw [filter_cons_of_pos hfor] at h
      cases h
    · rw [filter_cons_of_neg hfor] at h
      rw [foldl_cons, ih h]
      have hother : ¬(entry.assetId = token ∧ entry.side = side.entrySide) := by
        simpa [ClobPriceChangeEntry.isFor] using hfor
      exact if_neg hother

theorem exists_of_mem_referenceAfter (hsnapshot : ¬IsSnapshotOf token message) {book : OrderBook}
    (hbook : book ∈ referenceAfter token reference message) :
    ∃ earlier ∈ reference, ∀ side, lastChangedPrice token side message = none →
      book side = earlier side := by
  rcases parseClobEvent_cases message with ⟨_, _, _, _, h⟩ | ⟨_, _, _, _, _, h⟩ |
    ⟨_, _, _, changes, _, _, h⟩ | ⟨assetId, _, _, _, h⟩ | h
  · simp only [referenceAfter, h] at hbook
    exact ⟨book, hbook, fun _ _ => rfl⟩
  · simp only [referenceAfter, h] at hbook
    exact ⟨book, hbook, fun _ _ => rfl⟩
  · simp only [referenceAfter, h] at hbook
    rcases Option.map_eq_some_iff.mp hbook with ⟨earlier, hearlier, rfl⟩
    refine ⟨earlier, hearlier, fun side hlast => side_foldl_change ?_ earlier⟩
    simpa only [lastChangedPrice, h, Option.map_eq_none_iff, List.getLast?_eq_none_iff] using hlast
  · have hasset : assetId ≠ token := by
      rintro rfl
      exact hsnapshot ⟨_, _, _, _, _, h⟩
    simp only [referenceAfter, h, hasset, if_false] at hbook
    exact ⟨book, hbook, fun _ _ => rfl⟩
  · simp only [referenceAfter, h] at hbook
    exact ⟨book, hbook, fun _ _ => rfl⟩

theorem prices_of_snapshot (h : IsSnapshotOf token message) (side : BookSide) :
    carriedPrice token side message = none ∧ lastChangedPrice token side message = none := by
  rcases h with ⟨_, _, _, _, _, h⟩
  simp [carriedPrice, lastChangedPrice, h]

theorem isSome_bookAfter_of_carried (h : carriedPrice token side arrival.message = some price) :
    (bookAfter token kept arrival.delivery).isSome = true := by
  rcases parseClobEvent_cases arrival.message with ⟨_, _, _, _, hcase⟩ |
    ⟨assetId, _, _, _, _, hcase⟩ | ⟨assetId, _, _, _, _, _, hcase⟩ | ⟨_, _, _, _, hcase⟩ | hcase
  · simp [carriedPrice, hcase] at h
  · simp only [carriedPrice, hcase] at h
    by_cases hasset : assetId = token
    · simp [bookAfter, ClobArrival.delivery, hcase, bookAfter.directAfter, updateToken, hasset]
    · simp [hasset] at h
  · simp only [carriedPrice, hcase] at h
    by_cases hasset : assetId = some token
    · simp [bookAfter, ClobArrival.delivery, hcase, bookAfter.directAfter, updateToken, hasset]
    · simp [hasset] at h
  · simp [carriedPrice, hcase] at h
  · simp [carriedPrice, hcase] at h

theorem changesAtTop_of_boundsReference (hformed : WellFormed token reference arrival.message)
    (h : BoundsReference (referenceAfter token reference arrival.message)
      (bookAfter token kept arrival.delivery)) :
    ChangesAtTop token reference arrival.message := by
  intro side hcarried price hprice book hbook
  by_cases hsnapshot : IsSnapshotOf token arrival.message
  · rw [(prices_of_snapshot hsnapshot side).2] at hprice
    cases hprice
  · have hbounds := (h book hbook).2 side
    rw [Option.mem_def] at hprice
    rwa [bestOf_bookAfter hformed hsnapshot, hcarried, hprice, Option.none_or,
      Option.getD_some] at hbounds

/-- Changes at the top keep the best prices bounds of the reference book. -/
theorem BoundsReference.step (h : BoundsReference reference kept)
    (hformed : WellFormed token reference arrival.message)
    (hchanges : ChangesAtTop token reference arrival.message) :
    BoundsReference (referenceAfter token reference arrival.message)
      (bookAfter token kept arrival.delivery) := by
  by_cases hsnapshot : IsSnapshotOf token arrival.message
  · exact boundsReference_of_snapshot hformed hsnapshot
  · intro book hbook
    rcases exists_of_mem_referenceAfter hsnapshot hbook with ⟨earlier, hearlier, hsame⟩
    refine ⟨isSome_bookAfter (h earlier hearlier).1 arrival.delivery, fun side => ?_⟩
    rw [bestOf_bookAfter hformed hsnapshot]
    cases hcarried : carriedPrice token side arrival.message with
    | some price => exact hformed.truthful side price hcarried book hbook
    | none =>
      cases hlast : lastChangedPrice token side arrival.message with
      | some price => exact hchanges side hcarried price hlast book hbook
      | none =>
        rw [hsame side hlast]
        exact (h earlier hearlier).2 side

theorem stated_bookAfter (hformed : WellFormed token reference arrival.message) (side : BookSide)
    (hprice : carriedPrice token side arrival.message = some price) :
    ∃ top ∈ bookAfter token kept arrival.delivery, top.best side = price := by
  have hsnapshot : ¬IsSnapshotOf token arrival.message := by
    intro hsnapshot
    rw [(prices_of_snapshot hsnapshot side).1] at hprice
    cases hprice
  have hbest : bestOf side (bookAfter token kept arrival.delivery) = price := by
    rw [bestOf_bookAfter hformed hsnapshot, hprice, Option.some_or, Option.getD_some]
  have hsome : (bookAfter token kept arrival.delivery).isSome = true :=
    isSome_bookAfter_of_carried hprice
  rcases Option.isSome_iff_exists.mp hsome with ⟨top, htop⟩
  rw [htop] at hbest ⊢
  exact ⟨top, rfl, hbest⟩

theorem tracksTop_bookAfter_iff (hformed : WellFormed token reference arrival.message)
    (later : Option OrderBook) :
    TracksTop token later arrival.message (bookAfter token kept arrival.delivery) ↔
      BoundsReference later (bookAfter token kept arrival.delivery) := by
  constructor
  · intro h book hbook
    rcases h.bounds book hbook with ⟨top, htop, hbounds⟩
    rw [Option.mem_def] at htop
    rw [htop]
    exact ⟨rfl, hbounds⟩
  · intro h
    refine ⟨fun book hbook => ?_, fun side price hprice => stated_bookAfter hformed side hprice⟩
    rcases h book hbook with ⟨hsome, hbounds⟩
    rcases Option.isSome_iff_exists.mp hsome with ⟨top, htop⟩
    rw [htop] at hbounds ⊢
    exact ⟨top, rfl, hbounds⟩

end Message

/-! ## Runs -/

section Run

variable {tokens : Subscription} {books : BookState} {arrivals : List ClobArrival}
variable {direction : SignalDirection}

theorem referenceOf_append_singleton (token : String) (earlier : List ClobArrival)
    (arrival : ClobArrival) :
    referenceOf token (earlier ++ [arrival]) =
      referenceAfter token (referenceOf token earlier) arrival.message := by
  simp [referenceOf]

theorem sideBook_booksAfter_append_singleton (hreaches : tokens.Reaches direction)
    (earlier : List ClobArrival) (arrival : ClobArrival) :
    sideBook (booksAfter tokens books (earlier ++ [arrival])) direction =
      bookAfter (tokens.token direction) (sideBook (booksAfter tokens books earlier) direction)
        arrival.delivery := by
  unfold booksAfter
  rw [foldl_append, foldl_cons, foldl_nil, sideBook_applyClobUpdate hreaches]

theorem boundsReference_run (hreaches : tokens.Reaches direction)
    (hformed : ∀ earlier arrival, earlier ++ [arrival] <+: arrivals →
      WellFormed (tokens.token direction) (referenceOf (tokens.token direction) earlier)
        arrival.message)
    (hchanges : ∀ earlier arrival, earlier ++ [arrival] <+: arrivals →
      ChangesAtTop (tokens.token direction) (referenceOf (tokens.token direction) earlier)
        arrival.message) {earlier : List ClobArrival} (hstart : earlier <+: arrivals) :
    BoundsReference (referenceOf (tokens.token direction) earlier)
      (sideBook (booksAfter tokens books earlier) direction) := by
  induction earlier using List.reverseRecOn with
  | nil => simp [BoundsReference, referenceOf]
  | append_singleton earlier arrival ih =>
    rw [referenceOf_append_singleton, sideBook_booksAfter_append_singleton hreaches]
    have hearlier := ih ((prefix_append earlier [arrival]).trans hstart)
    exact hearlier.step (hformed earlier arrival hstart) (hchanges earlier arrival hstart)

end Run

/-- In every run of well-formed messages, the best prices that are kept for a side track the top of
the reference book after each message, if and only if all price changes are made at the top. -/
theorem tracksTop_iff {tokens : Subscription} {direction : SignalDirection}
    (hreaches : tokens.Reaches direction) (books : BookState) (arrivals : List ClobArrival)
    (hformed : ∀ earlier arrival, earlier ++ [arrival] <+: arrivals →
      WellFormed (tokens.token direction) (referenceOf (tokens.token direction) earlier)
        arrival.message) :
    (∀ earlier arrival, earlier ++ [arrival] <+: arrivals →
      TracksTop (tokens.token direction)
        (referenceOf (tokens.token direction) (earlier ++ [arrival])) arrival.message
        (sideBook (booksAfter tokens books (earlier ++ [arrival])) direction)) ↔
      ∀ earlier arrival, earlier ++ [arrival] <+: arrivals →
        ChangesAtTop (tokens.token direction) (referenceOf (tokens.token direction) earlier)
          arrival.message := by
  constructor
  · intro h earlier arrival hstart
    have htracks := h earlier arrival hstart
    have hformed := hformed earlier arrival hstart
    rw [referenceOf_append_singleton, sideBook_booksAfter_append_singleton hreaches,
      tracksTop_bookAfter_iff hformed] at htracks
    exact changesAtTop_of_boundsReference hformed htracks
  · intro hchanges earlier arrival hstart
    have hbounds : BoundsReference (referenceOf (tokens.token direction) (earlier ++ [arrival]))
        (sideBook (booksAfter tokens books (earlier ++ [arrival])) direction) :=
      boundsReference_run hreaches hformed hchanges hstart
    rw [sideBook_booksAfter_append_singleton hreaches] at hbounds ⊢
    exact (tracksTop_bookAfter_iff (hformed earlier arrival hstart) _).mpr hbounds

def sampleLevel (price size : String) : Value :=
  .object [("price", .string price), ("size", .string size)]

def sampleSnapshot : ClobArrival where
  message := .object
    [("event_type", .string "book"), ("asset_id", .string "tok-up"),
      ("timestamp", .number (.integer 1000)),
      ("bids", .array [sampleLevel "0.50" "100", sampleLevel "0.40" "10"]),
      ("asks", .array [sampleLevel "0.52" "80"])]
  entriesAtMs := 1001
  directAtMs := 1001

def samplePriceChange (side price size : String) : ClobArrival where
  message := .object
    [("event_type", .string "price_change"), ("timestamp", .number (.integer 2000)),
      ("price_changes", .array [.object
        [("asset_id", .string "tok-up"), ("side", .string side), ("price", .string price),
          ("size", .string size)]])]
  entriesAtMs := 2001
  directAtMs := 2001

theorem forall_of_sample {change : ClobArrival} {P : List ClobArrival → ClobArrival → Prop}
    (hfirst : P [] sampleSnapshot) (hsecond : P [sampleSnapshot] change) :
    ∀ earlier arrival, earlier ++ [arrival] <+: [sampleSnapshot, change] → P earlier arrival := by
  intro earlier arrival hstart
  rcases earlier with _ | ⟨first, _ | ⟨second, rest⟩⟩
  · rcases cons_prefix_cons.mp hstart with ⟨rfl, -⟩
    exact hfirst
  · rcases cons_prefix_cons.mp hstart with ⟨rfl, hrest⟩
    rcases cons_prefix_cons.mp hrest with ⟨rfl, -⟩
    exact hsecond
  · have hlength := hstart.length_le
    simp at hlength

theorem wellFormed_sampleSnapshot :
    WellFormed "tok-up" (referenceOf "tok-up" []) sampleSnapshot.message where
  finite := fun side => by cases side <;> decide +kernel
  stated := fun _ _ _ _ _ _ _ hdirect => by
    have hparse : parseClobEvent sampleSnapshot.message =
        .bookSnapshot "tok-up" (1 / 2) (13 / 25) 100 80 1000 := by
      decide +kernel
    cases hparse.symm.trans hdirect
  truthful := fun side => by cases side <;> decide +kernel

/-- A lower ask is a change at the top. -/
theorem tracksTop_iff_sample :
    TracksTop "tok-up" (referenceOf "tok-up" [sampleSnapshot, samplePriceChange "SELL" "0.51" "50"])
      (samplePriceChange "SELL" "0.51" "50").message
      (sideBook (booksAfter ⟨"tok-up", "tok-down"⟩ .empty
        [sampleSnapshot, samplePriceChange "SELL" "0.51" "50"]) .up) := by
  have hreaches : Subscription.Reaches ⟨"tok-up", "tok-down"⟩ .up := by
    decide
  have hsecond : WellFormed "tok-up" (referenceOf "tok-up" [sampleSnapshot])
      (samplePriceChange "SELL" "0.51" "50").message :=
    { finite := fun side => by cases side <;> decide +kernel
      stated := fun _ _ _ _ _ _ _ hdirect => by
        have hparse : parseClobEvent (samplePriceChange "SELL" "0.51" "50").message =
            .priceChange none 2000 none [⟨"tok-up", "SELL", 51 / 100, 50⟩] none none none none := by
          decide +kernel
        cases hparse.symm.trans hdirect
      truthful := fun side => by cases side <;> decide +kernel }
  have hfirstTop : ChangesAtTop "tok-up" (referenceOf "tok-up" []) sampleSnapshot.message :=
    fun side => by cases side <;> decide +kernel
  have hsecondTop : ChangesAtTop "tok-up" (referenceOf "tok-up" [sampleSnapshot])
      (samplePriceChange "SELL" "0.51" "50").message :=
    fun side => by cases side <;> decide +kernel
  have htracks := (tracksTop_iff hreaches .empty
    [sampleSnapshot, samplePriceChange "SELL" "0.51" "50"]
    (forall_of_sample wellFormed_sampleSnapshot hsecond)).mpr
    (forall_of_sample hfirstTop hsecondTop)
  exact htracks [sampleSnapshot] (samplePriceChange "SELL" "0.51" "50") prefix_rfl

/-- A change of a lower bid is taken over as the best bid, below the bid that is still there. -/
theorem lower_bid_taken_over :
    WellFormed "tok-up" (referenceOf "tok-up" []) sampleSnapshot.message ∧
      WellFormed "tok-up" (referenceOf "tok-up" [sampleSnapshot])
        (samplePriceChange "BUY" "0.40" "25").message ∧
      ¬TracksTop "tok-up"
        (referenceOf "tok-up" [sampleSnapshot, samplePriceChange "BUY" "0.40" "25"])
        (samplePriceChange "BUY" "0.40" "25").message
        (sideBook (booksAfter ⟨"tok-up", "tok-down"⟩ .empty
          [sampleSnapshot, samplePriceChange "BUY" "0.40" "25"]) .up) := by
  refine ⟨wellFormed_sampleSnapshot,
    { finite := fun side => by cases side <;> decide +kernel
      stated := fun _ _ _ _ _ _ _ hdirect => by
        have hparse : parseClobEvent (samplePriceChange "BUY" "0.40" "25").message =
            .priceChange none 2000 none [⟨"tok-up", "BUY", 2 / 5, 25⟩] none none none none := by
          decide +kernel
        cases hparse.symm.trans hdirect
      truthful := fun side => by cases side <;> decide +kernel }, fun htracks => ?_⟩
  have hlevel : (referenceOf "tok-up" [sampleSnapshot, samplePriceChange "BUY" "0.40" "25"]).any
        (fun book => decide ((1 / 2, 100) ∈ book .bid)) = true := by
    decide +kernel
  have hkept : (sideBook (booksAfter ⟨"tok-up", "tok-down"⟩ .empty
      [sampleSnapshot, samplePriceChange "BUY" "0.40" "25"]) .up).all
        (fun top => decide (top.bestBid = 2 / 5)) = true := by
    decide +kernel
  rcases (Option.any_eq_true_iff_get _ _).mp hlevel with ⟨hsome, hlevel⟩
  rcases htracks.bounds _ (Option.get_mem hsome) with ⟨top, htop, hbounds⟩
  rw [Option.mem_def] at htop
  rw [htop] at hkept
  have hbid : top.bestBid = 2 / 5 := of_decide_eq_true hkept
  have hle : 1 / 2 ≤ top.bestBid :=
    hbounds .bid (1 / 2, 100) (of_decide_eq_true hlevel) (by norm_num)
  rw [hbid] at hle
  norm_num at hle

end BubaPaint
