import BubaPaint.Library.Doubles
import BubaPaint.Replay.BlockLoading

/-!
# Book evidence in rows and in blocks

A live order is explained by a quote that was stored between the start of an interval and the order.
Rows are searched by a condition of SQL, in which a comparison with null is neither true nor false;
blocks are pruned by their bounds and decoded, and their events are compared one by one. A number
that is none would be null in a row, where no null is allowed.

Main results:

- Theorem `explains_iff`: a stored event explains an order iff its entry in a block does.
- Theorem `book_evidence_of_storage`: rows and blocks explain the same orders.
-/

namespace BubaPaint

open Effects List

/-- A number that a column can hold. -/
def SqlReal :=
  { x : Double // x.isNan = false }

/-- Bind a number to a column. What is not a number becomes null. -/
def bindReal (x : Double) : Option SqlReal :=
  if h : x.isNan = false then some ⟨x, h⟩ else none

def sqlAnd : Option Bool → Option Bool → Option Bool
  | some false, _ => some false
  | _, some false => some false
  | some true, some true => some true
  | _, _ => none

def sqlOr : Option Bool → Option Bool → Option Bool
  | some true, _ => some true
  | _, some true => some true
  | some false, some false => some false
  | _, _ => none

def sqlCompare {α : Type} (p : α → α → Bool) (a b : Option α) : Option Bool :=
  a.bind fun a => b.map (p a)

theorem sqlAnd_eq_true : ∀ {a b : Option Bool},
    sqlAnd a b = some true ↔ a = some true ∧ b = some true := by
  decide

theorem sqlOr_eq_true : ∀ {a b : Option Bool},
    sqlOr a b = some true ↔ a = some true ∨ b = some true := by
  decide

/-- One row of `feed_events` or of `clob_replay_events`, with the columns that are searched. -/
structure QuoteRow where
  receivedAtMs : ℤ
  source : String
  marketId : Option String
  assetId : Option String
  bestAsk : Option SqlReal
  askSize : Option SqlReal

/-- One row of `clob_replay_blocks`, with the columns that are searched. -/
structure QuoteBlock where
  minReceivedAtMs : ℤ
  maxReceivedAtMs : ℤ
  checksum : String
  payload : List UInt8

/-- The tables with quotes, as far as there are any. -/
structure QuoteDb where
  feedEvents : Option (List QuoteRow)
  clobReplayEvents : Option (List QuoteRow)
  clobReplayBlocks : Option (List QuoteBlock)

structure BookExplainabilityOrder where
  createdAtMs : ℤ
  marketId : Option String
  tokenId : Option String
  limitPrice : Option SqlReal
  orderType : String
  requestedSize : Option SqlReal

/-! ## Storing quotes -/

section Storing

variable {F : Type} [Bits64 F] (value : F → Double)

/-- Return whether one event can be represented in a CLOB replay block. -/
def isBlockableClobEvent (event : FeedEvent F) : Bool :=
  ["clob_up", "clob_down"].contains event.source &&
    ["book", "price_change", "best_bid_ask"].contains event.eventType &&
    event.bestBid.isSome && event.bestAsk.isSome && event.bidSize.isSome && event.askSize.isSome

def notNull (column : String) (number : Option F) : Except String SqlReal :=
  match number.bind fun number => bindReal (value number) with
  | some number => .ok number
  | none => .error s!"NOT NULL constraint failed: clob_replay_events.{column}"

def insertClobReplayEvent (event : FeedEvent F) : Except String QuoteRow := do
  let receivedAtMs ← integerParam event.receivedAtMs
  let _ ← integerParam event.eventAtMs
  let _ ← event.receivedAtUs.toList.mapM integerParam
  let _ ← event.eventAtUs.toList.mapM integerParam
  let _ ← notNull value "best_bid" event.bestBid
  let bestAsk ← notNull value "best_ask" event.bestAsk
  let _ ← notNull value "bid_size" event.bidSize
  let askSize ← notNull value "ask_size" event.askSize
  return {
    receivedAtMs
    source := event.source
    marketId := event.marketId
    assetId := event.assetId
    bestAsk := some bestAsk
    askSize := some askSize }

def compactRows (events : List (FeedEvent F)) : Except String (List QuoteRow) :=
  (events.filter isBlockableClobEvent).mapM (insertClobReplayEvent value)

variable (compress : List UInt8 → ℤ → Except String (List UInt8)) (crc32 : List UInt8 → UInt32)

/-- Encode one batch with its level of compression and insert the block. -/
def insertQuoteBlock (batch : List (FeedEvent F) × ℤ) : Except String QuoteBlock := do
  let block ← encodeEvents compress crc32 batch.1 batch.2
  let minReceivedAtMs ← integerParam block.minReceivedAtMs
  let maxReceivedAtMs ← integerParam block.maxReceivedAtMs
  let _ ← block.minReceivedAtUs.toList.mapM integerParam
  let _ ← block.maxReceivedAtUs.toList.mapM integerParam
  return { minReceivedAtMs, maxReceivedAtMs, checksum := block.checksum, payload := block.payload }

end Storing

/-! ## Searching quotes -/

namespace BookExplainabilityOrder

variable (order : BookExplainabilityOrder) (startMs : ℤ)

/-- The condition on the rows that are counted. -/
def rowCondition (row : QuoteRow) : Option Bool :=
  sqlAnd (some (decide (startMs ≤ row.receivedAtMs))) <|
  sqlAnd (some (decide (row.receivedAtMs ≤ order.createdAtMs))) <|
  sqlAnd (sqlCompare (· == ·) row.marketId order.marketId) <|
  sqlAnd (some (["clob_up", "clob_down"].contains row.source)) <|
  sqlAnd (some row.bestAsk.isSome) <|
  sqlAnd (some row.askSize.isSome) <|
  sqlAnd (sqlOr (some order.tokenId.isNone) (sqlCompare (· == ·) row.assetId order.tokenId)) <|
  sqlAnd (sqlOr (some order.limitPrice.isNone)
    (sqlCompare (fun ask limit => ask.1.le limit.1) row.bestAsk order.limitPrice)) <|
  sqlOr (some (order.orderType == "FAK")) <|
  sqlOr (some order.requestedSize.isNone)
    (sqlCompare (fun size requested => requested.1.le size.1) row.askSize order.requestedSize)

/-- Return whether one row-storage table explains one live order. -/
def rowStorageBookEvidence (rows : List QuoteRow) : Bool :=
  decide (0 < rows.countP fun row => order.rowCondition startMs row == some true)

/-- Return whether one decoded block event explains one order. -/
def blockEventMatchesOrder (event : DecodedClobReplayEvent Double) : Bool :=
  if i64Max < event.receivedAtMs.toNat then false
  else if event.receivedAtMs.toNat < startMs ∨ order.createdAtMs < event.receivedAtMs.toNat then
    false
  else if order.marketId ≠ event.marketId then false
  else if order.tokenId.any fun token => some token != event.assetId then false
  else if order.limitPrice.any fun limit => limit.1.lt event.bestAsk then false
  else
    order.orderType == "FAK" ||
      order.requestedSize.all fun requested => requested.1.le event.askSize

variable {F : Type} [Bits64 F] (value : F → Double)
variable (decompress : List UInt8 → Except String (List UInt8)) (crc32 : List UInt8 → UInt32)

def searchBlocks : List QuoteBlock → Except String Bool
  | [] => .ok false
  | block :: blocks => do
    let events ← decodePayload (F := F) decompress crc32 block.payload block.checksum
    if events.any fun event => order.blockEventMatchesOrder startMs (event.mapNumbers value) then
      return true
    else searchBlocks blocks

def reaches (block : QuoteBlock) : Bool :=
  decide (startMs ≤ block.maxReceivedAtMs) && decide (block.minReceivedAtMs ≤ order.createdAtMs)

end BookExplainabilityOrder

section Database

variable (db : QuoteDb) (startMs : ℤ) (order : BookExplainabilityOrder)

/-- Return whether legacy row storage explains one live order. -/
def QuoteDb.hasRowBookEvidence : Bool :=
  if db.feedEvents.isNone && db.clobReplayEvents.isNone then false
  else
    db.feedEvents.any (order.rowStorageBookEvidence startMs) ||
      db.clobReplayEvents.any (order.rowStorageBookEvidence startMs)

/-- Return whether compressed block storage explains one live order. -/
def QuoteDb.hasBlockBookEvidence {F : Type} [Bits64 F] (value : F → Double)
    (decompress : List UInt8 → Except String (List UInt8)) (crc32 : List UInt8 → UInt32) :
    Except String Bool :=
  match db.clobReplayBlocks with
  | none => .ok false
  | some blocks =>
    order.searchBlocks startMs value decompress crc32 (blocks.filter (order.reaches startMs))

end Database

/-! ## Rows and blocks of the same events -/

section Agreement

variable {F : Type} [Bits64 F] {value : F → Double} {event : FeedEvent F} {row : QuoteRow}
variable {compress : List UInt8 → ℤ → Except String (List UInt8)} {startMs : ℤ}
variable {decompress : List UInt8 → Except String (List UInt8)} {crc32 : List UInt8 → UInt32}
variable {order : BookExplainabilityOrder}
variable {decoded : DecodedClobReplayEvent F} {batches : List (List (FeedEvent F) × ℤ)}
variable {blocks : List QuoteBlock}

omit [Bits64 F] in
theorem notNull_eq_ok {column : String} {number : F} {stored : SqlReal}
    (h : notNull value column (some number) = .ok stored) : stored.1 = value number := by
  unfold notNull bindReal at h
  by_cases hnumber : (value number).isNan = false
  · simp only [Option.bind_some, dif_pos hnumber] at h
    cases h
    rfl
  · simp [hnumber] at h

omit [Bits64 F] in
/-- A row explains an order if and only if the decoded event does. -/
theorem rowCondition_iff (hgrade : isBlockableClobEvent event = true)
    (hmarket : event.marketId.isSome) (hinsert : insertClobReplayEvent value event = .ok row)
    (hdecoded : DecodedFrom event.asStored decoded) :
    order.rowCondition startMs row = some true ↔
      order.blockEventMatchesOrder startMs (decoded.mapNumbers value) = true := by
  have hask : event.bestAsk = some decoded.bestAsk := hdecoded.bestAsk
  have haskSize : event.askSize = some decoded.askSize := hdecoded.askSize
  have hsource : event.source = "clob_up" ∨ event.source = "clob_down" := by
    simp only [isBlockableClobEvent, Bool.and_eq_true] at hgrade
    simpa using hgrade.1.1.1.1.1
  rcases ok_of_bind hinsert with ⟨receivedAtMs, hreceived, h⟩
  rcases ok_of_bind h with ⟨_, -, h⟩
  rcases ok_of_bind h with ⟨_, -, h⟩
  rcases ok_of_bind h with ⟨_, -, h⟩
  rcases ok_of_bind h with ⟨_, -, h⟩
  rcases ok_of_bind h with ⟨bestAsk, hbestAsk, h⟩
  rcases ok_of_bind h with ⟨_, -, h⟩
  rcases ok_of_bind h with ⟨askSize, hstoredSize, h⟩
  cases h
  rcases integerParam_eq_ok_iff.mp hreceived with ⟨hfits, rfl⟩
  rw [hask] at hbestAsk
  rw [haskSize] at hstoredSize
  have hbestAsk := notNull_eq_ok hbestAsk
  have hstoredSize := notNull_eq_ok hstoredSize
  rcases Option.isSome_iff_exists.mp hmarket with ⟨market, hmarket⟩
  have hreceivedAtMs : decoded.receivedAtMs = event.receivedAtMs := hdecoded.receivedAtMs
  have hdecodedMarket : decoded.marketId = some market := hdecoded.marketId.trans hmarket
  have hasset : decoded.assetId = event.assetId := hdecoded.assetId
  have hmarketIff : sqlCompare (· == ·) event.marketId order.marketId = some true ↔
      order.marketId = some market := by
    cases order.marketId <;> simp [sqlCompare, hmarket, eq_comm (a := market)]
  have htokenIff : sqlOr (some order.tokenId.isNone)
      (sqlCompare (· == ·) event.assetId order.tokenId) = some true ↔
        (order.tokenId.any fun token => some token != event.assetId) = false := by
    cases order.tokenId with
    | none => simp [sqlOr_eq_true]
    | some token =>
      cases event.assetId <;> simp [sqlOr_eq_true, sqlCompare, eq_comm (a := token)]
  have hlimitIff : sqlOr (some order.limitPrice.isNone)
      (sqlCompare (fun ask limit => ask.1.le limit.1) (some bestAsk) order.limitPrice) =
        some true ↔ (order.limitPrice.any fun limit => limit.1.lt bestAsk.1) = false := by
    cases order.limitPrice with
    | none => simp [sqlOr_eq_true]
    | some limit =>
      simp [sqlOr_eq_true, sqlCompare, Double.lt_eq_not_le limit.2 bestAsk.2]
  have hsizeIff : sqlOr (some order.requestedSize.isNone)
      (sqlCompare (fun size requested => requested.1.le size.1) (some askSize)
        order.requestedSize) = some true ↔
        (order.requestedSize.all fun requested => requested.1.le askSize.1) = true := by
    cases order.requestedSize <;> simp [sqlOr_eq_true, sqlCompare]
  have hsides : ["clob_up", "clob_down"].contains event.source = true := by
    simpa using hsource
  simp only [BookExplainabilityOrder.rowCondition, sqlAnd_eq_true, hmarketIff, htokenIff, hlimitIff,
    sqlOr_eq_true (a := some (order.orderType == "FAK")), hsizeIff, hsides,
    BookExplainabilityOrder.blockEventMatchesOrder, DecodedClobReplayEvent.mapNumbers,
    hreceivedAtMs, hdecodedMarket, hasset, ← hbestAsk, ← hstoredSize]
  grind

/-- An event that both a row and a block can hold. -/
def Storable (value : F → Double) (event : FeedEvent F) : Prop :=
  isBlockableClobEvent event = true ∧ event.marketId.isSome ∧
    ∃ row, insertClobReplayEvent value event = .ok row

def Explains (value : F → Double) (startMs : ℤ) (order : BookExplainabilityOrder)
    (event : FeedEvent F) : Prop :=
  ∃ row, insertClobReplayEvent value event = .ok row ∧ order.rowCondition startMs row = some true

omit [Bits64 F] in
theorem explains_iff (h : Storable value event) (hdecoded : DecodedFrom event.asStored decoded) :
    Explains value startMs order event ↔
      order.blockEventMatchesOrder startMs (decoded.mapNumbers value) = true := by
  rcases h with ⟨hgrade, hmarket, row, hinsert⟩
  rw [← rowCondition_iff hgrade hmarket hinsert hdecoded]
  constructor
  · rintro ⟨own, hown, hcondition⟩
    rw [hinsert] at hown
    cases hown
    exact hcondition
  · exact fun hcondition => ⟨row, hinsert, hcondition⟩

omit [Bits64 F] in
/-- An event that explains an order lies between the start and the order. -/
theorem Explains.between (h : Explains value startMs order event) :
    startMs ≤ event.receivedAtMs.toNat ∧ (event.receivedAtMs.toNat : ℤ) ≤ order.createdAtMs := by
  rcases h with ⟨row, hinsert, hcondition⟩
  rcases ok_of_bind hinsert with ⟨receivedAtMs, hreceived, hinsert⟩
  rcases integerParam_eq_ok_iff.mp hreceived with ⟨-, rfl⟩
  have hrow : row.receivedAtMs = event.receivedAtMs.toNat := by
    simp only [bind_eq_ok_iff] at hinsert
    rcases hinsert with ⟨_, -, _, -, _, -, _, -, _, -, _, -, _, -, hrow⟩
    cases hrow
    rfl
  simp only [BookExplainabilityOrder.rowCondition, sqlAnd_eq_true, Option.some.injEq,
    decide_eq_true_eq, hrow] at hcondition
  exact ⟨hcondition.1, hcondition.2.1⟩

theorem insertQuoteBlock_eq_ok {batch : List (FeedEvent F) × ℤ} {block : QuoteBlock}
    (hcompress : ∀ level bytes compressed, compress bytes level = .ok compressed →
      decompress compressed = .ok bytes)
    (h : insertQuoteBlock compress crc32 batch = .ok block) :
    (∃ decoded, decodePayload decompress crc32 block.payload block.checksum = .ok decoded ∧
        List.Forall₂ (fun event row => DecodedFrom event.asStored row) batch.1 decoded) ∧
      ∀ event ∈ batch.1, block.minReceivedAtMs ≤ event.receivedAtMs.toNat ∧
        (event.receivedAtMs.toNat : ℤ) ≤ block.maxReceivedAtMs := by
  rcases ok_of_bind h with ⟨encoded, hencode, h⟩
  rcases ok_of_bind h with ⟨floor, hfloor, h⟩
  rcases ok_of_bind h with ⟨ceiling, hceiling, h⟩
  rcases ok_of_bind h with ⟨_, -, h⟩
  rcases ok_of_bind h with ⟨_, -, h⟩
  cases h
  refine ⟨decodePayload_encodeEvents_asStored crc32 (hcompress batch.2) hencode, ?_⟩
  rcases integerParam_eq_ok_iff.mp hfloor with ⟨-, rfl⟩
  rcases integerParam_eq_ok_iff.mp hceiling with ⟨-, rfl⟩
  rcases ok_of_bind hencode with ⟨payload, -, hencode⟩
  rcases ok_of_bind hencode with ⟨compressed, -, hencode⟩
  cases hencode
  intro event hevent
  exact ⟨Int.ofNat_le.mpr ((foldl_min_le batch.1 noneU64).2 event hevent),
    Int.ofNat_le.mpr ((le_foldl_max batch.1 0).2 event hevent)⟩

/-- The blocks that are searched explain what the events of all batches explain. -/
theorem exists_searchBlocks
    (hcompress : ∀ level bytes compressed, compress bytes level = .ok compressed →
      decompress compressed = .ok bytes)
    (hstored : List.Forall₂ (fun batch block => insertQuoteBlock compress crc32 batch = .ok block)
      batches blocks) (hstorable : ∀ batch ∈ batches, ∀ event ∈ batch.1, Storable value event)
    (order : BookExplainabilityOrder) (startMs : ℤ) :
    ∃ answer, order.searchBlocks startMs value decompress crc32
        (blocks.filter (order.reaches startMs)) = .ok answer ∧
      (answer = true ↔
        ∃ batch ∈ batches, ∃ event ∈ batch.1, Explains value startMs order event) := by
  induction hstored with
  | nil => exact ⟨false, rfl, by simp⟩
  | @cons batch block batches blocks hinsert _ ih =>
    rcases ih fun other hother => hstorable other (mem_cons_of_mem _ hother) with
      ⟨answer, hanswer, hiff⟩
    rcases insertQuoteBlock_eq_ok hcompress hinsert with ⟨⟨decoded, hdecode, hsame⟩, hwithin⟩
    have hown : (decoded.any fun event =>
        order.blockEventMatchesOrder startMs (event.mapNumbers value)) = true ↔
          ∃ event ∈ batch.1, Explains value startMs order event := by
      have hstorable := hstorable batch mem_cons_self
      rw [any_eq_true]
      constructor
      · rintro ⟨row, hrow, hmatches⟩
        rcases exists_of_mem_forall₂ hsame hrow with ⟨event, hevent, hfrom⟩
        exact ⟨event, hevent, (explains_iff (hstorable event hevent) hfrom).mpr hmatches⟩
      · rintro ⟨event, hevent, hexplains⟩
        rcases exists_of_mem_forall₂ hsame.flip hevent with ⟨row, hrow, hfrom⟩
        exact ⟨row, hrow, (explains_iff (hstorable event hevent) hfrom).mp hexplains⟩
    simp only [exists_mem_cons_iff, ← hown, ← hiff]
    by_cases hreaches : order.reaches startMs block = true
    · rw [filter_cons_of_pos hreaches, BookExplainabilityOrder.searchBlocks, hdecode]
      by_cases hfound : (decoded.any fun event =>
          order.blockEventMatchesOrder startMs (event.mapNumbers value)) = true
      · exact ⟨true, if_pos hfound, by simp [hfound]⟩
      · exact ⟨answer, (if_neg hfound).trans hanswer, by simp [hfound]⟩
    · rw [filter_cons_of_neg hreaches]
      refine ⟨answer, hanswer, ?_⟩
      -- A block that is left out has no event that could explain the order.
      rw [iff_or_self, hown]
      rintro ⟨event, hevent, hexplains⟩
      have hbetween := hexplains.between
      have hbounds := hwithin event hevent
      refine absurd ?_ hreaches
      simp only [BookExplainabilityOrder.reaches, Bool.and_eq_true, decide_eq_true_eq]
      omega

/-- Rows and blocks of the same events explain the same orders. -/
theorem book_evidence_of_storage {events : List (FeedEvent F)} {rows : List QuoteRow}
    (hcompress : ∀ level bytes compressed, compress bytes level = .ok compressed →
      decompress compressed = .ok bytes)
    (hgrade : ∀ event ∈ events, isBlockableClobEvent event = true ∧ event.marketId.isSome ∧
      event.assetId.isSome) (hbatches : (batches.flatMap Prod.fst).Perm events)
    (hrows : compactRows value events = .ok rows)
    (hblocks : batches.mapM (insertQuoteBlock compress crc32) = .ok blocks)
    (order : BookExplainabilityOrder) (startMs : ℤ) :
    QuoteDb.hasBlockBookEvidence ⟨some [], some [], some blocks⟩ startMs order value decompress
        crc32 = .ok (QuoteDb.hasRowBookEvidence ⟨some [], some rows, some []⟩ startMs order) := by
  have hall : events.filter isBlockableClobEvent = events :=
    filter_eq_self.mpr fun event hevent => (hgrade event hevent).1
  rw [compactRows, hall, mapM_eq_ok_iff] at hrows
  have hstorable : ∀ batch ∈ batches, ∀ event ∈ batch.1, Storable value event := by
    intro batch hbatch event hevent
    have hmem := hbatches.subset (mem_flatMap.mpr ⟨batch, hbatch, hevent⟩)
    exact ⟨(hgrade event hmem).1, (hgrade event hmem).2.1,
      exists_mapM_eq_ok_iff.mp ⟨rows, mapM_eq_ok_iff.mpr hrows⟩ event hmem⟩
  rcases exists_searchBlocks hcompress (mapM_eq_ok_iff.mp hblocks) hstorable order startMs with
    ⟨answer, hanswer, hiff⟩
  have hfound : order.rowStorageBookEvidence startMs rows = true ↔
      ∃ event ∈ events, Explains value startMs order event := by
    rw [BookExplainabilityOrder.rowStorageBookEvidence, decide_eq_true_eq, countP_pos_iff]
    simp only [beq_iff_eq]
    constructor
    · rintro ⟨row, hrow, hcondition⟩
      rcases exists_of_mem_forall₂ hrows hrow with ⟨event, hevent, hinsert⟩
      exact ⟨event, hevent, row, hinsert, hcondition⟩
    · rintro ⟨event, hevent, own, hown, hcondition⟩
      rcases exists_of_mem_forall₂ hrows.flip hevent with ⟨row, hrow, hinsert⟩
      rw [hown] at hinsert
      cases hinsert
      exact ⟨own, hrow, hcondition⟩
  have hevents : (∃ batch ∈ batches, ∃ event ∈ batch.1, Explains value startMs order event) ↔
      ∃ event ∈ events, Explains value startMs order event := by
    simp only [← hbatches.mem_iff, mem_flatMap]
    tauto
  have hrowEvidence : QuoteDb.hasRowBookEvidence ⟨some [], some rows, some []⟩ startMs order =
      order.rowStorageBookEvidence startMs rows := by
    simp [QuoteDb.hasRowBookEvidence, BookExplainabilityOrder.rowStorageBookEvidence]
  rw [hrowEvidence]
  refine hanswer.trans (congrArg _ ?_)
  rw [Bool.eq_iff_iff, hiff, hevents, hfound]

end Agreement

def sampleQuote (source : String) : FeedEvent UInt64 :=
  { sampleBlockRow source "book" "seq-1" 0 with
    assetId := some source, bestBid := some 0, bestAsk := some 0, askSize := some 0 }

def sampleExplained : BookExplainabilityOrder where
  createdAtMs := 2000
  marketId := some "market-1"
  tokenId := some "clob_down"
  limitPrice := none
  orderType := "FOK"
  requestedSize := none

/-- The second of two blocks explains an order. -/
theorem book_evidence_of_storage_sample :
    ∃ blocks, [([sampleQuote "clob_up"], 3), ([sampleQuote "clob_down"], 3)].mapM
        (insertQuoteBlock (fun bytes _ => .ok bytes) fun _ => 0) = .ok blocks ∧
      QuoteDb.hasBlockBookEvidence ⟨some [], some [], some blocks⟩ 1000 sampleExplained
        (fun bits : UInt64 => Double.ofRat bits.toNat) .ok (fun _ => 0) = .ok true := by
  have hstored : ([([sampleQuote "clob_up"], (3 : ℤ)), ([sampleQuote "clob_down"], 3)].mapM
      (insertQuoteBlock (fun bytes _ => .ok bytes) fun _ => 0)).toOption.any
        (fun _ => true) = true := by
    decide +kernel
  have hinserted : (compactRows (fun bits : UInt64 => Double.ofRat bits.toNat)
      [sampleQuote "clob_up", sampleQuote "clob_down"]).toOption.any (fun rows =>
        QuoteDb.hasRowBookEvidence ⟨some [], some rows, some []⟩ 1000 sampleExplained) = true := by
    decide +kernel
  rcases exists_ok_of_any hstored with ⟨blocks, hblocks, -⟩
  rcases exists_ok_of_any hinserted with ⟨rows, hrows, hevidence⟩
  refine ⟨blocks, hblocks, ?_⟩
  rw [book_evidence_of_storage (fun _ _ _ h => h.symm) (by decide) (List.Perm.refl _) hrows hblocks
    sampleExplained 1000, hevidence]

end BubaPaint
