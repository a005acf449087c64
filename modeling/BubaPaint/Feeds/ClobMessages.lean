import BubaPaint.Feeds.ClobBooks
import BubaPaint.Library.Depth
import BubaPaint.Market.Discovery

/-!
# Messages of the CLOB feed

How one decoded message of the venue is read. A message with levels is a snapshot of a whole book,
of which the best level of each side is kept; a batch of price changes and a direct top of book carry
prices of their own.
-/

namespace BubaPaint

open Effects
open Json (Value)

/-- Parse a field that may be either a number or a string-encoded number. -/
def parseF64Field (value : Value) (field : String) : Option ℚ :=
  parseF64Value (value.get? field)

def unsignedField (value : Value) (field : String) : Option ℕ :=
  match value.get? field with
  | some (.number (.integer n)) => if 0 ≤ n ∧ n < 2 ^ 64 then some n.toNat else none
  | _ => none

def textField (value : Value) (field : String) : Option String :=
  (value.get? field).bind Value.asStr

/-- Normalize a source timestamp into millisecond and optional microsecond representations. -/
def normalizeSourceTimestamp (raw : ℕ) : ℕ × Option ℕ :=
  if raw ≥ 10000000000000 then (raw / 1000, some raw) else (raw, none)

/-- The largest floating-point number. -/
def f64Max : ℚ :=
  (2 ^ 53 - 1) * 2 ^ 971

/-- The price and the size of one level, none if they are not numbers. -/
def readLevel (level : Value) : ℚ × ℚ :=
  ((parseF64Field level "price").getD 0, (parseF64Field level "size").getD 0)

def keepBetter (isBid : Bool) (best : ℚ × ℚ) (level : Value) : ℚ × ℚ :=
  let (price, size) := readLevel level
  if isBid then
    if price > best.1 then (price, size) else best
  else if price < best.1 then (price, size)
  else best

/-- Extract the best (highest bid or lowest ask) price and size from a levels array. -/
def extractBestLevel (levels : Option Value) (isBid : Bool) : ℚ × ℚ :=
  match levels.bind Value.asArray with
  | none => (0, 0)
  | some [] => (0, 0)
  | some (level :: rest) =>
    let best := (level :: rest).foldl (keepBetter isBid) (if isBid then -f64Max else f64Max, 0)
    if (isBid ∧ best.1 = -f64Max) ∨ (¬isBid ∧ best.1 = f64Max) then (0, 0) else best

def parseMetaEvent (value : Value) (eventType : String) (timestamp : ℕ)
    (timestampUs : Option ℕ) : ClobUpdate :=
  .metaEvent eventType (textField value "asset_id") timestamp timestampUs

def parseBestBidAskEvent (value : Value) (timestamp : ℕ) (timestampUs : Option ℕ) : ClobUpdate :=
  .bestBidAsk ((textField value "asset_id").getD "") ((parseF64Field value "best_bid").getD 0)
    ((parseF64Field value "best_ask").getD 0)
    (parseF64Field value "bid_size" <|> parseF64Field value "best_bid_size")
    (parseF64Field value "ask_size" <|> parseF64Field value "best_ask_size")
    timestamp timestampUs

/-- Parse the per-level changes inside a price-change event. -/
def parsePriceChangeEntries (changes : List Value) : List ClobPriceChangeEntry :=
  changes.map fun change =>
    { assetId := (textField change "asset_id").getD ""
      side := (textField change "side").getD ""
      price := (parseF64Field change "price").getD 0
      size := (parseF64Field change "size").getD 0 }

def parsePriceChangeEvent (value : Value) (timestamp : ℕ) (timestampUs : Option ℕ) : ClobUpdate :=
  let changes :=
    match (value.get? "price_changes").bind Value.asArray with
    | none => []
    | some entries => parsePriceChangeEntries entries
  .priceChange (textField value "asset_id") timestamp timestampUs changes
    (parseF64Field value "best_bid")
    (parseF64Field value "best_ask")
    (parseF64Field value "bid_size" <|> parseF64Field value "best_bid_size")
    (parseF64Field value "ask_size" <|> parseF64Field value "best_ask_size")

def parseBookSnapshotEvent (value : Value) : Option ClobUpdate :=
  if (value.get? "asset_id").isNone ∨
      ((value.get? "bids").isNone ∧ (value.get? "asks").isNone) then
    none
  else
    let timestamp := ((unsignedField value "timestamp").map normalizeSourceTimestamp).getD (0, none)
    let bestBid := extractBestLevel (value.get? "bids") true
    let bestAsk := extractBestLevel (value.get? "asks") false
    some (.bookSnapshot ((textField value "asset_id").getD "") bestBid.1 bestAsk.1 bestBid.2
      bestAsk.2 timestamp.1)

def parseClobEvent (value : Value) : ClobUpdate :=
  let eventType := (textField value "event_type").getD ""
  let (timestamp, timestampUs) :=
    normalizeSourceTimestamp ((unsignedField value "timestamp").getD 0)
  if eventType ∈ ["last_trade_price", "tick_size_change", "new_market", "market_resolved"] then
    parseMetaEvent value eventType timestamp timestampUs
  else if eventType = "best_bid_ask" then parseBestBidAskEvent value timestamp timestampUs
  else if eventType = "price_change" then parsePriceChangeEvent value timestamp timestampUs
  else (parseBookSnapshotEvent value).getD .ignored

theorem parseClobEvent_cases (value : Value) :
    (∃ eventType assetId timestamp timestampUs,
      parseClobEvent value = .metaEvent eventType assetId timestamp timestampUs) ∨
    (∃ assetId bidSize askSize timestamp timestampUs, parseClobEvent value = .bestBidAsk assetId
      ((parseF64Field value "best_bid").getD 0) ((parseF64Field value "best_ask").getD 0)
      bidSize askSize timestamp timestampUs) ∨
    (∃ assetId timestamp timestampUs changes bidSize askSize, parseClobEvent value =
      .priceChange assetId timestamp timestampUs changes (parseF64Field value "best_bid")
        (parseF64Field value "best_ask") bidSize askSize) ∨
    (∃ assetId bidSize askSize timestamp, parseClobEvent value = .bookSnapshot assetId
      (extractBestLevel (value.get? "bids") true).1 (extractBestLevel (value.get? "asks") false).1
      bidSize askSize timestamp) ∨
    parseClobEvent value = .ignored := by
  unfold parseClobEvent
  simp only
  by_cases hmeta : (textField value "event_type").getD "" ∈
      ["last_trade_price", "tick_size_change", "new_market", "market_resolved"]
  · rw [if_pos hmeta]
    exact .inl ⟨_, _, _, _, rfl⟩
  · rw [if_neg hmeta]
    by_cases hdirect : (textField value "event_type").getD "" = "best_bid_ask"
    · rw [if_pos hdirect]
      exact .inr (.inl ⟨_, _, _, _, _, rfl⟩)
    · rw [if_neg hdirect]
      by_cases hchange : (textField value "event_type").getD "" = "price_change"
      · rw [if_pos hchange]
        exact .inr (.inr (.inl ⟨_, _, _, _, _, _, rfl⟩))
      · rw [if_neg hchange]
        refine .inr (.inr (.inr ?_))
        unfold parseBookSnapshotEvent
        split
        · exact .inr rfl
        · exact .inl ⟨_, _, _, _, rfl⟩

/-! ## Sides of a book -/

/-- The sides of an order book. -/
inductive BookSide where
  | bid
  | ask
  deriving DecidableEq

namespace BookSide

def entrySide : BookSide → String
  | .bid => "BUY"
  | .ask => "SELL"

def levelsField : BookSide → String
  | .bid => "bids"
  | .ask => "asks"

def quoteField : BookSide → String
  | .bid => "best_bid"
  | .ask => "best_ask"

/-- Whether a price is no better than another one: bids are better the higher they are, asks the
lower. -/
def NoBetter : BookSide → ℚ → ℚ → Prop
  | .bid, price, best => price ≤ best
  | .ask, price, best => best ≤ price

instance (side : BookSide) : DecidableRel side.NoBetter :=
  match side with
  | .bid => fun price best => inferInstanceAs (Decidable (price ≤ best))
  | .ask => fun price best => inferInstanceAs (Decidable (best ≤ price))

instance (side : BookSide) : Std.Total side.NoBetter :=
  ⟨fun price best => by cases side <;> simp only [NoBetter, le_total]⟩

instance (side : BookSide) : IsTrans ℚ side.NoBetter :=
  ⟨fun first second third h h' => by
    cases side with
    | bid => exact le_trans h h'
    | ask => exact le_trans h' h⟩

/-- Where the search for the best level starts: at the worst price there is. -/
def worst : BookSide → ℚ
  | .bid => -f64Max
  | .ask => f64Max

end BookSide

variable (side : BookSide)

theorem keepBetter_eq (best : ℚ × ℚ) (level : Value) :
    keepBetter (side == .bid) best level =
      if side.NoBetter (readLevel level).1 best.1 then best else readLevel level := by
  cases side with
  | bid =>
    by_cases hle : (readLevel level).1 ≤ best.1
    · simp [keepBetter, BookSide.NoBetter, hle]
    · simp [keepBetter, BookSide.NoBetter, hle, not_le.mp hle]
  | ask =>
    by_cases hle : best.1 ≤ (readLevel level).1
    · simp [keepBetter, BookSide.NoBetter, hle]
    · simp [keepBetter, BookSide.NoBetter, hle, not_le.mp hle]

theorem foldl_keepBetter (first : ℚ × ℚ) (levels : List Value) :
    levels.foldl (keepBetter (side == .bid)) first =
      bestLevel side.NoBetter first (levels.map readLevel) := by
  have hstep : keepBetter (side == .bid) = fun best level =>
      if side.NoBetter (readLevel level).1 best.1 then best else readLevel level := by
    funext best level
    exact keepBetter_eq side best level
  rw [hstep, bestLevel, List.foldl_map]

theorem extractBestLevel_eq (levels : Option Value) :
    extractBestLevel levels (side == .bid) =
      let best := bestLevel side.NoBetter (side.worst, 0)
        (((levels.bind Value.asArray).getD []).map readLevel)
      if best.1 = side.worst then (0, 0) else best := by
  unfold extractBestLevel
  cases hitems : levels.bind Value.asArray with
  | none => simp [bestLevel]
  | some items =>
    cases items with
    | nil => simp [bestLevel]
    | cons level rest =>
      simp only [foldl_keepBetter, Option.getD_some]
      cases side <;> simp [BookSide.worst]

/-- No level of an array is better than the best one that is extracted. -/
theorem noBetter_extractBestLevel {levels : Option Value} {level : Value}
    (hlevel : level ∈ (levels.bind Value.asArray).getD [])
    (hworst : |(readLevel level).1| ≤ f64Max) :
    side.NoBetter (readLevel level).1 (extractBestLevel levels (side == .bid)).1 := by
  rw [extractBestLevel_eq]
  have hscan := (le_bestLevel (r := side.NoBetter) (side.worst, 0)
    (((levels.bind Value.asArray).getD []).map readLevel)).2 _ (List.mem_map_of_mem hlevel)
  simp only
  split
  · next hnone =>
      rw [hnone] at hscan
      have hpositive : 0 ≤ f64Max := (abs_nonneg _).trans hworst
      cases side with
      | bid =>
        have hle : (readLevel level).1 ≤ -f64Max := hscan
        exact hle.trans (neg_nonpos.mpr hpositive)
      | ask =>
        have hle : f64Max ≤ (readLevel level).1 := hscan
        exact hpositive.trans hle
  · exact hscan

end BubaPaint
