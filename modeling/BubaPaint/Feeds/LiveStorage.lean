import BubaPaint.Config
import BubaPaint.Feeds.Events
import Mathlib.Algebra.Ring.Rat

/-!
# Live storage of feed rows

What the live loop keeps of the rows it sees, by storage profile. For CLOB rows the state remembers,
for each source and asset, the top of book of the last mutation and the connection of the last
snapshot: a mutation that repeats the former and a snapshot that repeats the latter are dropped.

Main results:

- Theorem `replay_grade_keeps_top_of_book`: the rows that are kept end in the latest top of book.
-/

namespace BubaPaint

open List

/-- The state of the storage filters. -/
structure FeedEventStorageState (F : Type) where
  profile : FeedEventStorageProfile
  binanceDepthBuckets : String → Option UInt64
  clobTopOfBook : String → Option (PersistedTopOfBook F)
  clobBookConnections : String → Option String
  rowsBySourceEvent : String → ℕ

section Rows

variable {F : Type}

/-- Zero out bulky payload fields on compact hot-path events. -/
def sanitizeHotEvent (event : FeedEvent F) : FeedEvent F :=
  { event with
    payloadJson := none
    detailsJson := none
    sourceTopic := none
    connectionId := none
    sequenceKey := none
    marketId :=
      if event.source == "binance" || event.source == "chainlink" then none else event.marketId }

/-- Strip bulky payloads while preserving replay-critical sequencing fields. -/
def sanitizeReplayEvent (event : FeedEvent F) : FeedEvent F :=
  { event with
    payloadJson := none
    detailsJson := none
    marketId :=
      if event.source == "binance" || event.source == "chainlink" then none else event.marketId }

@[simp]
theorem persistedTopOfBook_sanitizeReplayEvent (event : FeedEvent F) :
    persistedTopOfBook (sanitizeReplayEvent event) = persistedTopOfBook event :=
  rfl

/-- Build one stable per-side storage key for compact CLOB rows. -/
def clobStorageKey (event : FeedEvent F) : String :=
  event.source ++ ":" ++ event.assetId.getD "unknown"

variable [Zero F] [Add F] [Sub F] [Mul F] [Div F] [LE F] [DecidableLE F]

def bucketMs (timestampMs widthMs : UInt64) : UInt64 :=
  timestampMs / widthMs

def binanceDepthBucketMs : UInt64 := 250

/-- Sum the notional represented by one shallow depth side. -/
def depthNotional (levels : List (OrderLevel F)) : F :=
  levels.foldl (fun total level => total + level.price * level.size) 0

/-- Compute a normalized notional imbalance from bid and ask depth. -/
def computeDepthImbalance (bidNotional askNotional : Option F) : Option F := do
  let bidNotional ← bidNotional
  let askNotional ← askNotional
  let total := bidNotional + askNotional
  if total ≤ 0 then none else some ((bidNotional - askNotional) / total)

def computeMicroprice (bestBid bestAsk bidSize askSize : Option F) : Option F := do
  let bestBid ← bestBid
  let bestAsk ← bestAsk
  let bidSize ← bidSize
  let askSize ← askSize
  let totalSize := bidSize + askSize
  if totalSize ≤ 0 then none
  else some ((bestAsk * bidSize + bestBid * askSize) / totalSize)

def withMicroprice (event : FeedEvent F) : FeedEvent F :=
  { event with
    microprice := computeMicroprice event.bestBid event.bestAsk event.bidSize event.askSize }

omit [Sub F] in
@[simp]
theorem persistedTopOfBook_withMicroprice (event : FeedEvent F) :
    persistedTopOfBook (withMicroprice event) = persistedTopOfBook event :=
  rfl

end Rows

namespace FeedEventStorageState

variable {F : Type} [Zero F] [Add F] [Sub F] [Mul F] [Div F] [LE F] [DecidableLE F] [DecidableEq F]

/-- Build one storage-state tracker for the selected live persistence profile. -/
def new (profile : FeedEventStorageProfile) : FeedEventStorageState F where
  profile
  binanceDepthBuckets := fun _ => none
  clobTopOfBook := fun _ => none
  clobBookConnections := fun _ => none
  rowsBySourceEvent := fun _ => 0

def prepareBinanceTrade (state : FeedEventStorageState F) (event : FeedEvent F) (tradeSize : F)
    (signedQuantity : Option F) : FeedEvent F :=
  let event := { event with tradeSize := some tradeSize, signedQuantity }
  match state.profile with
  | .replayGrade => sanitizeReplayEvent event
  | .compact => sanitizeHotEvent event
  | .fullDebug => event

/-- Return one Binance top-of-book event for replay-capable storage profiles. -/
def prepareBinanceBookTicker (state : FeedEventStorageState F) (event : FeedEvent F) :
    Option (FeedEvent F) :=
  match state.profile with
  | .compact => none
  | .replayGrade => some (sanitizeReplayEvent event)
  | .fullDebug => some event

/-- Return one bucketed Binance depth summary event. -/
def prepareBinanceDepth (state : FeedEventStorageState F) (event : FeedEvent F)
    (symbol : Option String) (bidLevels askLevels : List (OrderLevel F)) :
    Option (FeedEvent F) × FeedEventStorageState F :=
  let bidNotional := depthNotional bidLevels
  let askNotional := depthNotional askLevels
  let event := withMicroprice { event with
    depthBidNotional := some bidNotional
    depthAskNotional := some askNotional
    depthImbalance := computeDepthImbalance (some bidNotional) (some askNotional) }
  match state.profile with
  | .fullDebug => (some event, state)
  | .replayGrade => (some (sanitizeReplayEvent event), state)
  | .compact =>
    let symbol := symbol.getD "binance"
    let bucket := bucketMs event.receivedAtMs binanceDepthBucketMs
    if state.binanceDepthBuckets symbol = some bucket then
      (none, state)
    else
      (some (sanitizeReplayEvent event),
        { state with
          binanceDepthBuckets := Function.update state.binanceDepthBuckets symbol (some bucket) })

def prepareChainlinkPrice (state : FeedEventStorageState F) (event : FeedEvent F) : FeedEvent F :=
  if state.profile = .fullDebug then event else sanitizeReplayEvent event

/-- Return one compact CLOB top-of-book event when it is actionable. -/
def prepareClobTopOfBook (state : FeedEventStorageState F) (event : FeedEvent F) :
    Option (FeedEvent F) × FeedEventStorageState F :=
  if state.profile = .fullDebug then (some event, state)
  else
    match persistedTopOfBook event with
    | none => (none, state)
    | some snapshot =>
      let key := clobStorageKey event
      if state.clobTopOfBook key = some snapshot then (none, state)
      else
        (some (sanitizeReplayEvent (withMicroprice event)),
          { state with clobTopOfBook := Function.update state.clobTopOfBook key (some snapshot) })

/-- Return one compact CLOB bootstrap snapshot per connection and side. -/
def prepareClobBookSnapshot (state : FeedEventStorageState F) (event : FeedEvent F) :
    Option (FeedEvent F) × FeedEventStorageState F :=
  let event := withMicroprice event
  if state.profile = .fullDebug then (some event, state)
  else
    let key := clobStorageKey event
    let connectionId := event.connectionId.getD ""
    if state.clobBookConnections key = some connectionId then (none, state)
    else
      (some (sanitizeReplayEvent event),
        { state with
          clobBookConnections :=
            Function.update state.clobBookConnections key (some connectionId) })

/-- Prepare one materialized CLOB row as the live loop does. -/
def prepareClob (state : FeedEventStorageState F) (event : FeedEvent F) :
    Option (FeedEvent F) × FeedEventStorageState F :=
  if event.eventType = "book" then state.prepareClobBookSnapshot event
  else if event.eventType = "price_change" ∨ event.eventType = "best_bid_ask" then
    state.prepareClobTopOfBook event
  else (some event, state)

def recordEnqueuedKey (state : FeedEventStorageState F) (source eventType : String) :
    FeedEventStorageState F :=
  let key := source ++ ":" ++ eventType
  { state with
    rowsBySourceEvent := Function.update state.rowsBySourceEvent key
      (state.rowsBySourceEvent key + 1) }

/-- The rows kept of a stream of CLOB rows. -/
def storeAll (state : FeedEventStorageState F) : List (FeedEvent F) → List (FeedEvent F)
  | [] => []
  | event :: rest =>
    let (stored, state) := state.prepareClob event
    stored.toList ++ state.storeAll rest

end FeedEventStorageState

/-! ## Streams of one source and asset -/

/-- A row of the stream of one key: a snapshot or a mutation that carries a top of book. -/
structure ClobRow {F : Type} (key : String) (event : FeedEvent F) : Prop where
  key : clobStorageKey event = key
  kind : event.eventType = "book" ∨ event.eventType = "price_change" ∨
    event.eventType = "best_bid_ask"
  complete : (persistedTopOfBook event).isSome = true

/-- The top of book that the rows end in. -/
def lastTopOfBook {F : Type} (events : List (FeedEvent F)) : Option (PersistedTopOfBook F) :=
  (events.filterMap persistedTopOfBook).getLast?

/-- The rows that are no repeated snapshots, after a snapshot of the given connection. -/
def retained {F : Type} (connection : Option String) : List (FeedEvent F) → List (FeedEvent F)
  | [] => []
  | event :: rest =>
    if event.eventType = "book" then
      if connection = some (event.connectionId.getD "") then retained connection rest
      else event :: retained (some (event.connectionId.getD "")) rest
    else event :: retained connection rest

/-- No mutation repeats the top of book of the mutation before it while a retained snapshot between
the two had another one. The parameters are the connection of the last snapshot and the top of book
of the last mutation and of the last retained row. -/
def MutationsCurrent {F : Type} (connection : Option String)
    (mutation top : Option (PersistedTopOfBook F)) : List (FeedEvent F) → Prop
  | [] => True
  | event :: rest =>
    if event.eventType = "book" then
      if connection = some (event.connectionId.getD "") then
        MutationsCurrent connection mutation top rest
      else
        MutationsCurrent (some (event.connectionId.getD "")) mutation (persistedTopOfBook event)
          rest
    else
      (mutation = persistedTopOfBook event → top = mutation) ∧
        MutationsCurrent connection (persistedTopOfBook event) (persistedTopOfBook event) rest

section Streams

variable {F : Type}
variable {event : FeedEvent F} {top : PersistedTopOfBook F} {connection : Option String}
variable {mutation : Option (PersistedTopOfBook F)} {events : List (FeedEvent F)}
variable {state : FeedEventStorageState F} {key : String}

@[simp]
theorem lastTopOfBook_nil : lastTopOfBook ([] : List (FeedEvent F)) = none :=
  rfl

theorem lastTopOfBook_cons (htop : persistedTopOfBook event = some top)
    (rest : List (FeedEvent F)) :
    lastTopOfBook (event :: rest) = (lastTopOfBook rest).or (some top) := by
  simp only [lastTopOfBook, filterMap_cons, htop, List.getLast?_cons]
  cases (rest.filterMap persistedTopOfBook).getLast? <;> rfl

theorem MutationsCurrent.of_append {top : Option (PersistedTopOfBook F)}
    {rest : List (FeedEvent F)} (h : MutationsCurrent connection mutation top (events ++ rest)) :
    MutationsCurrent connection mutation top events := by
  induction events generalizing connection mutation top with
  | nil => trivial
  | cons event events ih =>
    simp only [cons_append, MutationsCurrent] at h ⊢
    split
    · rename_i hbook
      simp only [hbook, if_true] at h
      split
      · rename_i hsame
        rw [if_pos hsame] at h
        exact ih h
      · rename_i hsame
        rw [if_neg hsame] at h
        exact ih h
    · rename_i hbook
      rw [if_neg hbook] at h
      exact ⟨h.1, ih h.2⟩

variable [Zero F] [Add F] [Mul F] [Div F] [LE F] [DecidableLE F] [DecidableEq F]

theorem prepareClob_book (hprofile : state.profile = .replayGrade)
    (hbook : event.eventType = "book") :
    state.prepareClob event =
      if state.clobBookConnections (clobStorageKey event) = some (event.connectionId.getD "") then
        (none, state)
      else
        (some (sanitizeReplayEvent (withMicroprice event)),
          { state with
            clobBookConnections := Function.update state.clobBookConnections (clobStorageKey event)
              (some (event.connectionId.getD "")) }) := by
  simp [FeedEventStorageState.prepareClob, hbook, FeedEventStorageState.prepareClobBookSnapshot,
    hprofile, withMicroprice, clobStorageKey]

theorem prepareClob_mutation (hprofile : state.profile = .replayGrade)
    (hkind : event.eventType = "price_change" ∨ event.eventType = "best_bid_ask")
    (htop : persistedTopOfBook event = some top) :
    state.prepareClob event =
      if state.clobTopOfBook (clobStorageKey event) = some top then (none, state)
      else
        (some (sanitizeReplayEvent (withMicroprice event)),
          { state with clobTopOfBook :=
              Function.update state.clobTopOfBook (clobStorageKey event) (some top) }) := by
  have hbook : event.eventType ≠ "book" := by
    rcases hkind with hkind | hkind <;> simp [hkind]
  simp [FeedEventStorageState.prepareClob, hbook, hkind,
    FeedEventStorageState.prepareClobTopOfBook, hprofile, htop]

/-- From any state of the filters, the rows kept end in the top of book of the last row that is no
repeated snapshot. -/
theorem lastTopOfBook_storeAll {top : Option (PersistedTopOfBook F)}
    (hprofile : state.profile = .replayGrade)
    (hconnection : state.clobBookConnections key = connection)
    (hmutation : state.clobTopOfBook key = mutation) (hrows : ∀ event ∈ events, ClobRow key event)
    (hcurrent : MutationsCurrent connection mutation top events) :
    (lastTopOfBook (state.storeAll events)).or top =
      (lastTopOfBook (retained connection events)).or top := by
  induction events generalizing state connection mutation top with
  | nil => rfl
  | cons event rest ih =>
    have hrow := hrows event mem_cons_self
    have hrest : ∀ later ∈ rest, ClobRow key later := fun later hmem =>
      hrows later (mem_cons_of_mem event hmem)
    obtain ⟨own, hown⟩ := Option.isSome_iff_exists.mp hrow.complete
    have hkept : persistedTopOfBook (sanitizeReplayEvent (withMicroprice event)) = some own := by
      simpa using hown
    by_cases hbook : event.eventType = "book"
    · have hstep := prepareClob_book hprofile hbook
      rw [hrow.key, hconnection] at hstep
      simp only [MutationsCurrent, hbook, if_true] at hcurrent
      by_cases hsame : connection = some (event.connectionId.getD "")
      · rw [if_pos hsame] at hstep hcurrent
        have hgo := ih hprofile hconnection hmutation hrest hcurrent
        simpa [FeedEventStorageState.storeAll, hstep, retained, hbook, if_pos hsame] using hgo
      · rw [if_neg hsame] at hstep hcurrent
        rw [hown] at hcurrent
        let next : FeedEventStorageState F := { state with
          clobBookConnections := Function.update state.clobBookConnections key
            (some (event.connectionId.getD "")) }
        have hprofile' : next.profile = .replayGrade := hprofile
        have hconnection' : next.clobBookConnections key = some (event.connectionId.getD "") :=
          Function.update_self ..
        have hmutation' : next.clobTopOfBook key = mutation := hmutation
        have hgo := ih hprofile' hconnection' hmutation' hrest hcurrent
        simp only [FeedEventStorageState.storeAll, hstep, retained, hbook, if_true, if_neg hsame,
          Option.toList_some, singleton_append]
        rw [lastTopOfBook_cons hkept, lastTopOfBook_cons hown, hgo]
    · have hkind := hrow.kind.resolve_left hbook
      have hstep := prepareClob_mutation hprofile hkind hown
      rw [hrow.key, hmutation] at hstep
      simp only [MutationsCurrent, if_neg hbook, hown] at hcurrent
      by_cases hsame : mutation = some own
      · -- A dropped mutation says what the last retained row said.
        have htop : top = some own := (hcurrent.1 hsame).trans hsame
        rw [if_pos hsame] at hstep
        have hcurrent' : MutationsCurrent connection mutation top rest := by
          rw [htop, hsame]
          exact hcurrent.2
        have hgo := ih hprofile hconnection hmutation hrest hcurrent'
        simp only [FeedEventStorageState.storeAll, hstep, retained, if_neg hbook,
          Option.toList_none, nil_append]
        rw [hgo, lastTopOfBook_cons hown, htop, Option.or_assoc, Option.or_self]
      · rw [if_neg hsame] at hstep
        let next : FeedEventStorageState F := { state with
          clobTopOfBook := Function.update state.clobTopOfBook key (some own) }
        have hprofile' : next.profile = .replayGrade := hprofile
        have hconnection' : next.clobBookConnections key = connection := hconnection
        have hmutation' : next.clobTopOfBook key = some own := Function.update_self ..
        have hgo := ih hprofile' hconnection' hmutation' hrest hcurrent.2
        simp only [FeedEventStorageState.storeAll, hstep, retained, if_neg hbook,
          Option.toList_some, singleton_append]
        rw [lastTopOfBook_cons hkept, lastTopOfBook_cons hown, hgo]

/-- A replay-grade state keeps one bootstrap snapshot per connection and every mutation that changes
the top of book: after every prefix, the rows kept end in the top of book of the last row that is no
repeated snapshot. -/
theorem replay_grade_keeps_top_of_book {key : String} {events sofar : List (FeedEvent F)}
    (hrows : ∀ event ∈ events, ClobRow key event)
    (hcurrent : MutationsCurrent none none none events) (hbefore : sofar <+: events) :
    lastTopOfBook ((FeedEventStorageState.new .replayGrade).storeAll sofar) =
      lastTopOfBook (retained none sofar) := by
  obtain ⟨rest, rfl⟩ := hbefore
  have hsofar : ∀ event ∈ sofar, ClobRow key event := fun event hmem =>
    hrows event (mem_append_left rest hmem)
  let start : FeedEventStorageState F := FeedEventStorageState.new .replayGrade
  have hprofile : start.profile = .replayGrade := rfl
  have hconnection : start.clobBookConnections key = none := rfl
  have hmutation : start.clobTopOfBook key = none := rfl
  have hlast := lastTopOfBook_storeAll hprofile hconnection hmutation hsofar hcurrent.of_append
  simpa using hlast

end Streams

def sampleClobRow (eventType connectionId : String) (bidSize askSize : ℚ) : FeedEvent ℚ where
  receivedAtMs := 1000
  eventAtMs := 1000
  receivedAtUs := some 1000000
  source := "clob_up"
  eventType
  sourceTopic := some "market"
  connectionId := some connectionId
  marketId := some "mkt-1"
  assetId := some "tok-up"
  bestBid := some (12 / 25)
  bestAsk := some (13 / 25)
  bidSize := some bidSize
  askSize := some askSize
  fidelity := .rawEvent

/-- A second snapshot on one connection is not kept, whatever it says. -/
theorem repeated_snapshot_dropped :
    (∀ event ∈ [sampleClobRow "book" "conn-1" 100 80, sampleClobRow "book" "conn-1" 20 80],
      ClobRow "clob_up:tok-up" event) ∧
    lastTopOfBook ((FeedEventStorageState.new .replayGrade).storeAll
        [sampleClobRow "book" "conn-1" 100 80, sampleClobRow "book" "conn-1" 20 80]) ≠
      lastTopOfBook [sampleClobRow "book" "conn-1" 100 80, sampleClobRow "book" "conn-1" 20 80] := by
  constructor
  · intro event hmem
    simp only [mem_cons, not_mem_nil, or_false] at hmem
    rcases hmem with rfl | rfl
    · exact ⟨by decide, Or.inl rfl, rfl⟩
    · exact ⟨by decide, Or.inl rfl, rfl⟩
  · decide +kernel

/-- A snapshot and two mutations, one of which repeats the snapshot's connection. -/
theorem replay_grade_keeps_top_of_book_sample :
    lastTopOfBook ((FeedEventStorageState.new .replayGrade).storeAll
        [sampleClobRow "book" "conn-1" 100 80, sampleClobRow "price_change" "conn-1" 90 80,
          sampleClobRow "best_bid_ask" "conn-1" 90 70]) =
      lastTopOfBook (retained none
        [sampleClobRow "book" "conn-1" 100 80, sampleClobRow "price_change" "conn-1" 90 80,
          sampleClobRow "best_bid_ask" "conn-1" 90 70]) := by
  have hrows : ∀ event ∈ [sampleClobRow "book" "conn-1" 100 80,
      sampleClobRow "price_change" "conn-1" 90 80, sampleClobRow "best_bid_ask" "conn-1" 90 70],
      ClobRow "clob_up:tok-up" event := by
    intro event hmem
    simp only [mem_cons, not_mem_nil, or_false] at hmem
    rcases hmem with rfl | rfl | rfl
    · exact ⟨by decide, Or.inl rfl, rfl⟩
    · exact ⟨by decide, Or.inr (Or.inl rfl), rfl⟩
    · exact ⟨by decide, Or.inr (Or.inr rfl), rfl⟩
  refine replay_grade_keeps_top_of_book hrows ?_ (prefix_refl _)
  simp [MutationsCurrent, sampleClobRow, persistedTopOfBook]

end BubaPaint
