import BubaPaint.Feeds.SignalState
import BubaPaint.Replay.Ticks

/-!
# The feed state of a replay

The replay keeps the books twice: in the feed state, from which each update starts, and in the
signal state, which the strategies read. When a window opens the runner clears the second only.

Main results:

- Theorem `quotes_since_open_iff`: when the quotes shown are those of the current window.
-/

namespace BubaPaint

def TickSample.topOfBook (sample : TickSample) (timestamp : ℕ) : Option TopOfBook := do
  let bid ← sample.bid
  let ask ← sample.ask
  return {
    bestBid := bid
    bestAsk := ask
    bidSize := sample.bidSize.getD 0
    askSize := sample.askSize.getD 0
    timestamp
    observedAtMs := timestamp }

def TickGroup.clob (group : TickGroup) : SignalDirection → Option TickSample
  | .up => group.clobUp
  | .down => group.clobDown

def TickGroup.quote (group : TickGroup) (side : SignalDirection) : Option TopOfBook :=
  (group.clob side).bind (·.topOfBook group.timestamp)

def TickGroup.carriesClob (group : TickGroup) : Bool :=
  group.clobUp.isSome || group.clobDown.isSome

theorem observedAtMs_of_quote {group : TickGroup} {side : SignalDirection} {book : TopOfBook}
    (hquote : group.quote side = some book) : book.observedAtMs = book.timestamp := by
  simp only [TickGroup.quote, TickSample.topOfBook, Option.bind_eq_some_iff, Option.pure_def,
    Option.bind_eq_bind] at hquote
  obtain ⟨sample, -, bid, -, ask, -, hbook⟩ := hquote
  cases hbook
  rfl

theorem quote_of_not_carriesClob {group : TickGroup} (hcarries : ¬group.carriesClob = true)
    (side : SignalDirection) : group.quote side = none := by
  simp only [TickGroup.carriesClob, Bool.or_eq_true, not_or, Bool.not_eq_true,
    Option.isSome_eq_false_iff, Option.isNone_iff_eq_none] at hcarries
  cases side
  · simp [TickGroup.quote, TickGroup.clob, hcarries.1]
  · simp [TickGroup.quote, TickGroup.clob, hcarries.2]

/-- Return a usable replay depth size from top-level size or notional. -/
def replayDepthSize (size notional : Option ℚ) (price : ℚ) : ℚ :=
  match size.filter (0 < ·) with
  | some size => size
  | none => if 0 < price then max ((notional.map (· / price)).getD 0) 0 else 0

/-- Apply one replayed Binance top-of-book sample to signal state. -/
def updateBinanceBook (signalState : SignalState) (sample : TickSample) (timestamp : ℕ) :
    SignalState :=
  match sample.bid, sample.ask with
  | some bestBid, some bestAsk =>
    signalState.updateBinanceBook bestBid bestAsk (sample.bidSize.getD 0)
      (sample.askSize.getD 0) timestamp sample.sequenceKey
  | _, _ => signalState

/-- Apply one replayed Binance depth summary to signal state. -/
def updateBinanceDepth (signalState : SignalState) (sample : TickSample) (timestamp : ℕ) :
    SignalState :=
  match sample.bid, sample.ask with
  | some bestBid, some bestAsk =>
    signalState.updateBinanceDepth
      [⟨bestBid, replayDepthSize sample.bidSize sample.depthBidNotional bestBid⟩]
      [⟨bestAsk, replayDepthSize sample.askSize sample.depthAskNotional bestAsk⟩]
      timestamp sample.sequenceKey
  | _, _ => signalState

variable (signalState : SignalState) (sample : TickSample) (timestamp : ℕ)

@[simp]
theorem bookState_updateBinanceBook :
    (updateBinanceBook signalState sample timestamp).bookState = signalState.bookState := by
  unfold updateBinanceBook
  split <;> rfl

@[simp]
theorem bookState_updateBinanceDepth :
    (updateBinanceDepth signalState sample timestamp).bookState = signalState.bookState := by
  unfold updateBinanceDepth
  split <;> rfl

/-- The replay market state. -/
structure FeedState where
  binancePrice : Option ℚ
  chainlinkPrice : Option ℚ
  bookState : BookState
  signalState : SignalState
  binanceBookFromBookTicker : Bool

namespace FeedState

def new : FeedState where
  binancePrice := none
  chainlinkPrice := none
  bookState := .empty
  signalState := .new
  binanceBookFromBookTicker := false

/-- Record the trade price of a Binance sample, if it has one. -/
def recordBinanceTrade (state : FeedState) (group : TickGroup) (sample : TickSample) : FeedState :=
  match sample.price with
  | some price =>
    { state with
      binancePrice := some price
      signalState := state.signalState.updateBinanceTrade price (sample.tradeSize.getD 0)
        sample.signedQuantity group.timestamp group.timestampUs }
  | none => state

/-- Apply the Binance sample of a group. -/
def updateBinance (state : FeedState) (group : TickGroup) (sample : TickSample) : FeedState :=
  match sample.eventType with
  | "aggTrade" => state.recordBinanceTrade group sample
  | "bookTicker" =>
    { state with
      signalState := updateBinanceBook state.signalState sample group.timestamp
      binanceBookFromBookTicker := true }
  | "depth" =>
    let signalState :=
      if state.binanceBookFromBookTicker then state.signalState
      else updateBinanceBook state.signalState sample group.timestamp
    { state with
      signalState := updateBinanceDepth signalState sample group.timestamp }
  | _ =>
    let state := state.recordBinanceTrade group sample
    { state with
      signalState := updateBinanceBook state.signalState sample group.timestamp }

def updateChainlink (state : FeedState) (group : TickGroup) (sample : TickSample) : FeedState :=
  match sample.price with
  | some price =>
    { state with
      chainlinkPrice := some price
      signalState :=
        state.signalState.updateChainlink price group.timestamp group.timestampUs }
  | none => state

/-- Apply the CLOB samples of a group: the side that is not sampled keeps the stored book. -/
def updateClob (state : FeedState) (group : TickGroup) : FeedState :=
  if group.carriesClob then
    let bookState : BookState :=
      { up := (group.quote .up).or state.bookState.up
        down := (group.quote .down).or state.bookState.down }
    { state with
      bookState
      signalState := state.signalState.updateClob bookState group.timestamp group.timestampUs }
  else state

def update (state : FeedState) (group : TickGroup) : FeedState :=
  let state := group.binance.elim state (state.updateBinance group)
  let state := group.chainlink.elim state (state.updateChainlink group)
  state.updateClob group

/-- What the runner does to the feed state when a window opens. -/
def openWindow (state : FeedState) : FeedState :=
  { state with signalState := { state.signalState with bookState := .empty } }

def stored (state : FeedState) (side : SignalDirection) : Option TopOfBook :=
  sideBook state.bookState side

def shown (state : FeedState) (side : SignalDirection) : Option TopOfBook :=
  sideBook state.signalState.bookState side

variable (state : FeedState) (group : TickGroup) (sample : TickSample) (side : SignalDirection)

@[simp]
theorem stored_updateBinance : (state.updateBinance group sample).stored side =
    state.stored side := by
  unfold updateBinance recordBinanceTrade
  split <;> try rfl
  all_goals split <;> rfl

@[simp]
theorem shown_updateBinance : (state.updateBinance group sample).shown side = state.shown side := by
  unfold updateBinance recordBinanceTrade shown
  split
  · split <;> rfl
  · simp
  · split <;> simp
  · split <;> simp

@[simp]
theorem stored_updateChainlink : (state.updateChainlink group sample).stored side =
    state.stored side := by
  unfold updateChainlink
  split <;> rfl

@[simp]
theorem shown_updateChainlink : (state.updateChainlink group sample).shown side =
    state.shown side := by
  unfold updateChainlink
  split <;> rfl

theorem stored_updateClob :
    (state.updateClob group).stored side = (group.quote side).or (state.stored side) := by
  unfold updateClob
  split
  · cases side <;> rfl
  · rename_i hcarries
    rw [quote_of_not_carriesClob hcarries, Option.none_or]

theorem shown_updateClob :
    (state.updateClob group).shown side =
      if group.carriesClob then
        ((state.updateClob group).stored side).map normalizeObservedTimestamp
      else state.shown side := by
  unfold updateClob
  split
  · exact SignalState.sideBook_updateClob ..
  · rfl

theorem stored_update :
    (state.update group).stored side = (group.quote side).or (state.stored side) := by
  unfold update
  cases group.binance <;> cases group.chainlink <;> simp [stored_updateClob]

theorem shown_update :
    (state.update group).shown side =
      if group.carriesClob then
        ((state.update group).stored side).map normalizeObservedTimestamp
      else state.shown side := by
  unfold update
  cases group.binance <;> cases group.chainlink <;> simp [shown_updateClob]

@[simp]
theorem stored_openWindow : state.openWindow.stored side = state.stored side :=
  rfl

@[simp]
theorem shown_openWindow : state.openWindow.shown side = none :=
  sideBook_empty side

end FeedState

/-! ## Runs -/

/-- What happens to the feed state in the course of a replay. -/
inductive FeedStep where
  | update (group : TickGroup)
  | windowOpened

namespace FeedState

def apply (state : FeedState) : FeedStep → FeedState
  | .update group => state.update group
  | .windowOpened => state.openWindow

def run (steps : List FeedStep) : FeedState :=
  steps.foldl apply new

@[simp]
theorem run_nil : run [] = new :=
  rfl

@[simp]
theorem run_append_singleton (steps : List FeedStep) (step : FeedStep) :
    run (steps ++ [step]) = (run steps).apply step := by
  simp [run]

end FeedState

def groupsOf (steps : List FeedStep) : List TickGroup :=
  steps.filterMap fun
    | .update group => some group
    | .windowOpened => none

/-- The groups after the last window was opened. -/
def groupsSinceOpen (steps : List FeedStep) : List TickGroup :=
  steps.foldl
    (fun groups step =>
      match step with
      | .update group => groups ++ [group]
      | .windowOpened => [])
    []

variable {groups : List TickGroup} {side : SignalDirection}
variable (steps : List FeedStep) (group : TickGroup)

@[simp]
theorem groupsOf_update : groupsOf (steps ++ [.update group]) = groupsOf steps ++ [group] := by
  simp [groupsOf]

@[simp]
theorem groupsOf_windowOpened : groupsOf (steps ++ [.windowOpened]) = groupsOf steps := by
  simp [groupsOf]

@[simp]
theorem groupsSinceOpen_update :
    groupsSinceOpen (steps ++ [.update group]) = groupsSinceOpen steps ++ [group] := by
  simp [groupsSinceOpen]

@[simp]
theorem groupsSinceOpen_windowOpened : groupsSinceOpen (steps ++ [.windowOpened]) = [] := by
  simp [groupsSinceOpen]

theorem groupsSinceOpen_suffix : groupsSinceOpen steps <:+ groupsOf steps := by
  induction steps using List.reverseRecOn with
  | nil => exact List.suffix_refl _
  | append_singleton steps step ih =>
    cases step with
    | update group =>
      obtain ⟨before, hbefore⟩ := ih
      exact ⟨before, by simp [← hbefore]⟩
    | windowOpened => simp

def lastQuote (groups : List TickGroup) (side : SignalDirection) : Option TopOfBook :=
  (groups.filterMap (·.quote side)).getLast?

theorem lastQuote_append (groups later : List TickGroup) (side : SignalDirection) :
    lastQuote (groups ++ later) side = (lastQuote later side).or (lastQuote groups side) := by
  simp [lastQuote, List.filterMap_append, List.getLast?_append]

@[simp]
theorem lastQuote_singleton (side : SignalDirection) :
    lastQuote [group] side = group.quote side := by
  cases h : group.quote side <;> simp [lastQuote, h]

theorem lastQuote_eq_none_iff :
    lastQuote groups side = none ↔ ∀ group ∈ groups, group.quote side = none := by
  simp [lastQuote]

theorem exists_quote_of_lastQuote {book : TopOfBook} (hlast : lastQuote groups side = some book) :
    ∃ group ∈ groups, group.quote side = some book := by
  have hmem : book ∈ groups.filterMap (·.quote side) := List.mem_of_getLast? hlast
  simpa using hmem

theorem map_normalize_lastQuote (groups : List TickGroup) (side : SignalDirection) :
    (lastQuote groups side).map normalizeObservedTimestamp = lastQuote groups side := by
  cases hlast : lastQuote groups side with
  | none => rfl
  | some book =>
    obtain ⟨group, -, hquote⟩ := exists_quote_of_lastQuote hlast
    rw [Option.map_some, normalizeObservedTimestamp_of_eq (observedAtMs_of_quote hquote)]

namespace FeedState

theorem stored_run (steps : List FeedStep) (side : SignalDirection) :
    (run steps).stored side = lastQuote (groupsOf steps) side := by
  induction steps using List.reverseRecOn with
  | nil => exact sideBook_empty side
  | append_singleton steps step ih =>
    cases step with
    | update group => simp [apply, stored_update, lastQuote_append, ih]
    | windowOpened => simp [apply, ih]

theorem shown_run (steps : List FeedStep) (side : SignalDirection) :
    (run steps).shown side =
      if (groupsSinceOpen steps).any (·.carriesClob) then lastQuote (groupsOf steps) side
      else none := by
  induction steps using List.reverseRecOn with
  | nil => exact sideBook_empty side
  | append_singleton steps step ih =>
    cases step with
    | update group =>
      have hstored := stored_run (steps ++ [.update group]) side
      simp only [run_append_singleton, apply] at hstored ⊢
      rw [shown_update, hstored, map_normalize_lastQuote, ih]
      by_cases hcarries : group.carriesClob
      · simp [hcarries]
      · have hquote : group.quote side = none := quote_of_not_carriesClob hcarries side
        simp [hcarries, lastQuote_append, hquote]
    | windowOpened => simp [apply]

end FeedState

/-- Each side shown is a quote of one of the groups, and a side none of them quotes is empty. -/
def ShownFrom (state : FeedState) (groups : List TickGroup) : Prop :=
  ∀ side,
    (∀ book, state.shown side = some book → ∃ group ∈ groups, group.quote side = some book) ∧
      ((∀ group ∈ groups, group.quote side = none) → state.shown side = none)

/-- Once a window has seen a CLOB sample, each of its sides has been quoted since it opened, or
never at all. -/
def SidesRefreshed (steps : List FeedStep) : Prop :=
  (∃ group ∈ groupsSinceOpen steps, group.carriesClob = true) →
    ∀ side, (∀ group ∈ groupsSinceOpen steps, group.quote side = none) →
      ∀ group ∈ groupsOf steps, group.quote side = none

/-- At every point of a replay, the quotes shown are those of the current window exactly when no
side waits for its first quote while the other has had one. -/
theorem quotes_since_open_iff (steps : List FeedStep) :
    ShownFrom (FeedState.run steps) (groupsSinceOpen steps) ↔ SidesRefreshed steps := by
  constructor
  · intro hshown hcarries side hsince
    have hnone : (FeedState.run steps).shown side = none := (hshown side).2 hsince
    rw [FeedState.shown_run, if_pos (by simpa using hcarries)] at hnone
    exact lastQuote_eq_none_iff.mp hnone
  · intro hrefreshed side
    have hsource : ∀ book, (FeedState.run steps).shown side = some book →
        ∃ group ∈ groupsSinceOpen steps, group.quote side = some book := by
      intro book hbook
      rw [FeedState.shown_run] at hbook
      split at hbook
      · rename_i hcarries
        obtain ⟨before, hbefore⟩ := groupsSinceOpen_suffix steps
        cases hlast : lastQuote (groupsSinceOpen steps) side with
        | none =>
          -- no quote since the opening: the condition says there was never one
          have hnever := hrefreshed (by simpa using hcarries) side (lastQuote_eq_none_iff.mp hlast)
          rw [lastQuote_eq_none_iff.mpr hnever] at hbook
          cases hbook
        | some last =>
          rw [← hbefore, lastQuote_append, hlast, Option.some_or] at hbook
          cases hbook
          exact exists_quote_of_lastQuote hlast
      · cases hbook
    refine ⟨hsource, fun hsince => ?_⟩
    by_contra hsome
    obtain ⟨book, hbook⟩ := Option.ne_none_iff_exists'.mp hsome
    obtain ⟨group, hgroup, hquote⟩ := hsource book hbook
    rw [hsince group hgroup] at hquote
    cases hquote

def sampleUpGroup : TickGroup where
  timestamp := 1000
  timestampUs := some 1000000
  clobUp := some {
    eventType := "book"
    bid := some (9 / 10)
    ask := some (92 / 100)
    bidSize := some 50
    askSize := some 40
    microprice := none }
  fidelity := .rawEvent

def sampleDownGroup : TickGroup :=
  { sampleUpGroup with
    timestamp := 301000
    timestampUs := some 301000000
    clobUp := none
    clobDown := sampleUpGroup.clobUp }

/-- The UP side of one market is quoted, the next window opens and its DOWN side ticks first: the
UP quote of the market before is shown again. -/
theorem old_market_quote_returns :
    ¬∀ steps, ShownFrom (FeedState.run steps) (groupsSinceOpen steps) := by
  intro hall
  have hshown : (FeedState.run [.update sampleUpGroup, .windowOpened,
      .update sampleDownGroup]).shown .up = none :=
    (hall _ .up).2 (by decide +kernel)
  exact absurd hshown (by decide +kernel)

end BubaPaint
