import BubaPaint.Decision.Engine

/-!
# What becomes of a due order

Whether a due order waits, misses or is filled depends on the order, the window, the books and the
time alone. Both engines decide it the same way.
-/

namespace BubaPaint

/-- What becomes of an order, with the book it met. -/
inductive OrderVerdict where
  | deferred
  | missed (trackGroup : Bool) (reason : String) (book : Option TopOfBook)
  | filled (book : TopOfBook) (filledSize : ℚ)
  deriving DecidableEq

/-- What becomes of an order in a window. -/
def windowVerdict (config : Config) (window : MarketWindow) (bookState : BookState) (nowMs : ℕ)
    (order : QueuedOrderIntent) : OrderVerdict :=
  match sideBook bookState order.side with
  | none => .missed true "book_unavailable_on_arrival" none
  | some book =>
    match bookFillRejectionReason book nowMs order.limitPrice config.maxBookStalenessMs with
    | some reason => .missed true reason (some book)
    | none =>
      let tickSize := window.orderPriceMinTickSize.getD 0
      if tickSize > 0 ∧ (!priceIsTickAligned order.limitPrice tickSize ||
          !priceIsTickAligned book.bestAsk tickSize) then
        .missed true "tick_misaligned_on_arrival" (some book)
      else
        let filledSize := min order.requestedSize book.askSize
        if fillSizeRejected filledSize book.bestAsk (window.orderMinSize.getD 0)
            config.minBetUsd then
          .missed true "fill_below_min_on_arrival" (some book)
        else
          .filled book filledSize

/-- What becomes of an order: it waits until it arrives, and misses if its window is not the
current one. -/
def orderVerdict (config : Config) (currentWindow : Option MarketWindow) (bookState : BookState)
    (nowMs : ℕ) (order : QueuedOrderIntent) : OrderVerdict :=
  if order.arrivalTs > nowMs then .deferred
  else
    match currentWindow.filter fun window => window.marketId == order.marketId with
    | none => .missed false "window_missing_on_arrival" none
    | some window => windowVerdict config window bookState nowMs order

def OrderVerdict.isFilled : OrderVerdict → Bool
  | .filled .. => true
  | .deferred | .missed .. => false

def bookAgeMs (nowMs : ℕ) (book : TopOfBook) : ℕ :=
  nowMs - effectiveBookTimestamp book

section Verdict

variable {config : Config} {currentWindow : Option MarketWindow} {bookState : BookState}
variable {nowMs : ℕ} {order : QueuedOrderIntent}

theorem orderVerdict_of_early (h : nowMs < order.arrivalTs) :
    orderVerdict config currentWindow bookState nowMs order = .deferred :=
  if_pos h

theorem orderVerdict_of_missing (harrived : order.arrivalTs ≤ nowMs)
    (hwindow : (currentWindow.filter fun window => window.marketId == order.marketId) = none) :
    orderVerdict config currentWindow bookState nowMs order =
      .missed false "window_missing_on_arrival" none := by
  unfold orderVerdict
  rw [if_neg (not_lt.mpr harrived), hwindow]

theorem orderVerdict_of_current {window : MarketWindow} (harrived : order.arrivalTs ≤ nowMs)
    (hwindow : (currentWindow.filter fun window => window.marketId == order.marketId) =
      some window) :
    orderVerdict config currentWindow bookState nowMs order =
      windowVerdict config window bookState nowMs order := by
  unfold orderVerdict
  rw [if_neg (not_lt.mpr harrived), hwindow]

theorem orderVerdict_filled {book : TopOfBook} {filledSize : ℚ}
    (h : orderVerdict config currentWindow bookState nowMs order = .filled book filledSize) :
    order.arrivalTs ≤ nowMs ∧
      (∃ window, currentWindow = some window ∧ window.marketId = order.marketId) ∧
      sideBook bookState order.side = some book ∧
      filledSize = min order.requestedSize book.askSize ∧ 0 < filledSize ∧
      0 < book.bestAsk ∧ book.bestAsk ≤ order.limitPrice := by
  unfold orderVerdict at h
  split at h
  · cases h
  rename_i harrived
  split at h
  · cases h
  rename_i window hwindow
  obtain ⟨hcurrent, hmarket⟩ := Option.filter_eq_some_iff.mp hwindow
  unfold windowVerdict at h
  split at h
  · cases h
  rename_i side hside
  split at h
  · cases h
  rename_i hbook
  dsimp only at h
  split at h
  · cases h
  split at h
  · cases h
  rename_i hsize
  cases h
  have hask := ask_of_bookFillRejectionReason_eq_none hbook
  exact ⟨not_lt.mp harrived, ⟨window, hcurrent, by simpa using hmarket⟩, hside, rfl,
    pos_of_fillSizeRejected_eq_false (Bool.not_eq_true _ ▸ hsize), hask.1, hask.2⟩

end Verdict

theorem follow_windowVerdict {α : Type} (config : Config) (window : MarketWindow)
    (bookState : BookState) (nowMs : ℕ) (order : QueuedOrderIntent) (deferred : α)
    (missed : Bool → String → Option TopOfBook → α) (filled : TopOfBook → ℚ → α) :
    (match sideBook bookState order.side with
      | none => missed true "book_unavailable_on_arrival" none
      | some book =>
        match bookFillRejectionReason book nowMs order.limitPrice config.maxBookStalenessMs with
        | some reason => missed true reason (some book)
        | none =>
          if window.orderPriceMinTickSize.getD 0 > 0 ∧
              (!priceIsTickAligned order.limitPrice (window.orderPriceMinTickSize.getD 0) ||
                !priceIsTickAligned book.bestAsk (window.orderPriceMinTickSize.getD 0)) then
            missed true "tick_misaligned_on_arrival" (some book)
          else if fillSizeRejected (min order.requestedSize book.askSize) book.bestAsk
              (window.orderMinSize.getD 0) config.minBetUsd then
            missed true "fill_below_min_on_arrival" (some book)
          else filled book (min order.requestedSize book.askSize)) =
      match windowVerdict config window bookState nowMs order with
      | .deferred => deferred
      | .missed trackGroup reason book => missed trackGroup reason book
      | .filled book filledSize => filled book filledSize := by
  unfold windowVerdict
  cases sideBook bookState order.side with
  | none => rfl
  | some book =>
    dsimp only
    cases bookFillRejectionReason book nowMs order.limitPrice config.maxBookStalenessMs with
    | some reason => rfl
    | none =>
      dsimp only
      split
      · rfl
      split
      · rfl
      · rfl

/-- The decision engine follows the verdict. -/
theorem RuntimeDecisionEngine.processDueOrder_eq {σ : Type} (engine : RuntimeDecisionEngine σ)
    (order : RuntimePendingOrder) (request : RuntimeDecisionRequest) :
    engine.processDueOrder order request =
      match orderVerdict engine.config (some request.window) request.bookState request.nowMs
          (queuedOrderIntent order) with
      | .deferred => (.deferred order, engine)
      | .missed trackGroup reason book =>
        engine.rejectOrder order request
          { trackGroup, reason, bestAsk := book.map (·.bestAsk), askSize := book.map (·.askSize),
            freshnessMs := book.map (bookAgeMs request.nowMs) }
      | .filled book filledSize =>
        engine.fillOrder order request book (some (bookAgeMs request.nowMs book)) filledSize := by
  unfold processDueOrder
  by_cases harrived : order.arrivalTs > request.nowMs
  · rw [if_pos harrived, orderVerdict_of_early harrived]
  rw [if_neg harrived]
  by_cases hmarket : request.window.marketId = order.marketId
  · have hcurrent : ((some request.window).filter fun window =>
        window.marketId == (queuedOrderIntent order).marketId) = some request.window := by
      simp [Option.filter, queuedOrderIntent, hmarket]
    rw [if_neg (not_not.mpr hmarket), orderVerdict_of_current (not_lt.mp harrived) hcurrent]
    exact follow_windowVerdict engine.config request.window request.bookState request.nowMs
      (queuedOrderIntent order) (.deferred order, engine)
      (fun trackGroup reason book => engine.rejectOrder order request
        { trackGroup, reason, bestAsk := book.map (·.bestAsk), askSize := book.map (·.askSize),
          freshnessMs := book.map (bookAgeMs request.nowMs) })
      (fun book filledSize => engine.fillOrder order request book
        (some (bookAgeMs request.nowMs book)) filledSize)
  · have hmissing : ((some request.window).filter fun window =>
        window.marketId == (queuedOrderIntent order).marketId) = none := by
      simp [Option.filter, queuedOrderIntent, hmarket]
    rw [if_pos hmarket, orderVerdict_of_missing (not_lt.mp harrived) hmissing]
    rfl

end BubaPaint
