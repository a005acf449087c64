import BubaPaint.Decision.EngineOrders
import Mathlib.Data.List.DropRight

/-!
# The trading record

What closed trades leave in the decision engine: the balance, its high-water mark, the totals, the
latest results and the circuit breaker. Nothing else changes them.

Main results:

- Theorem `balance_adds_up`: the balance is the sum of the results, each stored with its close.
- Theorem `recent_results`: the results that are kept are the latest.
- Theorem `breaker_pauses_iff`: when the breaker withholds trading.
-/

namespace BubaPaint

open List RuntimeDecisionEngine

/-- What the store gets of a closed trade. -/
abbrev Close := TradeResult × BalancePersistenceEvent

def Close.won (close : Close) : Bool :=
  decide (0 < close.1.pnlNet)

def LivePersistenceEvent.close? : LivePersistenceEvent → Option Close
  | .closeTrade _ result balance => some (result, balance)
  | _ => none

/-- The closes among some events. -/
def closes (events : List LivePersistenceEvent) : List Close :=
  events.filterMap LivePersistenceEvent.close?

@[ext]
structure TradingRecord where
  balance : ℚ
  highWaterMark : ℚ
  fees : ℚ
  trades : ℕ
  wins : ℕ
  losses : ℕ
  results : List Bool
  rollingWindow : ℕ
  breaker : CircuitBreaker

namespace TradingRecord

/-- The record of a new engine. -/
def new (config : Config) (seed : RuntimeDecisionSeed) : TradingRecord where
  balance := seed.currentBalance
  highWaterMark := max seed.startingBalance seed.currentBalance
  fees := 0
  trades := 0
  wins := 0
  losses := 0
  results := []
  rollingWindow := config.kellyRollingWindow
  breaker := .new (config.circuitBreakerLosses % 2 ^ 32) config.circuitBreakerPauseMs

/-- The results with a new one, without the oldest if they are too many then. -/
def pushResult {α : Type} (rollingWindow : ℕ) (results : List α) (result : α) : List α :=
  let results := results ++ [result]
  if results.length > rollingWindow then results.tail else results

theorem map_pushResult {α β : Type} (f : α → β) (rollingWindow : ℕ) (results : List α)
    (result : α) : (pushResult rollingWindow results result).map f =
      pushResult rollingWindow (results.map f) (f result) := by
  unfold pushResult
  dsimp only
  split <;> simp_all

def add (record : TradingRecord) (close : Close) : TradingRecord where
  balance := record.balance + close.1.pnlNet
  highWaterMark := max record.highWaterMark (record.balance + close.1.pnlNet)
  fees := record.fees + close.1.feeAmount
  trades := record.trades + 1
  wins := if close.won then record.wins + 1 else record.wins
  losses := if close.won then record.losses else record.losses + 1
  results := pushResult record.rollingWindow record.results close.won
  rollingWindow := record.rollingWindow
  breaker := record.breaker.recordResult close.won close.2.timestampMs

/-- Each close is stored with its result and the balance after it. -/
inductive Booked : TradingRecord → List Close → TradingRecord → Prop
  | nil (record : TradingRecord) : Booked record [] record
  | cons {record last : TradingRecord} {close : Close} {rest : List Close}
      (hamount : close.2.amount = close.1.pnlNet)
      (hpnl : close.1.pnlNet = close.1.pnl0pct - close.1.feeAmount)
      (hbalance : close.2.balance = (record.add close).balance)
      (hrest : Booked (record.add close) rest last) : Booked record (close :: rest) last

variable {first middle last : TradingRecord} {before after : List Close}

theorem Booked.single {close : Close} (hamount : close.2.amount = close.1.pnlNet)
    (hpnl : close.1.pnlNet = close.1.pnl0pct - close.1.feeAmount)
    (hbalance : close.2.balance = (first.add close).balance) (hlast : last = first.add close) :
    Booked first [close] last :=
  .cons hamount hpnl hbalance (hlast ▸ .nil _)

theorem Booked.append (h : Booked first before middle) (hafter : Booked middle after last) :
    Booked first (before ++ after) last := by
  induction h with
  | nil => exact hafter
  | cons hamount hpnl hbalance _ ih => exact .cons hamount hpnl hbalance (ih hafter)

/-- The totals are those of the closes, and so is each balance that is stored. -/
structure AddsUp (first : TradingRecord) (closes : List Close) (last : TradingRecord) : Prop where
  balance : last.balance = first.balance + (closes.map (·.1.pnlNet)).sum
  fees : last.fees = first.fees + (closes.map (·.1.feeAmount)).sum
  trades : last.trades = first.trades + closes.length
  wins : last.wins = first.wins + closes.countP (·.won)
  losses : last.losses = first.losses + closes.countP (!·.won)
  highWaterMark : last.highWaterMark = (closes.map (·.2.balance)).foldl max first.highWaterMark
  history : ∀ before close after, closes = before ++ close :: after →
    close.2.amount = close.1.pnlNet ∧ close.1.pnlNet = close.1.pnl0pct - close.1.feeAmount ∧
      close.2.balance = first.balance + (before.map (·.1.pnlNet)).sum + close.1.pnlNet

variable {closes : List Close}

theorem Booked.addsUp (h : Booked first closes last) : AddsUp first closes last := by
  induction h with
  | nil record => constructor <;> simp
  | @cons record last close rest hamount hpnl hbalance _ ih =>
    refine ⟨?_, ?_, ?_, ?_, ?_, ?_, ?_⟩
    · simp [ih.balance, add, add_assoc]
    · simp [ih.fees, add, add_assoc]
    · simp [ih.trades, add]
      omega
    · by_cases hwon : close.won <;> simp [ih.wins, add, hwon]
      omega
    · by_cases hwon : close.won <;> simp [ih.losses, add, hwon]
      omega
    · simp only [ih.highWaterMark, map_cons, foldl_cons, hbalance, add]
    · intro before other after hcloses
      cases before with
      | nil =>
        cases hcloses
        exact ⟨hamount, hpnl, by simp [hbalance, add]⟩
      | cons head before =>
        cases hcloses
        simpa [add, add_assoc] using ih.history before other after rfl

theorem foldl_pushResult (rollingWindow : ℕ) (results : List Bool) :
    results.foldl (pushResult rollingWindow) [] = results.rtake rollingWindow := by
  induction results using List.reverseRecOn with
  | nil => simp
  | append_singleton results won ih =>
    rw [foldl_concat, ih, pushResult, List.rtake, List.rtake,
      ← drop_append_of_le_length (by omega)]
    simp only [length_drop, length_append, length_singleton, tail_drop]
    split <;> (congr 1; omega)

theorem Booked.results {first last : TradingRecord} (h : Booked first closes last) :
    last.results = (closes.map (·.won)).foldl (pushResult first.rollingWindow) first.results := by
  induction h with
  | nil => rfl
  | cons _ _ _ _ ih => exact ih

theorem Booked.breaker {first last : TradingRecord} (h : Booked first closes last) :
    last.breaker = closes.foldl
      (fun breaker close => breaker.recordResult close.won close.2.timestampMs) first.breaker := by
  induction h with
  | nil => rfl
  | cons _ _ _ _ ih => exact ih

end TradingRecord

open TradingRecord

/-! ## What leaves the record alone -/

namespace BankrollManager

variable (bankroll : BankrollManager) (breaker : CircuitBreaker) (config : Config) (nowMs : ℕ)

def record : TradingRecord where
  balance := bankroll.currentBalance
  highWaterMark := bankroll.highWaterMark
  fees := bankroll.totalFees
  trades := bankroll.totalTrades
  wins := bankroll.totalWins
  losses := bankroll.totalLosses
  results := bankroll.recentResults.map (·.won)
  rollingWindow := bankroll.kellyRollingWindow
  breaker := breaker

theorem record_canTrade :
    (bankroll.canTrade config nowMs).2.record breaker = bankroll.record breaker := by
  unfold canTrade rearmDdPause
  dsimp only
  repeat' split
  all_goals rfl

theorem record_reserveCapitalWithReservePrice (entryPrice reservePrice confidence : ℚ)
    (strategy : String) (family : StrategyFamily) :
    (bankroll.reserveCapitalWithReservePrice entryPrice reservePrice confidence strategy family
      config nowMs).2.record breaker = bankroll.record breaker := by
  rw [← bankroll.record_canTrade breaker config nowMs]
  unfold reserveCapitalWithReservePrice
  dsimp only
  repeat' split
  all_goals rfl

theorem record_reserveSpreadCapital (upAsk downAsk : ℚ) :
    (bankroll.reserveSpreadCapital upAsk downAsk config nowMs).2.record breaker =
      bankroll.record breaker := by
  rw [← bankroll.record_canTrade breaker config nowMs]
  unfold reserveSpreadCapital reserveSpreadCapitalForFamily
  dsimp only
  repeat' split
  all_goals rfl

end BankrollManager

namespace RuntimeDecisionEngine

variable {σ : Type} (engine : RuntimeDecisionEngine σ)

def record : TradingRecord :=
  engine.bankroll.record engine.circuitBreaker

theorem record_releaseUnspent (order : RuntimePendingOrder) (fillCost : ℚ) :
    (engine.releaseUnspent order fillCost).record = engine.record := by
  rw [releaseUnspent_eq]
  rfl

theorem record_processDueOrder (order : RuntimePendingOrder) (request : RuntimeDecisionRequest) :
    (engine.processDueOrder order request).2.record = engine.record := by
  rcases engine.processDueOrder_cases order request with h | ⟨-, miss, h⟩ | ⟨book, age, h, -⟩
  · rw [h]
  · rw [h]
    rfl
  · rw [h]
    exact engine.record_releaseUnspent order _

theorem record_processDueOrders (request : RuntimeDecisionRequest) :
    (engine.processDueOrders request).2.2.record = engine.record := by
  refine List.foldlRecOn (motive := fun due : DueOrders σ => due.engine.record = engine.record)
    engine.pendingOrders _ rfl ?_
  intro due hdue order _
  rw [← hdue, ← due.engine.record_processDueOrder order request]
  unfold DueOrders.step
  split
  all_goals simp_all
  rfl

theorem record_allocateSignalIds (count : ℕ) :
    (engine.allocateSignalIds count).2.record = engine.record := by
  induction count generalizing engine with
  | zero => rfl
  | succ count ih => exact ih _

end RuntimeDecisionEngine

namespace DecisionPass

variable {σ : Type} (pass : DecisionPass σ) (request : RuntimeDecisionRequest)

theorem record_submitSingle (signal : Signal) (signalId : ℤ) (family : StrategyFamily) :
    (pass.submitSingle request signal signalId family).2.engine.record = pass.engine.record := by
  have hreserve := fun price limit => pass.engine.bankroll.record_reserveCapitalWithReservePrice
    pass.engine.circuitBreaker pass.engine.config request.nowMs price limit signal.confidence
      signal.strategy family
  unfold submitSingle
  split
  · rfl
  · dsimp only
    split
    · exact hreserve _ _
    split
    · exact hreserve _ _
    · exact hreserve _ _

theorem record_submitSpread (signals : List Signal) (signalIds : List ℤ) :
    (pass.submitSpread request signals signalIds).2.engine.record = pass.engine.record := by
  have hreserve := pass.engine.bankroll.record_reserveSpreadCapital pass.engine.circuitBreaker
    pass.engine.config request.nowMs
  have hrejected : ∀ (pass' : DecisionPass σ) (reason : String),
      (pass'.rejectSpread request signals signalIds reason).2.engine = pass'.engine :=
    fun pass' reason => pass'.engine_persistSpreadSignals ..
  unfold submitSpread
  split
  · rfl
  dsimp only
  split
  · rw [hrejected]
  split
  · rw [hrejected]
  split
  · rw [hrejected]
    exact hreserve _ _
  split
  · rw [hrejected]
    exact hreserve _ _
  · rw [engine_persistSpreadSignals]
    exact hreserve _ _

theorem engine_forwardLiveOrders (outcome : SubmissionOutcome) :
    (pass.forwardLiveOrders outcome).engine = pass.engine := by
  unfold forwardLiveOrders
  split <;> rfl

theorem record_handleCandidate (selectedFamily : Option StrategyFamily) (regime : PortfolioRegime)
    (candidate : EvaluatedRuntimeCandidate) :
    (pass.handleCandidate request selectedFamily regime candidate).engine.record =
      pass.engine.record := by
  unfold handleCandidate
  split
  · rfl
  split
  · unfold handleSingleCandidate
    dsimp only
    split
    · rfl
    split
    · rfl
    · unfold log
      rw [engine_forwardLiveOrders, record_submitSingle]
      rfl
  · unfold handleBatchCandidate
    dsimp only
    split
    · rfl
    · unfold log
      rw [engine_forwardLiveOrders, record_submitSpread]
      exact pass.engine.record_allocateSignalIds _
  · rfl
  · rfl

end DecisionPass

/-! ## Runs -/

variable {events : List LivePersistenceEvent}

theorem closes_eq_nil (hevents : ∀ event ∈ events, event.isTrade = false) : closes events = [] := by
  refine filterMap_eq_nil_iff.mpr fun event hevent => ?_
  have hother := hevents event hevent
  cases event with
  | closeTrade => cases hother
  | _ => rfl

theorem DueRun.closes_eq_nil {request : RuntimeDecisionRequest} {mode : ExecutionMode}
    {books books' : Books} (h : DueRun request mode books events books') : closes events = [] := by
  induction h with
  | nil => rfl
  | cons hstep _ ih =>
    unfold closes at ih ⊢
    rw [filterMap_append, ih, append_nil]
    cases hstep with
    | missed _ _ _ _ _ _ hevent => exact BubaPaint.closes_eq_nil (by simpa using hevent)
    | filled _ _ _ event _ _ _ _ _ hevent =>
      have hnone : closes [event] = [] := BubaPaint.closes_eq_nil (by simpa using hevent)
      exact (filterMap_append (l := [event])).trans (by rw [← closes, hnone]; rfl)

namespace RuntimeDecisionEngine

variable {σ : Type} (engine : RuntimeDecisionEngine σ)

theorem booked_settleTrade (feeParams : FeeParams) (outcome : SignalDirection) (nowMs : ℕ)
    (pass : DecisionPass σ) (trade : SimulatedTrade) :
    ∃ events, (settleTrade feeParams outcome nowMs pass trade).persistenceEvents =
        pass.persistenceEvents ++ events ∧
      Booked pass.engine.record (closes events)
        (settleTrade feeParams outcome nowMs pass trade).engine.record := by
  unfold settleTrade
  cases trade.id with
  | none => exact ⟨[], (append_nil _).symm, .nil _⟩
  | some tradeId =>
    refine ⟨[_], rfl, .single rfl rfl rfl ?_⟩
    exact TradingRecord.ext rfl rfl rfl rfl rfl rfl (map_pushResult ..) rfl rfl

theorem booked_foldl_settleTrade (feeParams : FeeParams) (outcome : SignalDirection) (nowMs : ℕ)
    (trades : List SimulatedTrade) (pass : DecisionPass σ) :
    ∃ events, (trades.foldl (settleTrade feeParams outcome nowMs) pass).persistenceEvents =
        pass.persistenceEvents ++ events ∧
      Booked pass.engine.record (closes events)
        (trades.foldl (settleTrade feeParams outcome nowMs) pass).engine.record := by
  induction trades generalizing pass with
  | nil => exact ⟨[], by simp, .nil _⟩
  | cons trade rest ih =>
    obtain ⟨events, hevents, hbooked⟩ := booked_settleTrade feeParams outcome nowMs pass trade
    obtain ⟨events', hevents', hbooked'⟩ := ih (settleTrade feeParams outcome nowMs pass trade)
    rw [foldl_cons]
    refine ⟨events ++ events', by rw [hevents', hevents, append_assoc], ?_⟩
    rw [closes, filterMap_append]
    exact hbooked.append hbooked'

/-- The engine has the record of another one. -/
def SameRecord (engine' : RuntimeDecisionEngine σ) : Prop :=
  engine'.record = engine.record

theorem record_applyLiveSubmissionFeedback (fills : List LiveOrderFillFeedback)
    (rejectedSignalIds : List ℤ) (nowMs : ℕ) :
    engine.SameRecord (engine.applyLiveSubmissionFeedback fills rejectedSignalIds nowMs) := by
  have hremove : ∀ (engine : RuntimeDecisionEngine σ) signalId,
      (engine.removePendingOrder signalId).2.record = engine.record := by
    intro engine signalId
    unfold removePendingOrder
    split <;> rfl
  refine List.foldlRecOn (motive := engine.SameRecord) fills _ ?_ fun engine' h fill _ => ?_
  · exact List.foldlRecOn (motive := engine.SameRecord) rejectedSignalIds _ rfl
      fun engine' h signalId _ => (hremove engine' signalId).trans h
  refine .trans ?_ h
  rw [← hremove engine' fill.signalId]
  unfold applyLiveFill
  split
  · rename_i hnone
    rw [hnone]
  · rename_i order engine₁ hsome
    rw [hsome]
    split
    · rfl
    · exact engine₁.record_releaseUnspent order _

theorem record_releaseReservations (releases : List (String × ℚ)) :
    engine.SameRecord (engine.releaseReservations releases) :=
  List.foldlRecOn (motive := engine.SameRecord) releases _ rfl fun _ h _ _ => h

theorem record_windowClosed (window : MarketWindow) (nowMs : ℕ) :
    (engine.windowClosed window nowMs).2.record = engine.record :=
  List.foldlRecOn (motive := fun bankroll : BankrollManager =>
    bankroll.record engine.circuitBreaker = engine.record) _ _ rfl fun _ h _ _ => h

variable [Strategy σ]

theorem record_evaluate (request : RuntimeDecisionRequest) :
    (engine.evaluate request).2.record = engine.record := by
  refine engine.evaluate_keeps (fun _ engine' => engine'.record = engine.record)
    strategiesLabelled_anyLabel (fun _ => rfl) ?_ ?_ ?_
  · exact fun _ => engine.record_processDueOrders request
  · exact fun _ _ _ h => h
  · intro pass candidate selectedFamily regime _ h
    exact (pass.record_handleCandidate request selectedFamily regime candidate).trans h

theorem booked_receive (message : EngineMessage) :
    Booked engine.record (closes (engine.emitted message)) (engine.receive message).record := by
  have hsame : ∀ {events engine'}, closes events = [] → engine.SameRecord engine' →
      Booked engine.record (closes events) engine'.record := by
    intro events engine' hcloses hrecord
    rw [hcloses, hrecord]
    exact .nil _
  cases message with
  | evaluate request =>
    obtain ⟨dueEvents, events, orders, books, hdecides⟩ :=
      engine.evaluate_run strategiesLabelled_anyLabel request
    obtain ⟨-, -, -, hevents, -⟩ := hdecides.candidates.frame
    have hdue : closes dueEvents = [] := by
      have hphase := hdecides.due
      unfold DuePhase at hphase
      split at hphase
      · rw [hphase.1]
        rfl
      · exact hphase.closes_eq_nil
    refine hsame ?_ (engine.record_evaluate request)
    rw [emitted, hdecides.persistenceEvents, closes, filterMap_append, ← closes, hdue]
    exact closes_eq_nil hevents
  | liveFeedback fills rejectedSignalIds nowMs =>
    exact hsame rfl (engine.record_applyLiveSubmissionFeedback fills rejectedSignalIds nowMs)
  | releaseReservations releases => exact hsame rfl (engine.record_releaseReservations releases)
  | windowClosed window nowMs =>
    exact hsame (closes_eq_nil (engine.windowClosed_events window nowMs))
      (engine.record_windowClosed window nowMs)
  | authoritativeResolution window outcome nowMs =>
    obtain ⟨events, hevents, hbooked⟩ := booked_foldl_settleTrade
      (resolveFeeParams engine.config (some window) nowMs) outcome nowMs
      (engine.exposure.removeMarket window.marketId).1
      ((DecisionPass.start
        { engine with exposure := (engine.exposure.removeMarket window.marketId).2 }).emit
          (.marketResolved window.marketId outcome.display))
    have hemitted : closes (engine.emitted (.authoritativeResolution window outcome nowMs)) =
        closes events := (congrArg closes hevents).trans rfl
    rw [hemitted]
    exact hbooked
  | flushAll nowMs =>
    exact hsame (closes_eq_nil fun _ => isTrade_of_mem_summaryEvents) rfl

/-- The events of a run and the engine after it. -/
def runAll (engine : RuntimeDecisionEngine σ) :
    List EngineMessage → List LivePersistenceEvent × RuntimeDecisionEngine σ
  | [] => ([], engine)
  | message :: rest =>
    let (events, last) := (engine.receive message).runAll rest
    (engine.emitted message ++ events, last)

theorem booked_runAll (messages : List EngineMessage) :
    Booked engine.record (closes (engine.runAll messages).1) (engine.runAll messages).2.record := by
  induction messages generalizing engine with
  | nil => exact .nil _
  | cons message rest ih =>
    unfold runAll
    rw [closes, filterMap_append]
    exact (engine.booked_receive message).append (ih (engine.receive message))

omit [Strategy σ] in
theorem record_new (config : Config) (strategies : List σ) (seed : RuntimeDecisionSeed) :
    (new config strategies seed).record = .new config seed := by
  refine List.foldlRecOn (motive := fun bankroll : BankrollManager =>
    bankroll.record (.new (config.circuitBreakerLosses % 2 ^ 32) config.circuitBreakerPauseMs) =
      .new config seed) _ _ rfl fun bankroll h exposure _ => ?_
  rw [← h]
  unfold BankrollManager.hydrateTradeReserve
  split <;> rfl

theorem booked_run (config : Config) (strategies : List σ) (seed : RuntimeDecisionSeed)
    (messages : List EngineMessage) :
    let run := (new config strategies seed).runAll messages
    Booked (.new config seed) (closes run.1) run.2.record :=
  record_new config strategies seed ▸ booked_runAll _ messages

end RuntimeDecisionEngine

/-- In every run of the engine its balance is the first one and the results of all trades it has
closed, and each close is stored with its result and the balance at that point; the high-water mark
is the largest balance there was, and the totals are those of the closes. -/
theorem balance_adds_up {σ : Type} [Strategy σ] (config : Config) (strategies : List σ)
    (seed : RuntimeDecisionSeed) (messages : List EngineMessage) :
    let run := (new config strategies seed).runAll messages
    AddsUp (.new config seed) (closes run.1) run.2.record :=
  (booked_run config strategies seed messages).addsUp

/-- In every run the results that are kept are those of the latest trades it has closed. -/
theorem recent_results {σ : Type} [Strategy σ] (config : Config) (strategies : List σ)
    (seed : RuntimeDecisionSeed) (messages : List EngineMessage) :
    let run := (new config strategies seed).runAll messages
    run.2.bankroll.recentResults.map (·.won) =
      ((closes run.1).map (·.won)).rtake config.kellyRollingWindow :=
  (booked_run config strategies seed messages).results.trans (foldl_pushResult ..)

/-! ## The circuit breaker -/

/-- The losses in a row up to the latest close, which comes first. -/
def lossStreak (closes : List Close) : ℕ :=
  (closes.takeWhile (!·.won)).length

/-- The latest close that makes the losses in a row a multiple of the limit. -/
def lastTrip (maxLosses : ℕ) : List Close → Option Close
  | [] => none
  | close :: earlier =>
    if close.won = false ∧ max maxLosses 1 ∣ lossStreak (close :: earlier) then some close
    else lastTrip maxLosses earlier

theorem breaker_foldr (maxLosses pauseMs : ℕ) (closes : List Close) :
    closes.foldr (fun close breaker => breaker.recordResult close.won close.2.timestampMs)
        (CircuitBreaker.new maxLosses pauseMs) =
      { consecutiveLosses := lossStreak closes % max maxLosses 1
        pauseUntil :=
          (lastTrip maxLosses closes).elim 0 fun close => (close.2.timestampMs + pauseMs) % 2 ^ 64
        maxLosses := maxLosses
        pauseMs := pauseMs } := by
  induction closes with
  | nil => simp [lossStreak, lastTrip, CircuitBreaker.new]
  | cons close earlier ih =>
    rw [foldr_cons, ih]
    unfold CircuitBreaker.recordResult
    by_cases hwon : close.won = true
    · simp [hwon, lastTrip, lossStreak]
    have hstreak : lossStreak (close :: earlier) = lossStreak earlier + 1 := by
      simp [lossStreak, hwon]
    have hlt : lossStreak earlier % max maxLosses 1 < max maxLosses 1 := Nat.mod_lt _ (by omega)
    have hdvd : max maxLosses 1 ∣ lossStreak earlier + 1 ↔
        lossStreak earlier % max maxLosses 1 + 1 ≥ maxLosses := by
      rw [Nat.dvd_iff_mod_eq_zero, ← Nat.mod_add_mod]
      constructor
      · intro hzero
        exact (le_max_left ..).trans (Nat.le_of_dvd (Nat.succ_pos _) (Nat.dvd_of_mod_eq_zero hzero))
      · intro hle
        rw [show lossStreak earlier % max maxLosses 1 + 1 = max maxLosses 1 by omega, Nat.mod_self]
    rw [if_neg hwon, hstreak, lastTrip, hstreak]
    by_cases hfull : lossStreak earlier % max maxLosses 1 + 1 ≥ maxLosses
    · rw [if_pos hfull, if_pos ⟨Bool.eq_false_iff.mpr hwon, hdvd.mpr hfull⟩,
        Nat.mod_eq_zero_of_dvd (hdvd.mpr hfull)]
      rfl
    · have hnext : lossStreak earlier % max maxLosses 1 + 1 < max maxLosses 1 := by omega
      rw [if_neg hfull, if_neg fun h => hfull (hdvd.mp h.2), ← Nat.mod_eq_of_lt hnext,
        Nat.mod_add_mod]

/-- In every run the breaker withholds trading exactly during the pause after the latest loss that
makes the losses in a row a multiple of the limit. -/
theorem breaker_pauses_iff {σ : Type} [Strategy σ] (config : Config) (strategies : List σ)
    (seed : RuntimeDecisionSeed) (messages : List EngineMessage) (now : ℕ) :
    let run := (new config strategies seed).runAll messages
    run.2.circuitBreaker.canTrade now = false ↔
      ∃ close ∈ lastTrip (config.circuitBreakerLosses % 2 ^ 32) (closes run.1).reverse,
        now < (close.2.timestampMs + config.circuitBreakerPauseMs) % 2 ^ 64 := by
  intro run
  have hbreaker : run.2.circuitBreaker = _ :=
    (booked_run config strategies seed messages).breaker
  rw [hbreaker, ← foldr_reverse, TradingRecord.new, breaker_foldr]
  cases lastTrip _ (closes run.1).reverse <;> simp [CircuitBreaker.canTrade]

end BubaPaint
