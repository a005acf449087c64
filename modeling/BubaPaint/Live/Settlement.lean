import BubaPaint.Decision.Messages
import Mathlib.Data.List.AList

/-!
# Delivering settlements

When a window closes, the loop sends the strategy worker a notice and registers the market until its
outcome is known. A timer takes the due markets out of the registry and polls their outcomes. A poll
without an outcome registers its market again; an outcome is sent to the strategy worker, whose
bounded queue may be full.

Main results:

- Theorem `Pursued.step`: a step loses no settlement while the queue has room.
- Theorem `settlements_delivered`: nor does a run of such steps.
- Theorem `refused_outcome_lost`: an outcome that a full queue refuses is lost.
-/

namespace BubaPaint

open Effects List

/-- One market that still needs authoritative settlement, under its name. -/
structure PendingResolution (marketId : String) where
  window : MarketWindow
  nextAttemptAtMs : ℕ
  seededFromStartup : Bool
  named : window.marketId = marketId

abbrev PendingResolutions : Type :=
  AList PendingResolution

/-- Register or update one market that still needs authoritative settlement. -/
def schedulePendingResolution (pendingResolutions : PendingResolutions) (window : MarketWindow)
    (nextAttemptAtMs : ℕ) (seededFromStartup : Bool) : PendingResolutions :=
  match pendingResolutions.lookup window.marketId with
  | some pending =>
    pendingResolutions.insert window.marketId
      { pending with
        nextAttemptAtMs := min pending.nextAttemptAtMs nextAttemptAtMs
        seededFromStartup := pending.seededFromStartup && seededFromStartup }
  | none =>
    pendingResolutions.insert window.marketId
      { window := window
        nextAttemptAtMs := nextAttemptAtMs
        seededFromStartup := seededFromStartup
        named := rfl }

/-- Seed the durable authoritative-settlement registry from unresolved open trades. -/
def seedPendingResolutions (config : Config) (nowMs : ℕ)
    (unresolved : Except String (List MarketWindow)) : PendingResolutions :=
  match unresolved with
  | .error _ => ∅
  | .ok markets =>
    markets.foldl
      (fun pendingResolutions window =>
        schedulePendingResolution pendingResolutions window
          (max (saturatingAdd window.endTime config.resolutionInitialDelayMs) nowMs) true)
      ∅

/-- Take one market out of the registry. -/
def takePendingResolution (taken : List (Sigma PendingResolution) × PendingResolutions)
    (marketId : String) : List (Sigma PendingResolution) × PendingResolutions :=
  match taken.2.lookup marketId with
  | some pending => (taken.1 ++ [⟨marketId, pending⟩], taken.2.erase marketId)
  | none => taken

/-- The markets whose next attempt is due. -/
def readyMarketIds (pendingResolutions : PendingResolutions) (nowMs : ℕ) : List String :=
  (pendingResolutions.entries.filter fun entry => entry.2.nextAttemptAtMs ≤ nowMs).map (·.1)

/-- Remove and return pending authoritative settlements whose next attempt is due. -/
def takeReadyPendingResolutions (pendingResolutions : PendingResolutions) (nowMs : ℕ) :
    List (Sigma PendingResolution) × PendingResolutions :=
  (readyMarketIds pendingResolutions nowMs).foldl takePendingResolution ([], pendingResolutions)

/-! ## The loop -/

/-- The parts of the runtime that deliver settlements: the windows it knows, the registry and the
polls in flight. -/
structure SettlementLoop where
  knownWindows :
    AList fun marketId : String => { window : MarketWindow // window.marketId = marketId }
  pendingResolutions : PendingResolutions
  inFlight : List (Sigma PendingResolution)

/-- The loop before its first turn, with what an earlier session left unresolved. -/
def SettlementLoop.start (config : Config) (nowMs : ℕ)
    (unresolved : Except String (List MarketWindow)) : SettlementLoop where
  knownWindows := ∅
  pendingResolutions := seedPendingResolutions config nowMs unresolved
  inFlight := []

/-- What happens to the loop. A send to the strategy worker is accepted or not. -/
inductive SettlementAction where
  | newWindow (window : MarketWindow)
  | windowClosed (closed : MarketWindow) (nowMs : ℕ) (accepted : Bool)
  | resolutionRetry (nowMs : ℕ)
  | resolutionResult (poll : ℕ) (result : Except String (Option SignalDirection)) (nowMs : ℕ)
      (accepted : Bool)

namespace SettlementLoop

/-- Register a market again after a poll without an outcome. -/
def retry (config : Config) (loop : SettlementLoop) (pending : Sigma PendingResolution)
    (nowMs : ℕ) : SettlementLoop :=
  { loop with
    pendingResolutions := loop.pendingResolutions.insert pending.1
      { pending.2 with nextAttemptAtMs := saturatingAdd nowMs config.resolutionPollDelayMs } }

/-- Register the market of a window that the runtime knows. -/
def windowClosed (config : Config) (loop : SettlementLoop) (closed : MarketWindow) (nowMs : ℕ) :
    SettlementLoop :=
  match loop.knownWindows.lookup closed.marketId with
  | none => loop
  | some window =>
    { loop with
      knownWindows := loop.knownWindows.erase closed.marketId
      pendingResolutions := schedulePendingResolution loop.pendingResolutions window.1
        (max (saturatingAdd window.1.endTime config.resolutionInitialDelayMs) nowMs) false }

/-- Poll the markets that are due. -/
def resolutionRetry (loop : SettlementLoop) (nowMs : ℕ) : SettlementLoop :=
  let (ready, pendingResolutions) := takeReadyPendingResolutions loop.pendingResolutions nowMs
  { loop with
    pendingResolutions := pendingResolutions
    inFlight := loop.inFlight ++ ready }

/-- Handle the reply to a poll. A market with an outcome is not polled again. -/
def resolutionResult (config : Config) (loop : SettlementLoop) (poll : ℕ)
    (result : Except String (Option SignalDirection)) (nowMs : ℕ) : Option SettlementLoop :=
  match loop.inFlight[poll]? with
  | none => none
  | some pending =>
    let loop := { loop with inFlight := loop.inFlight.eraseIdx poll }
    match result with
    | .ok (some _) => some loop
    | .ok none | .error _ => some (retry config loop pending nowMs)

/-- One turn of the loop. A reply needs a poll in flight. -/
def step (config : Config) (loop : SettlementLoop) : SettlementAction → Option SettlementLoop
  | .newWindow window =>
    some { loop with knownWindows := loop.knownWindows.insert window.marketId ⟨window, rfl⟩ }
  | .windowClosed closed nowMs _ => some (windowClosed config loop closed nowMs)
  | .resolutionRetry nowMs => some (resolutionRetry loop nowMs)
  | .resolutionResult poll result nowMs _ => resolutionResult config loop poll result nowMs

end SettlementLoop

/-- What has been asked and sent: the markets that closed, for each notice of a close whether the
strategy worker's queue accepted it, and the markets whose outcome was accepted. -/
structure SettlementHistory where
  closed : List String
  notices : List (String × Bool)
  settled : List String

/-- The markets with open trades that were closed before the runtime started. -/
def SettlementHistory.start (unresolved : List MarketWindow) : SettlementHistory where
  closed := unresolved.map (·.marketId)
  notices := []
  settled := []

/-- Note a close. A market the runtime does not know has no trades of this session. -/
def SettlementHistory.noteClosed (history : SettlementHistory) (loop : SettlementLoop)
    (marketId : String) (accepted : Bool) : SettlementHistory :=
  if marketId ∈ loop.knownWindows then
    { history with
      closed := marketId :: history.closed
      notices := (marketId, accepted) :: history.notices }
  else history

/-- Note an outcome that was accepted. -/
def SettlementHistory.noteSettled (history : SettlementHistory) (loop : SettlementLoop)
    (poll : ℕ) : SettlementHistory :=
  match loop.inFlight[poll]? with
  | some pending => { history with settled := pending.2.window.marketId :: history.settled }
  | none => history

/-- What was sent after a turn. -/
def recordSettlements (history : SettlementHistory) (loop : SettlementLoop)
    (action : SettlementAction) (_ : SettlementLoop) : SettlementHistory :=
  match action with
  | .windowClosed closed _ accepted => history.noteClosed loop closed.marketId accepted
  | .resolutionResult poll (.ok (some _)) _ true => history.noteSettled loop poll
  | _ => history

/-- The runs of the loop with what it has sent. -/
def settlementSystem (config : Config) :
    System SettlementLoop SettlementAction SettlementHistory where
  step := SettlementLoop.step config
  record := recordSettlements

/-- The market is registered, being polled or settled. -/
def Pursued (history : SettlementHistory) (loop : SettlementLoop) (marketId : String) : Prop :=
  marketId ∈ loop.pendingResolutions ∨ marketId ∈ loop.inFlight.map (·.1) ∨
    marketId ∈ history.settled

/-- Every closed market is pursued, and every notice of a close was accepted: none is sent again. -/
structure SettlementsDelivered (history : SettlementHistory) (loop : SettlementLoop) : Prop where
  pursued : ∀ marketId ∈ history.closed, Pursued history loop marketId
  noticed : ∀ notice ∈ history.notices, notice.2 = true

/-- The strategy worker's queue accepts what the turn sends: a notice of a close, or an outcome. -/
def SendAccepted (_ : SettlementHistory) (_ : SettlementLoop) (action : SettlementAction)
    (_ : SettlementLoop) : Prop :=
  match action with
  | .windowClosed _ _ accepted => accepted = true
  | .resolutionResult _ (.ok (some _)) _ accepted => accepted = true
  | _ => True

variable {pendingResolutions : PendingResolutions} {window : MarketWindow} {marketId : String}
variable {poll : ℕ} {pending : Sigma PendingResolution} {history : SettlementHistory}
variable {loop loop' : SettlementLoop} {config : Config} {action : SettlementAction}

/-- Registering a market keeps the others. -/
theorem mem_schedulePendingResolution {nextAttemptAtMs : ℕ} {seededFromStartup : Bool} :
    marketId ∈ schedulePendingResolution pendingResolutions window nextAttemptAtMs
        seededFromStartup ↔ marketId = window.marketId ∨ marketId ∈ pendingResolutions := by
  unfold schedulePendingResolution
  split <;> exact AList.mem_insert _

/-- Every market with unresolved trades is seeded. -/
theorem mem_seedPendingResolutions (config : Config) (nowMs : ℕ) {unresolved : List MarketWindow}
    (hwindow : window ∈ unresolved) :
    window.marketId ∈ seedPendingResolutions config nowMs (.ok unresolved) := by
  have hkept : ∀ (markets : List MarketWindow) (pendingResolutions : PendingResolutions),
      window.marketId ∈ pendingResolutions ∨ window ∈ markets →
      window.marketId ∈ markets.foldl
        (fun pendingResolutions window =>
          schedulePendingResolution pendingResolutions window
            (max (saturatingAdd window.endTime config.resolutionInitialDelayMs) nowMs) true)
        pendingResolutions := by
    intro markets
    induction markets with
    | nil =>
      intro pendingResolutions h
      simpa using h
    | cons market rest ih =>
      intro pendingResolutions h
      apply ih
      rw [mem_schedulePendingResolution]
      rcases h with h | h
      · exact .inl (.inr h)
      · rcases mem_cons.mp h with rfl | h
        · exact .inl (.inl rfl)
        · exact .inr h
  exact hkept unresolved ∅ (.inr hwindow)

/-- The market was taken out or is still registered. -/
def TakenOrRegistered (taken : List (Sigma PendingResolution) × PendingResolutions)
    (marketId : String) : Prop :=
  marketId ∈ taken.2 ∨ marketId ∈ taken.1.map (·.1)

theorem takenOrRegistered_takePendingResolution
    {taken : List (Sigma PendingResolution) × PendingResolutions}
    (h : TakenOrRegistered taken marketId) (readyId : String) :
    TakenOrRegistered (takePendingResolution taken readyId) marketId := by
  unfold takePendingResolution
  split
  · rcases h with h | h
    · by_cases hready : marketId = readyId
      · right
        simp [hready]
      · left
        exact AList.mem_erase.mpr ⟨hready, h⟩
    · right
      rw [map_append]
      exact mem_append_left _ h
  · exact h

/-- A registered market stays registered or is taken out to be polled. -/
theorem takeReadyPendingResolutions_spec (h : marketId ∈ pendingResolutions) (nowMs : ℕ) :
    TakenOrRegistered (takeReadyPendingResolutions pendingResolutions nowMs) marketId := by
  unfold takeReadyPendingResolutions
  have hstart : TakenOrRegistered ([], pendingResolutions) marketId := .inl h
  generalize (([], pendingResolutions) :
    List (Sigma PendingResolution) × PendingResolutions) = taken at hstart
  induction readyMarketIds pendingResolutions nowMs generalizing taken with
  | nil => exact hstart
  | cons readyId rest ih => exact ih _ (takenOrRegistered_takePendingResolution hstart readyId)

/-! ## Runs -/

/-- Answering one poll leaves the others in flight. -/
theorem mem_inFlight_of_getElem? {inFlight : List (Sigma PendingResolution)}
    (hpoll : inFlight[poll]? = some pending) (h : marketId ∈ inFlight.map (·.1)) :
    marketId = pending.1 ∨ marketId ∈ (inFlight.eraseIdx poll).map (·.1) := by
  obtain ⟨other, hother, rfl⟩ := mem_map.mp h
  obtain ⟨i, hi⟩ := mem_iff_getElem?.mp hother
  by_cases hpollI : i = poll
  · left
    subst hpollI
    rw [hpoll] at hi
    rw [Option.some.inj hi]
  · right
    apply mem_map_of_mem
    exact mem_eraseIdx_iff_getElem?.mpr ⟨i, hpollI, hi⟩

/-- A market whose poll had no outcome goes back into the registry. -/
theorem Pursued.retry (h : Pursued history loop marketId) (config : Config)
    (hpoll : loop.inFlight[poll]? = some pending) (nowMs : ℕ) :
    Pursued history
      (SettlementLoop.retry config { loop with inFlight := loop.inFlight.eraseIdx poll } pending
        nowMs) marketId := by
  rcases h with h | h | h
  · left
    exact (AList.mem_insert _).mpr (.inr h)
  · rcases mem_inFlight_of_getElem? hpoll h with rfl | h
    · left
      exact (AList.mem_insert _).mpr (.inl rfl)
    · exact .inr (.inl h)
  · exact .inr (.inr h)

@[simp]
theorem SettlementHistory.noteClosed_settled (history : SettlementHistory) (loop : SettlementLoop)
    (marketId : String) (accepted : Bool) :
    (history.noteClosed loop marketId accepted).settled = history.settled := by
  unfold noteClosed
  split <;> rfl

@[simp]
theorem SettlementHistory.noteSettled_closed (history : SettlementHistory) (loop : SettlementLoop)
    (poll : ℕ) : (history.noteSettled loop poll).closed = history.closed := by
  unfold noteSettled
  split <;> rfl

@[simp]
theorem SettlementHistory.noteSettled_notices (history : SettlementHistory) (loop : SettlementLoop)
    (poll : ℕ) : (history.noteSettled loop poll).notices = history.notices := by
  unfold noteSettled
  split <;> rfl

theorem SettlementHistory.noteSettled_settled (hpoll : loop.inFlight[poll]? = some pending) :
    (history.noteSettled loop poll).settled = pending.1 :: history.settled := by
  unfold noteSettled
  rw [hpoll]
  exact congrArg (· :: history.settled) pending.2.named

/-- A close keeps the registry and adds the market of a known window. -/
theorem mem_windowClosed {closed : MarketWindow} {nowMs : ℕ}
    (h : marketId ∈ loop.pendingResolutions ∨
      closed.marketId ∈ loop.knownWindows ∧ marketId = closed.marketId) :
    marketId ∈ (loop.windowClosed config closed nowMs).pendingResolutions := by
  unfold SettlementLoop.windowClosed
  split
  · rename_i hlookup
    rcases h with h | ⟨hknown, rfl⟩
    · exact h
    · exact absurd hknown (AList.lookup_eq_none.mp hlookup)
  · rename_i window hlookup
    rcases h with h | ⟨hknown, rfl⟩
    · exact mem_schedulePendingResolution.mpr (.inr h)
    · exact mem_schedulePendingResolution.mpr (.inl window.2.symm)

theorem windowClosed_inFlight (config : Config) (loop : SettlementLoop) (closed : MarketWindow)
    (nowMs : ℕ) : (loop.windowClosed config closed nowMs).inFlight = loop.inFlight := by
  unfold SettlementLoop.windowClosed
  split <;> rfl

/-- A turn whose sends are accepted loses no market. -/
theorem Pursued.step (h : Pursued history loop marketId)
    (hstep : loop.step config action = some loop')
    (haccepted : SendAccepted history loop action loop') :
    Pursued (recordSettlements history loop action loop') loop' marketId := by
  cases action with
  | newWindow window =>
    cases hstep
    exact h
  | windowClosed closed nowMs accepted =>
    cases hstep
    rcases h with h | h | h
    · left
      exact mem_windowClosed (.inl h)
    · right; left
      rw [windowClosed_inFlight]
      exact h
    · right; right
      simpa [recordSettlements] using h
  | resolutionRetry nowMs =>
    cases hstep
    rcases h with h | h | h
    · rcases takeReadyPendingResolutions_spec h nowMs with h | h
      · exact .inl h
      · right; left
        simp only [SettlementLoop.resolutionRetry, map_append, mem_append]
        exact .inr h
    · right; left
      simp only [SettlementLoop.resolutionRetry, map_append, mem_append]
      exact .inl h
    · exact .inr (.inr h)
  | resolutionResult poll result nowMs accepted =>
    simp only [SettlementLoop.step, SettlementLoop.resolutionResult] at hstep
    cases hpoll : loop.inFlight[poll]? with
    | none =>
      rw [hpoll] at hstep
      cases hstep
    | some pending =>
      rw [hpoll] at hstep
      match result with
      | .ok (some outcome) =>
        have htrue : accepted = true := haccepted
        subst htrue
        cases hstep
        unfold Pursued
        simp only [recordSettlements, SettlementHistory.noteSettled_settled hpoll]
        rcases h with h | h | h
        · exact .inl h
        · rcases mem_inFlight_of_getElem? hpoll h with rfl | h
          · exact .inr (.inr mem_cons_self)
          · exact .inr (.inl h)
        · exact .inr (.inr (mem_cons_of_mem _ h))
      | .ok none | .error _ =>
        cases hstep
        exact h.retry config hpoll nowMs

theorem recordSettlements_cases (history : SettlementHistory) (loop loop' : SettlementLoop)
    (action : SettlementAction) :
    (∃ closed nowMs accepted, action = .windowClosed closed nowMs accepted ∧
      closed.marketId ∈ loop.knownWindows ∧
      (recordSettlements history loop action loop').closed = closed.marketId :: history.closed ∧
      (recordSettlements history loop action loop').notices
        = (closed.marketId, accepted) :: history.notices) ∨
    (recordSettlements history loop action loop').closed = history.closed ∧
      (recordSettlements history loop action loop').notices = history.notices := by
  cases action with
  | windowClosed closed nowMs accepted =>
    by_cases hknown : closed.marketId ∈ loop.knownWindows
    · left
      refine ⟨closed, nowMs, accepted, rfl, hknown, ?_, ?_⟩ <;>
        simp [recordSettlements, SettlementHistory.noteClosed, hknown]
    · right
      simp [recordSettlements, SettlementHistory.noteClosed, hknown]
  | newWindow window => exact .inr ⟨rfl, rfl⟩
  | resolutionRetry nowMs => exact .inr ⟨rfl, rfl⟩
  | resolutionResult poll result nowMs accepted =>
    right
    unfold recordSettlements
    split <;> simp_all

/-- No settlement is lost in a run in which the strategy worker's queue accepts every notice and
outcome. -/
theorem settlements_delivered (config : Config) (nowMs : ℕ) (unresolved : List MarketWindow)
    (history : SettlementHistory) (loop : SettlementLoop)
    (hrun : (settlementSystem config).Run SendAccepted
      (SettlementHistory.start unresolved, SettlementLoop.start config nowMs (.ok unresolved))
      history loop) :
    SettlementsDelivered history loop := by
  refine hrun.invariant SettlementsDelivered ?_ ?_
  · constructor
    · intro marketId hclosed
      obtain ⟨window, hwindow, rfl⟩ := mem_map.mp hclosed
      exact .inl (mem_seedPendingResolutions config nowMs hwindow)
    · intro notice hnotice
      cases hnotice
  · intro history loop action loop' hinv hstep haccepted
    have hkept : ∀ marketId ∈ history.closed,
        Pursued (recordSettlements history loop action loop') loop' marketId :=
      fun marketId hclosed => (hinv.pursued marketId hclosed).step hstep haccepted
    rcases recordSettlements_cases history loop loop' action with
      ⟨closed, nowMs, accepted, rfl, hknown, hclosed, hnotices⟩ | ⟨hclosed, hnotices⟩
    · have htrue : accepted = true := haccepted
      constructor
      · change ∀ marketId ∈ (recordSettlements history loop _ loop').closed, _
        rw [hclosed, forall_mem_cons]
        refine ⟨?_, hkept⟩
        cases hstep
        exact .inl (mem_windowClosed (.inr ⟨hknown, rfl⟩))
      · change ∀ notice ∈ (recordSettlements history loop _ loop').notices, _
        rw [hnotices, forall_mem_cons]
        exact ⟨htrue, hinv.noticed⟩
    · constructor
      · change ∀ marketId ∈ (recordSettlements history loop action loop').closed, _
        rw [hclosed]
        exact hkept
      · change ∀ notice ∈ (recordSettlements history loop action loop').notices, _
        rw [hnotices]
        exact hinv.noticed

/-- The outcome of an unresolved market is polled and refused by the full queue: the market is
neither registered nor polled again. -/
theorem refused_outcome_lost :
    ∃ history loop, (settlementSystem sampleConfig).Run (fun _ _ _ _ => True)
        (SettlementHistory.start [sampleWindow "market" 10000],
          SettlementLoop.start sampleConfig 0 (.ok [sampleWindow "market" 10000])) history loop ∧
      ¬ SettlementsDelivered history loop := by
  have hfollow : ((settlementSystem sampleConfig).follow (fun _ _ _ _ => true)
      [.resolutionRetry 1000000, .resolutionResult 0 (.ok (some .up)) 1000000 false]
      (SettlementHistory.start [sampleWindow "market" 10000],
        SettlementLoop.start sampleConfig 0 (.ok [sampleWindow "market" 10000]))).any (fun x =>
        decide ("market" ∈ x.1.closed) &&
          decide ("market" ∉ x.2.pendingResolutions) &&
          x.2.inFlight.isEmpty && x.1.settled.isEmpty) = true := by
    decide +kernel
  obtain ⟨history, loop, hrun, hlost⟩ := System.exists_run_of_follow hfollow
    fun _ _ _ _ _ => trivial
  refine ⟨history, loop, hrun, fun h => ?_⟩
  simp only [Bool.and_eq_true, decide_eq_true_eq, List.isEmpty_iff] at hlost
  obtain ⟨⟨⟨hclosed, hregistered⟩, hflight⟩, hsettled⟩ := hlost
  rcases h.pursued _ hclosed with h | h | h
  · exact hregistered h
  · simp [hflight] at h
  · simp [hsettled] at h

def sendAccepted (_ : SettlementHistory) (_ : SettlementLoop) (action : SettlementAction)
    (_ : SettlementLoop) : Bool :=
  match action with
  | .windowClosed _ _ accepted => accepted
  | .resolutionResult _ (.ok (some _)) _ accepted => accepted
  | _ => true

theorem sendAccepted_of_check (h : sendAccepted history loop action loop' = true) :
    SendAccepted history loop action loop' := by
  unfold sendAccepted at h
  unfold SendAccepted
  split at h
  · exact h
  · exact h
  · trivial

/-- A window closes, its first poll fails, and the market stays registered. -/
theorem settlements_delivered_sample :
    ∃ history loop, (settlementSystem sampleConfig).Run SendAccepted
        (SettlementHistory.start [], SettlementLoop.start sampleConfig 0 (.ok [])) history loop ∧
      "market" ∈ history.closed ∧ SettlementsDelivered history loop := by
  have hfollow : ((settlementSystem sampleConfig).follow sendAccepted
      [.newWindow (sampleWindow "market" 10000),
        .windowClosed (sampleWindow "market" 10000) 1000000 true,
        .resolutionRetry 2000000, .resolutionResult 0 (.error "timeout") 2000000 false]
      (SettlementHistory.start [], SettlementLoop.start sampleConfig 0 (.ok []))).any (fun x =>
        decide ("market" ∈ x.1.closed)) = true := by
    decide +kernel
  obtain ⟨history, loop, hrun, hclosed⟩ := System.exists_run_of_follow hfollow
    fun _ _ _ _ => sendAccepted_of_check
  exact ⟨history, loop, hrun, of_decide_eq_true hclosed,
    settlements_delivered sampleConfig 0 [] history loop hrun⟩

end BubaPaint
