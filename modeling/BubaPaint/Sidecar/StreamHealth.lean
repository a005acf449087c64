import BubaPaint.Sidecar.UserStream

/-!
# Truthful stream health

A replaced attempt takes its socket along and leaves the status as it was, so the status stays
`ok` while the next attempt connects. An established socket that reports an error is dropped but
not closed. Where a connection is opened only while the status is not `ok` and after every socket
that reported an error is closed, the status is truthful and one socket is open.

Main results:

- Theorem `truthful_stream`: careful turns keep the status truthful.
-/

namespace BubaPaint.UserStream

open Effects

/-- The markets of the subscription that was sent over a socket. -/
def UserStreamSocket.SubscribedTo (socket : UserStreamSocket) (markets : List String) : Prop :=
  (∃ auth, .subscribe auth markets ∈ socket.sent) ∧
    ∀ auth markets', .subscribe auth markets' ∈ socket.sent → markets' = markets

namespace WsUserStreamMonitor

variable (settings : UserStreamSettings) (m : WsUserStreamMonitor)

/-- A state that is `ok` tells of the current attempt: its socket is open and has subscribed to the
markets shown. -/
def HealthTruthful : Prop :=
  m.state.status = .ok →
    ∃ id attempt, m.currentAttempt = some id ∧ m.attempts.get? id = some attempt ∧
      attempt.socket.readyState = .opened ∧
      attempt.socket.SubscribedTo m.state.subscribedMarkets

/-- At most one socket is neither closed nor closed by the monitor. -/
def SingleSocket : Prop :=
  ∀ id attempt id' attempt', m.attempts.get? id = some attempt →
    m.attempts.get? id' = some attempt' → attempt.socket.gone = false →
      attempt'.socket.gone = false → id = id'

/-- The events of an attempt that is not the current one change that attempt only. -/
def IgnoresDropped : Prop :=
  ∀ (turn : UserStreamTurn) id m', turn.event.attempt? = some id → m.currentAttempt ≠ some id →
    m.step settings turn = some m' → ∃ attempts, m' = { m with attempts := attempts }

/-- The health of the stream is truthful. -/
structure Truthful : Prop where
  health : m.HealthTruthful
  single : m.SingleSocket
  ignored : m.IgnoresDropped settings

/-- Whether the connect loop opens a connection for these markets. -/
def wants (markets : List String) : Bool :=
  !(m.state.status == .ok && m.state.subscribedMarkets == markets)

/-- The attempt that the connect loop awaits is established. -/
def awaitedEstablished : Bool :=
  match m.connectPromise with
  | some (.awaiting id) => ((m.attempts.get? id).bind (·.outcome)).any (·.isOk)
  | _ => false

def opens : UserStreamEvent → Bool
  | .ensureConnected _ markets =>
    desiredMarkets markets != [] && !m.closed && m.connectPromise.isNone &&
      m.wants (desiredMarkets markets)
  | .reconnectTimer =>
    !m.closed && m.connectPromise.isNone && m.desired.any fun desired => m.wants desired.markets
  | .attemptAwaited =>
    m.awaitedEstablished && !m.closed && m.desired.any fun desired =>
      m.state.subscribedMarkets != desired.markets
  | _ => false

/-- Some socket has reported an error and is not closed. -/
def brokenOpen : Bool :=
  m.attempts.any fun attempt => attempt.socket.erred && !attempt.socket.gone

/-- A turn opens a connection only while the status is not `ok`, and after every socket that has
reported an error is closed. -/
def Careful (event : UserStreamEvent) : Prop :=
  m.opens event = true → m.state.status ≠ .ok ∧ m.brokenOpen = false

end WsUserStreamMonitor

namespace ConnectionAttempt

variable {attempt : ConnectionAttempt}

/-- The attempt can be the current one: its socket connects, or is open and subscribed. -/
structure Serving (attempt : ConnectionAttempt) : Prop where
  kept : attempt.socket.gone = false
  sound : attempt.socket.erred = false
  state : attempt.socket.readyState = .connecting ∧ attempt.socket.sent = [] ∧
      attempt.outcome = none ∨
    attempt.socket.readyState = .opened ∧ attempt.socket.SubscribedTo attempt.markets
  ready : attempt.readyTimer = true → attempt.socket.readyState = .opened

/-- The attempt was dropped: no timer runs, and its socket is closed or has reported an error. -/
structure Retired (attempt : ConnectionAttempt) : Prop where
  connectTimer : attempt.connectTimer = false
  readyTimer : attempt.readyTimer = false
  heartbeatTimer : attempt.heartbeatTimer = false
  socket : attempt.socket.gone = true ∨ attempt.socket.erred = true

@[simp]
theorem gone_closeSocket (attempt : ConnectionAttempt) :
    attempt.closeSocket.socket.gone = true := by
  unfold closeSocket UserStreamSocket.safeCloseSocket UserStreamSocket.gone
  cases hstate : attempt.socket.readyState <;> simp [hstate]

theorem retired_closed (attempt : ConnectionAttempt) :
    attempt.clearAttemptTimers.closeSocket.Retired where
  connectTimer := rfl
  readyTimer := rfl
  heartbeatTimer := rfl
  socket := .inl (gone_closeSocket _)

theorem retired_cleared (h : attempt.socket.gone = true ∨ attempt.socket.erred = true) :
    attempt.clearAttemptTimers.Retired where
  connectTimer := rfl
  readyTimer := rfl
  heartbeatTimer := rfl
  socket := h

theorem Serving.not_connecting (h : attempt.Serving)
    (hstate : attempt.socket.readyState ≠ .connecting) :
    attempt.socket.readyState = .opened ∧ attempt.socket.SubscribedTo attempt.markets := by
  rcases h.state with ⟨hconnecting, -⟩ | hopened
  · exact absurd hconnecting hstate
  · exact hopened

theorem Serving.subscribe (h : attempt.Serving)
    (hconnecting : attempt.socket.readyState = .connecting) :
    ({ attempt with socket := attempt.socket.reportOpen }.subscribe).Serving := by
  have hsent : attempt.socket.sent = [] := by
    rcases h.state with ⟨-, hsent, -⟩ | ⟨hopened, -⟩
    · exact hsent
    · rw [hconnecting] at hopened
      cases hopened
  have hkept := h.kept
  simp only [UserStreamSocket.gone, hconnecting, Bool.or_eq_false_iff] at hkept
  refine ⟨?_, h.sound, .inr ⟨rfl, ⟨attempt.auth, ?_⟩, ?_⟩, fun _ => rfl⟩
  · simp [ConnectionAttempt.subscribe, send, UserStreamSocket.send, UserStreamSocket.gone,
      UserStreamSocket.reportOpen, hkept.1]
  · simp [ConnectionAttempt.subscribe, send, UserStreamSocket.send]
  · intro auth markets hmem
    simp only [ConnectionAttempt.subscribe, send, UserStreamSocket.send,
      UserStreamSocket.reportOpen, hsent, List.nil_append, List.mem_singleton,
      UserStreamFrame.subscribe.injEq] at hmem
    exact hmem.2

theorem Retired.settle (h : attempt.Retired) (outcome : Except String Unit) :
    (attempt.settle outcome).Retired :=
  ⟨h.connectTimer, h.readyTimer, h.heartbeatTimer, h.socket⟩

end ConnectionAttempt

namespace WsUserStreamMonitor

variable {settings : UserStreamSettings} {inputs : TurnInputs} {m m' : WsUserStreamMonitor}
variable {id : ℕ} {attempt : ConnectionAttempt}

/-! ## What the operations change -/

theorem isActiveAttempt_iff : m.isActiveAttempt id = true ↔ m.currentAttempt = some id := by
  simp [isActiveAttempt]

variable (desired : DesiredConnection) (f : ConnectionAttempt → ConnectionAttempt)

@[simp]
theorem get?_updateAttempt (id' : ℕ) :
    (m.updateAttempt id f).attempts.get? id' =
      if id' = id then (m.attempts.get? id').map f else m.attempts.get? id' :=
  Table.get?_modify ..

@[simp]
theorem settled_updateAttempt (hf : ∀ attempt, (f attempt).outcome = attempt.outcome) :
    (m.updateAttempt id f).settled id = m.settled id := by
  simp only [settled, get?_updateAttempt, if_true]
  cases m.attempts.get? id with
  | none => rfl
  | some attempt => simp [hf]

theorem settled_moveSocket (g : UserStreamSocket → UserStreamSocket) :
    (m.moveSocket id g).settled id = m.settled id :=
  settled_updateAttempt _ fun _ => rfl

variable (settings inputs) in
theorem scheduleReconnect_eq : ∃ timer, m.scheduleReconnect settings inputs =
    { m with reconnectTimer := timer } := by
  unfold scheduleReconnect
  split
  · exact ⟨m.reconnectTimer, rfl⟩
  · exact ⟨_, rfl⟩

/-- The current attempt is dropped, and nothing else changes but the shown state and the timer. -/
structure Drops (m : WsUserStreamMonitor) (id : ℕ) (m' : WsUserStreamMonitor) : Prop where
  attempts : ∃ f, m'.attempts = m.attempts.modify id f ∧
    ∀ attempt, m.attempts.get? id = some attempt →
      (f attempt).Retired ∧ (attempt.socket.gone = true → (f attempt).socket.gone = true)
  current : m'.currentAttempt = none
  subscribed : m'.state.subscribedMarkets = m.state.subscribedMarkets
  desired : m'.desired = m.desired
  closed : m'.closed = m.closed
  connectPromise : m'.connectPromise = m.connectPromise

variable (settings inputs) in
theorem failAttempt_drops (hcurrent : m.currentAttempt = some id) (message : String) :
    Drops m id (m.failAttempt settings inputs id message) ∧
      (m.failAttempt settings inputs id message).state.status = .failed := by
  unfold failAttempt
  rw [if_pos (isActiveAttempt_iff.mpr hcurrent)]
  rcases scheduleReconnect_eq settings inputs
    (m := ({ m.updateAttempt id (·.clearAttemptTimers) with
      state := m.lostState inputs message, currentAttempt := none }.updateAttempt id
        (·.closeSocket))) with ⟨timer, htimer⟩
  rw [htimer]
  refine ⟨⟨⟨_, Table.modify_modify .., ?_⟩, rfl, rfl, rfl, rfl, rfl⟩, rfl⟩
  intro attempt _
  exact ⟨ConnectionAttempt.retired_closed _, fun _ => ConnectionAttempt.gone_closeSocket _⟩

variable (settings inputs) in
theorem markDisconnected_drops (hcurrent : m.currentAttempt = some id) (message : String)
    (hsocket : ∀ attempt, m.attempts.get? id = some attempt →
      attempt.socket.gone = true ∨ attempt.socket.erred = true) :
    Drops m id (m.markDisconnected settings inputs message) ∧
      (m.markDisconnected settings inputs message).state.status = .failed := by
  unfold markDisconnected
  rw [hcurrent]
  rcases scheduleReconnect_eq settings inputs
    (m := { m.updateAttempt id (·.clearAttemptTimers) with
      state := m.lostState inputs message, currentAttempt := none }) with ⟨timer, htimer⟩
  rw [htimer]
  refine ⟨⟨⟨_, rfl, ?_⟩, rfl, rfl, rfl, rfl, rfl⟩, rfl⟩
  intro attempt hget
  exact ⟨ConnectionAttempt.retired_cleared (hsocket attempt hget), fun hgone => hgone⟩

/-- A dropped attempt stays dropped under writes that keep it retired. -/
theorem Drops.update (h : Drops m id m') (g : ConnectionAttempt → ConnectionAttempt)
    (hretired : ∀ attempt : ConnectionAttempt, attempt.Retired → (g attempt).Retired)
    (hgone : ∀ attempt : ConnectionAttempt, attempt.socket.gone = true →
      (g attempt).socket.gone = true) :
    Drops m id (m'.updateAttempt id g) := by
  rcases h.attempts with ⟨f, hattempts, hf⟩
  refine ⟨⟨g ∘ f, ?_, ?_⟩, h.current, h.subscribed, h.desired, h.closed, h.connectPromise⟩
  · change m'.attempts.modify id g = _
    rw [hattempts, Table.modify_modify]
  · intro attempt hget
    rcases hf attempt hget with ⟨hold, hmono⟩
    exact ⟨hretired _ hold, fun hsocket => hgone _ (hmono hsocket)⟩

variable (settings inputs) in
theorem completeFailure_drops (hcurrent : m.currentAttempt = some id)
    (hpending : m.settled id = false) (error : ThrownError) :
    Drops m id (m.completeFailure settings inputs id error) ∧
      (m.completeFailure settings inputs id error).state.status = .failed := by
  unfold completeFailure
  rw [hpending]
  rcases failAttempt_drops settings inputs hcurrent (connectError error) with ⟨hdrops, hstatus⟩
  exact ⟨hdrops.update _ (fun _ hretired => hretired.settle _) fun _ hgone => hgone, hstatus⟩

variable (settings inputs) in
theorem closeDisconnected_drops (hcurrent : m.currentAttempt = some id) (message : String) :
    Drops m id ((m.markDisconnected settings inputs message).updateAttempt id (·.closeSocket)) ∧
      ((m.markDisconnected settings inputs message).updateAttempt id
        (·.closeSocket)).state.status = .failed := by
  unfold markDisconnected
  rw [hcurrent]
  rcases scheduleReconnect_eq settings inputs
    (m := { m.updateAttempt id (·.clearAttemptTimers) with
      state := m.lostState inputs message, currentAttempt := none }) with ⟨timer, htimer⟩
  rw [htimer]
  refine ⟨⟨⟨_, Table.modify_modify .., ?_⟩, rfl, rfl, rfl, rfl, rfl⟩, rfl⟩
  intro attempt _
  exact ⟨ConnectionAttempt.retired_closed _, fun _ => ConnectionAttempt.gone_closeSocket _⟩

theorem completeFailure_of_inactive (hinactive : m.currentAttempt ≠ some id) (error : ThrownError) :
    m.completeFailure settings inputs id error =
      if m.settled id then m else m.updateAttempt id (·.settle (.error (connectError error))) := by
  have hfalse : m.isActiveAttempt id = false := by
    simpa [isActiveAttempt] using hinactive
  simp [completeFailure, failAttempt, hfalse]

variable (settings inputs) in
theorem disposeAttempt_drops (hcurrent : m.currentAttempt = some id) (reason : String) :
    Drops m id (m.disposeAttempt settings inputs id reason) ∧
      (m.disposeAttempt settings inputs id reason).state = m.state ∧
      ∀ attempt, (m.disposeAttempt settings inputs id reason).attempts.get? id = some attempt →
        attempt.socket.gone = true := by
  unfold disposeAttempt
  rw [if_pos (isActiveAttempt_iff.mpr hcurrent)]
  dsimp only
  rw [completeFailure_of_inactive (by simp)]
  have hclosed : ∀ (base : WsUserStreamMonitor) attempt,
      (base.updateAttempt id (·.closeSocket)).attempts.get? id = some attempt →
        attempt.socket.gone = true := by
    intro base attempt hget
    rw [get?_updateAttempt, if_pos rfl] at hget
    rcases Option.map_eq_some_iff.mp hget with ⟨old, -, rfl⟩
    exact ConnectionAttempt.gone_closeSocket old
  split
  · refine ⟨⟨⟨_, Table.modify_modify .., ?_⟩, rfl, rfl, rfl, rfl, rfl⟩, rfl, hclosed _⟩
    intro attempt _
    exact ⟨ConnectionAttempt.retired_closed _, fun _ => ConnectionAttempt.gone_closeSocket _⟩
  · refine ⟨⟨⟨_, (Table.modify_modify ..).trans (Table.modify_modify ..), ?_⟩, rfl, rfl, rfl, rfl,
      rfl⟩, rfl, hclosed _⟩
    intro attempt _
    exact ⟨⟨rfl, rfl, rfl, .inl (ConnectionAttempt.gone_closeSocket _)⟩,
      fun _ => ConnectionAttempt.gone_closeSocket _⟩

/-! ## Consistent monitors -/

/-- All attempts but one are retired. -/
def Others (m : WsUserStreamMonitor) (id : ℕ) : Prop :=
  ∀ id' attempt, id' ≠ id → m.attempts.get? id' = some attempt → attempt.Retired

/-- What careful turns keep: the current attempt can serve the state that is shown, all others are
retired, and one socket is open. -/
structure Consistent (m : WsUserStreamMonitor) : Prop where
  serving : ∀ id, m.currentAttempt = some id →
    ∃ attempt, m.attempts.get? id = some attempt ∧ attempt.Serving ∧
      (m.state.status = .ok → attempt.socket.readyState = .opened ∧
        attempt.markets = m.state.subscribedMarkets)
  retired : ∀ id attempt, m.attempts.get? id = some attempt → m.currentAttempt ≠ some id →
    attempt.Retired
  linked : m.state.status = .ok → m.currentAttempt ≠ none
  single : m.SingleSocket
  shut : m.closed = true → m.desired = none

/-- No socket that was gone comes back. -/
def Ages (m m' : WsUserStreamMonitor) : Prop :=
  ∀ id attempt', m'.attempts.get? id = some attempt' →
    ∃ attempt, m.attempts.get? id = some attempt ∧
      (attempt.socket.gone = true → attempt'.socket.gone = true)

theorem Ages.of_modify {f : ConnectionAttempt → ConnectionAttempt}
    (hattempts : m'.attempts = m.attempts.modify id f)
    (hgone : ∀ attempt, m.attempts.get? id = some attempt → attempt.socket.gone = true →
      (f attempt).socket.gone = true) : Ages m m' := by
  intro id' attempt' hget
  rw [hattempts, Table.get?_modify] at hget
  split at hget <;> rename_i hid
  · subst hid
    rcases Option.map_eq_some_iff.mp hget with ⟨attempt, hold, rfl⟩
    exact ⟨attempt, hold, hgone attempt hold⟩
  · exact ⟨attempt', hget, fun h => h⟩

theorem SingleSocket.ages (h : m.SingleSocket) (hages : Ages m m') : m'.SingleSocket := by
  intro id attempt id' attempt' hget hget' hopen hopen'
  rcases hages id attempt hget with ⟨old, hold, hgone⟩
  rcases hages id' attempt' hget' with ⟨old', hold', hgone'⟩
  refine h id old id' old' hold hold' ?_ ?_
  · by_contra hsocket
    rw [hgone (by simpa using hsocket)] at hopen
    cases hopen
  · by_contra hsocket
    rw [hgone' (by simpa using hsocket)] at hopen'
    cases hopen'

theorem Consistent.others (h : m.Consistent) (hcurrent : m.currentAttempt = some id) :
    m.Others id := by
  intro id' attempt hne hget
  refine h.retired id' attempt hget ?_
  rw [hcurrent]
  exact fun heq => hne (Option.some.inj heq).symm

theorem Others.of_modify {f : ConnectionAttempt → ConnectionAttempt} (h : m.Others id)
    (hattempts : m'.attempts = m.attempts.modify id f) : m'.Others id := by
  intro id' attempt hne hget
  rw [hattempts, Table.get?_modify, if_neg hne] at hget
  exact h id' attempt hne hget

theorem Consistent.of_drops (hothers : m.Others id) (hsingle : m.SingleSocket)
    (hshut : m.closed = true → m.desired = none) (hdrops : Drops m id m')
    (hstatus : m'.state.status ≠ .ok) : m'.Consistent := by
  rcases hdrops.attempts with ⟨f, hattempts, hf⟩
  have hnone := hdrops.current
  refine ⟨?_, ?_, fun hok => absurd hok hstatus, ?_, ?_⟩
  · intro id' hcurrent
    rw [hnone] at hcurrent
    cases hcurrent
  · intro id' attempt hget _
    by_cases hid : id' = id
    · subst hid
      rw [hattempts, Table.get?_modify, if_pos rfl] at hget
      rcases Option.map_eq_some_iff.mp hget with ⟨old, hold, rfl⟩
      exact (hf old hold).1
    · exact (hothers.of_modify hattempts) id' attempt hid hget
  · exact hsingle.ages (.of_modify hattempts fun attempt hget => (hf attempt hget).2)
  · rw [hdrops.closed, hdrops.desired]
    exact hshut

theorem Consistent.of_serving {f : ConnectionAttempt → ConnectionAttempt} (h : m.Consistent)
    (hcurrent : m.currentAttempt = some id) (hget : m.attempts.get? id = some attempt)
    (hattempts : m'.attempts = m.attempts.modify id f)
    (hcurrent' : m'.currentAttempt = m.currentAttempt) (hserving : (f attempt).Serving)
    (hok : m'.state.status = .ok → (f attempt).socket.readyState = .opened ∧
      (f attempt).markets = m'.state.subscribedMarkets)
    (hgone : attempt.socket.gone = false) (hdesired : m'.desired = m.desired)
    (hclosed : m'.closed = m.closed) : m'.Consistent := by
  rw [hcurrent] at hcurrent'
  have hget' : m'.attempts.get? id = some (f attempt) := by
    rw [hattempts, Table.get?_modify, if_pos rfl, hget, Option.map_some]
  refine ⟨?_, ?_, ?_, ?_, ?_⟩
  · intro id' hid
    cases Option.some.inj (hcurrent'.symm.trans hid)
    exact ⟨f attempt, hget', hserving, hok⟩
  · intro id' attempt' hget'' hne
    rw [hcurrent'] at hne
    exact (h.others hcurrent).of_modify hattempts id' attempt'
      (fun heq => hne (congrArg some heq.symm)) hget''
  · intro _ hnone
    rw [hcurrent'] at hnone
    cases hnone
  · refine h.single.ages (.of_modify hattempts fun old hold hsocket => ?_)
    cases hget.symm.trans hold
    rw [hgone] at hsocket
    cases hsocket
  · rw [hclosed, hdesired]
    exact h.shut

theorem Consistent.of_retired {f : ConnectionAttempt → ConnectionAttempt} (h : m.Consistent)
    (hinactive : m.currentAttempt ≠ some id) (hattempts : m'.attempts = m.attempts.modify id f)
    (hcurrent : m'.currentAttempt = m.currentAttempt) (hstate : m'.state = m.state)
    (hf : ∀ attempt, m.attempts.get? id = some attempt → attempt.Retired →
      (f attempt).Retired ∧ (attempt.socket.gone = true → (f attempt).socket.gone = true))
    (hdesired : m'.desired = m.desired) (hclosed : m'.closed = m.closed) : m'.Consistent := by
  refine ⟨?_, ?_, ?_, ?_, ?_⟩
  · intro id' hid
    rw [hcurrent] at hid
    rcases h.serving id' hid with ⟨attempt, hget, hserving⟩
    have hne : id' ≠ id := by
      rintro rfl
      exact hinactive hid
    rw [hattempts, Table.get?_modify, if_neg hne, hstate]
    exact ⟨attempt, hget, hserving⟩
  · intro id' attempt hget hne
    rw [hcurrent] at hne
    rw [hattempts, Table.get?_modify] at hget
    split at hget <;> rename_i hid
    · rcases Option.map_eq_some_iff.mp hget with ⟨old, hold, rfl⟩
      subst hid
      exact (hf old hold (h.retired _ old hold hne)).1
    · exact h.retired id' attempt hget hne
  · rw [hcurrent, hstate]
    exact h.linked
  · refine h.single.ages (.of_modify hattempts fun old hold => ?_)
    exact (hf old hold (h.retired id old hold hinactive)).2
  · rw [hclosed, hdesired]
    exact h.shut

/-! ## Opening and closing -/

theorem new_consistent : new.Consistent where
  serving := by
    intro id hcurrent
    cases hcurrent
  retired := by
    intro id attempt hget
    cases hget
  linked := by
    intro hok
    cases hok
  single := by
    intro id attempt id' attempt' hget
    cases hget
  shut _ := rfl

/-- The monitor after the current attempt is disposed. -/
structure Disposed (m m' : WsUserStreamMonitor) : Prop where
  current : m'.currentAttempt = none
  state : m'.state = m.state
  desired : m'.desired = m.desired
  closed : m'.closed = m.closed
  retired : ∀ id attempt, m'.attempts.get? id = some attempt → attempt.Retired
  single : m'.SingleSocket
  kept : ∀ id attempt, m.attempts.get? id = some attempt → m.currentAttempt ≠ some id →
    m'.attempts.get? id = some attempt
  gone : ∀ id attempt, m'.attempts.get? id = some attempt → attempt.socket.gone = true ∨
    m.attempts.get? id = some attempt ∧ m.currentAttempt ≠ some id

variable (settings inputs) in
theorem Consistent.disposeCurrent (h : m.Consistent) (reason : String) :
    Disposed m (m.disposeCurrent settings inputs reason) := by
  unfold WsUserStreamMonitor.disposeCurrent
  split
  · rename_i id hcurrent
    rcases disposeAttempt_drops settings inputs hcurrent reason with
      ⟨hdrops, hstate, hclosed⟩
    rcases hdrops.attempts with ⟨f, hattempts, hf⟩
    have hothers := h.others hcurrent
    refine ⟨hdrops.current, hstate, hdrops.desired, hdrops.closed, ?_, ?_, ?_, ?_⟩
    · intro id' attempt hget
      by_cases hid : id' = id
      · subst hid
        rw [hattempts, Table.get?_modify, if_pos rfl] at hget
        rcases Option.map_eq_some_iff.mp hget with ⟨old, hold, rfl⟩
        exact (hf old hold).1
      · exact (hothers.of_modify hattempts) id' attempt hid hget
    · exact h.single.ages (.of_modify hattempts fun attempt hget => (hf attempt hget).2)
    · intro id' attempt hget hne
      have hid : id' ≠ id := by
        rintro rfl
        exact hne hcurrent
      rw [hattempts, Table.get?_modify, if_neg hid]
      exact hget
    · intro id' attempt hget
      by_cases hid : id' = id
      · subst hid
        exact .inl (hclosed attempt hget)
      · rw [hattempts, Table.get?_modify, if_neg hid] at hget
        refine .inr ⟨hget, ?_⟩
        rw [hcurrent]
        exact fun heq => hid (Option.some.inj heq).symm
  · rename_i hnone
    have hinactive : ∀ id, m.currentAttempt ≠ some id := by
      intro id hid
      rw [hnone] at hid
      cases hid
    exact ⟨hnone, rfl, rfl, rfl, fun id attempt hget => h.retired id attempt hget (hinactive id),
      h.single, fun _ _ hget _ => hget, fun id _ hget => .inr ⟨hget, hinactive id⟩⟩

theorem Disposed.consistent (h : Disposed m m') (hstate : m.state.status ≠ .ok)
    (hshut : m.closed = true → m.desired = none) : m'.Consistent where
  serving := by
    intro id hcurrent
    rw [h.current] at hcurrent
    cases hcurrent
  retired id attempt hget _ := h.retired id attempt hget
  linked hok := absurd (h.state ▸ hok) hstate
  single := h.single
  shut := by
    rw [h.closed, h.desired]
    exact hshut

theorem brokenOpen_eq_false_iff : m.brokenOpen = false ↔
    ∀ id attempt, m.attempts.get? id = some attempt → attempt.socket.erred = true →
      attempt.socket.gone = true := by
  rw [← Bool.not_eq_true, brokenOpen, Table.any_eq_true_iff]
  simp

def newAttempt (desired : DesiredConnection) : ConnectionAttempt where
  revision := desired.revision
  auth := desired.auth
  markets := desired.markets

theorem newAttempt_serving : (newAttempt desired).Serving where
  kept := rfl
  sound := rfl
  state := .inl ⟨rfl, rfl, rfl⟩
  ready hready := by cases hready

variable (settings inputs) in
theorem openConnection_spec :
    let disposed := m.clearReconnectTimer.disposeCurrent settings inputs "subscription_updated"
    let opened := m.openConnection settings inputs desired
    opened.attempts = disposed.attempts.insert (newAttempt desired) ∧
      opened.currentAttempt = some disposed.attempts.nextId ∧
      opened.state.status = disposed.state.status ∧ opened.desired = disposed.desired ∧
      opened.closed = disposed.closed :=
  ⟨rfl, rfl, rfl, rfl, rfl⟩

theorem Consistent.clearReconnectTimer (h : m.Consistent) : m.clearReconnectTimer.Consistent :=
  ⟨h.serving, h.retired, h.linked, h.single, h.shut⟩

/-- A connection opened while the status is not `ok` and no broken socket is open. -/
theorem Consistent.openConnection (h : m.Consistent) (hstatus : m.state.status ≠ .ok)
    (hbroken : m.brokenOpen = false) (desired : DesiredConnection) :
    (m.openConnection settings inputs desired).Consistent := by
  have hdisposed := h.clearReconnectTimer.disposeCurrent settings inputs "subscription_updated"
  rcases openConnection_spec settings inputs (m := m) desired with
    ⟨hattempts, hcurrent, hstate, hdesired, hclosed⟩
  have hnotOk : (m.openConnection settings inputs desired).state.status ≠ .ok := by
    rw [hstate, hdisposed.state]
    exact hstatus
  have hget : ∀ id attempt, (m.openConnection settings inputs desired).attempts.get? id =
      some attempt → (m.openConnection settings inputs desired).currentAttempt = some id ∧
        attempt = newAttempt desired ∨ attempt.Retired ∧ attempt.socket.gone = true := by
    intro id attempt hget
    rw [hattempts, Table.get?_insert] at hget
    split at hget <;> rename_i hid
    · exact .inl ⟨hid ▸ hcurrent, (Option.some.inj hget).symm⟩
    · have hretired := hdisposed.retired id attempt hget
      refine .inr ⟨hretired, ?_⟩
      rcases hdisposed.gone id attempt hget with hgone | ⟨hold, -⟩
      · exact hgone
      · exact hretired.socket.elim (fun hgone =>
        hgone) (brokenOpen_eq_false_iff.mp hbroken _ _ hold)
  refine ⟨?_, ?_, fun hok => absurd hok hnotOk, ?_, ?_⟩
  · intro id hid
    cases Option.some.inj (hcurrent.symm.trans hid)
    refine ⟨newAttempt desired, ?_, newAttempt_serving desired, fun hok => absurd hok hnotOk⟩
    rw [hattempts, Table.get?_insert, if_pos rfl]
  · intro id attempt hid hne
    rcases hget id attempt hid with ⟨hactive, -⟩ | ⟨hretired, -⟩
    · exact absurd hactive hne
    · exact hretired
  · intro id attempt id' attempt' hid hid' hopen hopen'
    rcases hget id attempt hid with ⟨hactive, -⟩ | ⟨-, hgone⟩
    · rcases hget id' attempt' hid' with ⟨hactive', -⟩ | ⟨-, hgone'⟩
      · exact Option.some.inj (hactive.symm.trans hactive')
      · rw [hgone'] at hopen'
        cases hopen'
    · rw [hgone] at hopen
      cases hopen
  · rw [hclosed, hdesired, hdisposed.closed, hdisposed.desired]
    exact h.shut

/-- Closing leaves a consistent monitor. -/
theorem Consistent.close (h : m.Consistent) : (m.close settings inputs).Consistent := by
  have hstopped : ({ m with closed := true, desired := none }.clearReconnectTimer).Consistent :=
    ⟨h.serving, h.retired, h.linked, h.single, fun _ => rfl⟩
  have hdisposed := hstopped.disposeCurrent settings inputs "monitor_closed"
  refine ⟨?_, ?_, ?_, hdisposed.single, fun _ => hdisposed.desired⟩
  · intro id hcurrent
    cases hcurrent
  · exact fun id attempt hget _ => hdisposed.retired id attempt hget
  · intro hok
    cases hok

theorem wants_iff {markets : List String} : m.wants markets = true ↔
    ¬ (m.state.status = .ok ∧ m.state.subscribedMarkets = markets) := by
  simp [wants, imp_iff_not_or]

variable (settings inputs) in
theorem ensureDesiredConnection_cases :
    (∃ desired, m.desired = some desired ∧ m.closed = false ∧ m.wants desired.markets = true ∧
      m.ensureDesiredConnection settings inputs = m.openConnection settings inputs desired) ∨
    (∀ desired, m.desired = some desired → m.closed = false → m.wants desired.markets = false) ∧
      m.ensureDesiredConnection settings inputs = { m with connectPromise := some .ended } := by
  unfold ensureDesiredConnection
  by_cases hclosed : m.closed = true
  · right
    rw [if_pos hclosed]
    exact ⟨fun _ _ hopen => absurd (hclosed.symm.trans hopen) (by simp), rfl⟩
  · rw [if_neg hclosed]
    cases hdesired : m.desired with
    | none => exact .inr ⟨fun _ hsome => (by cases hsome), rfl⟩
    | some desired =>
      dsimp only
      split <;> rename_i hshown
      · refine .inr ⟨?_, rfl⟩
        intro other hsome _
        cases Option.some.inj hsome
        rw [← Bool.not_eq_true, wants_iff, not_not]
        exact hshown
      · exact .inl ⟨desired, rfl, by simpa using hclosed, wants_iff.mpr hshown, rfl⟩

/-- A round of the connect loop, if it opens no connection too early. -/
theorem Consistent.ensureDesiredConnection (h : m.Consistent)
    (hcareful : ∀ desired, m.desired = some desired → m.closed = false →
      m.wants desired.markets = true → m.state.status ≠ .ok ∧ m.brokenOpen = false) :
    (m.ensureDesiredConnection settings inputs).Consistent := by
  rcases ensureDesiredConnection_cases settings inputs (m := m) with
    ⟨desired, hdesired, hclosed, hwants, heq⟩ | ⟨-, heq⟩
  · rcases hcareful desired hdesired hclosed hwants with ⟨hstatus, hbroken⟩
    rw [heq]
    exact h.openConnection hstatus hbroken desired
  · rw [heq]
    exact ⟨h.serving, h.retired, h.linked, h.single, h.shut⟩

theorem Consistent.ensureConnected {auth : ApiKeyCreds} {markets : List String}
    (h : m.Consistent) (hcareful : m.Careful (.ensureConnected auth markets))
    (hcall : m.ensureConnected settings inputs auth markets = .ok m') : m'.Consistent := by
  unfold WsUserStreamMonitor.ensureConnected at hcall
  by_cases hempty : desiredMarkets markets = []
  · rw [if_pos hempty] at hcall
    cases hcall
  by_cases hclosed : m.closed = true
  · rw [if_neg hempty, if_pos hclosed] at hcall
    cases hcall
  rw [if_neg hempty, if_neg hclosed] at hcall
  split at hcall
  · cases hcall
    exact ⟨h.serving, h.retired, h.linked, h.single, fun hshut => absurd hshut hclosed⟩
  · rename_i hshown
    cases hcall
    unfold startConnecting
    split <;> rename_i hpromise
    · exact ⟨h.serving, h.retired, h.linked, h.single, fun hshut => absurd hshut hclosed⟩
    · refine Consistent.ensureDesiredConnection
        ⟨h.serving, h.retired, h.linked, h.single, fun hshut => absurd hshut hclosed⟩ ?_
      intro desired hdesired _ _
      refine hcareful ?_
      have hnone : m.connectPromise.isNone = true := by simpa using hpromise
      simp [opens, hempty, hclosed, hnone, wants_iff.mpr hshown]

theorem Consistent.onReconnect (h : m.Consistent) (hcareful : m.Careful .reconnectTimer) :
    (m.onReconnect settings inputs).Consistent := by
  have hfired := h.clearReconnectTimer
  unfold WsUserStreamMonitor.onReconnect
  dsimp only
  split
  · exact hfired
  · unfold startConnecting
    split <;> rename_i hpromise
    · exact hfired
    · change ¬ m.connectPromise.isSome = true at hpromise
      refine hfired.ensureDesiredConnection ?_
      intro desired hdesired hclosed hwants
      refine hcareful ?_
      have hnone : m.connectPromise.isNone = true := by simpa using hpromise
      change m.desired = some desired at hdesired
      change m.closed = false at hclosed
      change m.wants desired.markets = true at hwants
      simp [opens, hclosed, hnone, hdesired, hwants]

theorem Consistent.continueConnecting (h : m.Consistent)
    (hestablished : m.awaitedEstablished = true) (hcareful : m.Careful .attemptAwaited) :
    (m.continueConnecting settings inputs).Consistent := by
  unfold WsUserStreamMonitor.continueConnecting
  cases hdesired : m.desired with
  | none => exact ⟨h.serving, h.retired, h.linked, h.single, fun _ => rfl⟩
  | some desired =>
    have hopen : m.closed = false := by
      by_contra hshut
      rw [h.shut (by simpa using hshut)] at hdesired
      cases hdesired
    dsimp only
    split <;> rename_i hshown
    · exact ⟨h.serving, h.retired, h.linked, h.single,
        fun hshut => absurd (hshut.symm.trans hopen) (by simp)⟩
    · have hdisposed := h.disposeCurrent settings inputs "subscription_updated"
      have hopens : m.opens .attemptAwaited = true := by
        simp [opens, hestablished, hopen, hdesired, hshown]
      rcases hcareful hopens with ⟨hstatus, hbroken⟩
      refine (hdisposed.consistent hstatus h.shut).ensureDesiredConnection ?_
      intro other _ _ _
      rw [hdisposed.state]
      refine ⟨hstatus, brokenOpen_eq_false_iff.mpr fun id attempt hget herred => ?_⟩
      rcases hdisposed.gone id attempt hget with hgone | ⟨hold, -⟩
      · exact hgone
      · exact brokenOpen_eq_false_iff.mp hbroken id attempt hold herred

/-! ## Events of an attempt -/

section Attempt

variable (h : m.Consistent) (hcurrent : m.currentAttempt = some id)

include h hcurrent

theorem Consistent.completeFailure
    (error : ThrownError) : (m.completeFailure settings inputs id error).Consistent := by
  by_cases hsettled : m.settled id = true
  · rw [WsUserStreamMonitor.completeFailure, if_pos hsettled]
    exact h
  · rcases completeFailure_drops settings inputs hcurrent
      (by simpa using hsettled) error with ⟨hdrops, hstatus⟩
    exact .of_drops (h.others hcurrent) h.single h.shut hdrops (by simp [hstatus])

theorem Consistent.completeSuccess
    (hget : m.attempts.get? id = some attempt) (hopened : attempt.socket.readyState = .opened) :
    (m.completeSuccess inputs id).Consistent := by
  rcases h.serving id hcurrent with ⟨_, hget', hserving, -⟩
  cases hget.symm.trans hget'
  unfold WsUserStreamMonitor.completeSuccess
  rw [hget]
  dsimp only
  split
  · exact h
  rw [if_pos (isActiveAttempt_iff.mpr hcurrent)]
  refine h.of_serving (f := fun attempt => attempt.clearAttemptStartupTimers.settle (.ok ()))
    hcurrent hget rfl rfl ?_ (fun _ => ⟨hopened, rfl⟩) hserving.kept rfl rfl
  exact ⟨hserving.kept, hserving.sound, .inr (hserving.not_connecting (by simp [hopened])),
    fun hready => by cases hready⟩

theorem Consistent.moved (f : ConnectionAttempt → ConnectionAttempt) :
    (m.updateAttempt id f).Others id ∧ (m.updateAttempt id f).SingleSocket := by
  rcases h.serving id hcurrent with ⟨attempt, hget, hserving, -⟩
  refine ⟨(h.others hcurrent).of_modify rfl, h.single.ages (.of_modify rfl ?_)⟩
  intro old hold hgone
  cases hget.symm.trans hold
  rw [hserving.kept] at hgone
  cases hgone

variable {f : ConnectionAttempt → ConnectionAttempt}

theorem Consistent.failMoved (hmoved : m' = m.updateAttempt id f)
    (hpending : m'.settled id = false) (error : ThrownError) :
    (m'.completeFailure settings inputs id error).Consistent := by
  subst hmoved
  rcases h.moved hcurrent f with ⟨hothers, hsingle⟩
  rcases completeFailure_drops settings inputs
    (m := m.updateAttempt id f) hcurrent hpending error with ⟨hdrops, hfailed⟩
  exact .of_drops hothers hsingle h.shut hdrops (by simp [hfailed])

theorem Consistent.onOpen (hget : m.attempts.get? id = some attempt)
    (hconnecting : attempt.socket.readyState = .connecting) :
    ((m.moveSocket id (·.reportOpen)).onOpen settings inputs id).Consistent := by
  rcases h.serving id hcurrent with ⟨_, hget', hserving, hok⟩
  cases hget.symm.trans hget'
  have houtcome : attempt.outcome = none := by
    rcases hserving.state with ⟨-, -, houtcome⟩ | ⟨hopened, -⟩
    · exact houtcome
    · rw [hconnecting] at hopened
      cases hopened
  have hstatus : m.state.status ≠ .ok := by
    intro hshown
    rw [hconnecting] at hok
    cases (hok hshown).1
  have hactive : (m.moveSocket id (·.reportOpen)).isActiveAttempt id = true :=
    isActiveAttempt_iff.mpr hcurrent
  unfold WsUserStreamMonitor.onOpen
  rw [if_pos hactive]
  cases inputs.sendError with
  | some message =>
    have hpending : (m.moveSocket id (·.reportOpen)).settled id = false := by
      rw [settled_moveSocket, settled, hget]
      simp [houtcome]
    exact h.failMoved hcurrent rfl hpending _
  | none =>
    exact h.of_serving
      (f := ConnectionAttempt.subscribe ∘ fun attempt =>
        { attempt with socket := attempt.socket.reportOpen })
      hcurrent hget (Table.modify_modify ..) rfl (hserving.subscribe hconnecting)
      (fun hshown => absurd hshown hstatus) hserving.kept rfl rfl

theorem Consistent.onMessage (hget : m.attempts.get? id = some attempt)
    (hstate : attempt.socket.readyState = .opened ∨ attempt.socket.readyState = .closing)
    (message : Option Json.Value) : (m.onMessage settings inputs id message).Consistent := by
  rcases h.serving id hcurrent with ⟨_, hget', hserving, -⟩
  cases hget.symm.trans hget'
  have hopened : attempt.socket.readyState = .opened :=
    (hserving.not_connecting (by rcases hstate with hstate | hstate <;> simp [hstate])).1
  unfold WsUserStreamMonitor.onMessage
  rw [if_pos (isActiveAttempt_iff.mpr hcurrent)]
  have hreceived : ({ m with state := m.receivedState inputs message }).Consistent :=
    ⟨h.serving, h.retired, h.linked, h.single, h.shut⟩
  split
  · exact hreceived
  split
  · exact hreceived.completeFailure hcurrent _
  · exact hreceived.completeSuccess hcurrent hget hopened

theorem Consistent.lose (g : UserStreamSocket → UserStreamSocket)
    (hg : ∀ socket, (g socket).gone = true ∨ (g socket).erred = true) (message : String) :
    (if (m.moveSocket id g).settled id then
        (m.moveSocket id g).markDisconnected settings inputs message
      else
        (m.moveSocket id g).completeFailure settings inputs id
          (.other none message)).Consistent := by
  rcases h.moved hcurrent fun attempt => { attempt with socket := g attempt.socket } with
    ⟨hothers, hsingle⟩
  split <;> rename_i hsettled
  · have hsocket : ∀ attempt, (m.moveSocket id g).attempts.get? id = some attempt →
        attempt.socket.gone = true ∨ attempt.socket.erred = true := by
      intro attempt hget
      rw [moveSocket, get?_updateAttempt, if_pos rfl] at hget
      rcases Option.map_eq_some_iff.mp hget with ⟨old, -, rfl⟩
      exact hg old.socket
    rcases markDisconnected_drops settings inputs
      (m := m.moveSocket id g) hcurrent message hsocket with ⟨hdrops, hfailed⟩
    exact .of_drops hothers hsingle h.shut hdrops (by simp [hfailed])
  · exact h.failMoved hcurrent rfl (eq_false_of_ne_true hsettled) _

theorem Consistent.fired
    (hf : ∀ attempt : ConnectionAttempt, attempt.Serving → (f attempt).Serving ∧
      (f attempt).socket = attempt.socket ∧ (f attempt).markets = attempt.markets) :
    (m.updateAttempt id f).Consistent := by
  rcases h.serving id hcurrent with ⟨attempt, hget, hserving, hok⟩
  rcases hf attempt hserving with ⟨hserving', hsocket, hmarkets⟩
  refine h.of_serving hcurrent hget rfl rfl hserving' ?_ hserving.kept rfl rfl
  rw [hsocket, hmarkets]
  exact hok

theorem Consistent.onHeartbeat (hget : m.attempts.get? id = some attempt) :
    (m.onHeartbeat settings inputs id attempt).Consistent := by
  rcases h.serving id hcurrent with ⟨_, hget', hserving, hok⟩
  cases hget.symm.trans hget'
  have hlost : ∀ message, ((m.markDisconnected settings inputs message).updateAttempt id
      (·.closeSocket)).Consistent := by
    intro message
    rcases closeDisconnected_drops settings inputs hcurrent message with
      ⟨hdrops, hfailed⟩
    exact .of_drops (h.others hcurrent) h.single h.shut hdrops (by simp [hfailed])
  unfold WsUserStreamMonitor.onHeartbeat
  split
  swap
  · exact h
  rename_i hactive
  split
  · exact hlost _
  split
  · exact hlost _
  · rcases hserving.not_connecting (by simp [hactive.2]) with ⟨hopened, ⟨auth, hsent⟩, hunique⟩
    refine h.of_serving (f := (·.send .ping)) hcurrent hget rfl rfl ?_ hok hserving.kept rfl rfl
    refine ⟨hserving.kept, hserving.sound, .inr ⟨hopened, ⟨auth, ?_⟩, ?_⟩, hserving.ready⟩
    · simp [ConnectionAttempt.send, UserStreamSocket.send, hsent]
    · intro auth' markets hmem
      simp only [ConnectionAttempt.send, UserStreamSocket.send, List.mem_append,
        List.mem_singleton, reduceCtorEq, or_false] at hmem
      exact hunique auth' markets hmem

/-- An event of the current attempt keeps the monitor consistent. -/
theorem Consistent.attemptTurn (hget : m.attempts.get? id = some attempt) {event : UserStreamEvent}
    (hturn : m.attemptTurn settings inputs id attempt event = some m') : m'.Consistent := by
  rcases h.serving id hcurrent with ⟨_, hget', hserving, -⟩
  cases hget.symm.trans hget'
  unfold WsUserStreamMonitor.attemptTurn at hturn
  cases event with
  | socketOpen =>
    dsimp only at hturn
    split_ifs at hturn with hstate
    cases hturn
    exact h.onOpen hcurrent hget hstate
  | socketMessage _ message =>
    dsimp only at hturn
    split_ifs at hturn with hstate
    cases hturn
    exact h.onMessage hcurrent hget hstate message
  | socketError _ message =>
    dsimp only at hturn
    split_ifs at hturn with hstate
    cases hturn
    unfold onError
    rw [if_pos (by exact isActiveAttempt_iff.mpr hcurrent)]
    exact h.lose hcurrent _ (fun _ => .inr rfl) message
  | socketClose _ code reason =>
    dsimp only at hturn
    split_ifs at hturn with hstate
    cases hturn
    unfold onClose
    rw [if_pos (by exact isActiveAttempt_iff.mpr hcurrent)]
    exact h.lose hcurrent _ (fun socket => .inl (by simp [UserStreamSocket.reportClose,
      UserStreamSocket.gone])) _
  | connectTimer =>
    dsimp only at hturn
    split_ifs at hturn with hrunning
    cases hturn
    refine (h.fired hcurrent fun attempt hold => ?_).completeFailure hcurrent _
    exact ⟨⟨hold.kept, hold.sound, hold.state, hold.ready⟩, rfl, rfl⟩
  | readyTimer =>
    dsimp only at hturn
    split_ifs at hturn with hrunning
    cases hturn
    have hfired : (m.updateAttempt id ({ · with readyTimer := false })).Consistent := by
      refine h.fired hcurrent fun attempt hold => ?_
      exact ⟨⟨hold.kept, hold.sound, hold.state, fun hready => by cases hready⟩, rfl, rfl⟩
    have hget'' : (m.updateAttempt id ({ · with readyTimer := false })).attempts.get? id =
        some { attempt with readyTimer := false } := by
      simp [hget]
    exact hfired.completeSuccess hcurrent hget'' (hserving.ready hrunning)
  | heartbeatTimer =>
    dsimp only at hturn
    split_ifs at hturn with hrunning
    cases hturn
    exact h.onHeartbeat hcurrent hget
  | ensureConnected | close | reconnectTimer | attemptAwaited | loopEnded => cases hturn

end Attempt

/-- An event of a retired attempt changes that attempt only, and keeps it retired. -/
theorem attemptTurn_of_inactive (hinactive : m.currentAttempt ≠ some id)
    (hretired : attempt.Retired) {event : UserStreamEvent}
    (hturn : m.attemptTurn settings inputs id attempt event = some m') :
    ∃ f, m' = { m with attempts := m.attempts.modify id f } ∧ (f attempt).Retired ∧
      (attempt.socket.gone = true → (f attempt).socket.gone = true) := by
  have hidle : ∀ base : WsUserStreamMonitor, base.currentAttempt = m.currentAttempt →
      ¬ base.isActiveAttempt id = true := by
    intro base hbase hactive
    exact hinactive (hbase ▸ isActiveAttempt_iff.mp hactive)
  unfold attemptTurn at hturn
  cases event with
  | socketOpen =>
    dsimp only at hturn
    split_ifs at hturn with hstate
    cases hturn
    unfold onOpen
    rw [if_neg (hidle (m.moveSocket id (·.reportOpen)) rfl)]
    refine ⟨ConnectionAttempt.closeSocket ∘ fun attempt =>
      { attempt with socket := attempt.socket.reportOpen }, ?_, ?_, ?_⟩
    · rw [← Table.modify_modify]
      rfl
    · exact ⟨hretired.connectTimer, hretired.readyTimer, hretired.heartbeatTimer,
        .inl (ConnectionAttempt.gone_closeSocket _)⟩
    · exact fun _ => ConnectionAttempt.gone_closeSocket _
  | socketMessage _ message =>
    dsimp only at hturn
    split_ifs at hturn with hstate
    cases hturn
    unfold onMessage
    rw [if_neg (hidle m rfl)]
    exact ⟨fun attempt => attempt, by simp, hretired, fun hgone => hgone⟩
  | socketError _ message =>
    dsimp only at hturn
    split_ifs at hturn with hstate
    cases hturn
    unfold onError
    rw [if_neg (hidle (m.moveSocket id (·.reportError)) rfl)]
    refine ⟨_, rfl, ?_, ?_⟩
    · exact ⟨hretired.connectTimer, hretired.readyTimer, hretired.heartbeatTimer, .inr rfl⟩
    · simpa [UserStreamSocket.gone, UserStreamSocket.reportError] using
        fun hgone => hgone.resolve_right hstate
  | socketClose _ code reason =>
    dsimp only at hturn
    split_ifs at hturn with hstate
    cases hturn
    unfold onClose
    rw [if_neg (hidle (m.moveSocket id (·.reportClose)) rfl)]
    have hgone : attempt.socket.reportClose.gone = true := by
      simp [UserStreamSocket.reportClose, UserStreamSocket.gone]
    refine ⟨_, rfl, ?_, fun _ => hgone⟩
    exact ⟨hretired.connectTimer, hretired.readyTimer, hretired.heartbeatTimer, .inl hgone⟩
  | connectTimer =>
    rw [hretired.connectTimer] at hturn
    cases hturn
  | readyTimer =>
    rw [hretired.readyTimer] at hturn
    cases hturn
  | heartbeatTimer =>
    rw [hretired.heartbeatTimer] at hturn
    cases hturn
  | ensureConnected | close | reconnectTimer | attemptAwaited | loopEnded => cases hturn

theorem awaitedEstablished_iff : m.awaitedEstablished = true ↔
    ∃ id, m.connectPromise = some (.awaiting id) ∧
      (m.attempts.get? id).bind (·.outcome) = some (.ok ()) := by
  unfold awaitedEstablished
  split
  · rename_i id hpromise
    simp only [hpromise, Option.some.injEq, ConnectLoop.awaiting.injEq, exists_eq_left']
    rcases (m.attempts.get? id).bind (·.outcome) with _ | (error | ⟨⟩) <;> simp [Except.isOk,
      Except.toBool]
  · rename_i hother
    simp only [Bool.false_eq_true, false_iff]
    rintro ⟨id, hpromise, -⟩
    exact hother id hpromise

theorem exists_attemptTurn {turn : UserStreamTurn} (hevent : turn.event.attempt? = some id)
    (hstep : m.step settings turn = some m') :
    ∃ attempt, m.attempts.get? id = some attempt ∧
      m.attemptTurn settings turn.inputs id attempt turn.event = some m' := by
  rcases turn with ⟨event, inputs⟩
  cases event with
  | ensureConnected | close | reconnectTimer | attemptAwaited | loopEnded => cases hevent
  | _ =>
    cases hevent
    exact Option.bind_eq_some_iff.mp hstep

/-- A careful turn keeps the monitor consistent. -/
theorem Consistent.turn {turn : UserStreamTurn} (h : m.Consistent)
    (hcareful : m.Careful turn.event) (hstep : m.step settings turn = some m') : m'.Consistent := by
  cases hevent : turn.event.attempt? with
  | some id =>
    rcases exists_attemptTurn hevent hstep with ⟨attempt, hget, hturn⟩
    by_cases hcurrent : m.currentAttempt = some id
    · exact h.attemptTurn hcurrent hget hturn
    · rcases attemptTurn_of_inactive hcurrent (h.retired id attempt hget hcurrent) hturn with
        ⟨f, rfl, hretired, hgone⟩
      refine h.of_retired hcurrent rfl rfl rfl ?_ rfl rfl
      intro old hold _
      cases hget.symm.trans hold
      exact ⟨hretired, hgone⟩
  | none =>
    rcases turn with ⟨event, inputs⟩
    cases event with
    | socketOpen | socketMessage | socketError | socketClose | connectTimer | readyTimer
    | heartbeatTimer => cases hevent
    | ensureConnected auth markets =>
      simp only [step] at hstep
      split at hstep <;> cases hstep
      · rename_i hcall
        exact h.ensureConnected hcareful hcall
      · exact h
    | close =>
      cases hstep
      exact h.close
    | reconnectTimer =>
      simp only [step] at hstep
      split at hstep <;> cases hstep
      exact h.onReconnect hcareful
    | attemptAwaited =>
      simp only [step] at hstep
      split at hstep
      · rename_i id hpromise
        split at hstep <;> cases hstep
        · rename_i houtcome
          exact h.continueConnecting (awaitedEstablished_iff.mpr ⟨id, hpromise, houtcome⟩) hcareful
        · exact ⟨h.serving, h.retired, h.linked, h.single, h.shut⟩
      · cases hstep
    | loopEnded =>
      simp only [step] at hstep
      split at hstep <;> cases hstep
      exact ⟨h.serving, h.retired, h.linked, h.single, h.shut⟩

theorem Consistent.truthful (h : m.Consistent) : m.Truthful settings where
  health := by
    intro hok
    rcases Option.ne_none_iff_exists'.mp (h.linked hok) with ⟨id, hcurrent⟩
    rcases h.serving id hcurrent with ⟨attempt, hget, hserving, hshown⟩
    rcases hshown hok with ⟨hopened, hmarkets⟩
    refine ⟨id, attempt, hcurrent, hget, hopened, ?_⟩
    rw [← hmarkets]
    exact (hserving.not_connecting (by simp [hopened])).2
  single := h.single
  ignored := by
    intro turn id m' hevent hinactive hstep
    rcases exists_attemptTurn hevent hstep with ⟨attempt, hget, hturn⟩
    rcases attemptTurn_of_inactive hinactive (h.retired id attempt hget hinactive) hturn with
      ⟨f, hnext, -⟩
    exact ⟨_, hnext⟩

end WsUserStreamMonitor

/-- The monitor with no history. -/
def streamSystem (settings : UserStreamSettings) :
    System WsUserStreamMonitor UserStreamTurn Unit where
  step := WsUserStreamMonitor.step settings
  record _ _ _ _ := ()

/-- The health of the stream is truthful in every run of careful turns. -/
theorem truthful_stream (settings : UserStreamSettings) (m : WsUserStreamMonitor)
    (hrun : System.Run (streamSystem settings) (fun _ m turn _ => m.Careful turn.event)
      ((), WsUserStreamMonitor.new) () m) :
    m.Truthful settings := by
  have hconsistent : m.Consistent :=
    hrun.invariant (fun _ m => m.Consistent) WsUserStreamMonitor.new_consistent
      fun _ _ _ _ h hstep hcareful => h.turn hcareful hstep
  exact hconsistent.truthful

instance (m : WsUserStreamMonitor) (event : UserStreamEvent) : Decidable (m.Careful event) :=
  inferInstanceAs (Decidable (m.opens event = true → m.state.status ≠ .ok ∧ m.brokenOpen = false))

def sampleSettings : UserStreamSettings where
  reconnectBaseMs := 1000
  reconnectMaxMs := 30000
  stalenessMs := 60000

def sampleTurn (event : UserStreamEvent) : UserStreamTurn where
  event
  inputs := { now := 1000, random := 1 / 2, sendError := none }

def sampleCreds : ApiKeyCreds where
  key := "key"
  secret := "secret"
  passphrase := "passphrase"

def sampleReconnect : List UserStreamTurn :=
  [.ensureConnected sampleCreds ["market"], .socketOpen 1, .socketMessage 1 none, .attemptAwaited,
    .loopEnded, .socketClose 1 1006 "", .reconnectTimer, .socketOpen 2, .readyTimer 2].map sampleTurn

def sampleReplacement : List UserStreamTurn :=
  [.ensureConnected sampleCreds ["market"], .socketOpen 1, .socketMessage 1 none, .attemptAwaited,
    .loopEnded, .ensureConnected sampleCreds ["other"]].map sampleTurn

/-- The status is `ok` and the socket of the current attempt still connects. -/
def WsUserStreamMonitor.hasty (m : WsUserStreamMonitor) : Bool :=
  m.state.status == .ok && (m.currentAttempt.bind m.attempts.get?).any fun attempt =>
    attempt.socket.readyState == .connecting

theorem WsUserStreamMonitor.not_truthful_of_hasty {settings : UserStreamSettings}
    {m : WsUserStreamMonitor} (h : m.hasty = true) : ¬ m.Truthful settings := by
  intro htruthful
  simp only [hasty, Bool.and_eq_true, beq_iff_eq, Option.any_eq_true] at h
  rcases h with ⟨hok, attempt, hcurrent, hconnecting⟩
  rcases htruthful.health hok with ⟨id, shown, hid, hget, hopened, -⟩
  rw [hid, Option.bind_some, hget] at hcurrent
  cases hcurrent
  rw [hconnecting] at hopened
  cases hopened

/-- The status is `ok` again after the connection was made again. -/
theorem truthful_stream_reconnect : ∃ m : WsUserStreamMonitor,
    m.Truthful sampleSettings ∧ m.state.status = .ok ∧ m.currentAttempt = some 2 := by
  have hfollow : ((streamSystem sampleSettings).follow
      (fun _ m turn _ => decide (m.Careful turn.event)) sampleReconnect ((), .new)).any (fun s =>
          s.2.state.status == .ok && s.2.currentAttempt == some 2) = true := by
    decide +kernel
  rcases System.exists_run_of_follow hfollow fun _ _ _ _ hcareful => of_decide_eq_true hcareful with
    ⟨_, m, hrun, hend⟩
  simp only [Bool.and_eq_true, beq_iff_eq] at hend
  exact ⟨m, truthful_stream sampleSettings m hrun, hend⟩

/-- While a live connection is replaced, the status is not truthful. -/
theorem untruthful_replacement :
    ¬ ∀ (settings : UserStreamSettings) (m : WsUserStreamMonitor),
      System.Run (streamSystem settings) (fun _ _ _ _ => True) ((), .new) () m →
        m.Truthful settings := by
  intro hall
  have hfollow : ((streamSystem sampleSettings).follow (fun _ _ _ _ => true) sampleReplacement
      ((), .new)).any (fun s => s.2.hasty) = true := by
    decide +kernel
  rcases System.exists_run_of_follow hfollow fun _ _ _ _ _ => trivial with ⟨_, m, hrun, hend⟩
  exact WsUserStreamMonitor.not_truthful_of_hasty hend (hall sampleSettings m hrun)

end BubaPaint.UserStream
