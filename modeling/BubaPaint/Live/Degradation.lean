import BubaPaint.Library.Runs
import BubaPaint.Live.KillSwitch

/-!
# Continuous remote degradation

The remote refreshes of an armed session follow one another. A refresh whose reports come back
degraded notes since when; a refresh whose reports are refused throws its copy away and with it what
the copy has noted. So the session is halted once two refreshes that got their reports lie far
enough apart.

Main results:

- Theorem `within_refreshRemoteState`: the outcomes of one degraded refresh
- Theorem `refreshRound_degraded`: one round of the loop
- Theorem `degraded_rounds_halt`: when a degraded run is halted
- Theorem `refused_rounds_stay_armed`: refused refreshes do not halt a session
-/

namespace BubaPaint

open Effects Method List
open Program (Always Emits Given emits_map given_bind given_map)

/-- One round: a refresh worker runs on a copy of the monitor and the loop merges its output. -/
def refreshRound (config : Config) (monitor : LiveTradingMonitor)
    (round : World × (ℕ → Answer)) : LiveTradingMonitor × List Exchange :=
  let (output, world) :=
    Live.run (spawnLiveMonitorWorker config monitor .remoteRefresh) round.2 round.1
  (applyLiveMonitorWorkerOutput monitor output, world.callsSince round.1)

/-- Rounds one after another, with the calls of each. The database may change between them. -/
def refreshSystem (config : Config) :
    System LiveTradingMonitor (World × (ℕ → Answer)) (List (List Exchange)) where
  step monitor round := some (refreshRound config monitor round).1
  record rounds monitor round _ := rounds ++ [(refreshRound config monitor round).2]

/-- A refresh with no failed database call that either was refused a report or got degraded ones,
at a time that is not before the onset the monitor knows. -/
structure DegradedRound (config : Config) (monitor : LiveTradingMonitor) (calls : List Exchange) :
    Prop where
  database : ∀ x ∈ calls, failedDatabaseCall x = false
  clock : ∀ active t, monitor.degradation.active = some active → ⟨.now, t⟩ ∈ calls →
    active.startedAtMs ≤ t
  degraded : ∀ preflight account activity, ⟨.preflight, .ok preflight⟩ ∈ calls →
    ⟨.accountState, .ok account⟩ ∈ calls → ⟨.activity, .ok activity⟩ ∈ calls →
    reportsDegraded config preflight account activity = true

/-- Every reading of the clock in the last round is later than those in the first by the terminal
threshold. -/
def farApart (first last : List Exchange) : Prop :=
  ∀ t t', ⟨.now, t⟩ ∈ first → ⟨.now, t'⟩ ∈ last → t + liveTerminalDegradationMs ≤ t'

/-- The rounds from the first to the last span the terminal threshold. -/
def SpansThreshold (rounds : List (List Exchange)) : Prop :=
  ∃ first between last, rounds = first :: (between ++ [last]) ∧ farApart first last

/-- Two rounds without a refused report lie apart by the terminal threshold. -/
def SpansAnswered (rounds : List (List Exchange)) : Prop :=
  ∃ first last, List.Sublist [first, last] rounds ∧
    ¬ reportFailed first ∧ ¬ reportFailed last ∧ farApart first last

/-- A run of degraded rounds that spans the threshold ends with an armed session halted. -/
def DegradationHalts (config : Config) (spans : List (List Exchange) → Prop) : Prop :=
  ∀ start : LiveTradingMonitor, start.state = .armed → ∀ rounds monitor,
    (refreshSystem config).Run
      (fun _ monitor round _ =>
        DegradedRound config monitor (refreshRound config monitor round).2)
      ([], start) rounds monitor →
    spans rounds → monitor.state = .halted

namespace LiveTradingMonitor

/-! ## Methods without failing database calls -/

def Recordable (breach : LiveRiskBreach) : Prop :=
  isBlank breach.reason = false

theorem recordable_of_breach? {risk : LiveRiskMonitor} {config : Config} {breach : LiveRiskBreach}
    (h : risk.breach? config = some breach) : Recordable breach := by
  unfold LiveRiskMonitor.breach? at h
  unfold Recordable
  split at h
  · cases h
    decide +kernel
  split at h
  · cases h
    decide +kernel
  split at h
  · cases h
    decide +kernel
  · cases h

section Within

variable {α : Type} {self : LiveTradingMonitor} {calls : List Exchange}

/-- As long as every call and its reply is one of the listed ones, `post` holds of the outcome. -/
abbrev Within (calls : List Exchange) (post : Except String α × LiveTradingMonitor → Prop)
    (m : MonitorMethod α) (self : LiveTradingMonitor) : Prop :=
  Given (fun c reply => (⟨c, reply⟩ : Exchange) ∈ calls) post (m.on self)

variable {post : Except String α × LiveTradingMonitor → Prop}
variable {actor reason : String} {issues : List String} {config : Config}

theorem within_external_bind {c : LiveCall} {f : c.Reply → MonitorMethod α}
    (hf : ∀ reply, ⟨c, reply⟩ ∈ calls → Within calls post (f reply) self) :
    Within calls post (external c >>= f) self :=
  hf

variable (hcalls : ∀ x ∈ calls, failedDatabaseCall x = false)

include hcalls

theorem within_database_bind {c : DatabaseCall} {f : c.Reply → MonitorMethod α}
    (hf : ∀ reply, Within calls post (f reply) self) :
    Within calls post (database c >>= f) self := by
  rintro (error | reply) hmem
  · cases hcalls _ hmem
  · exact hf reply

theorem within_updateSessionMetadata :
    Within calls (fun r => r = (.ok (), self)) updateSessionMetadata self := by
  rintro (error | reply) hmem
  · cases hcalls _ hmem
  · exact rfl

theorem within_setState {state : ControlState} (hactor : isBlank actor = false)
    (hreason : isBlank reason = false) (nowMs : ℕ) :
    Within calls (fun r => r = (.ok (), self.withState state reason))
      (setState state actor reason nowMs) self := by
  have hstate : isBlank state.asStr = false := by
    cases state <;> decide
  unfold setState recordLiveControlState validateOperatorText
  rw [hactor, hreason, hstate]
  rintro (error | id) hmem
  · cases hcalls _ hmem
  rintro (error | auditId) hmem
  · cases hcalls _ hmem
  exact within_updateSessionMetadata hcalls

theorem within_terminalHalt (hactor : isBlank actor = false) (hreason : isBlank reason = false)
    (eventType : String) :
    Within calls (fun r => r.1 = .ok () ∧ r.2.state = .halted)
      (terminalHalt actor reason eventType) self := by
  refine within_external_bind fun nowMs _ => ?_
  refine within_external_bind fun _ _ => ?_
  refine (given_modify_bind _ _).mpr ?_
  refine within_database_bind hcalls fun _ => ?_
  refine (given_on_bind _ _).mpr ?_
  refine (within_setState hcalls hactor hreason nowMs).mono ?_
  rintro _ rfl
  refine (given_get_bind _).mpr ?_
  refine within_database_bind hcalls fun _ => ?_
  exact within_database_bind hcalls fun _ => ⟨rfl, rfl⟩

theorem within_refreshOnchainReconciliationHalt :
    Within calls (fun r => r = (.ok false, self) ∨ r.1 = .ok true ∧ r.2.state = .halted)
      refreshOnchainReconciliationHalt self := by
  refine (given_get_bind _).mpr ?_
  refine within_database_bind hcalls fun _ => ?_
  refine within_database_bind hcalls fun critical => ?_
  split
  · exact .inl rfl
  refine (given_modify_bind _ _).mpr ?_
  split
  · rename_i hhalted
    exact .inr ⟨rfl, hhalted⟩
  refine (given_on_bind _ _).mpr ?_
  refine (within_terminalHalt hcalls (by decide +kernel) (by decide +kernel) _).mono ?_
  rintro ⟨r, self'⟩ ⟨rfl, hhalted⟩
  exact .inr ⟨rfl, hhalted⟩

theorem within_persistRecoveredTrades (sessionId : ℕ) (trades : List LiveActivityEvent) :
    Within calls (fun r => r = (.ok (), self)) (persistRecoveredTrades sessionId trades) self := by
  induction trades with
  | nil => exact rfl
  | cons trade trades ih =>
    refine (given_on_bind _ _).mpr ?_
    have htrade : Within calls (fun r => r = (.ok (), self))
        (persistRecoveredTrade sessionId trade) self := by
      unfold persistRecoveredTrade
      split
      · exact rfl
      · refine within_database_bind hcalls fun known => ?_
        split
        · exact rfl
        · split
          · exact within_database_bind hcalls fun _ => rfl
          · exact rfl
    refine htrade.mono ?_
    rintro _ rfl
    exact ih

theorem within_persistActivityRecovery (activity : LiveActivityResponse) :
    Within calls (fun r => r = (.ok (), self)) (persistActivityRecovery activity) self := by
  refine (given_get_bind _).mpr ?_
  refine (given_on_bind _ _).mpr ?_
  have hstream : Within calls (fun r => r = (.ok (), self)) (if activity.userStreamStatus = .failed
      then do
        let _ ← database (.logLiveReconciliationEvent
          { sessionId := self.sessionId, timestampMs := activity.timestampMs, severity := .critical,
            eventType := "user_stream_unhealthy", localValue := none, remoteValue := none })
      else pure ()) self := by
    split
    · exact within_database_bind hcalls fun _ => rfl
    · exact rfl
  refine hstream.mono ?_
  rintro _ rfl
  exact within_persistRecoveredTrades hcalls _ _

theorem given_runtimeCaptureIssuesForLive (config : Config) (nowMs : ℕ) :
    Given (fun c reply => (⟨c, reply⟩ : Exchange) ∈ calls) (fun r => ∃ issues, r = .ok issues)
      (runtimeCaptureIssuesForLive config nowMs).run := by
  unfold runtimeCaptureIssuesForLive
  split
  · exact ⟨_, rfl⟩
  rintro (error | _ | health) hmem
  · cases hcalls _ hmem
  · exact ⟨_, rfl⟩
  rintro (error | missing) hmem
  · cases hcalls _ hmem
  rintro (error | recorded) hmem
  · cases hcalls _ hmem
  · exact ⟨_, rfl⟩

theorem within_collectIssues (config : Config) (preflight : LivePreflightResponse)
    (account : LiveAccountState) (activity : LiveActivityResponse) :
    Within calls (fun r => ∃ issues, r = (.ok issues, self) ∧
        ∀ issue ∈ liveGateIssues preflight account activity config, issue ∈ issues)
      (collectIssues config preflight account activity) self := by
  refine (given_get_bind _).mpr ?_
  refine within_database_bind hcalls fun _ => ?_
  refine within_database_bind hcalls fun _ => ?_
  refine (given_on_bind _ _).mpr ?_
  refine (within_persistActivityRecovery hcalls activity).mono ?_
  rintro _ rfl
  refine within_external_bind fun nowMs _ => ?_
  refine (given_on_bind _ _).mpr ?_
  rw [on_attempt, given_bind]
  refine (given_runtimeCaptureIssuesForLive hcalls config nowMs).mono ?_
  rintro _ ⟨captureIssues, rfl⟩
  refine within_database_bind hcalls fun ready => ?_
  refine ⟨_, rfl, ?_⟩
  intro issue hissue
  simp only [mem_sortedDistinct, mem_append]
  exact .inl (.inl hissue)

/-! ## A refresh with degraded reports -/

/-- The degradation of the reports is noted at a time the clock gave, and it has not yet lasted past
the threshold. -/
def NotesDegradation (calls : List Exchange) (self self' : LiveTradingMonitor) : Prop :=
  self'.state = self.state ∧ ∃ detail nowMs, ⟨.now, nowMs⟩ ∈ calls ∧
    self.degradation.note degradedKind detail nowMs liveTerminalDegradationMs =
      (self'.degradation, none)

theorem within_evaluateTerminalRemoteState {nowMs : ℕ} (hnow : ⟨.now, nowMs⟩ ∈ calls)
    (hdegraded : self.remoteDegraded issues = true) :
    Within calls (fun r => (∃ breach, r.1 = .ok (some breach) ∧ Recordable breach) ∨
        r.1 = .ok none ∧ NotesDegradation calls self r.2)
      (evaluateTerminalRemoteState nowMs issues) self := by
  unfold evaluateTerminalRemoteState
  split
  · exact .inl ⟨_, rfl, by unfold Recordable; decide +kernel⟩
  refine (given_get_bind _).mpr ?_
  refine (given_modify_bind _ _).mpr ?_
  unfold noteRemoteHealth
  simp only [hdegraded, if_true]
  split
  · exact .inl ⟨_, rfl, by unfold Recordable; decide +kernel⟩
  rename_i hnone
  refine within_database_bind hcalls fun critical => ?_
  split
  · exact .inl ⟨_, rfl, by unfold Recordable; decide +kernel⟩
  · exact .inr ⟨rfl, rfl, _, nowMs, hnow, Prod.ext rfl hnone⟩

theorem within_evaluateReports (hactive : self.terminalRiskIsActive = true)
    (hdegraded : self.remoteDegraded issues = true) (account : LiveAccountState) :
    Within calls (fun r => (∃ breach, r.1 = .ok (some breach) ∧ Recordable breach) ∨
        r.1 = .ok none ∧ NotesDegradation calls self r.2)
      (evaluateReports config account issues) self := by
  refine (given_get_bind _).mpr ?_
  rw [if_pos hactive]
  refine within_external_bind fun nowMs hnow => ?_
  refine (given_on_bind _ _).mpr ?_
  refine (within_evaluateTerminalRemoteState hcalls hnow hdegraded).mono ?_
  rintro ⟨_, self'⟩ (⟨breach, rfl, hbreach⟩ | ⟨rfl, hnoted⟩)
  · exact .inl ⟨breach, rfl, hbreach⟩
  refine (given_get_bind _).mpr ?_
  refine (given_modify_bind _ _).mpr ?_
  cases hrisk : (self'.updateRisk account config).2 with
  | some breach => exact .inl ⟨breach, rfl, recordable_of_breach? hrisk⟩
  | none => exact .inr ⟨rfl, hnoted⟩

theorem within_applyReports {preflight : LivePreflightResponse} {account : LiveAccountState}
    {activity : LiveActivityResponse} (hactive : self.terminalRiskIsActive = true)
    (hdegraded : reportsDegraded config preflight account activity = true) :
    Within calls (fun r => r.1.isOk = true ∧
        (r.2.state = .halted ∨ NotesDegradation calls self r.2))
      (applyReports config preflight account activity) self := by
  refine (given_on_bind _ _).mpr ?_
  refine (within_collectIssues hcalls config preflight account activity).mono ?_
  rintro _ ⟨issues, rfl, hissues⟩
  refine (given_modify_bind _ _).mpr ?_
  refine (given_on_bind _ _).mpr ?_
  have hremote : (self.withReports preflight account activity issues).remoteDegraded issues =
      true := by
    unfold reportsDegraded at hdegraded
    simp only [remoteDegraded, withReports, Bool.or_eq_true, any_eq_true] at hdegraded ⊢
    refine hdegraded.imp_left ?_
    rintro ⟨issue, hissue, hstream⟩
    exact ⟨issue, hissues issue hissue, hstream⟩
  have hstill : (self.withReports preflight account activity issues).terminalRiskIsActive = true :=
    hactive
  refine (within_evaluateReports hcalls hstill hremote account).mono ?_
  rintro ⟨_, self'⟩ (⟨breach, rfl, hbreach⟩ | ⟨rfl, hnoted⟩)
  · refine (given_on_bind _ _).mpr ?_
    refine (within_updateSessionMetadata hcalls).mono ?_
    rintro _ rfl
    refine (given_on_bind _ _).mpr ?_
    refine (within_terminalHalt hcalls (by decide +kernel) hbreach _).mono ?_
    rintro ⟨_, self'⟩ ⟨rfl, hhalted⟩
    exact ⟨rfl, .inl hhalted⟩
  · refine (given_on_bind _ _).mpr ?_
    refine (within_updateSessionMetadata hcalls).mono ?_
    rintro _ rfl
    exact ⟨rfl, .inr hnoted⟩

omit hcalls in
theorem within_recordRemoteRefreshFailure (kind error : String) :
    Within calls (fun r => r.1.isOk = false) (recordRemoteRefreshFailure kind error) self := by
  refine (Always.given (recordRemoteRefreshFailure_returns kind error)).mono ?_
  rintro ⟨error | issues, self'⟩ hreturns
  · rfl
  · exact (hreturns issues rfl).elim

/-- A refresh of an armed session fails after a refused report, halts the session, or notes the
degradation. -/
theorem within_refreshRemoteState (hactive : self.terminalRiskIsActive = true)
    (hdegraded : ∀ preflight account activity, ⟨.preflight, .ok preflight⟩ ∈ calls →
      ⟨.accountState, .ok account⟩ ∈ calls → ⟨.activity, .ok activity⟩ ∈ calls →
      reportsDegraded config preflight account activity = true) :
    Within calls (fun r => r.1.isOk = false ∧ reportFailed calls ∨ r.1.isOk = true ∧
        (r.2.state = .halted ∨ NotesDegradation calls self r.2))
      (refreshRemoteState config) self := by
  have hrefused : ∀ kind error, reportFailed calls →
      Within calls (fun r => r.1.isOk = false ∧ reportFailed calls ∨ r.1.isOk = true ∧
        (r.2.state = .halted ∨ NotesDegradation calls self r.2))
      (recordRemoteRefreshFailure kind error) self := by
    intro kind error hfailed
    exact (within_recordRemoteRefreshFailure kind error).mono fun _ h => .inl ⟨h, hfailed⟩
  refine (given_on_bind _ _).mpr ?_
  refine (within_refreshOnchainReconciliationHalt hcalls).mono ?_
  rintro ⟨r, self'⟩ (⟨⟨⟩⟩ | ⟨rfl, hhalted⟩)
  · rintro (error | preflight) hpreflight
    · exact hrefused _ error ⟨error, .inl hpreflight⟩
    rintro (error | account) haccount
    · exact hrefused _ error ⟨error, .inr (.inl haccount)⟩
    rintro (error | activity) hactivity
    · exact hrefused _ error ⟨error, .inr (.inr hactivity)⟩
    have hreports := hdegraded preflight account activity hpreflight haccount hactivity
    exact (within_applyReports hcalls hactive hreports).mono fun _ h => .inr h
  · exact .inr ⟨rfl, .inl hhalted⟩

end Within

end LiveTradingMonitor

open LiveTradingMonitor

/-! ## Runs of degraded rounds -/

/-- What a refresh worker hands back that ran on an armed copy: the error of a refused report, or a
copy that is halted or notes the degradation. -/
def DegradedOutput (calls : List Exchange) (monitor : LiveTradingMonitor)
    (output : LiveMonitorWorkerOutput) : Prop :=
  match output.result with
  | .error _ => reportFailed calls
  | .ok updated => updated.state = .halted ∨ NotesDegradation calls monitor updated

variable {config : Config} {monitor : LiveTradingMonitor} {calls : List Exchange}

theorem spawnLiveMonitorWorker_degraded (harmed : monitor.state = .armed)
    (h : DegradedRound config monitor calls) :
    Given (fun c reply => (⟨c, reply⟩ : Exchange) ∈ calls)
      (fun output => output.kind = .remoteRefresh ∧ DegradedOutput calls monitor output)
      (spawnLiveMonitorWorker config monitor .remoteRefresh) := by
  have hactive : monitor.terminalRiskIsActive = true := by simp [terminalRiskIsActive, harmed]
  refine (given_map _ _).mpr ((given_on_bind _ _).mpr ?_)
  refine (within_refreshRemoteState h.database hactive h.degraded).mono ?_
  rintro ⟨error | issues, updated⟩ (⟨hfailed, hrefused⟩ | ⟨hok, hupdated⟩)
  · exact ⟨rfl, hrefused⟩
  · cases hok
  · cases hfailed
  · exact ⟨rfl, hupdated⟩

/-- A degraded round of an armed session is refused a report and leaves no mark, halts the session,
or notes the degradation. -/
theorem refreshRound_degraded {round : World × (ℕ → Answer)} (harmed : monitor.state = .armed)
    (h : DegradedRound config monitor (refreshRound config monitor round).2) :
    (reportFailed (refreshRound config monitor round).2 ∧
        (refreshRound config monitor round).1.state = .armed ∧
        (refreshRound config monitor round).1.degradation = monitor.degradation) ∨
      (refreshRound config monitor round).1.state = .halted ∨
      NotesDegradation (refreshRound config monitor round).2 monitor
        (refreshRound config monitor round).1 := by
  have hworker := Live.run_callsSince ((spawnLiveMonitorWorker_degraded harmed h).emits [])
    round.2 round.1 fun _ hx => hx
  have hmerged : (refreshRound config monitor round).1 = applyLiveMonitorWorkerOutput monitor
      (Live.run (spawnLiveMonitorWorker config monitor .remoteRefresh) round.2 round.1).1 := rfl
  rw [hmerged]
  generalize (Live.run (spawnLiveMonitorWorker config monitor .remoteRefresh)
    round.2 round.1).1 = output at hworker
  rcases output with ⟨kind, error | updated⟩
  · refine .inl ⟨hworker.2, ?_, ?_⟩
    · rw [state_applyLiveMonitorWorkerOutput_error, harmed]
    · unfold applyLiveMonitorWorkerOutput
      simp only
      split <;> rfl
  · right
    obtain ⟨rfl, hhalted | ⟨hstate, hnoted⟩⟩ := hworker
    · left
      simp [applyLiveMonitorWorkerOutput, state_mergeLiveMonitorState, hhalted,
        ControlState.isTerminal]
    · right
      refine ⟨?_, hnoted⟩
      simp [applyLiveMonitorWorkerOutput, state_mergeLiveMonitorState, hstate, harmed,
        ControlState.isTerminal]

theorem monitorInvariant_halted (config : Config) :
    MonitorInvariant config fun self _ => self.state = .halted where
  toReportInvariant := reportInvariant_state config .halted
  riskTerminal _ _ hinv := hinv
  unwritten _ _ hinv := hinv
  unaudited _ _ _ _ hinv := hinv
  halted _ _ _ _ _ _ _ := rfl

theorem refreshRound_halted (config : Config) (hhalted : monitor.state = .halted)
    (round : World × (ℕ → Answer)) : (refreshRound config monitor round).1.state = .halted := by
  have hworker : Emits (fun output _ => ∀ updated, output.result = .ok updated →
      updated.state = .halted) (spawnLiveMonitorWorker config monitor .remoteRefresh) [] := by
    refine (emits_map _ _ _).mpr ((emits_on_bind _ _).mpr ?_)
    refine (refreshRemoteState_keeps (monitorInvariant_halted config) _ _ hhalted).mono ?_
    rintro ⟨error | issues, self⟩ _ hself
    · rintro updated ⟨⟩
    · rintro updated ⟨⟩
      exact hself
  have houtput := Live.run_callsSince hworker round.2 round.1
  have hmerged : (refreshRound config monitor round).1 = applyLiveMonitorWorkerOutput monitor
      (Live.run (spawnLiveMonitorWorker config monitor .remoteRefresh) round.2 round.1).1 := rfl
  rw [hmerged]
  generalize (Live.run (spawnLiveMonitorWorker config monitor .remoteRefresh)
    round.2 round.1).1 = output at houtput
  rcases output with ⟨kind, error | updated⟩
  · rw [state_applyLiveMonitorWorkerOutput_error, hhalted]
  · have hupdated := houtput updated rfl
    simp [applyLiveMonitorWorkerOutput, state_mergeLiveMonitorState, hupdated,
      ControlState.isTerminal]

theorem spansAnswered_concat {rounds : List (List Exchange)}
    (h : SpansAnswered (rounds ++ [calls])) :
    SpansAnswered rounds ∨
      ¬ reportFailed calls ∧ ∃ first ∈ rounds, ¬ reportFailed first ∧ farApart first calls := by
  obtain ⟨first, last, hsublist, hfirst, hlast, hfar⟩ := h
  obtain ⟨before, after, hsplit, hbefore, hafter⟩ := sublist_append_iff.mp hsublist
  rcases sublist_singleton.mp hafter with rfl | rfl
  · rw [append_nil] at hsplit
    subst hsplit
    exact .inl ⟨first, last, hbefore, hfirst, hlast, hfar⟩
  · have hsplit : [first] ++ [last] = before ++ [calls] := hsplit
    obtain ⟨rfl, hcalls⟩ := append_inj' hsplit rfl
    cases hcalls
    exact .inr ⟨hlast, first, singleton_sublist.mp hbefore, hfirst, hfar⟩

/-- An armed session knows an onset that is no later than any round that got its reports, and no two
such rounds lie apart by the threshold. -/
structure TracksOnset (rounds : List (List Exchange)) (monitor : LiveTradingMonitor) : Prop where
  armed : monitor.state = .armed
  onset : ∀ first ∈ rounds, ¬ reportFailed first →
    ∃ onset nowMs, monitor.degradation.onset? degradedKind = some onset ∧
      ⟨.now, nowMs⟩ ∈ first ∧ onset ≤ nowMs
  near : ¬ SpansAnswered rounds

namespace TracksOnset

variable {rounds : List (List Exchange)} {calls : List Exchange}
variable {monitor monitor' : LiveTradingMonitor}

theorem refused (h : TracksOnset rounds monitor) (hrefused : reportFailed calls)
    (harmed : monitor'.state = .armed) (hdegradation : monitor'.degradation = monitor.degradation) :
    TracksOnset (rounds ++ [calls]) monitor' := by
  refine ⟨harmed, ?_, ?_⟩
  · intro first hfirst hanswered
    rcases mem_append.mp hfirst with hbefore | hnew
    · rw [hdegradation]
      exact h.onset first hbefore hanswered
    · rw [mem_singleton.mp hnew] at hanswered
      exact absurd hrefused hanswered
  · intro hspans
    rcases spansAnswered_concat hspans with hspans | ⟨hanswered, -⟩
    · exact h.near hspans
    · exact hanswered hrefused

theorem noted (h : TracksOnset rounds monitor) (hnoted : NotesDegradation calls monitor monitor')
    (hclock : ∀ active t, monitor.degradation.active = some active → ⟨.now, t⟩ ∈ calls →
      active.startedAtMs ≤ t) :
    TracksOnset (rounds ++ [calls]) monitor' := by
  obtain ⟨hstate, detail, nowMs, hnow, hnote⟩ := hnoted
  have honset : monitor'.degradation.onset? degradedKind =
      some ((monitor.degradation.onset? degradedKind).getD nowMs) := by
    rw [← LiveDegradationTracker.onset?_note _ _ detail nowMs liveTerminalDegradationMs, hnote]
  have hshort : ∀ onset, monitor.degradation.onset? degradedKind = some onset →
      nowMs - onset < liveTerminalDegradationMs := by
    intro onset hactive
    by_contra hlong
    have hbreach := (LiveDegradationTracker.note_isSome_iff monitor.degradation degradedKind detail
      nowMs liveTerminalDegradationMs).mpr ⟨onset, hactive, not_lt.mp hlong⟩
    rw [hnote] at hbreach
    cases hbreach
  refine ⟨hstate.trans h.armed, ?_, ?_⟩
  · intro first hfirst hanswered
    rcases mem_append.mp hfirst with hbefore | hnew
    · obtain ⟨onset, t, hactive, ht, hle⟩ := h.onset first hbefore hanswered
      rw [hactive] at honset
      exact ⟨onset, t, honset, ht, hle⟩
    · rw [mem_singleton.mp hnew]
      refine ⟨_, nowMs, honset, hnow, ?_⟩
      cases hactive : monitor.degradation.onset? degradedKind with
      | none => exact le_rfl
      | some onset =>
        obtain ⟨active, hsome, rfl⟩ := LiveDegradationTracker.onset?_eq_some hactive
        exact hclock active nowMs hsome hnow
  · intro hspans
    rcases spansAnswered_concat hspans with hspans | ⟨-, first, hfirst, hanswered, hfar⟩
    · exact h.near hspans
    obtain ⟨onset, t, hactive, ht, hle⟩ := h.onset first hfirst hanswered
    have hlong := hfar t nowMs ht hnow
    have hlasted := hshort onset hactive
    omega

end TracksOnset

/-- If two rounds that got their reports lie apart by the threshold, the session is halted. -/
theorem degraded_rounds_halt (config : Config) : DegradationHalts config SpansAnswered := by
  intro start harmed rounds monitor hrun hspans
  have htracked : monitor.state = .halted ∨ TracksOnset rounds monitor := by
    refine hrun.invariant (fun rounds monitor => monitor.state = .halted ∨
      TracksOnset rounds monitor) ?_ ?_
    · refine .inr ⟨harmed, by rintro first ⟨⟩, ?_⟩
      rintro ⟨first, last, hsublist, -⟩
      cases hsublist
    · rintro rounds monitor round _ (hhalted | htracked) ⟨⟩ hdegraded
      · exact .inl (refreshRound_halted config hhalted round)
      rcases refreshRound_degraded htracked.armed hdegraded with
        ⟨hrefused, harmed, hkept⟩ | hhalted | hnoted
      · exact .inr (htracked.refused hrefused harmed hkept)
      · exact .inl hhalted
      · exact .inr (htracked.noted hnoted hdegraded.clock)
  rcases htracked with hhalted | htracked
  · exact hhalted
  · exact absurd hspans htracked.near

/-! ## Sample runs -/

def refusedAnswer (nowMs : ℕ) : Answer :=
  { sampleAnswer nowMs with preflight := .error "sidecar unreachable" }

def checkDegraded (config : Config) (_ : List (List Exchange)) (monitor : LiveTradingMonitor)
    (round : World × (ℕ → Answer)) (_ : LiveTradingMonitor) : Bool :=
  let calls := (refreshRound config monitor round).2
  calls.all fun x => !failedDatabaseCall x &&
    match x with
    | ⟨.now, t⟩ => monitor.degradation.active.all fun active => active.startedAtMs ≤ t
    | ⟨.preflight, .ok preflight⟩ => !preflight.ok
    | _ => true

variable {rounds : List (List Exchange)} {t t' : ℕ}

theorem degradedRound_of_checkDegraded {config : Config} {monitor monitor' : LiveTradingMonitor}
    {round : World × (ℕ → Answer)} (h : checkDegraded config rounds monitor round monitor' = true) :
    DegradedRound config monitor (refreshRound config monitor round).2 := by
  simp only [checkDegraded, all_eq_true, Bool.and_eq_true, Bool.not_eq_true'] at h
  refine ⟨fun x hx => (h x hx).1, ?_, ?_⟩
  · intro active t hactive ht
    have hclock := (h _ ht).2
    simp only [hactive, Option.all_some, decide_eq_true_eq] at hclock
    exact hclock
  · intro preflight account activity hpreflight _ _
    have hbad := (h _ hpreflight).2
    simp [reportsDegraded, hbad]

/-- Whether every reading of the clock gives one time. -/
def onlyAt (nowMs : ℕ) (calls : List Exchange) : Bool :=
  calls.all fun x =>
    match x with
    | ⟨.now, t⟩ => t == nowMs
    | _ => true

theorem farApart_of_onlyAt {first last : List Exchange} (hfirst : onlyAt t first = true)
    (hlast : onlyAt t' last = true) (hle : t + liveTerminalDegradationMs ≤ t') :
    farApart first last := by
  simp only [onlyAt, all_eq_true] at hfirst hlast
  intro u u' hu hu'
  have hu : u = t := beq_iff_eq.mp (hfirst _ hu)
  have hu' : u' = t' := beq_iff_eq.mp (hlast _ hu')
  omega

/-- Whether a run has two refreshes, each with one time on the clock. -/
def twoRefreshesAt (t t' : ℕ) : List (List Exchange) → Bool
  | [first, last] => onlyAt t first && onlyAt t' last
  | _ => false

theorem exists_of_twoRefreshesAt (h : twoRefreshesAt t t' rounds = true)
    (hle : t + liveTerminalDegradationMs ≤ t') :
    ∃ first last, rounds = [first, last] ∧ farApart first last := by
  unfold twoRefreshesAt at h
  split at h
  · rename_i first last
    simp only [Bool.and_eq_true] at h
    exact ⟨first, last, rfl, farApart_of_onlyAt h.1 h.2 hle⟩
  · cases h

/-- Two refreshes in which the venue refuses its reports, far apart from one another, leave the
session armed. -/
theorem refused_rounds_stay_armed : ¬ DegradationHalts sampleConfig SpansThreshold := by
  intro h
  have hfollow : ((refreshSystem sampleConfig).follow (checkDegraded sampleConfig)
      [(captureWorld, fun _ => refusedAnswer 1000), (captureWorld, fun _ => refusedAnswer 200000)]
      ([], sampleMonitor)).any (fun x => x.2.state == .armed &&
        twoRefreshesAt 1000 200000 x.1) = true := by
    decide +kernel
  obtain ⟨rounds, monitor, hrun, hend⟩ := System.exists_run_of_follow hfollow
    fun _ _ _ _ => degradedRound_of_checkDegraded
  simp only [Bool.and_eq_true, beq_iff_eq] at hend
  obtain ⟨harmed, htimes⟩ := hend
  obtain ⟨first, last, rfl, hfar⟩ := exists_of_twoRefreshesAt htimes (by decide)
  have hhalted := h sampleMonitor rfl _ _ hrun ⟨first, [], last, rfl, hfar⟩
  rw [harmed] at hhalted
  cases hhalted

/-- Two degraded refreshes that got their reports, far apart from one another, halt the session. -/
theorem degraded_rounds_halt_sample :
    ∃ rounds monitor, (refreshSystem sampleConfig).Run
        (fun _ monitor round _ =>
          DegradedRound sampleConfig monitor (refreshRound sampleConfig monitor round).2)
        ([], sampleMonitor) rounds monitor ∧ SpansAnswered rounds ∧ monitor.state = .halted := by
  have hfollow : ((refreshSystem sampleConfig).follow (checkDegraded sampleConfig)
      [(captureWorld, fun _ => degradedAnswer 1000), (captureWorld, fun _ => degradedAnswer 200000)]
      ([], sampleMonitor)).any (fun x => twoRefreshesAt 1000 200000 x.1 &&
        x.1.all fun calls => calls.all notRefused) = true := by
    decide +kernel
  obtain ⟨rounds, monitor, hrun, hend⟩ := System.exists_run_of_follow hfollow
    fun _ _ _ _ => degradedRound_of_checkDegraded
  have hspans : SpansAnswered rounds := by
    obtain ⟨htimes, hanswered⟩ := Bool.and_eq_true_iff.mp hend
    obtain ⟨first, last, rfl, hfar⟩ := exists_of_twoRefreshesAt htimes (by decide)
    simp only [all_eq_true, forall_mem_cons] at hanswered
    exact ⟨first, last, List.Sublist.refl _, not_reportFailed_of_notRefused hanswered.1,
      not_reportFailed_of_notRefused hanswered.2.1, hfar⟩
  exact ⟨rounds, monitor, hrun, hspans,
    degraded_rounds_halt sampleConfig sampleMonitor rfl rounds monitor hrun hspans⟩

end BubaPaint
