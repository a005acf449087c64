import BubaPaint.Live.MonitorWorkers

/-!
# Invariants of the monitor

An invariant of the monitor and of the calls made so far is kept by every method if the elementary
steps keep it: a call, a change of one part of the monitor, and a recorded control state. The
methods are gone through once here; each invariant is then a matter of its elementary steps. A
degradation is noted and cleared on evidence, which the calls made so far hold.

Main results:

- Theorem `liveMonitorWorkerMethod_keeps`: both workers keep what the steps keep.
-/

namespace BubaPaint

open Effects Method
open Program (Always Emits emits_bind emits_pure)

def reported (seen : List Exchange) (preflight : LivePreflightResponse)
    (account : LiveAccountState) (activity : LiveActivityResponse) : Prop :=
  [⟨.preflight, .ok preflight⟩, ⟨.accountState, .ok account⟩, ⟨.activity, .ok activity⟩] <:+: seen

def reportFailed (seen : List Exchange) : Prop :=
  ∃ error, ⟨.preflight, .error error⟩ ∈ seen ∨ ⟨.accountState, .error error⟩ ∈ seen ∨
    ⟨.activity, .error error⟩ ∈ seen

def notRefused : Exchange → Bool
  | ⟨.preflight, .error _⟩ | ⟨.accountState, .error _⟩ | ⟨.activity, .error _⟩ => false
  | _ => true

variable {seen : List Exchange} {config : Config}

theorem not_reportFailed_of_notRefused (h : ∀ x ∈ seen, notRefused x = true) :
    ¬ reportFailed seen := by
  rintro ⟨error, hrefused | hrefused | hrefused⟩ <;> cases h _ hrefused

def reportsDegraded (config : Config) (preflight : LivePreflightResponse)
    (account : LiveAccountState) (activity : LiveActivityResponse) : Bool :=
  (liveGateIssues preflight account activity config).any (textContains · "user stream") ||
    !preflight.ok

def healthyRefresh (config : Config) (seen : List Exchange) : Prop :=
  ∃ preflight account activity, reported seen preflight account activity ∧
    reportsDegraded config preflight account activity = false

theorem reported.append {preflight : LivePreflightResponse} {account : LiveAccountState}
    {activity : LiveActivityResponse} (h : reported seen preflight account activity)
    (own : List Exchange) : reported (seen ++ own) preflight account activity :=
  h.trans (List.infix_append' [] seen own)

theorem reportFailed.append (h : reportFailed seen) (own : List Exchange) :
    reportFailed (seen ++ own) := by
  obtain ⟨error, h⟩ := h
  refine ⟨error, ?_⟩
  simp only [List.mem_append]
  tauto

theorem healthyRefresh.append (h : healthyRefresh config seen) (own : List Exchange) :
    healthyRefresh config (seen ++ own) := by
  obtain ⟨preflight, account, activity, hreported, hhealthy⟩ := h
  exact ⟨preflight, account, activity, hreported.append own, hhealthy⟩

/-! ## Elementary steps -/

/-- The calls of the monitor, except for recording a control state. -/
def LiveCall.ofMonitor : LiveCall → Prop
  | .submitOrderIntent _ => False
  | .database (.insertLiveControlState _) => False
  | .database (.updateLiveControlCommandStatus _ _ status) => status ≠ .pending
  | .database call => call.leavesOrders
  | _ => True

abbrev degradedKind : String :=
  "venue_or_user_stream_degraded"

abbrev KeptByCalls (inv : LiveTradingMonitor → List Exchange → Prop) : Prop :=
  ∀ ⦃self seen⦄ (c : LiveCall) (reply : c.Reply), c.ofMonitor → inv self seen →
    inv self (seen ++ [⟨c, reply⟩])

/-- What a halt keeps. -/
structure HaltInvariant (inv : LiveTradingMonitor → List Exchange → Prop) : Prop where
  call : KeptByCalls inv
  riskTerminal : ∀ {self seen} nowMs reason, inv self seen →
    inv (self.markRiskTerminal nowMs reason) seen
  unwritten : ∀ {self seen} (row : LiveControlState) (error : String), inv self seen →
    inv self (seen ++ [⟨.database (.insertLiveControlState row), .error error⟩])
  unaudited : ∀ {self seen} (row : LiveControlState) (id : ℕ) (entry : ControlAuditEntry)
      (error : String), inv self seen →
    inv self (seen ++ [⟨.database (.insertLiveControlState row), .ok id⟩,
      ⟨.database (.logControlAudit entry), .error error⟩])
  halted : ∀ {self seen} (row : LiveControlState) (id : ℕ) (entry : ControlAuditEntry)
      (auditId : ℕ) (reason : String), row.state = .halted → inv self seen →
    inv (self.withState .halted reason) (seen ++
      [⟨.database (.insertLiveControlState row), .ok id⟩,
        ⟨.database (.logControlAudit entry), .ok auditId⟩])

/-- What every method keeps that leaves the control state alone. -/
structure ReportInvariant (config : Config)
    (inv : LiveTradingMonitor → List Exchange → Prop) : Prop where
  call : KeptByCalls inv
  blocked : ∀ {self seen} (reason : String), inv self seen →
    inv { self with blockedReason := some reason } seen
  reports : ∀ {self seen} preflight account activity issues, inv self seen →
    inv (self.withReports preflight account activity issues) seen
  failed : ∀ {self seen} kind detail nowMs thresholdMs, reportFailed seen → inv self seen →
    inv { self with degradation := (self.degradation.note kind detail nowMs thresholdMs).1 } seen
  degraded : ∀ {self seen} detail nowMs thresholdMs, inv self seen →
    inv { self with
      degradation := (self.degradation.note degradedKind detail nowMs thresholdMs).1 } seen
  cleared : ∀ {self seen}, healthyRefresh config seen → inv self seen →
    inv { self with degradation := self.degradation.clear } seen
  risk : ∀ {self seen} account, inv self seen →
    inv (self.updateRisk account config).1 seen
  riskStart : ∀ {self seen} account, inv self seen →
    inv { self with risk := some (self.risk.getD (.new account)) } seen

/-- What every method keeps that changes the control state to `halted` only. -/
structure MonitorInvariant (config : Config)
    (inv : LiveTradingMonitor → List Exchange → Prop) : Prop extends
    HaltInvariant inv, ReportInvariant config inv

/-- What the operator commands keep as well: they change a state that is not terminal to another
such state. -/
structure OperatorInvariant (config : Config)
    (inv : LiveTradingMonitor → List Exchange → Prop) : Prop extends
    MonitorInvariant config inv where
  moved : ∀ {self seen} (row : LiveControlState) (id : ℕ) (entry : ControlAuditEntry)
      (auditId : ℕ) (reason : String), self.state.isTerminal = false →
      row.state.isTerminal = false → inv self seen →
    inv (self.withState row.state reason) (seen ++
      [⟨.database (.insertLiveControlState row), .ok id⟩,
        ⟨.database (.logControlAudit entry), .ok auditId⟩])

theorem MonitorInvariant.and_seen {inv : LiveTradingMonitor → List Exchange → Prop}
    (h : MonitorInvariant config inv) (known : List Exchange → Prop)
    (hknown : ∀ seen own, known seen → known (seen ++ own)) :
    MonitorInvariant config fun self seen => inv self seen ∧ known seen where
  call _ _ c reply hc hinv := ⟨h.call c reply hc hinv.1, hknown _ _ hinv.2⟩
  blocked reason hinv := ⟨h.blocked reason hinv.1, hinv.2⟩
  reports preflight account activity issues hinv :=
    ⟨h.reports preflight account activity issues hinv.1, hinv.2⟩
  failed kind detail nowMs thresholdMs hfailed hinv :=
    ⟨h.failed kind detail nowMs thresholdMs hfailed hinv.1, hinv.2⟩
  degraded detail nowMs thresholdMs hinv := ⟨h.degraded detail nowMs thresholdMs hinv.1, hinv.2⟩
  cleared hhealthy hinv := ⟨h.cleared hhealthy hinv.1, hinv.2⟩
  risk account hinv := ⟨h.risk account hinv.1, hinv.2⟩
  riskStart account hinv := ⟨h.riskStart account hinv.1, hinv.2⟩
  riskTerminal nowMs reason hinv := ⟨h.riskTerminal nowMs reason hinv.1, hinv.2⟩
  unwritten row error hinv := ⟨h.unwritten row error hinv.1, hknown _ _ hinv.2⟩
  unaudited row id entry error hinv := ⟨h.unaudited row id entry error hinv.1, hknown _ _ hinv.2⟩
  halted row id entry auditId reason hstate hinv :=
    ⟨h.halted row id entry auditId reason hstate hinv.1, hknown _ _ hinv.2⟩

namespace LiveTradingMonitor

section Rules

variable {config : Config} {inv : LiveTradingMonitor → List Exchange → Prop}
variable {self : LiveTradingMonitor} {α : Type}
variable {c : DatabaseCall} {seen : List Exchange} {state : ControlState}
variable {preflight : LivePreflightResponse} {account : LiveAccountState}
variable {activity : LiveActivityResponse} {issues : List String}

theorem database_bind_keeps (hcall : KeptByCalls inv) {f : c.Reply → MonitorMethod α}
    (hc : (LiveCall.database c).ofMonitor) (hf : ∀ reply, KeepsFrom inv (f reply) self) :
    KeepsFrom inv (database c >>= f) self := by
  have hpermitted : Always LiveCall.ofMonitor (fun _ => True) (Live.database c).run :=
    ⟨hc, fun _ => trivial⟩
  exact KeepsFrom.attempt_bind hpermitted (fun _ c reply hc => hcall c reply hc) hf

theorem external_bind_keeps (hcall : KeptByCalls inv) {c : LiveCall}
    {f : c.Reply → MonitorMethod α} (hc : c.ofMonitor)
    (hf : ∀ reply, KeepsFrom inv (f reply) self) : KeepsFrom inv (external c >>= f) self := by
  have hpermitted : Always LiveCall.ofMonitor (fun _ => True) (Live.call c) :=
    ⟨hc, fun _ => trivial⟩
  exact KeepsFrom.effect_bind hpermitted (fun _ c reply hc => hcall c reply hc) hf

variable {post : Except String α × LiveTradingMonitor → List Exchange → Prop}

theorem emits_database_bind (c : DatabaseCall) (f : c.Reply → MonitorMethod α) :
    Emits post ((database c >>= f).on self) seen ↔
      (∀ reply, Emits post ((f reply).on self) (seen ++ [⟨.database c, .ok reply⟩])) ∧
        ∀ error, post (.error error, self) (seen ++ [⟨.database c, .error error⟩]) := by
  constructor
  · intro h
    exact ⟨fun reply => h (.ok reply), fun error => h (.error error)⟩
  · rintro ⟨hok, herror⟩ (error | reply)
    · exact herror error
    · exact hok reply

theorem emits_database {post : Except String c.Reply × LiveTradingMonitor → List Exchange → Prop} :
    Emits post ((database c).on self) seen ↔
      (∀ reply, post (.ok reply, self) (seen ++ [⟨.database c, .ok reply⟩])) ∧
        ∀ error, post (.error error, self) (seen ++ [⟨.database c, .error error⟩]) :=
  Program.forall_except

theorem emits_external_bind (c : LiveCall) (f : c.Reply → MonitorMethod α) :
    Emits post ((external c >>= f).on self) seen ↔
      ∀ reply, Emits post ((f reply).on self) (seen ++ [⟨c, reply⟩]) :=
  Iff.rfl

theorem database_keeps (hcall : KeptByCalls inv) (hc : (LiveCall.database c).ofMonitor) :
    KeepsFrom inv (database c) self := by
  intro seen hinv reply
  exact hcall _ reply hc hinv

theorem updateSessionMetadata_keeps (hcall : KeptByCalls inv) :
    Keeps inv updateSessionMetadata := by
  intro self
  apply KeepsFrom.get_bind
  exact database_keeps hcall trivial

theorem setState_keeps (h : HaltInvariant inv) {reason : String}
    (hrecorded : ∀ seen (row : LiveControlState) id entry auditId, row.state = state →
      inv self seen → inv (self.withState state reason) (seen ++
        [⟨.database (.insertLiveControlState row), .ok id⟩,
          ⟨.database (.logControlAudit entry), .ok auditId⟩]))
    (actor : String) (nowMs : ℕ) : KeepsFrom inv (setState state actor reason nowMs) self := by
  apply KeepsFrom.get_bind
  intro seen hinv
  rw [on_bind, emits_bind, on_attempt, emits_bind]
  refine (recordLiveControlState_emits ..).mono ?_
  rintro r _ ⟨own, rfl, hown⟩
  cases hown with
  | blank error => simpa using hinv
  | unwritten row error => exact h.unwritten row error hinv
  | unaudited row id entry error => exact h.unaudited row id entry error hinv
  | done row id entry auditId hstate =>
    have hmoved := hrecorded seen row id entry auditId hstate hinv
    exact updateSessionMetadata_keeps h.call _ _ hmoved

theorem terminalHalt_keeps (h : HaltInvariant inv) (actor reason eventType : String) :
    Keeps inv (terminalHalt actor reason eventType) := by
  intro self
  refine external_bind_keeps h.call (by trivial) fun nowMs => ?_
  refine external_bind_keeps h.call (by trivial) fun _ => ?_
  refine KeepsFrom.modify_bind (fun _ => h.riskTerminal nowMs reason) ?_
  refine database_bind_keeps h.call (by trivial) fun _ => ?_
  refine KeepsFrom.bind ?_ fun _ self => ?_
  · apply setState_keeps h
    intro seen row id entry auditId hstate hinv
    exact h.halted row id entry auditId reason hstate hinv
  apply KeepsFrom.get_bind
  refine database_bind_keeps h.call (by trivial) fun _ => ?_
  exact database_bind_keeps h.call (by trivial) fun _ => keepsFrom_pure _

theorem refreshOnchainReconciliationHalt_keeps (h : MonitorInvariant config inv) :
    Keeps inv refreshOnchainReconciliationHalt := by
  intro self
  apply KeepsFrom.get_bind
  refine database_bind_keeps h.call (by trivial) fun _ => ?_
  refine database_bind_keeps h.call (by trivial) fun critical => ?_
  split
  · exact keepsFrom_pure _
  · refine KeepsFrom.modify_bind (fun _ => h.blocked _) ?_
    split
    · exact keepsFrom_pure _
    · exact (terminalHalt_keeps h.toHaltInvariant _ _ _ _).bind fun _ self => keepsFrom_pure _

theorem refreshArmedFeedOutageHalt_keeps (h : HaltInvariant inv) (thresholdMs : ℕ)
    (outage : Option (String × ℕ)) : Keeps inv (refreshArmedFeedOutageHalt thresholdMs outage) := by
  intro self
  apply KeepsFrom.get_bind
  split
  · exact keepsFrom_pure _
  · split
    · exact keepsFrom_pure _
    · exact (terminalHalt_keeps h _ _ _ _).bind fun _ self => keepsFrom_pure _

theorem recordRemoteRefreshFailure_keeps (h : MonitorInvariant config inv)
    (hfailed : ∀ self seen, inv self seen → reportFailed seen) (kind error : String) :
    Keeps inv (recordRemoteRefreshFailure kind error) := by
  intro self
  refine external_bind_keeps h.call (by trivial) fun nowMs => ?_
  refine KeepsFrom.modify_bind (fun _ => h.blocked _) ?_
  apply KeepsFrom.get_bind
  refine KeepsFrom.modify_bind ?_ ?_
  · intro seen hinv
    unfold noteFailure
    split
    · exact h.failed kind error nowMs liveTerminalDegradationMs (hfailed _ _ hinv) hinv
    · exact hinv
  refine database_bind_keeps h.call (by trivial) fun _ => ?_
  refine (updateSessionMetadata_keeps h.call _).bind fun _ self => ?_
  split
  · exact (terminalHalt_keeps h.toHaltInvariant _ _ _ _).bind fun _ self => keepsFrom_throw _
  · exact keepsFrom_throw _

theorem recordRemoteRefreshFailure_emits (h : MonitorInvariant config inv) (kind error : String)
    (hinv : inv self seen) (hfailed : reportFailed seen) :
    Emits (fun r seen' => inv r.2 seen') ((recordRemoteRefreshFailure kind error).on self)
      seen := by
  have hboth := h.and_seen reportFailed fun _ own hseen => hseen.append own
  have hkeeps := recordRemoteRefreshFailure_keeps hboth (fun _ _ h => h.2) kind error self seen
  exact (hkeeps ⟨hinv, hfailed⟩).mono fun _ _ hafter => hafter.1

/-! ## Reports -/

theorem persistRecoveredTrade_keeps (h : ReportInvariant config inv) (sessionId : ℕ)
    (trade : LiveActivityEvent) : Keeps inv (persistRecoveredTrade sessionId trade) := by
  intro self
  unfold persistRecoveredTrade
  split
  · exact keepsFrom_pure _
  · refine database_bind_keeps h.call (by trivial) fun known => ?_
    split
    · exact keepsFrom_pure _
    · split
      · exact database_bind_keeps h.call (by trivial) fun _ => keepsFrom_pure _
      · exact keepsFrom_pure _

theorem persistRecoveredTrades_keeps (h : ReportInvariant config inv) (sessionId : ℕ)
    (trades : List LiveActivityEvent) : Keeps inv (persistRecoveredTrades sessionId trades) := by
  induction trades with
  | nil => exact fun self => keepsFrom_pure _
  | cons trade trades ih =>
    intro self
    exact (persistRecoveredTrade_keeps h sessionId trade self).bind fun _ => ih

theorem persistActivityRecovery_keeps (h : ReportInvariant config inv)
    (activity : LiveActivityResponse) : Keeps inv (persistActivityRecovery activity) := by
  intro self
  unfold persistActivityRecovery persistStreamHealth
  apply KeepsFrom.get_bind
  refine KeepsFrom.bind ?_ fun _ => persistRecoveredTrades_keeps h _ _
  split
  · exact database_bind_keeps h.call (by trivial) fun _ => keepsFrom_pure _
  · exact keepsFrom_pure _

theorem runtimeCaptureIssuesForLive_always (config : Config) (nowMs : ℕ) :
    Always LiveCall.ofMonitor (fun _ => True) (runtimeCaptureIssuesForLive config nowMs).run := by
  unfold runtimeCaptureIssuesForLive
  split
  · trivial
  · refine ⟨trivial, ?_⟩
    rintro (error | _ | health)
    · trivial
    · trivial
    · refine ⟨trivial, ?_⟩
      rintro (error | missing)
      · trivial
      · refine ⟨trivial, ?_⟩
        rintro (error | recorded) <;> trivial

theorem collectIssues_keeps (h : ReportInvariant config inv) (preflight : LivePreflightResponse)
    (account : LiveAccountState) (activity : LiveActivityResponse) :
    Keeps inv (collectIssues config preflight account activity) := by
  intro self
  apply KeepsFrom.get_bind
  refine database_bind_keeps h.call (by trivial) fun _ => ?_
  refine database_bind_keeps h.call (by trivial) fun _ => ?_
  refine (persistActivityRecovery_keeps h activity self).bind fun _ self => ?_
  refine external_bind_keeps h.call (by trivial) fun nowMs => ?_
  refine KeepsFrom.attempt_bind (runtimeCaptureIssuesForLive_always config nowMs)
    (fun _ c reply hc => h.call c reply hc) fun captureIssues => ?_
  exact database_bind_keeps h.call (by trivial) fun _ => keepsFrom_pure _

theorem collectIssues_returns (config : Config) (preflight : LivePreflightResponse)
    (account : LiveAccountState) (activity : LiveActivityResponse) (self : LiveTradingMonitor) :
    Returns (fun issues => ∀ issue ∈ liveGateIssues preflight account activity config,
      issue ∈ issues) (collectIssues config preflight account activity) self := by
  apply returns_bind; intro _ _
  apply returns_bind; intro _ _
  apply returns_bind; intro _ _
  apply returns_bind; intro _ _
  apply returns_bind; intro _ _
  apply returns_bind; intro captureIssues _
  apply returns_bind; intro ready _
  apply returns_pure
  intro issue hissue
  simp only [mem_sortedDistinct, List.mem_append]
  exact .inl (.inl hissue)

theorem evaluateTerminalRemoteState_keeps (h : ReportInvariant config inv) (nowMs : ℕ)
    (hreported : ∀ self seen, inv self seen → reported seen preflight account activity)
    (hissues : ∀ issue ∈ liveGateIssues preflight account activity config, issue ∈ issues)
    (hpreflight : self.preflight = some preflight) :
    KeepsFrom inv (evaluateTerminalRemoteState nowMs issues) self := by
  unfold evaluateTerminalRemoteState
  split
  · exact keepsFrom_pure _
  apply KeepsFrom.get_bind
  refine KeepsFrom.modify_bind ?_ ?_
  · intro seen hinv
    unfold noteRemoteHealth
    split
    · exact h.degraded _ nowMs liveTerminalDegradationMs hinv
    · rename_i hhealthy
      have hreports : reportsDegraded config preflight account activity = false := by
        simp only [remoteDegraded, hpreflight, Bool.not_eq_true, Bool.or_eq_false_iff,
          List.any_eq_false] at hhealthy
        simp only [reportsDegraded, Bool.not_eq_true, Bool.or_eq_false_iff, List.any_eq_false]
        exact ⟨fun issue hissue => hhealthy.1 issue (hissues issue hissue), hhealthy.2⟩
      exact h.cleared ⟨preflight, account, activity, hreported _ _ hinv, hreports⟩ hinv
  split
  · exact keepsFrom_pure _
  refine database_bind_keeps h.call (by trivial) fun critical => ?_
  split <;> exact keepsFrom_pure _

theorem evaluateReports_keeps (h : ReportInvariant config inv)
    (hreported : ∀ self seen, inv self seen → reported seen preflight account activity)
    (hissues : ∀ issue ∈ liveGateIssues preflight account activity config, issue ∈ issues)
    (hpreflight : self.preflight = some preflight) :
    KeepsFrom inv (evaluateReports config account issues) self := by
  apply KeepsFrom.get_bind
  split
  · refine external_bind_keeps h.call (by trivial) fun nowMs => ?_
    refine (evaluateTerminalRemoteState_keeps h nowMs hreported hissues hpreflight).bind
      fun breach self => ?_
    split
    · exact keepsFrom_pure _
    · apply KeepsFrom.get_bind
      exact KeepsFrom.modify_bind (fun _ => h.risk account) (keepsFrom_pure _)
  · exact KeepsFrom.modify_bind (fun _ => h.riskStart account) (keepsFrom_pure _)

theorem applyReports_keeps (h : MonitorInvariant config inv)
    (hreported : ∀ self seen, inv self seen → reported seen preflight account activity) :
    Keeps inv (applyReports config preflight account activity) := by
  intro self
  refine KeepsFrom.bind_returns (collectIssues_keeps h.toReportInvariant preflight account activity
    self) (collectIssues_returns config preflight account activity self) fun issues hissues self =>
      ?_
  refine KeepsFrom.modify_bind (fun _ => h.reports preflight account activity issues) ?_
  refine (evaluateReports_keeps h.toReportInvariant hreported hissues rfl).bind
    fun breach self => ?_
  refine (updateSessionMetadata_keeps h.call self).bind fun _ self => ?_
  split
  · exact (terminalHalt_keeps h.toHaltInvariant _ _ _ _).bind fun _ self => keepsFrom_pure _
  · exact keepsFrom_pure _

theorem applyReports_emits (h : MonitorInvariant config inv) (hinv : inv self seen)
    (hreported : reported seen preflight account activity) :
    Emits (fun r seen' => inv r.2 seen')
      ((applyReports config preflight account activity).on self) seen := by
  have hboth := h.and_seen (reported · preflight account activity)
    fun _ own hseen => hseen.append own
  have hkeeps := applyReports_keeps hboth (fun _ _ hself => hself.2) self seen ⟨hinv, hreported⟩
  exact hkeeps.mono fun _ _ hafter => hafter.1

theorem refreshRemoteState_keeps (h : MonitorInvariant config inv) :
    Keeps inv (refreshRemoteState config) := by
  intro self
  refine (refreshOnchainReconciliationHalt_keeps h self).bind fun halted self => ?_
  split
  · exact KeepsFrom.get_bind (keepsFrom_pure _)
  -- The three reports follow one another, so what is applied is found at the end of the calls.
  intro seen hinv
  rintro (error | preflight)
  · have hcalled := h.call .preflight (.error error) trivial hinv
    exact recordRemoteRefreshFailure_emits h _ _ hcalled ⟨error, by simp⟩
  have hinv := h.call .preflight (.ok preflight) trivial hinv
  rintro (error | account)
  · have hcalled := h.call .accountState (.error error) trivial hinv
    exact recordRemoteRefreshFailure_emits h _ _ hcalled ⟨error, by simp⟩
  have hinv := h.call .accountState (.ok account) trivial hinv
  rintro (error | activity)
  · have hcalled := h.call .activity (.error error) trivial hinv
    exact recordRemoteRefreshFailure_emits h _ _ hcalled ⟨error, by simp⟩
  have hinv := h.call .activity (.ok activity) trivial hinv
  exact applyReports_emits h hinv ⟨seen, [], by simp⟩

/-! ## Refreshing a disarmed session -/

theorem reportInvariant_state (config : Config) (state : ControlState) :
    ReportInvariant config fun self _ => self.state = state where
  call _ _ _ _ _ hinv := hinv
  blocked _ hinv := hinv
  reports _ _ _ _ hinv := hinv
  failed _ _ _ _ _ hinv := hinv
  degraded _ _ _ hinv := hinv
  cleared _ hinv := hinv
  risk _ hinv := hinv
  riskStart _ hinv := hinv

theorem haltInvariant_blocked : HaltInvariant fun self _ => self.blockedReason.isSome = true where
  call _ _ _ _ _ hinv := hinv
  riskTerminal _ _ hinv := hinv
  unwritten _ _ hinv := hinv
  unaudited _ _ _ _ hinv := hinv
  halted _ _ _ _ _ _ _ := rfl

theorem refreshOnchainReconciliationHalt_disarmed (hself : self.state = .disarmed)
    (seen : List Exchange) :
    Emits (fun r _ => (r.1 = .ok false → r.2.state = .disarmed) ∧
        (r.1 = .ok true → r.2.blockedReason.isSome = true))
      (refreshOnchainReconciliationHalt.on self) seen := by
  unfold refreshOnchainReconciliationHalt
  rw [emits_get_bind, emits_database_bind]
  refine ⟨fun _ => ?_, by simp⟩
  rw [emits_database_bind]
  refine ⟨fun critical => ?_, by simp⟩
  by_cases hcritical : critical = 0
  · simp [hcritical, hself]
  rw [if_neg hcritical, emits_modify_bind, if_neg (by simp [hself]), emits_on_bind]
  refine (terminalHalt_keeps haltInvariant_blocked _ _ _ _ _ rfl).mono ?_
  rintro ⟨error | _, self'⟩ _ hblocked
  · simp
  · simpa using hblocked

theorem on_evaluateReports_of_not_active (hself : self.terminalRiskIsActive = false)
    (account : LiveAccountState) (issues : List String) :
    (evaluateReports config account issues).on self =
      pure (.ok none, { self with risk := some (self.risk.getD (.new account)) }) := by
  unfold evaluateReports
  rw [on_bind, on_get, pure_bind, andThen_ok, hself]
  rfl

theorem applyReports_disarmed (config : Config) (preflight : LivePreflightResponse)
    (account : LiveAccountState) (activity : LiveActivityResponse) :
    Keeps (fun self _ => self.state = .disarmed)
      (applyReports config preflight account activity) := by
  have h := reportInvariant_state config .disarmed
  intro self
  refine (collectIssues_keeps h preflight account activity self).bind fun issues self => ?_
  intro seen hself
  have hactive : (self.withReports preflight account activity issues).terminalRiskIsActive =
      false := by
    simp [terminalRiskIsActive, withReports, hself]
  rw [emits_modify_bind, emits_on_bind, on_evaluateReports_of_not_active hactive, emits_pure,
    andThen_ok]
  have hrest : Keeps (fun self _ => self.state = .disarmed) (do
      updateSessionMetadata
      return issues) := by
    intro self
    exact (updateSessionMetadata_keeps h.call self).bind fun _ self => keepsFrom_pure issues
  exact hrest _ seen hself

theorem recordRemoteRefreshFailure_returns (kind error : String) :
    Returns (fun _ => False) (recordRemoteRefreshFailure kind error) self := by
  apply returns_bind; intro nowMs _
  apply returns_bind; intro _ _
  apply returns_bind; intro noted _
  apply returns_bind; intro _ _
  apply returns_bind; intro _ _
  apply returns_bind; intro _ _
  split
  · exact returns_bind fun _ _ => returns_throw _
  · exact returns_throw _

theorem refreshRemoteState_disarmed (config : Config) (hself : self.state = .disarmed)
    (seen : List Exchange) :
    Emits (fun r _ => r.1 = .ok [] → r.2.state = .disarmed)
      ((refreshRemoteState config).on self) seen := by
  have hrefused : ∀ (self : LiveTradingMonitor) kind error seen,
      Emits (fun r _ => r.1 = .ok [] → r.2.state = .disarmed)
        ((recordRemoteRefreshFailure kind error).on self) seen := by
    intro self kind error seen
    refine (Always.emits (recordRemoteRefreshFailure_returns kind error) seen).mono ?_
    intro r _ hreturns hok
    exact (hreturns.1 [] hok).elim
  unfold refreshRemoteState
  rw [emits_on_bind]
  refine (refreshOnchainReconciliationHalt_disarmed hself seen).mono ?_
  rintro ⟨error | _ | _, self'⟩ seen' ⟨hdisarmed, hblocked⟩
  · rintro ⟨⟩
  · rintro (error | preflight)
    · exact hrefused self' _ _ _
    rintro (error | account)
    · exact hrefused self' _ _ _
    rintro (error | activity)
    · exact hrefused self' _ _ _
    refine (applyReports_disarmed config preflight account activity self' _ (hdisarmed rfl)).mono ?_
    exact fun _ _ hafter _ => hafter
  · intro hok
    have hreason : self'.blockedReason.isSome = true := hblocked rfl
    have hnone : self'.blockedReason = none := by simpa using hok
    simp [hnone] at hreason

/-! ## Operator commands -/

theorem move_keeps (h : OperatorInvariant config inv) (hself : self.state.isTerminal = false)
    (hstate : state.isTerminal = false) (actor reason : String) :
    KeepsFrom inv (do
      database .openRuntime
      let nowMs ← external .now
      setState state actor reason nowMs) self := by
  refine database_bind_keeps h.call (by trivial) fun _ => ?_
  refine external_bind_keeps h.call (by trivial) fun nowMs => ?_
  apply setState_keeps h.toHaltInvariant
  rintro seen row id entry auditId rfl hinv
  exact h.moved row id entry auditId reason hself hstate hinv

theorem arm_keeps (h : OperatorInvariant config inv) (actor reason : String) :
    Keeps inv (arm config actor reason) := by
  intro self
  unfold arm ensureStateIs
  apply KeepsFrom.get_bind
  by_cases hself : self.state = .disarmed
  · rw [if_neg (not_not_intro hself)]
    intro seen hinv
    rw [pure_bind, emits_on_bind]
    refine ((refreshRemoteState_keeps h.toMonitorInvariant self seen hinv).and
      (refreshRemoteState_disarmed config hself seen)).mono ?_
    rintro ⟨error | issues, self'⟩ seen' ⟨hinv, hdisarmed⟩
    · exact hinv
    cases issues with
    | nil =>
      have hstate : self'.state = .disarmed := hdisarmed rfl
      have hself' : self'.state.isTerminal = false := by rw [hstate]; rfl
      exact move_keeps h hself' rfl actor reason _ hinv
    | cons issue issues => exact hinv
  · rw [if_pos hself]
    exact keepsFrom_throw_bind _ _

theorem cancelAll_keeps (hcall : KeptByCalls inv) (actor : String) :
    Keeps inv (cancelAll actor) := by
  intro self
  apply KeepsFrom.get_bind
  refine external_bind_keeps hcall (by trivial) fun reply => ?_
  split
  · exact keepsFrom_throw _
  · refine database_bind_keeps hcall (by trivial) fun _ => ?_
    refine external_bind_keeps hcall (by trivial) fun nowMs => ?_
    exact database_bind_keeps hcall (by trivial) fun _ => keepsFrom_pure _

theorem redeemAll_keeps (hcall : KeptByCalls inv) (actor : String) :
    Keeps inv (redeemAll actor) := by
  intro self
  apply KeepsFrom.get_bind
  refine external_bind_keeps hcall (by trivial) fun nowMs => ?_
  refine external_bind_keeps hcall (by trivial) fun reply => ?_
  split
  · exact keepsFrom_throw _
  · refine database_bind_keeps hcall (by trivial) fun _ => ?_
    split
    · refine database_bind_keeps hcall (by trivial) fun _ => ?_
      exact database_bind_keeps hcall (by trivial) fun _ => keepsFrom_pure _
    · exact database_bind_keeps hcall (by trivial) fun _ => keepsFrom_pure _

section Operator

variable (h : OperatorInvariant config inv)

include h

theorem applyControlAction_keeps (action : LiveControlAction) (actor reason : String) :
    Keeps inv (applyControlAction config action actor reason) := by
  intro self
  cases action with
  | preflight =>
    exact (refreshRemoteState_keeps h.toMonitorInvariant self).bind fun _ self => keepsFrom_pure _
  | arm => exact arm_keeps h actor reason self
  | disarm =>
    apply KeepsFrom.get_bind
    cases hself : self.state with
    | armed | stopAfterFlat => exact move_keeps h (by rw [hself]; rfl) rfl actor reason
    | halted | unknownOrder | disarmed => exact keepsFrom_throw_bind _ _
  | stopAfterFlat =>
    apply KeepsFrom.get_bind
    unfold ensureStateIs
    by_cases hself : self.state = .armed
    · rw [if_neg (not_not_intro hself)]
      exact move_keeps h (by rw [hself]; rfl) rfl actor reason
    · rw [if_pos hself]
      exact keepsFrom_throw_bind _ _
  | killSwitch => exact terminalHalt_keeps h.toHaltInvariant _ _ _ self
  | cancelAll => exact cancelAll_keeps h.call actor self
  | redeemAll => exact redeemAll_keeps h.call actor self

theorem applyCommand_keeps (commandId : ℕ) (command : LiveControlCommand) :
    Keeps inv (applyCommand config commandId command) := by
  intro self
  unfold applyCommand
  split
  · refine database_bind_keeps h.call (by trivial) fun _ => ?_
    refine external_bind_keeps h.call (by trivial) fun nowMs => ?_
    exact database_keeps h.call (by nofun)
  · refine external_bind_keeps h.call (by trivial) fun appliedAtMs => ?_
    refine (applyControlAction_keeps h _ _ _ self).outcome.bind fun outcome self => ?_
    split
    · refine database_bind_keeps h.call (by trivial) fun _ => ?_
      exact database_keeps h.call (by nofun)
    · refine database_bind_keeps h.call (by trivial) fun _ => ?_
      exact database_keeps h.call (by nofun)

theorem applyCommands_keeps (commands : List (ℕ × LiveControlCommand)) :
    Keeps inv (applyCommands config commands) := by
  induction commands with
  | nil => exact fun self => keepsFrom_pure _
  | cons command commands ih =>
    intro self
    exact (applyCommand_keeps h command.1 command.2 self).bind fun _ => ih

theorem applyPendingControls_keeps : Keeps inv (applyPendingControls config) := by
  intro self
  apply KeepsFrom.get_bind
  refine database_bind_keeps h.call (by trivial) fun _ => ?_
  exact database_bind_keeps h.call (by trivial) fun commands => applyCommands_keeps h commands self

/-- Both kinds of workers keep what the operator commands keep. -/
theorem liveMonitorWorkerMethod_keeps (kind : LiveMonitorWorkerKind) :
    Keeps inv (liveMonitorWorkerMethod config kind) := by
  intro self
  cases kind with
  | controls => exact applyPendingControls_keeps h self
  | remoteRefresh =>
    exact (refreshRemoteState_keeps h.toMonitorInvariant self).bind fun _ self => keepsFrom_pure _

end Operator

end Rules

end LiveTradingMonitor

end BubaPaint
