import BubaPaint.Live.KillSwitch

/-!
# The start of a live session

A start runs many checks, and any call of it can fail. Until an operator arms the session nothing
is submitted.

Main results:

- Theorem `session_starts_disarmed`: a start submits nothing and ends disarmed or halted.
-/

namespace BubaPaint

open Effects Method LiveTradingMonitor
open Program (Emits afterOk_ok emits_run_bind)

/-- Nothing is submitted, and the monitor is halted if that was recorded and disarmed otherwise. -/
def StartsSafely (self : LiveTradingMonitor) (seen : List Exchange) : Prop :=
  (∀ x ∈ seen, x.1.leavesOrders) ∧ (self.state = .disarmed ∨ self.state = .halted) ∧
    Agrees (start 0) self seen

variable {c : LiveCall} {own : List Exchange}

theorem leavesOrders_of_ofMonitor (h : c.ofMonitor) : c.leavesOrders := by
  cases c with
  | database call => cases call <;> first | exact h | exact trivial
  | submitOrderIntent request => exact h
  | _ => trivial

theorem ofMonitor_of_checks (h : c.checks) : c.ofMonitor := by
  cases c with
  | database call => cases call <;> first | exact h.elim | trivial
  | _ => exact h.elim

attribute [local simp] LiveCall.leavesOrders DatabaseCall.leavesOrders

theorem startsSafely_monitorInvariant (config : Config) : MonitorInvariant config StartsSafely := by
  have hagrees := agrees_operatorInvariant config (start 0)
  have hcontrol : ∀ {seen own : List Exchange}, (∀ x ∈ seen, x.1.leavesOrders) →
      (∀ x ∈ own, x.1.leavesOrders) → ∀ x ∈ seen ++ own, x.1.leavesOrders :=
    fun hseen hown => List.forall_mem_append.mpr ⟨hseen, hown⟩
  exact
  { call := fun self seen c reply hc ⟨horders, hstate, hscan⟩ =>
      ⟨hcontrol horders (by simpa using leavesOrders_of_ofMonitor hc), hstate,
        hagrees.call c reply hc hscan⟩
    riskTerminal := fun _ _ hinv => hinv
    unwritten := fun row error ⟨horders, hstate, hscan⟩ =>
      ⟨hcontrol horders (by simp), hstate, hagrees.unwritten row error hscan⟩
    unaudited := fun row id entry error ⟨horders, hstate, hscan⟩ =>
      ⟨hcontrol horders (by simp), hstate, hagrees.unaudited row id entry error hscan⟩
    halted := fun row id entry auditId reason hrow ⟨horders, _, hscan⟩ =>
      ⟨hcontrol horders (by simp), .inr rfl,
        hagrees.halted row id entry auditId reason hrow hscan⟩
    blocked := fun _ hinv => hinv
    reports := fun _ _ _ _ hinv => hinv
    failed := fun _ _ _ _ _ hinv => hinv
    degraded := fun _ _ _ hinv => hinv
    cleared := fun _ hinv => hinv
    risk := fun _ hinv => hinv
    riskStart := fun _ hinv => hinv }

variable {self : LiveTradingMonitor} {seen : List Exchange}

theorem StartsSafely.append (h : StartsSafely self seen) (hown : ∀ x ∈ own, x.1.ofMonitor) :
    StartsSafely self (seen ++ own) := by
  induction own using List.reverseRecOn with
  | nil => rwa [List.append_nil]
  | append_singleton before x ih =>
    rw [← List.append_assoc]
    exact (startsSafely_monitorInvariant sampleConfig).toReportInvariant.call x.1 x.2
      (hown x (by simp)) (ih fun y hy => hown y (by simp [hy]))

theorem StartsSafely.recorded {id : ℕ} {reply : Except String ℕ}
    (h : StartsSafely (start id) seen) (hown : Recorded .disarmed reply own) :
    StartsSafely (start id) (seen ++ own) := by
  have hinv := startsSafely_monitorInvariant sampleConfig
  cases hown with
  | blank error => rwa [List.append_nil]
  | unwritten row error => exact hinv.unwritten row error h
  | unaudited row id entry error => exact hinv.unaudited row id entry error h
  | done row id entry auditId hrow =>
    have hmoved := (agrees_operatorInvariant sampleConfig (start 0)).moved row id entry auditId ""
      rfl (by rw [hrow]; rfl) h.2.2
    rw [hrow] at hmoved
    exact ⟨List.forall_mem_append.mpr ⟨h.1, by simp⟩, .inl rfl, hmoved⟩

theorem emits_lift_bind {α β : Type} {post : Except String β → List Exchange → Prop}
    (p : Live α) (f : α → LiveResult β) (seen : List Exchange) :
    Emits post (ExceptT.lift p >>= f).run seen ↔
      Emits (fun a seen' => Emits post (f a).run seen') p seen := by
  rw [emits_run_bind, ExceptT.run_lift, Program.emits_map]
  rfl

/-- A start fails, or the monitor it returns has started safely. -/
def Starts (reply : Except String LiveTradingRuntimeBootstrap) (seen : List Exchange) : Prop :=
  (∀ x ∈ seen, x.1.leavesOrders) ∧ ∀ started, reply = .ok started →
    StartsSafely started.monitor seen

theorem Starts.error (h : StartsSafely self seen) (error : String) : Starts (.error error) seen :=
  ⟨h.1, fun _ hok => by cases hok⟩

theorem StartsSafely.call (h : StartsSafely self seen) (c : LiveCall) (hc : c.ofMonitor)
    (reply : c.Reply) : StartsSafely self (seen ++ [⟨c, reply⟩]) :=
  h.append (by simpa using hc)

theorem StartsSafely.emits_opened (h : StartsSafely self seen) (liveStartingBalance : ℚ) :
    Emits Starts (do
      Live.database .openRuntime return { liveStartingBalance, monitor := self } :
        LiveResult LiveTradingRuntimeBootstrap).run seen := by
  have hopen := h.call (.database .openRuntime) trivial
  rintro (error | _)
  · exact .error (hopen _) error
  · refine ⟨(hopen _).1, fun started hok => ?_⟩
    cases hok
    exact hopen _

theorem bootstrapLiveTradingRuntime_emits (config : Config) (fallbackBalance : ℚ) :
    Emits Starts (bootstrapLiveTradingRuntime config fallbackBalance).run [] := by
  have hinv := startsSafely_monitorInvariant config
  have hnew (id : ℕ) : StartsSafely (start id) [] := ⟨by simp, .inl rfl, rfl, rfl⟩
  unfold bootstrapLiveTradingRuntime
  rw [emits_lift_bind]
  intro startedAtMs
  have hnow (id : ℕ) := (hnew id).call .now trivial startedAtMs
  dsimp only [Emits]
  split
  · exact .error (hnow 0) _
  rw [emits_run_bind]
  refine ((ensureLiveBootstrapClean_always config).emits _).mono ?_
  rintro (error | _) _ ⟨-, own, rfl, hown⟩
  all_goals
    have hchecked (id : ℕ) := (hnow id).append fun x hx => ofMonitor_of_checks (hown x hx)
  · exact .error (hchecked 0) error
  rw [afterOk_ok, emits_run_bind]
  rintro (error | sessionId)
  · exact .error ((hchecked 0).call (.database (.insertLiveSession _)) trivial _) error
  have hsession := (hchecked sessionId).call (.database (.insertLiveSession _)) trivial
    (.ok sessionId)
  change Emits _ (_ >>= _ : LiveResult _).run _
  rw [emits_run_bind]
  refine (recordLiveControlState_emits ..).mono ?_
  rintro (error | id) _ ⟨own, rfl, hrecorded⟩
  · exact .error (hsession.recorded hrecorded) error
  rw [afterOk_ok, emits_lift_bind]
  refine (refreshRemoteState_keeps hinv _ _ (hsession.recorded hrecorded)).mono ?_
  rintro ⟨error | issues, monitor⟩ seen hsafe
  · rintro (error' | _)
    · exact .error (hsafe.call (.database .openRuntime) trivial _) error'
    change Emits _ (_ >>= _ : LiveResult _).run _
    rw [emits_lift_bind]
    refine (updateSessionMetadata_keeps hinv.toReportInvariant.call _ _ (hinv.blocked error
      (hsafe.call (.database .openRuntime) trivial _))).mono ?_
    rintro ⟨error' | _, monitor'⟩ seen' hsafe'
    · exact .error hsafe' error'
    · exact hsafe'.emits_opened _
  · exact hsafe.emits_opened _

/-- Whatever is answered, a start submits nothing and writes no order, and a session it starts may
not submit any: it is halted if that was recorded on the way, and disarmed otherwise. -/
theorem session_starts_disarmed (config : Config) (fallbackBalance : ℚ) (oracle : ℕ → Answer)
    (world : World) :
    let run := Live.run (bootstrapLiveTradingRuntime config fallbackBalance).run oracle world
    let calls := run.2.callsSince world
    (∀ x ∈ calls, x.1.leavesOrders) ∧ ∀ started, run.1 = .ok started →
      started.monitor.canSubmitOrders = false ∧
        started.monitor.state = if haltRecorded calls then .halted else .disarmed := by
  intro run calls
  obtain ⟨horders, hstarted⟩ : Starts run.1 calls :=
    Live.run_callsSince (bootstrapLiveTradingRuntime_emits config fallbackBalance) oracle world
  refine ⟨horders, fun started hok => ?_⟩
  obtain ⟨-, hstate, hscan⟩ := hstarted started hok
  have hhalted : started.monitor.state.isTerminal = haltRecorded calls := hscan.2
  rw [← hhalted]
  rcases hstate with hstate | hstate <;>
    simp [canSubmitOrders, hstate, ControlState.isTerminal]

end BubaPaint
