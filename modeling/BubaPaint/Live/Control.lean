import BubaPaint.Config
import BubaPaint.Live.Calls
import BubaPaint.Text

/-!
# Durable live control

Operator actions and the durable record of a control-state transition: the state row and its audit
entry, written in that order and refused when the operator text is blank.
-/

namespace BubaPaint

open Effects

/-- Durable live-control actions accepted by the local operator command line. -/
inductive LiveControlAction where
  | preflight
  | arm
  | disarm
  | stopAfterFlat
  | killSwitch
  | cancelAll
  | redeemAll
  deriving DecidableEq

namespace LiveControlAction

/-- Parse one operator action from its command-line spelling. -/
def fromStr (value : String) : Except String LiveControlAction :=
  match value with
  | "preflight" => .ok .preflight
  | "arm" => .ok .arm
  | "disarm" => .ok .disarm
  | "stop-after-flat" => .ok .stopAfterFlat
  | "kill-switch" => .ok .killSwitch
  | "cancel-all" => .ok .cancelAll
  | "redeem-all" => .ok .redeemAll
  | _ => .error (s!"invalid live-control action {value}; expected preflight, arm, disarm, " ++
      "stop-after-flat, kill-switch, cancel-all, or redeem-all")

end LiveControlAction

def validateOperatorText (field value : String) : LiveResult Unit :=
  if isBlank value then throw s!"{field} must not be empty" else pure ()

/-- Persist one live-control state transition and its audit event. -/
def recordLiveControlState (sessionId : ℕ) (state : ControlState) (actor reason : String)
    (nowMs : ℕ) : LiveResult ℕ := do
  validateOperatorText "actor" actor
  validateOperatorText "reason" reason
  validateOperatorText "state" state.asStr
  let stateId ← Live.database (.insertLiveControlState
    { sessionId := sessionId, state := state, updatedAtMs := nowMs, actor := actor,
      reason := reason })
  let _ ← Live.database (.logControlAudit
    { timestampMs := nowMs, actor := actor, action := "live_control_state_changed",
      target := some s!"live_control_state:{stateId}" })
  return stateId

variable (sessionId : ℕ) (state : ControlState) (actor reason : String) (nowMs : ℕ)

/-- A transition only writes the control tables. -/
theorem recordLiveControlState_always :
    Program.Always (LiveCall.books nowMs) (fun _ => True)
      (recordLiveControlState sessionId state actor reason nowMs).run := by
  unfold recordLiveControlState validateOperatorText
  split <;> split <;> split <;>
    simp [Program.forall_except, LiveCall.books, LiveCall.leavesOrders, DatabaseCall.leavesOrders]

/-- The outcome of recording a control state with the exchanges that led to it. -/
inductive Recorded (state : ControlState) : Except String ℕ → List Exchange → Prop
  | blank (error : String) : Recorded state (.error error) []
  | unwritten (row : LiveControlState) (error : String) :
      Recorded state (.error error) [⟨.database (.insertLiveControlState row), .error error⟩]
  | unaudited (row : LiveControlState) (id : ℕ) (entry : ControlAuditEntry) (error : String) :
      Recorded state (.error error)
        [⟨.database (.insertLiveControlState row), .ok id⟩,
          ⟨.database (.logControlAudit entry), .error error⟩]
  | done (row : LiveControlState) (id : ℕ) (entry : ControlAuditEntry) (auditId : ℕ)
      (hstate : row.state = state) :
      Recorded state (.ok id)
        [⟨.database (.insertLiveControlState row), .ok id⟩,
          ⟨.database (.logControlAudit entry), .ok auditId⟩]

/-- A transition fails before, between or after its two writes, or records the state. -/
theorem recordLiveControlState_emits (seen : List Exchange) :
    Program.Emits (fun r seen' => ∃ own, seen' = seen ++ own ∧ Recorded state r own)
      (recordLiveControlState sessionId state actor reason nowMs).run seen := by
  have hblank : ∀ error : String, ∃ own, seen = seen ++ own ∧
      Recorded state (.error error) own := by
    intro error
    exact ⟨[], (List.append_nil _).symm, .blank error⟩
  unfold recordLiveControlState validateOperatorText
  split
  · exact hblank _
  split
  · exact hblank _
  split
  · exact hblank _
  rintro (error | id)
  · exact ⟨_, rfl, .unwritten _ error⟩
  · rintro (error | auditId)
    · refine ⟨_, List.append_assoc .., .unaudited _ id _ error⟩
    · refine ⟨_, List.append_assoc .., .done _ id _ auditId rfl⟩

end BubaPaint
