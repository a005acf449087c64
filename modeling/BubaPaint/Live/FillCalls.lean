import BubaPaint.Library.Disciplines
import BubaPaint.Live.Monitor

/-!
# Calls around fills

Two programs write fills. The submission of an order writes one after the venue has accepted the
order; it knows the intent but not the venue's trade. A recovery pass writes one for each trade of
the venue activity that it has just looked up and not found. Which call follows which is a
discipline of each program.
-/

namespace BubaPaint

open Effects LiveTradingMonitor
open Program (Always Obeys always_bind always_pure always_request always_run_bind afterOk_error
  afterOk_ok call_eq forall_except obeys_bind obeys_pure obeys_request)

/-- How far the submission of an order has come. -/
inductive SubmissionStage where
  | preparing
  | submitting (intentId : ℕ)
  | answered (intentId : ℕ) (response : LiveOrderIntentResponse)
  | settled

def SubmissionStage.intentId? : SubmissionStage → Option ℕ
  | .preparing | .settled => none
  | .submitting intentId | .answered intentId _ => some intentId

/-- A fill taken over from the response to an intent's order. -/
structure ResponseFill (intentId : ℕ) (response : LiveOrderIntentResponse) (fill : LiveFill) :
    Prop where
  venueTradeId : fill.venueTradeId = none
  intentId : fill.intentId = some intentId
  size : response.acceptedSize = some fill.size
  pos : 0 < fill.size

/-- A submission inserts its intent first, then submits that intent, and then takes at most one fill
over from the response. -/
def submissionDiscipline : Discipline LiveCall LiveCall.Reply SubmissionStage where
  allowed stage
    | .database (.logLiveOrderIntentWithDecisionEvidence ..) => stage = .preparing
    | .submitOrderIntent request => stage = .submitting request.intentId
    | .database (.logLiveFill fill) => ∃ intentId response,
        stage = .answered intentId response ∧ ResponseFill intentId response fill
    | _ => True
  next
    | _, .database (.logLiveOrderIntentWithDecisionEvidence ..), .ok intentId =>
      .submitting intentId
    | _, .submitOrderIntent request, .ok response => .answered request.intentId response
    | _, .database (.logLiveFill _), _ => .settled
    | stage, _, _ => stage

/-- A fill taken over from an entry of the venue activity. -/
structure RecoveredFill (sessionId : ℕ) (activity : LiveActivityResponse) (tradeId : String)
    (fill : LiveFill) : Prop where
  sessionId : fill.sessionId = sessionId
  venueTradeId : fill.venueTradeId = some tradeId
  intentId : fill.intentId = none
  entry : ∃ trade ∈ activity.clobTrades, trade.tradeId = some tradeId ∧ trade.price.isSome = true ∧
    trade.size = some fill.size

/-- A recovery pass writes the fill of a trade right after it has looked the trade up and not found
it. -/
def recoveryDiscipline (sessionId : ℕ) (activity : LiveActivityResponse) :
    Discipline LiveCall LiveCall.Reply (Option String) where
  allowed absent
    | .database (.logLiveFill fill) => ∃ tradeId, absent = some tradeId ∧
        RecoveredFill sessionId activity tradeId fill
    | .database (.liveFillExists id _) => id = sessionId
    | _ => True
  next
    | _, .database (.liveFillExists _ tradeId), .ok false => some tradeId
    | _, _, _ => none

/-! ## The submission of an order -/

/-- Calls that neither insert an intent, submit it, nor write a fill. -/
def LiveCall.plain : LiveCall → Prop
  | .submitOrderIntent _ | .database (.logLiveOrderIntentWithDecisionEvidence ..) |
    .database (.logLiveFill _) => False
  | _ => True

theorem LiveCall.plain_stays {c : LiveCall} (hc : c.plain) (stage : SubmissionStage) :
    submissionDiscipline.allowed stage c ∧
      ∀ reply, submissionDiscipline.next stage c reply = stage := by
  cases c with
  | database call =>
    cases call with
    | logLiveOrderIntentWithDecisionEvidence evidence intent => exact hc.elim
    | logLiveFill fill => exact hc.elim
    | _ => exact ⟨trivial, fun _ => rfl⟩
  | submitOrderIntent request => exact hc.elim
  | _ => exact ⟨trivial, fun _ => rfl⟩

theorem LiveCall.plain_of_books {nowMs : ℕ} (c : LiveCall) (h : c.books nowMs) : c.plain := by
  cases c with
  | database call => cases call <;> trivial
  | _ => exact h

theorem LiveCall.plain_of_prepares {intentId nowMs : ℕ} (c : LiveCall)
    (h : c.prepares intentId nowMs) : c.plain := by
  cases c with
  | database call => cases call <;> trivial
  | _ => exact h

theorem obeys_of_plain {α : Type} {post : α → Prop} {p : Live α} (h : Always LiveCall.plain post p)
    (stage : SubmissionStage) :
    Obeys submissionDiscipline (fun a stage' => post a ∧ stage' = stage) p stage :=
  h.obeys fun _ hc => LiveCall.plain_stays hc stage

/-- The calls of a submission beside the intent, the venue and the response. -/
theorem obeys_of_prepares {α : Type} {post : α → Prop} {p : Live α} {intentId nowMs : ℕ}
    (h : Always (LiveCall.prepares intentId nowMs) post p) (stage : SubmissionStage) :
    Obeys submissionDiscipline (fun a stage' => post a ∧ stage' = stage) p stage :=
  obeys_of_plain (h.mono LiveCall.plain_of_prepares fun _ h => h) stage

variable (input : LiveOrderWorkerSubmission) (config : Config) (sessionId : ℕ)
variable (order : QueuedOrderIntent) (request : LiveOrderIntentRequest)
variable (intentId liveOrderId nowMs : ℕ) (response : LiveOrderIntentResponse)

theorem persistLiveWorkerState_plain (state : ControlState) (actor reason : String) :
    Always LiveCall.plain (fun _ => True)
      (persistLiveWorkerState sessionId state actor reason nowMs).run :=
  (persistLiveWorkerState_always ..).mono LiveCall.plain_of_books fun _ h => h

theorem handleLiveOrderErrorFromWorker_plain (errorMessage : String) :
    Always LiveCall.plain (fun _ => True)
      (handleLiveOrderErrorFromWorker sessionId order request intentId nowMs errorMessage) := by
  have hstate : Always LiveCall.plain (fun _ => True)
      (persistLiveWorkerState sessionId .unknownOrder "system"
        "sidecar order submission outcome unknown" nowMs).run :=
    persistLiveWorkerState_plain ..
  unfold handleLiveOrderErrorFromWorker
  simp [forall_except, LiveCall.plain, hstate]

theorem obeys_persistResponseFillFromWorker (fillPrice : ℚ) :
    Obeys submissionDiscipline (fun _ _ => True)
      (persistResponseFillFromWorker sessionId intentId liveOrderId nowMs response fillPrice).run
      (.answered intentId response) := by
  unfold persistResponseFillFromWorker
  cases hsize : response.acceptedSize with
  | none => trivial
  | some size =>
    dsimp only
    split
    · rename_i hpos
      refine ⟨⟨intentId, response, rfl, rfl, rfl, hsize, hpos⟩, ?_⟩
      rintro (error | fillId) <;> trivial
    · trivial

theorem obeys_settleClassifiedSize (classified : Except LiveSubmissionOrderResult (Option ℚ)) :
    Obeys submissionDiscipline (fun _ _ => True)
      (settleClassifiedSize config sessionId order intentId liveOrderId nowMs response classified)
      (.answered intentId response) := by
  rcases classified with blocked | _ | acceptedSize
  · trivial
  · trivial
  · unfold settleClassifiedSize
    rw [obeys_bind]
    refine (obeys_persistResponseFillFromWorker ..).mono ?_
    intro _ stage _
    split
    · exact ⟨trivial, fun _ => trivial⟩
    · trivial

theorem obeys_handleLiveOrderResponseFromWorker :
    Obeys submissionDiscipline (fun _ _ => True)
      (handleLiveOrderResponseFromWorker config sessionId order intentId nowMs response)
      (.answered intentId response) := by
  refine ⟨trivial, ?_⟩
  rintro (error | _)
  · trivial
  refine ⟨trivial, ?_⟩
  rintro (error | liveOrderId)
  · trivial
  show Obeys _ _ (if _ then _ else _) _
  split
  · split
    · exact (obeys_of_plain ((blockLiveResponseWithState_always ..).mono LiveCall.plain_of_books
        fun _ h => h) _).mono fun _ _ _ => trivial
    · trivial
  · rw [obeys_bind]
    refine (obeys_of_plain ((classifyAcceptedLiveSize_always sessionId order nowMs response).mono
      LiveCall.plain_of_books fun _ h => h) _).mono ?_
    rintro classified _ ⟨-, rfl⟩
    exact obeys_settleClassifiedSize ..

theorem obeys_persistLiveOrderIntentFromWorker (notional : ℚ) :
    Obeys submissionDiscipline
      (fun r stage => ∀ intentId reason, r = .ok (intentId, reason) → stage = .submitting intentId)
      (persistLiveOrderIntentFromWorker input notional).run .preparing := by
  have hinserted : ∀ evidence intent (reason : Option String), Obeys submissionDiscipline
      (fun r stage => ∀ intentId reason', r = .ok (intentId, reason') → stage =
        .submitting intentId)
      (Live.database (.logLiveOrderIntentWithDecisionEvidence evidence intent) >>= fun intentId =>
        pure (intentId, reason) : LiveResult (ℕ × Option String)).run .preparing := by
    intro evidence intent reason
    refine ⟨rfl, ?_⟩
    rintro (error | intentId) _ _ hr
    · cases hr
    · cases hr
      rfl
  unfold persistLiveOrderIntentFromWorker liveDecisionEvidenceFromEvent
  refine ⟨trivial, ?_⟩
  rintro (error | _)
  · rintro _ _ ⟨⟩
  cases input.decisionEvent with
  | none => rintro _ _ ⟨⟩
  | some event =>
    cases event with
    | signal evidence =>
      dsimp only
      split
      · rintro _ _ ⟨⟩
      · exact hinserted evidence _ _
    | _ => rintro _ _ ⟨⟩

/-- The submission of an order writes at most one fill: the one of its own intent, as the venue has
answered it. -/
theorem obeys_submitOneLiveOrderFromWorker :
    Obeys submissionDiscipline (fun _ _ => True) (submitOneLiveOrderFromWorker input)
      .preparing := by
  unfold submitOneLiveOrderFromWorker
  simp only [obeys_bind]
  refine (obeys_persistLiveOrderIntentFromWorker input _).mono ?_
  rintro (error | ⟨intentId, _ | reason⟩) stage hstage
  · trivial
  · rw [hstage intentId none rfl]
    simp only [obeys_bind]
    refine (obeys_of_prepares (reserveLiveOrderSubmission_always ..) _).mono ?_
    rintro (blocked | _) _ ⟨-, rfl⟩
    · trivial
    dsimp only
    split
    · exact (obeys_of_prepares (dryRunLiveOrderOutcome_always ..) _).mono fun _ _ _ => trivial
    · rw [obeys_bind]
      refine (obeys_of_prepares (markIntentSubmittingOrBlock_always intentId input.nowMs _) _).mono ?_
      rintro (_ | blocked) _ ⟨-, rfl⟩
      · refine ⟨rfl, ?_⟩
        rintro (error | response)
        · exact (obeys_of_plain (handleLiveOrderErrorFromWorker_plain ..) _).mono fun _ _ _ =>
          trivial
        · exact obeys_handleLiveOrderResponseFromWorker ..
      · trivial
  · trivial

section Recovery

variable {sessionId : ℕ} {activity : LiveActivityResponse}

theorem obeys_persistRecoveredTrade {trade : LiveActivityEvent}
    (htrade : trade ∈ activity.clobTrades) (self : LiveTradingMonitor) (absent : Option String) :
    Obeys (recoveryDiscipline sessionId activity) (fun _ _ => True)
      ((persistRecoveredTrade sessionId trade).on self) absent := by
  unfold persistRecoveredTrade
  cases htradeId : trade.tradeId with
  | none => trivial
  | some tradeId =>
    refine ⟨rfl, ?_⟩
    rintro (error | _ | _)
    · trivial
    · cases hprice : trade.price with
      | none => trivial
      | some price =>
        cases hsize : trade.size with
        | none => trivial
        | some size =>
          refine ⟨⟨tradeId, rfl, rfl, rfl, rfl, trade, htrade, htradeId, ?_, hsize⟩, ?_⟩
          · simp [hprice]
          · rintro (error | fillId) <;> trivial
    · trivial

theorem obeys_persistRecoveredTrades {trades : List LiveActivityEvent}
    (htrades : ∀ trade ∈ trades, trade ∈ activity.clobTrades) (self : LiveTradingMonitor)
    (absent : Option String) :
    Obeys (recoveryDiscipline sessionId activity) (fun _ _ => True)
      ((persistRecoveredTrades sessionId trades).on self) absent := by
  induction trades generalizing self absent with
  | nil => trivial
  | cons trade trades ih =>
    unfold persistRecoveredTrades
    rw [Method.on_bind, obeys_bind]
    refine (obeys_persistRecoveredTrade (htrades trade List.mem_cons_self) self absent).mono ?_
    rintro ⟨error | _, self'⟩ absent' -
    · trivial
    · exact ih (fun other hother => htrades other (List.mem_cons_of_mem _ hother)) self' absent'

/-- A recovery pass writes fills of the reported trades, each right after it was found missing. -/
theorem obeys_persistActivityRecovery (self : LiveTradingMonitor)
    (activity : LiveActivityResponse) (absent : Option String) :
    Obeys (recoveryDiscipline self.sessionId activity) (fun _ _ => True)
      ((persistActivityRecovery activity).on self) absent := by
  have htrades : ∀ absent, Obeys (recoveryDiscipline self.sessionId activity) (fun _ _ => True)
      ((persistRecoveredTrades self.sessionId activity.clobTrades).on self) absent :=
    obeys_persistRecoveredTrades (fun _ h => h) self
  unfold persistActivityRecovery persistStreamHealth
  rw [Method.on_bind, Method.on_get, pure_bind, Method.andThen_ok, Method.on_bind, obeys_bind]
  split
  · refine ⟨trivial, ?_⟩
    rintro (error | eventId)
    · trivial
    · exact htrades none
  · exact htrades absent

end Recovery

end BubaPaint
