import BubaPaint.Library.Runs
import BubaPaint.Library.TableSums
import BubaPaint.Live.FillCalls
import BubaPaint.Live.MonitorWorkers

/-!
# Recorded fills

The submission worker and any number of recovery passes share one run database and make their calls
in any order. The worker's fills name the intent, those of a recovery the venue's trade; what the
venue has executed is known from outside.

Main results:

- Theorem `each_trade_recorded_once`: no trade is in two rows, nor recorded beyond its size.
-/

namespace BubaPaint

open Effects LiveTradingMonitor List
open Program (Obeys)

/-- One trade the venue executed, with the intent it was executed for if it has one. -/
structure VenueTrade where
  tradeId : String
  sessionId : ℕ
  intentId : Option ℕ
  size : ℚ

/-- The trades of a venue. -/
structure Venue where
  trades : List VenueTrade
  distinct : (trades.map VenueTrade.tradeId).Nodup
  pos : ∀ trade ∈ trades, 0 < trade.size

def Venue.executed (venue : Venue) (intentId : ℕ) : ℚ :=
  ((venue.trades.filter fun trade => trade.intentId == some intentId).map (·.size)).sum

/-- A recorded fill contains a trade: it names the trade, or the intent the trade was executed
for. -/
def LiveFill.covers (fill : LiveFill) (trade : VenueTrade) : Bool :=
  match fill.venueTradeId with
  | some tradeId => tradeId == trade.tradeId
  | none => fill.intentId.isSome && trade.intentId == fill.intentId

/-- Each trade has contributed to at most one row, and the rows sum up to no more than what was
executed. -/
structure RecordedOnce (venue : Venue) (db : Database) : Prop where
  once : ∀ trade ∈ venue.trades, db.liveFills.count (·.covers trade) ≤ 1
  total : (db.liveFills.rows.map fun entry => entry.2.size).sum ≤
    (venue.trades.map VenueTrade.size).sum

/-! ## The writers of fills -/

/-- A submission under way, and where its discipline stands. -/
structure SubmissionTask where
  program : Live LiveSubmissionOrderResult
  stage : SubmissionStage

/-- A recovery pass under way, and the trade it has just found missing. -/
structure RecoveryTask where
  sessionId : ℕ
  activity : LiveActivityResponse
  program : Live (Except String Unit × LiveTradingMonitor)
  absent : Option String

def RecoveryTask.start (monitor : LiveTradingMonitor) (activity : LiveActivityResponse) :
    RecoveryTask where
  sessionId := monitor.sessionId
  activity
  program := (persistActivityRecovery activity).on monitor
  absent := none

/-- The run database with the submission worker and the recovery passes. -/
structure FillRecorder where
  world : World
  submission : Option SubmissionTask
  recoveries : List RecoveryTask

/-- What happens: the worker starts the submission of an order, one of its calls is answered, it is
done; a recovery pass starts with what the venue reports, and one of its calls is answered. -/
inductive FillAction where
  | submit (input : LiveOrderWorkerSubmission)
  | submissionCall (answer : Answer)
  | submissionDone
  | recover (monitor : LiveTradingMonitor) (activity : LiveActivityResponse)
  | recoveryCall (index : ℕ) (answer : Answer)

namespace FillRecorder

/-- Nothing is under way. -/
def start (world : World) : FillRecorder where
  world
  submission := none
  recoveries := []

def submissionCall (s : FillRecorder) (answer : Answer) : Option FillRecorder :=
  match s.submission with
  | some { program := .request call next, stage } =>
    let (reply, world) := call.answer answer s.world
    let stage := submissionDiscipline.next stage call reply
    some { s with world, submission := some { program := next reply, stage } }
  | _ => none

def recoveryCall (s : FillRecorder) (index : ℕ) (answer : Answer) : Option FillRecorder :=
  match s.recoveries[index]? with
  | some { sessionId, activity, program := .request call next, absent } =>
    let (reply, world) := call.answer answer s.world
    let absent := (recoveryDiscipline sessionId activity).next absent call reply
    let task := { sessionId, activity, program := next reply, absent }
    some { s with world, recoveries := s.recoveries.set index task }
  | _ => none

def step (s : FillRecorder) : FillAction → Option FillRecorder
  | .submit input =>
    match s.submission with
    | none =>
      let program := submitOneLiveOrderFromWorker input
      some { s with submission := some { program, stage := .preparing } }
    | some _ => none
  | .submissionCall answer => s.submissionCall answer
  | .submissionDone =>
    match s.submission with
    | some { program := .pure _, stage := _ } => some { s with submission := none }
    | _ => none
  | .recover monitor activity =>
    some { s with recoveries := s.recoveries ++ [.start monitor activity] }
  | .recoveryCall index answer => s.recoveryCall index answer

end FillRecorder

def LiveCall.fill? : LiveCall → Option LiveFill
  | .database (.logLiveFill fill) => some fill
  | _ => none

def LiveCall.lookup? : LiveCall → Option String
  | .database (.liveFillExists _ tradeId) => some tradeId
  | _ => none

namespace FillRecorder

def pendingSubmission (s : FillRecorder) : Option LiveCall :=
  s.submission.bind (·.program.pending?)

def pendingRecovery (s : FillRecorder) (index : ℕ) : Option LiveCall :=
  s.recoveries[index]?.bind (·.program.pending?)

end FillRecorder

/-- The worker and the recoveries, call by call. -/
def fillSystem : System FillRecorder FillAction Unit where
  step := FillRecorder.step
  record _ _ _ _ := ()

/-- What a response says was accepted the venue has executed for the intent. -/
def HonestResponse (venue : Venue) (intentId : ℕ) (response : LiveOrderIntentResponse) : Prop :=
  ∀ size ∈ response.acceptedSize, size ≤ venue.executed intentId

/-- What a report names as a trade of a session is one, of the size it states. -/
def HonestReport (venue : Venue) (sessionId : ℕ) (activity : LiveActivityResponse) : Prop :=
  ∀ entry ∈ activity.clobTrades, ∀ tradeId ∈ entry.tradeId, ∃ trade ∈ venue.trades,
    trade.tradeId = tradeId ∧ trade.sessionId = sessionId ∧
      ∀ size ∈ entry.size, size = trade.size

/-- The venue answers and reports what it has executed. -/
def Honest (venue : Venue) (s : FillRecorder) : FillAction → Prop
  | .recover monitor activity => HonestReport venue monitor.sessionId activity
  | .submissionCall answer => ∀ request ∈ s.pendingSubmission.bind LiveCall.request?,
      ∀ response ∈ answer.submitOrderIntent.toOption, HonestResponse venue request.intentId response
  | .submit _ | .submissionDone | .recoveryCall .. => True

/-- A recovery pass that is about to write a fill of a trade. -/
def RecoveryTask.AboutToRecord (task : RecoveryTask) (tradeId : String) : Prop :=
  (task.program.pending?.bind LiveCall.fill?).bind LiveFill.venueTradeId = some tradeId

/-- The trades that recoveries report with price and size are among those in `reported`; a fill taken
over from a response contains none of these; and no recovery looks up a trade that another one is
about to write. -/
def Separated (venue : Venue) (reported : String → Bool) (s : FillRecorder) : FillAction → Prop
  | .recover _ activity =>
    ∀ entry ∈ activity.clobTrades, entry.price.isSome = true → entry.size.isSome = true →
      ∀ tradeId ∈ entry.tradeId, reported tradeId = true
  | .submissionCall _ => ∀ fill ∈ s.pendingSubmission.bind LiveCall.fill?,
      ∀ trade ∈ venue.trades, fill.covers trade = true → reported trade.tradeId = false
  | .recoveryCall index _ => ∀ tradeId ∈ (s.pendingRecovery index).bind LiveCall.lookup?,
      ∀ task ∈ s.recoveries, ¬task.AboutToRecord tradeId
  | .submit _ | .submissionDone => True

section Decidability

variable (venue : Venue) (reported : String → Bool) (s : FillRecorder)

instance (intentId : ℕ) (response : LiveOrderIntentResponse) :
    Decidable (HonestResponse venue intentId response) :=
  inferInstanceAs (Decidable (∀ size ∈ response.acceptedSize, _))

instance (sessionId : ℕ) (activity : LiveActivityResponse) :
    Decidable (HonestReport venue sessionId activity) :=
  inferInstanceAs (Decidable (∀ entry ∈ activity.clobTrades, _))

instance (task : RecoveryTask) (tradeId : String) : Decidable (task.AboutToRecord tradeId) :=
  inferInstanceAs (Decidable (_ = some tradeId))

instance (action : FillAction) : Decidable (Honest venue s action) :=
  match action with
  | .recover monitor activity =>
    inferInstanceAs (Decidable (HonestReport venue monitor.sessionId activity))
  | .submissionCall _ =>
    inferInstanceAs (Decidable (∀ request ∈ s.pendingSubmission.bind LiveCall.request?, _))
  | .submit _ | .submissionDone | .recoveryCall .. => inferInstanceAs (Decidable True)

instance (action : FillAction) : Decidable (Separated venue reported s action) :=
  match action with
  | .recover _ activity => inferInstanceAs (Decidable (∀ entry ∈ activity.clobTrades, _))
  | .submissionCall _ =>
    inferInstanceAs (Decidable (∀ fill ∈ s.pendingSubmission.bind LiveCall.fill?, _))
  | .recoveryCall index _ =>
    inferInstanceAs (Decidable (∀ tradeId ∈ (s.pendingRecovery index).bind LiveCall.lookup?, _))
  | .submit _ | .submissionDone => inferInstanceAs (Decidable True)

end Decidability

/-! ## Calls and tables -/

/-- The fills stay as they are, and no identifier of an intent is freed. -/
def KeepsFills (db db' : Database) : Prop :=
  db'.liveFills = db.liveFills ∧ db.liveOrderIntents.nextId ≤ db'.liveOrderIntents.nextId

variable {db db' : Database} {intentId : ℕ}

theorem keepsFills_tryReserveVenueAttempt (db : Database)
    (intentId nowMs sessionId maxSessionOrders maxSessionFills : ℕ) :
    KeepsFills db
      (db.tryReserveVenueAttempt intentId nowMs sessionId maxSessionOrders maxSessionFills).2 := by
  unfold Database.tryReserveVenueAttempt
  split
  · exact ⟨rfl, le_rfl⟩
  · split
    · exact ⟨rfl, le_rfl⟩
    · split <;> exact ⟨rfl, le_rfl⟩

theorem keepsFills_setIntentStatus {status : IntentStatus} {what : String}
    (h : db.setIntentStatus intentId status what = .ok db') : KeepsFills db db' := by
  unfold Database.setIntentStatus at h
  split at h
  · cases h
    exact ⟨rfl, le_rfl⟩
  · cases h

theorem keepsFills_setLiveOrderReconcileStatus {liveOrderId : ℕ} {status : OnchainReconcileStatus}
    (h : db.setLiveOrderReconcileStatus liveOrderId status = .ok db') : KeepsFills db db' := by
  unfold Database.setLiveOrderReconcileStatus at h
  split at h
  · cases h
    exact ⟨rfl, le_rfl⟩
  · cases h

theorem DatabaseCall.perform_keepsFills {call : DatabaseCall} {reply : call.Reply}
    (hcall : ∀ fill, call ≠ .logLiveFill fill) (h : call.perform db = .ok (reply, db')) :
    KeepsFills db db' := by
  cases call with
  | logLiveFill fill => exact absurd rfl (hcall fill)
  | logLiveOrderIntentWithDecisionEvidence evidence intent =>
    cases h
    exact ⟨rfl, Nat.le_succ _⟩
  | logLiveOrder order =>
    simp only [perform, Database.logLiveOrder] at h
    split at h <;> cases h
    exact ⟨rfl, le_rfl⟩
  | tryReserveVenueAttempt intentId nowMs sessionId maxSessionOrders maxSessionFills =>
    have hkeeps := keepsFills_tryReserveVenueAttempt db intentId nowMs sessionId maxSessionOrders
      maxSessionFills
    rw [show db' = _ from (congrArg Prod.snd (Except.ok.inj h)).symm]
    exact hkeeps
  | markLiveOrderIntentDryRun intentId | markLiveOrderIntentSubmitting intentId =>
    obtain ⟨next, hnext, heq⟩ := ok_of_map h
    cases heq
    exact keepsFills_setIntentStatus hnext
  | setLiveOrderReconcileStatus liveOrderId status =>
    obtain ⟨next, hnext, heq⟩ := ok_of_map h
    cases heq
    exact keepsFills_setLiveOrderReconcileStatus hnext
  | _ =>
    cases h
    exact ⟨rfl, le_rfl⟩

theorem LiveCall.answer_keepsFills {c : LiveCall}
    (hc : ∀ fill, c ≠ .database (.logLiveFill fill)) (answer : Answer) (world : World) :
    KeepsFills world.db (c.answer answer world).2.db := by
  cases c with
  | database call =>
    simp only [LiveCall.answer, LiveCall.respond, DatabaseCall.execute]
    cases answer.databaseError with
    | some error => exact ⟨rfl, le_rfl⟩
    | none =>
      cases hperform : call.perform world.db with
      | error error => exact ⟨rfl, le_rfl⟩
      | ok result =>
        refine call.perform_keepsFills (fun fill heq => ?_) hperform
        exact hc fill (congrArg LiveCall.database heq)
  | _ => exact ⟨rfl, le_rfl⟩

theorem LiveCall.answer_logLiveFill (fill : LiveFill) (answer : Answer) (world : World) :
    let db' := (LiveCall.answer answer (.database (.logLiveFill fill)) world).2.db
    db'.liveOrderIntents = world.db.liveOrderIntents ∧
      (db'.liveFills = world.db.liveFills ∨ db'.liveFills = world.db.liveFills.insert fill) := by
  simp only [LiveCall.answer, LiveCall.respond, DatabaseCall.execute]
  cases answer.databaseError with
  | some error => exact ⟨rfl, .inl rfl⟩
  | none => exact ⟨rfl, .inr rfl⟩

theorem LiveCall.answer_logIntent {evidence : LiveDecisionEvidence} {intent : LiveOrderIntent}
    {answer : Answer} {world : World}
    (h : (LiveCall.answer answer
      (.database (.logLiveOrderIntentWithDecisionEvidence evidence intent)) world).1 =
        .ok intentId) :
    intentId = world.db.liveOrderIntents.nextId ∧
      intentId < (LiveCall.answer answer (.database (.logLiveOrderIntentWithDecisionEvidence evidence
        intent)) world).2.db.liveOrderIntents.nextId := by
  simp only [LiveCall.answer, LiveCall.respond, DatabaseCall.execute] at h ⊢
  cases herror : answer.databaseError with
  | some error => simp [herror] at h
  | none =>
    simp only [herror] at h ⊢
    cases h
    exact ⟨rfl, Nat.lt_succ_self _⟩

/-! ## Where fills come from -/

/-- How a stored fill came about: from the response to an intent none of whose trades is reported, or
from a reported trade. -/
inductive FillOrigin (venue : Venue) (reported : String → Bool) (fill : LiveFill) : Prop
  | response (intentId : ℕ) (hid : fill.venueTradeId = none)
      (hintent : fill.intentId = some intentId) (hsize : fill.size ≤ venue.executed intentId)
      (hapart : ∀ trade ∈ venue.trades, trade.intentId = some intentId →
        reported trade.tradeId = false)
  | recovered (trade : VenueTrade) (hmem : trade ∈ venue.trades)
      (hid : fill.venueTradeId = some trade.tradeId) (hintent : fill.intentId = none)
      (hsession : fill.sessionId = trade.sessionId) (hsize : fill.size = trade.size)
      (hreported : reported trade.tradeId = true)

/-- What tells fills apart. -/
def LiveFill.key (fill : LiveFill) : Option String × Option ℕ :=
  (fill.venueTradeId, fill.intentId)

/-- Every fill has an origin, and no two have the same key. -/
structure FillsTraced (venue : Venue) (reported : String → Bool) (db : Database) : Prop where
  origin : ∀ entry ∈ db.liveFills.rows, FillOrigin venue reported entry.2
  distinct : (db.liveFills.rows.map fun entry => entry.2.key).Nodup
  known : ∀ entry ∈ db.liveFills.rows, ∀ intentId, entry.2.intentId = some intentId →
    intentId < db.liveOrderIntents.nextId

section Rows

variable {venue : Venue} {reported : String → Bool} {db db' : Database} {fill : LiveFill}
variable {trade : VenueTrade}

theorem Venue.eq_of_tradeId {other : VenueTrade} (htrade : trade ∈ venue.trades)
    (hother : other ∈ venue.trades) (hid : trade.tradeId = other.tradeId) : trade = other :=
  inj_on_of_nodup_map venue.distinct htrade hother hid

theorem FillsTraced.keep (h : FillsTraced venue reported db) (hkeeps : KeepsFills db db') :
    FillsTraced venue reported db' := by
  obtain ⟨hfills, hnext⟩ := hkeeps
  constructor
  · rw [hfills]
    exact h.origin
  · rw [hfills]
    exact h.distinct
  · rw [hfills]
    exact fun entry hentry intentId hid => (h.known entry hentry intentId hid).trans_le hnext

theorem FillsTraced.insert (h : FillsTraced venue reported db)
    (hfills : db'.liveFills = db.liveFills.insert fill)
    (hintents : db'.liveOrderIntents = db.liveOrderIntents)
    (horigin : FillOrigin venue reported fill)
    (hnew : ∀ entry ∈ db.liveFills.rows, entry.2.key ≠ fill.key)
    (hknown : ∀ intentId, fill.intentId = some intentId →
      intentId < db.liveOrderIntents.nextId) : FillsTraced venue reported db' := by
  have hrows : db'.liveFills.rows = db.liveFills.rows ++ [(db.liveFills.nextId, fill)] := by
    rw [hfills]
    rfl
  constructor
  · intro entry hentry
    rw [hrows] at hentry
    rcases mem_append.mp hentry with hold | hlast
    · exact h.origin entry hold
    · rw [mem_singleton.mp hlast]
      exact horigin
  · rw [hrows, map_append, nodup_append]
    refine ⟨h.distinct, by simp, ?_⟩
    intro key hkey key' hkey'
    obtain ⟨entry, hentry, rfl⟩ := mem_map.mp hkey
    rw [mem_singleton.mp hkey']
    exact hnew entry hentry
  · intro entry hentry intentId hid
    rw [hintents]
    rw [hrows] at hentry
    rcases mem_append.mp hentry with hold | hlast
    · exact h.known entry hold intentId hid
    · rw [mem_singleton.mp hlast] at hid
      exact hknown intentId hid

theorem FillsTraced.exists_key (h : FillsTraced venue reported db) (htrade : trade ∈ venue.trades) :
    ∃ key, ∀ entry ∈ db.liveFills.rows, entry.2.covers trade = true → entry.2.key = key := by
  by_cases hreported : reported trade.tradeId = true
  · refine ⟨(some trade.tradeId, none), fun entry hentry hcovers => ?_⟩
    cases h.origin entry hentry with
    | response intentId hid hintent hsize hapart =>
      simp only [LiveFill.covers, hid, hintent, Option.isSome_some, Bool.true_and,
        beq_iff_eq] at hcovers
      rw [hapart trade htrade hcovers] at hreported
      cases hreported
    | recovered other hmem hid hintent hsession hsize hother =>
      simp only [LiveFill.covers, hid, beq_iff_eq] at hcovers
      simp only [LiveFill.key, hid, hintent, hcovers]
  · refine ⟨(none, trade.intentId), fun entry hentry hcovers => ?_⟩
    cases h.origin entry hentry with
    | response intentId hid hintent hsize hapart =>
      simp only [LiveFill.covers, hid, hintent, Option.isSome_some, Bool.true_and,
        beq_iff_eq] at hcovers
      simp only [LiveFill.key, hid, hintent, hcovers]
    | recovered other hmem hid hintent hsession hsize hother =>
      simp only [LiveFill.covers, hid, beq_iff_eq] at hcovers
      rw [hcovers] at hother
      exact absurd hother hreported

theorem FillsTraced.once (h : FillsTraced venue reported db) (htrade : trade ∈ venue.trades) :
    db.liveFills.count (·.covers trade) ≤ 1 := by
  obtain ⟨key, hkey⟩ := h.exists_key htrade
  have hsame : (db.liveFills.rows.filter fun entry => entry.2.covers trade).map (·.2.key) =
      List.replicate (db.liveFills.count (·.covers trade)) key := by
    rw [eq_replicate_iff, length_map]
    refine ⟨countP_eq_length_filter.symm, fun other hother => ?_⟩
    obtain ⟨entry, hentry, rfl⟩ := mem_map.mp hother
    obtain ⟨hmem, hcovers⟩ := mem_filter.mp hentry
    exact hkey entry hmem hcovers
  have hnodup : ((db.liveFills.rows.filter fun entry =>
      entry.2.covers trade).map (·.2.key)).Nodup := h.distinct.sublist (filter_sublist.map _)
  rw [hsame] at hnodup
  exact nodup_replicate.mp hnodup

theorem FillOrigin.size_le (h : FillOrigin venue reported fill) :
    fill.size ≤ ((venue.trades.filter fill.covers).map VenueTrade.size).sum := by
  cases h with
  | response intentId hid hintent hsize hapart =>
    refine hsize.trans (le_of_eq ?_)
    unfold Venue.executed
    congr 2
    apply filter_congr
    intro trade _
    simp [LiveFill.covers, hid, hintent]
  | recovered trade hmem hid hintent hsession hsize hreported =>
    rw [hsize]
    apply single_le_sum
    · intro size hsize'
      obtain ⟨other, hother, rfl⟩ := mem_map.mp hsize'
      exact (venue.pos other (mem_of_mem_filter hother)).le
    · exact mem_map_of_mem (mem_filter.mpr ⟨hmem, by simp [LiveFill.covers, hid]⟩)

theorem FillsTraced.recordedOnce (h : FillsTraced venue reported db) : RecordedOnce venue db where
  once _ htrade := h.once htrade
  total := sum_le_sum_of_charged (fun trade htrade => (venue.pos trade htrade).le)
    (fun entry hentry => (h.origin entry hentry).size_le) fun _ htrade => h.once htrade

end Rows

/-! ## The writers step by step -/

/-- A submission that keeps its discipline, works on an intent without a fill, and has an honest
response if it has one. -/
structure SubmissionTask.Sound (venue : Venue) (db : Database) (task : SubmissionTask) : Prop where
  obeys : Obeys submissionDiscipline (fun _ _ => True) task.program task.stage
  fresh : ∀ intentId, task.stage.intentId? = some intentId →
    intentId < db.liveOrderIntents.nextId ∧
      ∀ entry ∈ db.liveFills.rows, entry.2.intentId ≠ some intentId
  answered : ∀ intentId response, task.stage = .answered intentId response →
    HonestResponse venue intentId response

/-- A recovery pass that keeps its discipline, with an honest report. -/
structure RecoveryTask.Sound (venue : Venue) (reported : String → Bool) (task : RecoveryTask) :
    Prop where
  obeys : Obeys (recoveryDiscipline task.sessionId task.activity) (fun _ _ => True) task.program
    task.absent
  honest : HonestReport venue task.sessionId task.activity
  reports : ∀ entry ∈ task.activity.clobTrades, entry.price.isSome = true →
    entry.size.isSome = true → ∀ tradeId ∈ entry.tradeId, reported tradeId = true

/-- The fills are traced, the tasks are sound, and a trade about to be written is not stored and
about to be written only once. -/
structure FillRecorder.Consistent (venue : Venue) (reported : String → Bool) (s : FillRecorder) :
    Prop where
  fills : FillsTraced venue reported s.world.db
  submission : ∀ task, s.submission = some task → task.Sound venue s.world.db
  recoveries : ∀ task ∈ s.recoveries, task.Sound venue reported
  missing : ∀ task ∈ s.recoveries, ∀ tradeId, task.AboutToRecord tradeId →
    ∀ entry ∈ s.world.db.liveFills.rows, entry.2.venueTradeId ≠ some tradeId
  exclusive : ∀ (index other : ℕ) task task' tradeId, s.recoveries[index]? = some task →
    s.recoveries[other]? = some task' → task.AboutToRecord tradeId →
      task'.AboutToRecord tradeId → index = other

section Steps

variable {venue : Venue} {reported : String → Bool}

theorem SubmissionTask.Sound.keep {db db' : Database} {task : SubmissionTask}
    (h : task.Sound venue db) (hkeeps : KeepsFills db db') : task.Sound venue db' where
  obeys := h.obeys
  fresh := by
    intro intentId hintent
    obtain ⟨hlt, hrows⟩ := h.fresh intentId hintent
    rw [hkeeps.1]
    exact ⟨hlt.trans_le hkeeps.2, hrows⟩
  answered := h.answered

theorem RecoveryTask.Sound.aboutToRecord {task : RecoveryTask} (h : task.Sound venue reported)
    {tradeId : String} (habout : task.AboutToRecord tradeId) :
    task.absent = some tradeId ∧ ∃ trade ∈ venue.trades, trade.tradeId = tradeId ∧
      trade.sessionId = task.sessionId ∧ reported tradeId = true := by
  obtain ⟨sessionId, activity, program, absent⟩ := task
  cases program with
  | pure r => cases habout
  | request call next =>
    obtain ⟨hallowed, -⟩ := h.obeys
    cases call with
    | database call =>
      cases call with
      | logLiveFill fill =>
        obtain ⟨found, habsent, hrecovered⟩ := hallowed
        have hid : fill.venueTradeId = some tradeId := habout
        rw [hrecovered.venueTradeId] at hid
        cases hid
        obtain ⟨entry, hentry, hentryId, hprice, hsize⟩ := hrecovered.entry
        obtain ⟨trade, htrade, heq, hsession, -⟩ := h.honest entry hentry tradeId hentryId
        exact ⟨habsent, trade, htrade, heq, hsession,
          h.reports entry hentry hprice (by simp [hsize]) tradeId hentryId⟩
      | _ => cases habout
    | _ => cases habout

namespace FillRecorder.Consistent

variable {s s' : FillRecorder}
variable {world : World} {task : SubmissionTask} {answer : Answer} {fill : LiveFill}
variable {stage : SubmissionStage} {program : Live LiveSubmissionOrderResult} {call : LiveCall}
variable {absent : Option String} {index sessionId : ℕ} {activity : LiveActivityResponse}

theorem resubmit (h : s.Consistent venue reported) (hkeeps : KeepsFills s.world.db world.db)
    (hsound : task.Sound venue world.db) :
    ({ s with world, submission := some task } : FillRecorder).Consistent venue reported where
  fills := h.fills.keep hkeeps
  submission := by
    rintro _ ⟨⟩
    exact hsound
  recoveries := h.recoveries
  missing := by
    rw [hkeeps.1]
    exact h.missing
  exclusive := h.exclusive

/-- The fill of a response is written. -/
theorem recordResponse (h : s.Consistent venue reported)
    {next : (LiveCall.database (.logLiveFill fill)).Reply → Live LiveSubmissionOrderResult}
    (hsubmission : s.submission =
      some { program := .request (.database (.logLiveFill fill)) next, stage })
    (hstep : s.submissionCall answer = some s')
    (hseparated : Separated venue reported s (.submissionCall answer)) :
    s'.Consistent venue reported := by
  obtain ⟨⟨intentId, response, rfl, hresponse⟩, hnext⟩ := (h.submission _ hsubmission).obeys
  obtain ⟨hknown, hunfilled⟩ := (h.submission _ hsubmission).fresh intentId rfl
  have hhonest := (h.submission _ hsubmission).answered intentId response rfl
  simp only [submissionCall, hsubmission, Option.some.injEq] at hstep
  obtain ⟨hintents, hfills⟩ := LiveCall.answer_logLiveFill fill answer s.world
  have hapart := hseparated fill (by
    simp [pendingSubmission, hsubmission, Program.pending?, LiveCall.fill?])
  subst hstep
  have hsettled : ∀ db reply, SubmissionTask.Sound venue db
      { program := next reply, stage := .settled } := by
    intro db reply
    exact ⟨hnext reply, fun _ hnone => (by cases hnone), fun _ _ hnone => (by cases hnone)⟩
  rcases hfills with hsame | hinserted
  · exact h.resubmit ⟨hsame, le_of_eq (congrArg Table.nextId hintents.symm)⟩ (hsettled _ _)
  · refine ⟨?_, ?_, h.recoveries, ?_, h.exclusive⟩
    · refine h.fills.insert hinserted hintents ?_ ?_ ?_
      · refine .response intentId hresponse.venueTradeId hresponse.intentId
          (hhonest _ hresponse.size) fun trade htrade hintent => hapart trade htrade ?_
        simp [LiveFill.covers, hresponse.venueTradeId, hresponse.intentId, hintent]
      · intro entry hentry hkey
        exact hunfilled entry hentry ((congrArg Prod.snd hkey).trans hresponse.intentId)
      · intro other hother
        rw [hresponse.intentId] at hother
        cases hother
        exact hknown
    · rintro _ ⟨⟩
      exact hsettled _ _
    · intro task htask tradeId habout entry hentry
      rw [hinserted] at hentry
      rcases Table.mem_rows_insert.mp hentry with hold | hlast
      · exact h.missing task htask tradeId habout entry hold
      · rw [hlast, hresponse.venueTradeId]
        exact nofun

theorem sound_of_stage {db : Database} (h : task.Sound venue db)
    (hobeys : Obeys submissionDiscipline (fun _ _ => True) program task.stage) :
    SubmissionTask.Sound venue db { program, stage := task.stage } :=
  ⟨hobeys, h.fresh, h.answered⟩

theorem sound_of_inserted (h : s.Consistent venue reported) {evidence : LiveDecisionEvidence}
    {intent : LiveOrderIntent} {intentId : ℕ} {db' : Database}
    (hdb : db' = (LiveCall.answer answer (.database (.logLiveOrderIntentWithDecisionEvidence
      evidence intent)) s.world).2.db)
    (hreply : (LiveCall.answer answer (.database (.logLiveOrderIntentWithDecisionEvidence evidence
      intent)) s.world).1 = .ok intentId)
    (hobeys : Obeys submissionDiscipline (fun _ _ => True) program (.submitting intentId)) :
    SubmissionTask.Sound venue db' { program, stage := .submitting intentId } where
  obeys := hobeys
  fresh := by
    rintro _ ⟨⟩
    obtain ⟨hnext, hlt⟩ := LiveCall.answer_logIntent hreply
    rw [hdb, (LiveCall.answer_keepsFills (by simp) answer s.world).1]
    refine ⟨hlt, fun entry hentry hid => ?_⟩
    have hold := h.fills.known entry hentry intentId hid
    omega
  answered := nofun

/-- Another call of the submission is answered. -/
theorem callSubmission (h : s.Consistent venue reported)
    {next : call.Reply → Live LiveSubmissionOrderResult}
    (hsubmission : s.submission = some { program := .request call next, stage })
    (hcall : ∀ fill, call ≠ .database (.logLiveFill fill))
    (hstep : s.submissionCall answer = some s')
    (hhonest : Honest venue s (.submissionCall answer)) : s'.Consistent venue reported := by
  have hsound := h.submission _ hsubmission
  obtain ⟨hallowed, hnext⟩ := hsound.obeys
  simp only [submissionCall, hsubmission, Option.some.injEq] at hstep
  have hpending : s.pendingSubmission = some call := by
    simp [pendingSubmission, hsubmission, Program.pending?]
  subst hstep
  have hkeeps := LiveCall.answer_keepsFills hcall answer s.world
  have hkept := hsound.keep hkeeps
  refine h.resubmit hkeeps ?_
  have hnext' := hnext (call.answer answer s.world).1
  cases call with
  | database call =>
    cases call with
    | logLiveFill fill => exact absurd rfl (hcall fill)
    | logLiveOrderIntentWithDecisionEvidence evidence intent =>
      generalize hreply : (LiveCall.answer answer (.database
        (.logLiveOrderIntentWithDecisionEvidence evidence intent)) s.world).1 = reply at hnext' ⊢
      cases reply with
      | error error => exact sound_of_stage hkept hnext'
      | ok intentId => exact h.sound_of_inserted rfl hreply hnext'
    | _ => exact sound_of_stage hkept hnext'
  | submitOrderIntent request =>
    cases hresponse : answer.submitOrderIntent with
    | error error =>
      simp only [LiveCall.answer, LiveCall.respond, hresponse] at hnext' ⊢
      exact sound_of_stage hkept hnext'
    | ok response =>
      have hstage : stage = .submitting request.intentId := hallowed
      subst hstage
      simp only [LiveCall.answer, LiveCall.respond, hresponse] at hnext' ⊢
      refine ⟨hnext', hsound.fresh, ?_⟩
      rintro _ _ ⟨⟩
      exact hhonest request (by simp [hpending, LiveCall.request?]) response
        (by simp [hresponse, Except.toOption])
  | _ => exact sound_of_stage hkept hnext'

theorem exists_lookup (sessionId : ℕ) (activity : LiveActivityResponse) {tradeId : String}
    (hnext : (recoveryDiscipline sessionId activity).next absent call
      (call.answer answer world).1 = some tradeId) :
    ∃ id, call = .database (.liveFillExists id tradeId) ∧
      world.db.liveFillExists id tradeId = false := by
  cases call with
  | database call =>
    cases call with
    | liveFillExists id looked =>
      simp only [LiveCall.answer, LiveCall.respond, DatabaseCall.execute] at hnext
      cases herror : answer.databaseError with
      | some error => simp [herror, recoveryDiscipline] at hnext
      | none =>
        simp only [herror, DatabaseCall.perform] at hnext
        cases hexists : world.db.liveFillExists id looked with
        | true => simp [hexists, recoveryDiscipline] at hnext
        | false =>
          simp only [hexists, recoveryDiscipline] at hnext
          cases hnext
          exact ⟨id, rfl, hexists⟩
    | _ => cases hnext
  | _ => cases hnext

theorem not_stored (h : s.Consistent venue reported) {trade : VenueTrade}
    (htrade : trade ∈ venue.trades)
    (hexists : s.world.db.liveFillExists trade.sessionId trade.tradeId = false) :
    ∀ entry ∈ s.world.db.liveFills.rows, entry.2.venueTradeId ≠ some trade.tradeId := by
  intro entry hentry hid
  have hfalse := any_eq_false.mp hexists entry hentry
  cases h.fills.origin entry hentry with
  | response intentId hnone hintent hsize hapart =>
    rw [hid] at hnone
    cases hnone
  | recovered other hmem hother hintent hsession hsize hreported =>
    rw [hid] at hother
    have hsame := Venue.eq_of_tradeId htrade hmem (Option.some.inj hother)
    simp [hid, hsession, hsame] at hfalse

theorem getElem?_set_cases {other : ℕ} {task task' : RecoveryTask}
    (hget : (s.recoveries.set index task)[other]? = some task') :
    other = index ∧ task' = task ∨ other ≠ index ∧ s.recoveries[other]? = some task' := by
  by_cases hother : index = other
  · subst hother
    rw [List.getElem?_set_self'] at hget
    obtain ⟨_, -, rfl⟩ := Option.map_eq_some_iff.mp hget
    exact .inl ⟨rfl, rfl⟩
  · rw [List.getElem?_set_ne hother] at hget
    exact .inr ⟨fun heq => hother heq.symm, hget⟩

theorem rerecover (h : s.Consistent venue reported) {task : RecoveryTask}
    (hfills : FillsTraced venue reported world.db)
    (hsubmission : ∀ other, s.submission = some other → other.Sound venue world.db)
    (hsound : task.Sound venue reported)
    (hmissing : ∀ tradeId, task.AboutToRecord tradeId →
      ∀ entry ∈ world.db.liveFills.rows, entry.2.venueTradeId ≠ some tradeId)
    (hothers : ∀ other task' tradeId, other ≠ index → s.recoveries[other]? = some task' →
      task'.AboutToRecord tradeId → ¬task.AboutToRecord tradeId ∧
        ∀ entry ∈ world.db.liveFills.rows, entry.2.venueTradeId ≠ some tradeId) :
    ({ s with world, recoveries := s.recoveries.set index task } :
      FillRecorder).Consistent venue reported where
  fills := hfills
  submission := hsubmission
  recoveries := by
    intro task' hmem
    rcases mem_or_eq_of_mem_set hmem with hold | rfl
    · exact h.recoveries task' hold
    · exact hsound
  missing := by
    intro task' hmem tradeId habout
    obtain ⟨other, hget⟩ := mem_iff_getElem?.mp hmem
    rcases getElem?_set_cases hget with ⟨-, rfl⟩ | ⟨hne, hold⟩
    · exact hmissing tradeId habout
    · exact (hothers other task' tradeId hne hold habout).2
  exclusive := by
    intro first second task₁ task₂ tradeId hfirst hsecond habout₁ habout₂
    rcases getElem?_set_cases hfirst with ⟨rfl, rfl⟩ | ⟨hne, hold⟩
    · rcases getElem?_set_cases hsecond with ⟨rfl, -⟩ | ⟨hne, hold⟩
      · rfl
      · exact absurd habout₁ (hothers second task₂ tradeId hne hold habout₂).1
    · rcases getElem?_set_cases hsecond with ⟨rfl, rfl⟩ | ⟨-, hold'⟩
      · exact absurd habout₂ (hothers first task₁ tradeId hne hold habout₁).1
      · exact h.exclusive first second task₁ task₂ tradeId hold hold' habout₁ habout₂

/-- A recovered trade is written. -/
theorem recordRecovered (h : s.Consistent venue reported)
    {next : (LiveCall.database (.logLiveFill fill)).Reply →
      Live (Except String Unit × LiveTradingMonitor)}
    (hget : s.recoveries[index]? = some { sessionId, activity, absent
                                          program :=
                                            .request (.database (.logLiveFill fill)) next })
    (hstep : s.recoveryCall index answer = some s') : s'.Consistent venue reported := by
  have hmem := mem_of_getElem? hget
  have hsound := h.recoveries _ hmem
  obtain ⟨⟨tradeId, rfl, hrecovered⟩, hnext⟩ := hsound.obeys
  obtain ⟨entry, hentry, hentryId, hprice, hsize⟩ := hrecovered.entry
  obtain ⟨trade, htrade, rfl, hsession, hhonest⟩ := hsound.honest entry hentry tradeId hentryId
  have hreported := hsound.reports entry hentry hprice (by simp [hsize]) trade.tradeId hentryId
  have hmissing := h.missing _ hmem trade.tradeId hrecovered.venueTradeId
  simp only [recoveryCall, hget, Option.some.injEq] at hstep
  subst hstep
  obtain ⟨hintents, hfills⟩ := LiveCall.answer_logLiveFill fill answer s.world
  -- The task is past its insert, so it is about to write nothing.
  have hsound' : ∀ reply, RecoveryTask.Sound venue reported
      { sessionId, activity, program := next reply, absent := none } :=
    fun reply => ⟨hnext reply, hsound.honest, hsound.reports⟩
  have hidle : ∀ reply tradeId, ¬RecoveryTask.AboutToRecord
      { sessionId, activity, program := next reply, absent := none } tradeId := by
    intro reply tradeId habout
    cases ((hsound' reply).aboutToRecord habout).1
  refine h.rerecover ?_ ?_ (hsound' _) (fun tradeId habout => absurd habout (hidle _ tradeId)) ?_
  · rcases hfills with hsame | hinserted
    · exact h.fills.keep ⟨hsame, le_of_eq (congrArg Table.nextId hintents.symm)⟩
    · refine h.fills.insert hinserted hintents ?_ ?_ ?_
      · exact .recovered trade htrade hrecovered.venueTradeId hrecovered.intentId
          (hrecovered.sessionId.trans hsession.symm) (hhonest _ hsize) hreported
      · intro entry hentry hkey
        exact hmissing entry hentry ((congrArg Prod.fst hkey).trans hrecovered.venueTradeId)
      · intro intentId hid
        rw [hrecovered.intentId] at hid
        cases hid
  · intro other hother
    have hold := h.submission other hother
    refine ⟨hold.obeys, fun intentId hid => ?_, hold.answered⟩
    obtain ⟨hlt, hunfilled⟩ := hold.fresh intentId hid
    refine ⟨hintents ▸ hlt, fun entry hentry => ?_⟩
    rcases hfills with hsame | hinserted
    · exact hunfilled entry (hsame ▸ hentry)
    · rw [hinserted] at hentry
      rcases Table.mem_rows_insert.mp hentry with hold | hlast
      · exact hunfilled entry hold
      · rw [hlast, hrecovered.intentId]
        exact nofun
  · intro other task' tradeId hne hother habout
    refine ⟨hidle _ tradeId, fun entry hentry => ?_⟩
    have hstored := h.missing task' (mem_of_getElem? hother) tradeId habout
    rcases hfills with hsame | hinserted
    · exact hstored entry (hsame ▸ hentry)
    · rw [hinserted] at hentry
      rcases Table.mem_rows_insert.mp hentry with hold | hlast
      · exact hstored entry hold
      · rw [hlast, hrecovered.venueTradeId]
        rintro ⟨⟩
        exact hne (h.exclusive other index _ _ _ hother hget habout hrecovered.venueTradeId)

theorem callRecovery (h : s.Consistent venue reported)
    {next : call.Reply → Live (Except String Unit × LiveTradingMonitor)}
    (hget : s.recoveries[index]? =
      some { sessionId, activity, absent, program := .request call next })
    (hcall : ∀ fill, call ≠ .database (.logLiveFill fill))
    (hstep : s.recoveryCall index answer = some s')
    (hseparated : Separated venue reported s (.recoveryCall index answer)) :
    s'.Consistent venue reported := by
  have hsound := h.recoveries _ (mem_of_getElem? hget)
  obtain ⟨hallowed, hnext⟩ := hsound.obeys
  simp only [recoveryCall, hget, Option.some.injEq] at hstep
  have hpending : s.pendingRecovery index = some call := by
    simp [pendingRecovery, hget, Program.pending?]
  subst hstep
  have hkeeps := LiveCall.answer_keepsFills hcall answer s.world
  have hsound' : RecoveryTask.Sound venue reported
      { sessionId, activity, program := next (call.answer answer s.world).1
        absent := (recoveryDiscipline sessionId activity).next absent call
          (call.answer answer s.world).1 } :=
    ⟨hnext _, hsound.honest, hsound.reports⟩
  refine h.rerecover (h.fills.keep hkeeps) (fun other hother => (h.submission other hother).keep
    hkeeps) hsound' ?_ ?_
  · intro tradeId habout
    obtain ⟨habsent, trade, htrade, rfl, hsession, -⟩ := hsound'.aboutToRecord habout
    obtain ⟨id, rfl, hexists⟩ := exists_lookup sessionId activity habsent
    have hid : id = trade.sessionId := Eq.trans hallowed hsession.symm
    rw [hid] at hexists
    rw [hkeeps.1]
    exact h.not_stored htrade hexists
  · intro other task' tradeId hne hother habout
    have hmem := mem_of_getElem? hother
    refine ⟨fun habout' => ?_, ?_⟩
    · obtain ⟨id, rfl, -⟩ := exists_lookup sessionId activity (hsound'.aboutToRecord habout').1
      exact hseparated tradeId (by simp [hpending, LiveCall.lookup?]) task' hmem habout
    · rw [hkeeps.1]
      exact h.missing task' hmem tradeId habout

/-- Every step keeps the fills traced. -/
theorem step (h : s.Consistent venue reported) {action : FillAction}
    (hstep : s.step action = some s') (hhonest : Honest venue s action)
    (hseparated : Separated venue reported s action) : s'.Consistent venue reported := by
  cases action with
  | submit input =>
    simp only [FillRecorder.step] at hstep
    split at hstep
    · cases hstep
      refine h.resubmit ⟨rfl, le_rfl⟩ ⟨obeys_submitOneLiveOrderFromWorker input, ?_, ?_⟩
      · exact fun _ hnone => (by cases hnone)
      · exact fun _ _ hnone => (by cases hnone)
    · cases hstep
  | submissionCall answer =>
    cases hsubmission : s.submission with
    | none => simp [FillRecorder.step, submissionCall, hsubmission] at hstep
    | some task =>
      obtain ⟨program, stage⟩ := task
      cases program with
      | pure result => simp [FillRecorder.step, submissionCall, hsubmission] at hstep
      | request call next =>
        by_cases hfill : ∃ fill, call = .database (.logLiveFill fill)
        · obtain ⟨fill, rfl⟩ := hfill
          exact h.recordResponse hsubmission hstep hseparated
        · exact h.callSubmission hsubmission (fun fill heq => hfill ⟨fill, heq⟩) hstep hhonest
  | submissionDone =>
    simp only [FillRecorder.step] at hstep
    split at hstep
    · cases hstep
      exact ⟨h.fills, fun _ hnone => (by cases hnone), h.recoveries, h.missing, h.exclusive⟩
    · cases hstep
  | recover monitor activity =>
    cases hstep
    have hsound : (RecoveryTask.start monitor activity).Sound venue reported :=
      ⟨obeys_persistActivityRecovery monitor activity none, hhonest, hseparated⟩
    have hidle : ∀ tradeId, ¬(RecoveryTask.start monitor activity).AboutToRecord tradeId :=
      fun tradeId habout => (by cases (hsound.aboutToRecord habout).1)
    refine ⟨h.fills, h.submission, ?_, ?_, ?_⟩
    · intro task hmem
      rcases mem_append.mp hmem with hold | hnew
      · exact h.recoveries task hold
      · rw [mem_singleton.mp hnew]
        exact hsound
    · intro task hmem tradeId habout
      rcases mem_append.mp hmem with hold | hnew
      · exact h.missing task hold tradeId habout
      · rw [mem_singleton.mp hnew] at habout
        exact absurd habout (hidle tradeId)
    · intro first second task task' tradeId hfirst hsecond habout habout'
      have hold : ∀ {index : ℕ} {task : RecoveryTask},
          (s.recoveries ++ [.start monitor activity])[index]? = some task →
            task.AboutToRecord tradeId → s.recoveries[index]? = some task := by
        intro index task hget habout
        rw [List.getElem?_append] at hget
        split at hget
        · exact hget
        · rw [mem_singleton.mp (mem_of_getElem? hget)] at habout
          exact absurd habout (hidle tradeId)
      exact h.exclusive first second task task' tradeId (hold hfirst habout)
        (hold hsecond habout') habout habout'
  | recoveryCall index answer =>
    cases hget : s.recoveries[index]? with
    | none => simp [FillRecorder.step, recoveryCall, hget] at hstep
    | some task =>
      obtain ⟨sessionId, activity, program, absent⟩ := task
      cases program with
      | pure result => simp [FillRecorder.step, recoveryCall, hget] at hstep
      | request call next =>
        by_cases hfill : ∃ fill, call = .database (.logLiveFill fill)
        · obtain ⟨fill, rfl⟩ := hfill
          exact h.recordRecovered hget hstep
        · exact h.callRecovery hget (fun fill heq => hfill ⟨fill, heq⟩) hstep hseparated

end FillRecorder.Consistent

end Steps

/-- Each fill is recorded once. In every run of the submission worker and any number of recovery
passes over a new run database, with a venue that answers and reports what it has executed, no trade
is in two rows and the recorded sizes sum up to no more than what was executed, as long as the trades
that recoveries report with price and size are in no fill taken over from a response, and no recovery
looks up a trade that another one is about to write. -/
theorem each_trade_recorded_once (venue : Venue) (reported : String → Bool) (world : World)
    (hnew : world.db.liveFills = .empty) (s : FillRecorder)
    (hrun : System.Run fillSystem (fun _ s action _ => Honest venue s action ∧
      Separated venue reported s action) ((), .start world) () s) :
    RecordedOnce venue s.world.db := by
  have hrows : world.db.liveFills.rows = [] := by
    rw [hnew]
    rfl
  have hstart : (FillRecorder.start world).Consistent venue reported := by
    refine ⟨⟨?_, ?_, ?_⟩, fun _ hnone => (by cases hnone), by simp [FillRecorder.start],
      by simp [FillRecorder.start], by simp [FillRecorder.start]⟩
    · simp [FillRecorder.start, hrows]
    · simp [FillRecorder.start, hrows]
    · simp [FillRecorder.start, hrows]
  have hconsistent := hrun.invariant (fun _ s => s.Consistent venue reported) hstart
    fun _ s action s' h hstep hmeets => h.step hstep hmeets.1 hmeets.2
  exact hconsistent.fills.recordedOnce

def sampleVenue : Venue where
  trades := [⟨"taker", 1, some 1, 10⟩, ⟨"manual", 1, none, 4⟩]
  distinct := by decide
  pos := by decide +kernel

def sampleReport (tradeId : String) (size : ℚ) : LiveActivityResponse where
  timestampMs := 2000
  userStreamStatus := .ok
  clobTrades := [⟨1500, some tradeId, some (1 / 2), some size⟩]

def submitSampleOrder : List FillAction :=
  .submit (submissionOf sampleConfig 1 sampleSingle (sampleOrder 1 .up)) ::
    List.replicate 11 (.submissionCall (sampleAnswer 1000))

def recoverReport (index : ℕ) (activity : LiveActivityResponse) : List FillAction :=
  [.recover (.start 1) activity, .recoveryCall index (sampleAnswer 2000),
    .recoveryCall index (sampleAnswer 2000)]

/-- The fill of a response is recorded again when a recovery reports its trade. -/
theorem fill_recorded_twice :
    ¬∀ venue world s, world.db.liveFills = .empty →
      System.Run fillSystem (fun _ s action _ => Honest venue s action) ((), .start world) () s →
        (∀ trade ∈ venue.trades, s.world.db.liveFills.count (·.covers trade) ≤ 1) ∨
          (s.world.db.liveFills.rows.map fun entry => entry.2.size).sum ≤
            (venue.trades.map VenueTrade.size).sum := by
  intro hall
  have hfollow : (fillSystem.follow (fun _ s action _ => decide (Honest sampleVenue s action))
      (submitSampleOrder ++ recoverReport 0 (sampleReport "taker" 10)) ((), .start sampleWorld)).any
        (fun x => (sampleVenue.trades.any fun trade =>
          decide (2 ≤ x.2.world.db.liveFills.count (·.covers trade))) &&
            decide (20 ≤ (x.2.world.db.liveFills.rows.map
              fun entry => entry.2.size).sum)) = true := by
    decide +kernel
  obtain ⟨⟨⟩, s, hrun, htwice⟩ := System.exists_run_of_follow hfollow
    fun _ _ _ _ hcheck => of_decide_eq_true hcheck
  simp only [Bool.and_eq_true, any_eq_true, decide_eq_true_eq] at htwice
  obtain ⟨⟨trade, htrade, hcount⟩, hsum⟩ := htwice
  rcases hall sampleVenue sampleWorld s rfl hrun with honce | htotal
  · have hle := honce trade htrade
    omega
  · have hexecuted : (sampleVenue.trades.map VenueTrade.size).sum = 14 := by decide +kernel
    rw [hexecuted] at htotal
    exact absurd (hsum.trans htotal) (by decide +kernel)

theorem each_trade_recorded_once_sample :
    sampleWorld.db.liveFills = .empty ∧ ∃ s, System.Run fillSystem (fun _ s action _ =>
      Honest sampleVenue s action ∧ Separated sampleVenue (· == "manual") s action)
      ((), .start sampleWorld) () s ∧ s.world.db.liveFills.rows.length = 2 ∧
        RecordedOnce sampleVenue s.world.db := by
  have hfollow : (fillSystem.follow (fun _ s action _ =>
      decide (Honest sampleVenue s action ∧ Separated sampleVenue (· == "manual") s action))
      (submitSampleOrder ++ recoverReport 0 (sampleReport "manual" 4) ++
        (recoverReport 1 (sampleReport "manual" 4)).take 2) ((), .start sampleWorld)).any
          (fun x => x.2.world.db.liveFills.rows.length == 2) = true := by
    decide +kernel
  obtain ⟨⟨⟩, s, hrun, hlength⟩ := System.exists_run_of_follow hfollow
    fun _ _ _ _ hcheck => of_decide_eq_true hcheck
  exact ⟨rfl, s, hrun, by simpa using hlength,
    each_trade_recorded_once sampleVenue (· == "manual") sampleWorld rfl s hrun⟩

end BubaPaint
