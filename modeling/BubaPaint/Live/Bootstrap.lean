import BubaPaint.Storage.VenueAttempts
import BubaPaint.Live.SubmissionWorker

/-!
# Bootstrap after a crash

A live session refuses to start on a database that still holds a terminal halt, an unconfirmed fill,
an order row or an attempt without outcome. This file relates that check to the submission path cut
off at any point: a venue call leaves a trace that no later step removes, and a dry run leaves none.

Main results:

- Theorem `bootstrap_remembers_submissions`: after a venue call every later start is refused.
-/

namespace BubaPaint

open Effects Program Database LiveCall

/-! ## The check -/

def bailIf (condition : Bool) (message : String) : LiveResult Unit :=
  if condition then throw message else pure ()

/-- Fail closed before starting a live session on any prior live-trading state that a restart could
turn into a duplicate order or fill. -/
def ensureLiveBootstrapClean (config : Config) : LiveResult Unit := do
  let halted ← Live.database .terminalLiveTradingHaltExists
  bailIf halted
    ("live_trading cannot start against a DB with a halted or unknown-order live session; " ++
      "run live-closeout and start a new run DB")
  let unconfirmed ← Live.database (.unconfirmedOnchainFillCount config.liveOnchainReconcileEnabled)
  bailIf (0 < unconfirmed)
    (s!"live_trading cannot start: {unconfirmed} filled live orders are not confirmed on-chain " ++
      "(a prior verifier did not finish); investigate the fills on-chain, then start a new run DB")
  let priorOrders ← Live.database .liveOrderCount
  bailIf (0 < priorOrders)
    (s!"live_trading cannot start: this DB already recorded {priorOrders} live venue " ++
      "submission(s); the at-most-one-fill caps are per session and would reset on restart, so a " ++
      "prior live position could be doubled. Archive this run DB and start a fresh one")
  let orphaned ← Live.database .orphanedVenueAttemptCount
  bailIf (0 < orphaned)
    (s!"live_trading cannot start: {orphaned} venue submission(s) have no recorded outcome (a " ++
      "prior process died between submitting and persisting the response); the order(s) may have " ++
      "filled, so investigate venue activity on-chain, then start a new run DB")

/-- A database that remembers a venue call: an order row, or an intent marked `submitting`. -/
def VenueTrace (db : Database) : Prop :=
  (∃ id order, db.liveOrders.get? id = some order) ∨
    ∃ id intent, db.liveOrderIntents.get? id = some intent ∧ intent.status = .submitting

variable {db : Database} {world : World}

theorem VenueTrace.counts (h : VenueTrace db) :
    0 < db.liveOrderCount ∨ 0 < db.orphanedVenueAttemptCount := by
  by_cases horder : ∃ id order, db.liveOrders.get? id = some order
  · left
    obtain ⟨id, order, hget⟩ := horder
    exact Table.count_pos_iff.mpr ⟨id, order, hget, rfl⟩
  · right
    rcases h with h | ⟨id, intent, hget, hstatus⟩
    · exact absurd h horder
    · apply List.countP_pos_iff.mpr
      refine ⟨(id, intent), Table.get?_eq_some_iff.mp hget, ?_⟩
      have hnone : (db.liveOrders.any fun order => order.intentId == id) = false := by
        rw [Bool.eq_false_iff]
        intro hany
        obtain ⟨orderId, order, horderGet, -⟩ := Table.any_eq_true_iff.mp hany
        exact horder ⟨orderId, order, horderGet⟩
      simp [hstatus, hnone]

theorem sat_read_bind {c : DatabaseCall} {value : c.Reply} {next : c.Reply → LiveResult Unit}
    (hperform : c.perform world.db = .ok (value, world.db))
    (hnext : ∀ exchanges, Live.Sat (fun _ _ => True) (fun r _ => ∃ error, r = .error error)
      (next value).run ⟨world.db, exchanges⟩) :
    Live.Sat (fun _ _ => True) (fun r _ => ∃ error, r = .error error)
      (Live.database c >>= next).run world := by
  simp only [Live.Sat, sat_run_bind]
  apply Live.sat_database trivial
  · intro error
    exact ⟨error, rfl⟩
  · intro reply db' h
    rw [hperform] at h
    cases h
    exact hnext _

theorem sat_bailIf_bind {condition : Bool} {message : String} {next : Unit → LiveResult Unit}
    (hnext : condition = false → Live.Sat (fun _ _ => True) (fun r _ => ∃ error, r = .error error)
      (next ()).run world) :
    Live.Sat (fun _ _ => True) (fun r _ => ∃ error, r = .error error)
      (bailIf condition message >>= next).run world := by
  cases condition with
  | true => exact ⟨message, rfl⟩
  | false => exact hnext rfl

theorem ensureLiveBootstrapClean_sat (config : Config) (h : VenueTrace world.db) :
    Live.Sat (fun _ _ => True) (fun r _ => ∃ error, r = .error error)
      (ensureLiveBootstrapClean config).run world := by
  apply sat_read_bind rfl
  intro _
  apply sat_bailIf_bind
  intro _
  apply sat_read_bind rfl
  intro _
  apply sat_bailIf_bind
  intro _
  apply sat_read_bind rfl
  intro _
  apply sat_bailIf_bind
  intro hnone
  apply sat_read_bind rfl
  intro _
  have horphaned : 0 < world.db.orphanedVenueAttemptCount := by
    rcases h.counts with horders | horphaned
    · simp [horders] at hnone
    · exact horphaned
  simp only [horphaned, decide_true]
  exact ⟨_, rfl⟩

/-! ## What a submission keeps -/

/-- What a later database keeps of an earlier one: every intent with its status, every order row
with its intent, and new order rows only for new stored intents. -/
structure Retains (base db : Database) : Prop where
  nextId_le : base.liveOrderIntents.nextId ≤ db.liveOrderIntents.nextId
  status : ∀ id intent, base.liveOrderIntents.get? id = some intent →
    ∃ intent', db.liveOrderIntents.get? id = some intent' ∧ intent'.status = intent.status
  order : ∀ id order, base.liveOrders.get? id = some order →
    ∃ order', db.liveOrders.get? id = some order'
  newOrder : ∀ id order, db.liveOrders.get? id = some order →
    (∃ order', base.liveOrders.get? id = some order' ∧ order'.intentId = order.intentId) ∨
      (base.liveOrderIntents.nextId ≤ order.intentId ∧
        order.intentId < db.liveOrderIntents.nextId)

theorem Retains.refl (db : Database) : Retains db db where
  nextId_le := Nat.le_refl _
  status _ intent hget := ⟨intent, hget, rfl⟩
  order _ order hget := ⟨order, hget⟩
  newOrder _ order hget := .inl ⟨order, hget, rfl⟩

theorem Retains.trans {db₁ db₂ db₃ : Database} (h : Retains db₁ db₂) (h' : Retains db₂ db₃) :
    Retains db₁ db₃ where
  nextId_le := h.nextId_le.trans h'.nextId_le
  status := by
    intro id intent hget
    obtain ⟨intent₂, hget₂, hstatus₂⟩ := h.status id intent hget
    obtain ⟨intent₃, hget₃, hstatus₃⟩ := h'.status id intent₂ hget₂
    exact ⟨intent₃, hget₃, hstatus₃.trans hstatus₂⟩
  order := by
    intro id order hget
    obtain ⟨order₂, hget₂⟩ := h.order id order hget
    exact h'.order id order₂ hget₂
  newOrder := by
    intro id order hget
    have hle := h'.nextId_le
    rcases h'.newOrder id order hget with ⟨order₂, hget₂, hintent₂⟩ | ⟨hnew, hstored⟩
    · rcases h.newOrder id order₂ hget₂ with ⟨order₁, hget₁, hintent₁⟩ | ⟨hnew, hstored⟩
      · exact .inl ⟨order₁, hget₁, hintent₁.trans hintent₂⟩
      · exact .inr ⟨by omega, by omega⟩
    · exact .inr ⟨h.nextId_le.trans hnew, hstored⟩

theorem VenueTrace.keeps {base : Database} (h : VenueTrace base) (hkeeps : Retains base db) :
    VenueTrace db := by
  rcases h with ⟨id, order, hget⟩ | ⟨id, intent, hget, hstatus⟩
  · obtain ⟨order', hget'⟩ := hkeeps.order id order hget
    exact .inl ⟨id, order', hget'⟩
  · obtain ⟨intent', hget', hstatus'⟩ := hkeeps.status id intent hget
    exact .inr ⟨id, intent', hget', hstatus'.trans hstatus⟩

/-- Calls that write neither the status nor an order row of an intent of the earlier database. -/
def DatabaseCall.spares (base db : Database) : DatabaseCall → Prop
  | .markLiveOrderIntentDryRun id | .markLiveOrderIntentSubmitting id =>
    base.liveOrderIntents.nextId ≤ id
  | .logLiveOrder order =>
    base.liveOrderIntents.nextId ≤ order.intentId ∧
      order.intentId < db.liveOrderIntents.nextId
  | _ => True

/-- Calls that write neither the status nor an order row of an intent of the earlier database. -/
def LiveCall.spares (base db : Database) : LiveCall → Prop
  | .database call => call.spares base db
  | _ => True

section Writes

variable {base db db' : Database}
variable {id : ℕ} {status : IntentStatus} {what : String}

theorem Retains.newOrder_of_le (h : Retains base db)
    (hle : db.liveOrderIntents.nextId ≤ db'.liveOrderIntents.nextId)
    (horders : db'.liveOrders = db.liveOrders) (id : ℕ) (order : LiveOrder)
    (hget : db'.liveOrders.get? id = some order) :
    (∃ order', base.liveOrders.get? id = some order' ∧ order'.intentId = order.intentId) ∨
      (base.liveOrderIntents.nextId ≤ order.intentId ∧
        order.intentId < db'.liveOrderIntents.nextId) := by
  rw [horders] at hget
  rcases h.newOrder id order hget with hold | ⟨hnew, hstored⟩
  · exact .inl hold
  · exact .inr ⟨hnew, hstored.trans_le hle⟩

theorem Retains.of_eq (h : Retains base db) (hintents : db'.liveOrderIntents = db.liveOrderIntents)
    (horders : db'.liveOrders = db.liveOrders) : Retains base db' where
  nextId_le := hintents ▸ h.nextId_le
  status := hintents ▸ h.status
  order := horders ▸ h.order
  newOrder := h.newOrder_of_le (by rw [hintents]) horders

theorem Retains.insertIntent (h : Retains base db) (intent : LiveOrderIntent)
    (hintents : db'.liveOrderIntents = db.liveOrderIntents.insert intent)
    (horders : db'.liveOrders = db.liveOrders) : Retains base db' where
  nextId_le := by
    rw [hintents, Table.nextId_insert]
    exact Nat.le_succ_of_le h.nextId_le
  status := by
    intro id row hget
    obtain ⟨row', hget', hstatus⟩ := h.status id row hget
    have hlt := Table.lt_nextId_of_get? hget'
    refine ⟨row', ?_, hstatus⟩
    rw [hintents, Table.get?_insert, if_neg (Nat.ne_of_lt hlt), hget']
  order := horders ▸ h.order
  newOrder := h.newOrder_of_le (by simp [hintents]) horders

theorem Retains.modifyIntent (h : Retains base db) (id : ℕ) (f : LiveOrderIntent → LiveOrderIntent)
    (hf : base.liveOrderIntents.nextId ≤ id ∨ ∀ row, (f row).status = row.status)
    (hintents : db'.liveOrderIntents = db.liveOrderIntents.modify id f)
    (horders : db'.liveOrders = db.liveOrders) : Retains base db' where
  nextId_le := by
    rw [hintents, Table.nextId_modify]
    exact h.nextId_le
  status := by
    intro id' row hget
    obtain ⟨row', hget', hstatus⟩ := h.status id' row hget
    have hlt := Table.lt_nextId_of_get? hget
    rw [hintents, Table.get?_modify, hget']
    split <;> rename_i hid
    · rcases hf with hle | hf
      · omega
      · exact ⟨f row', rfl, (hf row').trans hstatus⟩
    · exact ⟨row', rfl, hstatus⟩
  order := horders ▸ h.order
  newOrder := h.newOrder_of_le (by simp [hintents]) horders

theorem Retains.insertOrder (h : Retains base db) (order : LiveOrder)
    (horder : base.liveOrderIntents.nextId ≤ order.intentId ∧
      order.intentId < db.liveOrderIntents.nextId)
    (hintents : db'.liveOrderIntents = db.liveOrderIntents)
    (horders : db'.liveOrders = db.liveOrders.insert order) : Retains base db' where
  nextId_le := hintents ▸ h.nextId_le
  status := hintents ▸ h.status
  order := by
    intro id row hget
    obtain ⟨row', hget'⟩ := h.order id row hget
    have hlt := Table.lt_nextId_of_get? hget'
    refine ⟨row', ?_⟩
    rw [horders, Table.get?_insert, if_neg (Nat.ne_of_lt hlt), hget']
  newOrder := by
    intro id row hget
    rw [horders, Table.get?_insert] at hget
    rw [hintents]
    split at hget
    · cases hget
      exact .inr horder
    · exact h.newOrder id row hget

theorem Retains.modifyOrder (h : Retains base db) (id : ℕ) (f : LiveOrder → LiveOrder)
    (hf : ∀ row, (f row).intentId = row.intentId)
    (hintents : db'.liveOrderIntents = db.liveOrderIntents)
    (horders : db'.liveOrders = db.liveOrders.modify id f) : Retains base db' where
  nextId_le := hintents ▸ h.nextId_le
  status := hintents ▸ h.status
  order := by
    intro id' row hget
    obtain ⟨row', hget'⟩ := h.order id' row hget
    rw [horders, Table.get?_modify, hget']
    split
    · exact ⟨f row', rfl⟩
    · exact ⟨row', rfl⟩
  newOrder := by
    intro id' row hget
    rw [horders, Table.get?_modify] at hget
    rw [hintents]
    split at hget
    · obtain ⟨row', hget', rfl⟩ := Option.map_eq_some_iff.mp hget
      rw [hf row']
      exact h.newOrder id' row' hget'
    · exact h.newOrder id' row hget

theorem setIntentStatus_eq_ok (h : db.setIntentStatus id status what = .ok db') :
    (∃ intent, db.liveOrderIntents.get? id = some intent) ∧
      db' = { db with
        liveOrderIntents := db.liveOrderIntents.modify id fun row =>
          { row with status := status } } := by
  unfold setIntentStatus at h
  split at h <;> rename_i hsome
  · exact ⟨Option.isSome_iff_exists.mp hsome, (Except.ok.inj h).symm⟩
  · cases h

theorem VenueTrace.of_submitting (h : db.markLiveOrderIntentSubmitting id = .ok db') :
    VenueTrace db' ∧ id < db'.liveOrderIntents.nextId := by
  obtain ⟨⟨intent, hget⟩, rfl⟩ := setIntentStatus_eq_ok h
  have hlt := Table.lt_nextId_of_get? hget
  refine ⟨.inr ⟨id, { intent with status := .submitting }, ?_, rfl⟩, hlt⟩
  simp [Table.get?_modify, hget]

theorem setLiveOrderReconcileStatus_eq_ok {status : OnchainReconcileStatus}
    (h : db.setLiveOrderReconcileStatus id status = .ok db') :
    db' = { db with
      liveOrders := db.liveOrders.modify id fun row =>
        { row with onchainReconcileStatus := some status } } := by
  unfold setLiveOrderReconcileStatus at h
  split at h
  · exact (Except.ok.inj h).symm
  · cases h

theorem Retains.setIntentStatus (h : Retains base db) (hid : base.liveOrderIntents.nextId ≤ id)
    (hset : db.setIntentStatus id status what = .ok db') : Retains base db' := by
  obtain ⟨-, rfl⟩ := setIntentStatus_eq_ok hset
  exact h.modifyIntent id (fun row => { row with status := status }) (.inl hid) rfl rfl

theorem Retains.perform {call : DatabaseCall} {reply : call.Reply} (h : Retains base db)
    (hcall : call.spares base db)
    (hperform : call.perform db = .ok (reply, db')) : Retains base db' := by
  by_cases hleaves : call.leavesOrders
  · obtain ⟨hintents, horders⟩ := call.perform_leavesOrders hleaves hperform
    exact h.of_eq hintents horders
  · cases call with
    | logLiveOrderIntentWithDecisionEvidence evidence intent =>
      cases hperform
      exact h.insertIntent _ rfl rfl
    | logLiveOrder order =>
      have hresult := logLiveOrder_eq_ok hperform
      cases hresult
      exact h.insertOrder { order with onchainReconcileStatus := none } hcall rfl rfl
    | tryReserveVenueAttempt intentId nowMs sessionId maxSessionOrders maxSessionFills =>
      rw [DatabaseCall.perform, Except.ok.injEq] at hperform
      rcases db.tryReserveVenueAttempt_cases intentId nowMs sessionId maxSessionOrders
        maxSessionFills with ⟨-, heq⟩ | ⟨-, heq⟩
      · rw [heq] at hperform
        cases hperform
        exact h.modifyIntent intentId (fun row => { row with venueAttemptedAtMs := some nowMs })
          (.inr fun _ => rfl) rfl rfl
      · rw [heq] at hperform
        cases hperform
        exact h
    | markLiveOrderIntentDryRun id | markLiveOrderIntentSubmitting id =>
      obtain ⟨db'', hset, heq⟩ := ok_of_map hperform
      cases heq
      exact h.setIntentStatus hcall hset
    | setLiveOrderReconcileStatus id status =>
      obtain ⟨db'', hset, heq⟩ := ok_of_map hperform
      cases heq
      rw [setLiveOrderReconcileStatus_eq_ok hset]
      exact h.modifyOrder id (fun row => { row with onchainReconcileStatus := some status })
        (fun _ => rfl) rfl rfl
    | _ => exact absurd trivial hleaves

end Writes

variable {base db : Database} {world before now : World} {c : LiveCall} {intentId nowMs : ℕ}

/-- What one call keeps, whether it fails or not. -/
theorem Retains.answer (h : Retains base world.db) (hc : c.spares base world.db) (answer : Answer) :
    Retains base (c.answer answer world).2.db := by
  cases c with
  | database call =>
    simp only [LiveCall.answer, respond, DatabaseCall.execute]
    cases answer.databaseError with
    | some error => exact h
    | none =>
      cases hperform : call.perform world.db with
      | error error => exact h
      | ok result => exact h.perform hc hperform
  | _ => exact h

/-! ## The calls after the venue call -/

/-- Calls that keep books at one time, or write the order row of one intent and its fill. -/
def LiveCall.settles (intentId nowMs : ℕ) : LiveCall → Prop
  | .database (.logLiveOrder order) => order.intentId = intentId ∧ order.updatedAtMs = nowMs
  | .database (.setLiveOrderReconcileStatus ..) | .database (.logLiveFill _) => True
  | c => c.books nowMs

theorem LiveCall.settles_of_books (intentId nowMs : ℕ) (c : LiveCall) (h : c.books nowMs) :
    c.settles intentId nowMs := by
  cases c with
  | database call => cases call <;> first | exact h | exact h.elim
  | _ => exact h

theorem LiveCall.spares_of_settles (hfresh : base.liveOrderIntents.nextId ≤ intentId)
    (hstored : intentId < db.liveOrderIntents.nextId) (c : LiveCall)
    (h : c.settles intentId nowMs) : c.spares base db := by
  cases c with
  | database call =>
    cases call with
    | logLiveOrder order =>
      obtain rfl : order.intentId = intentId := h.1
      exact ⟨hfresh, hstored⟩
    | markLiveOrderIntentDryRun id => exact h.elim
    | markLiveOrderIntentSubmitting id => exact h.elim
    | _ => trivial
  | _ => trivial

theorem LiveCall.spares_of_prepares (hfresh : base.liveOrderIntents.nextId ≤ intentId)
    (c : LiveCall) (h : c.prepares intentId nowMs) : c.spares base db := by
  cases c with
  | database call =>
    cases call with
    | logLiveOrder order => exact h.elim
    | markLiveOrderIntentDryRun id => exact hfresh.trans (Nat.le_of_eq h.symm)
    | markLiveOrderIntentSubmitting id => exact hfresh.trans (Nat.le_of_eq h.symm)
    | _ => trivial
  | _ => trivial

theorem liveOrderIntents_answer (hc : c.settles intentId nowMs) (answer : Answer) :
    (c.answer answer world).2.db.liveOrderIntents = world.db.liveOrderIntents := by
  by_cases hleaves : c.leavesOrders
  · exact (answer_leavesOrders hleaves answer world).1
  · cases c with
    | database call =>
      simp only [LiveCall.answer, respond, DatabaseCall.execute]
      cases answer.databaseError with
      | some error => rfl
      | none =>
        cases hperform : call.perform world.db with
        | error error => rfl
        | ok result =>
          cases call with
          | logLiveOrder order =>
            have hresult := logLiveOrder_eq_ok hperform
            simp [hresult]
          | setLiveOrderReconcileStatus id status =>
            obtain ⟨db', hset, rfl⟩ := ok_of_map hperform
            rw [setLiveOrderReconcileStatus_eq_ok hset]
          | _ => first | exact hc.elim | exact absurd trivial hleaves
    | _ => exact absurd hc hleaves

/-- A settling call leaves a venue trace in place. -/
theorem VenueTrace.answer (h : VenueTrace world.db) (hc : c.settles intentId nowMs)
    (answer : Answer) : VenueTrace (c.answer answer world).2.db := by
  by_cases hspares : c.spares world.db world.db
  · exact h.keeps ((Retains.refl _).answer hspares answer)
  · cases c with
    | database call =>
      cases call with
      | logLiveOrder order =>
        simp only [LiveCall.answer, respond, DatabaseCall.execute]
        cases answer.databaseError with
        | some error => exact h
        | none =>
          cases hperform : (DatabaseCall.logLiveOrder order).perform world.db with
          | error error => exact h
          | ok result =>
            have hresult := logLiveOrder_eq_ok hperform
            left
            refine ⟨world.db.liveOrders.nextId,
              { order with onchainReconcileStatus := none }, ?_⟩
            simp [hresult, Table.get?_insert]
      | markLiveOrderIntentDryRun id => exact hc.elim
      | markLiveOrderIntentSubmitting id => exact hc.elim
      | _ => exact absurd trivial hspares
    | _ => exact absurd trivial hspares

theorem handleLiveOrderResponseFromWorker_always (config : Config) (sessionId : ℕ)
    (order : QueuedOrderIntent) (intentId nowMs : ℕ) (response : LiveOrderIntentResponse) :
    Always (settles intentId nowMs) (fun _ => True)
      (handleLiveOrderResponseFromWorker config sessionId order intentId nowMs response) := by
  have hblock := (blockLiveResponseWithState_always sessionId nowMs
    "blocking venue order response" (some order.reservedCost)).mono
      (settles_of_books intentId nowMs) fun _ _ => trivial
  have hclassify := (classifyAcceptedLiveSize_always sessionId order nowMs response).mono
    (settles_of_books intentId nowMs) fun _ h => h
  unfold handleLiveOrderResponseFromWorker persistOrderResponseFromWorker
  simp only [always_bind, call_eq, always_request, always_pure, forall_except, ExceptT.run_mk]
  refine ⟨trivial, fun _ => ⟨⟨rfl, rfl⟩, ?_, fun _ => trivial⟩, fun _ => trivial⟩
  intro liveOrderId
  split
  · split
    · exact hblock
    · trivial
  · rw [always_bind]
    refine hclassify.mono (fun _ h => h) ?_
    rintro (blocked | _ | acceptedSize) -
    · trivial
    · trivial
    · have hfill := persistResponseFillFromWorker_always sessionId intentId liveOrderId nowMs
        response (liveResponseFillPrice order response)
      simp only [settleClassifiedSize, always_bind]
      refine hfill.mono (fun _ hfill => hfill.elim fun _ heq => heq ▸ trivial) ?_
      intro _ _
      split
      · exact ⟨trivial, fun _ => trivial⟩
      · trivial

theorem handleLiveOrderErrorFromWorker_always (sessionId : ℕ) (order : QueuedOrderIntent)
    (request : LiveOrderIntentRequest) (intentId nowMs : ℕ) (errorMessage : String) :
    Always (settles intentId nowMs) (fun _ => True)
      (handleLiveOrderErrorFromWorker sessionId order request intentId nowMs errorMessage) := by
  have hpersist := (persistLiveWorkerState_always sessionId .unknownOrder "system"
    "sidecar order submission outcome unknown" nowMs).mono
      (settles_of_books intentId nowMs) fun _ h => h
  unfold handleLiveOrderErrorFromWorker
  simp only [always_bind, call_eq, always_request, always_pure, forall_except]
  simp [settles, books, leavesOrders, DatabaseCall.leavesOrders, hpersist]

/-! ## A submission, cut off anywhere -/

/-- What holds at every point of a submission: the earlier database is kept, and a database with
new venue replies remembers the venue call. -/
structure Accounted (before now : World) : Prop where
  keeps : Retains before.db now.db
  remembered : venueReplies now.exchanges ≠ venueReplies before.exchanges → VenueTrace now.db

/-- A venue call is only made once the database remembers it. -/
def CallAccounted (before : World) (c : LiveCall) (now : World) : Prop :=
  Accounted before now ∧ ∀ request, c = .submitOrderIntent request → VenueTrace now.db

/-- A point before the venue call. -/
structure Unsent (before now : World) : Prop where
  keeps : Retains before.db now.db
  quiet : venueReplies now.exchanges = venueReplies before.exchanges

/-- A point from which the database remembers the venue call of a stored intent. -/
structure Remembered (before : World) (intentId : ℕ) (now : World) : Prop where
  keeps : Retains before.db now.db
  trace : VenueTrace now.db
  fresh : before.db.liveOrderIntents.nextId ≤ intentId
  stored : intentId < now.db.liveOrderIntents.nextId

theorem Unsent.accounted (h : Unsent before now) : Accounted before now :=
  ⟨h.keeps, fun hne => absurd h.quiet hne⟩

theorem Remembered.accounted (h : Remembered before intentId now) : Accounted before now :=
  ⟨h.keeps, fun _ => h.trace⟩

theorem venueReplies_answer (hc : c.neutral) (answer : Answer) (world : World) :
    venueReplies (c.answer answer world).2.exchanges = venueReplies world.exchanges := by
  have hown : venueReplies [⟨c, (c.respond answer world.db).1⟩] = [] := by
    apply venueReplies_of_neutral
    intro x hx
    rw [List.mem_singleton.mp hx]
    exact hc
  simp only [LiveCall.answer, venueReplies_append, hown, List.append_nil]

theorem Unsent.answer (h : Unsent before now) (hspares : c.spares before.db now.db)
    (hneutral : c.neutral) (answer : Answer) : Unsent before (c.answer answer now).2 where
  keeps := h.keeps.answer hspares answer
  quiet := (venueReplies_answer hneutral answer now).trans h.quiet

/-- A program of preparing calls stays before the venue call. -/
theorem Unsent.sat {α : Type} {post : α → Prop} {p : Live α}
    (hp : Always (prepares intentId nowMs) post p)
    (hfresh : before.db.liveOrderIntents.nextId ≤ intentId) (h : Unsent before now) :
    Live.Sat (CallAccounted before) (fun a now => post a ∧ Unsent before now) p now := by
  have hsat : Live.Sat (fun c now => c.prepares intentId nowMs ∧ Unsent before now)
      (fun a now => post a ∧ Unsent before now) p now := by
    apply hp.sat _ h
    intro answer c now _ hc hnow
    exact hnow.answer (spares_of_prepares hfresh c hc)
      (neutral_of_prepares intentId nowMs c hc) answer
  refine Sat.mono hsat ?_ fun _ _ hpost => hpost
  rintro c now ⟨hc, hnow⟩
  refine ⟨hnow.accounted, ?_⟩
  rintro request rfl
  exact hc.elim

/-- A program of settling calls keeps the database remembering the venue call. -/
theorem Remembered.sat {α : Type} {post : α → Prop} {p : Live α}
    (hp : Always (settles intentId nowMs) post p) (h : Remembered before intentId now) :
    Live.Sat (CallAccounted before) (fun _ now => Accounted before now) p now := by
  have hsat : Live.Sat (fun c now => c.settles intentId nowMs ∧ Remembered before intentId now)
      (fun a now => post a ∧ Remembered before intentId now) p now := by
    apply hp.sat _ h
    intro answer c now _ hc hnow
    have hspares := spares_of_settles hnow.fresh hnow.stored c hc
    refine ⟨hnow.keeps.answer hspares answer, hnow.trace.answer hc answer, hnow.fresh, ?_⟩
    rw [liveOrderIntents_answer hc]
    exact hnow.stored
  refine Sat.mono hsat ?_ ?_
  · rintro c now ⟨hc, hnow⟩
    exact ⟨hnow.accounted, fun _ _ => hnow.trace⟩
  · rintro a now ⟨-, hnow⟩
    exact hnow.accounted

/-- One database call before the venue call. -/
theorem Unsent.sat_database (h : Unsent before now) {c : DatabaseCall}
    {post : Except String c.Reply → World → Prop} (hspares : c.spares before.db now.db)
    (hfail : ∀ error exchanges, Unsent before ⟨now.db, exchanges⟩ →
      post (.error error) ⟨now.db, exchanges⟩)
    (hok : ∀ reply db' exchanges, c.perform now.db = .ok (reply, db') →
      Unsent before ⟨db', exchanges⟩ → post (.ok reply) ⟨db', exchanges⟩) :
    Live.Sat (CallAccounted before) post (Live.call (.database c)) now := by
  have hquiet : ∀ reply : Except String c.Reply,
      venueReplies (now.exchanges ++ [⟨.database c, reply⟩]) = venueReplies before.exchanges := by
    intro reply
    rw [venueReplies_append, h.quiet]
    exact List.append_nil _
  apply Live.sat_database
  · exact ⟨h.accounted, by simp⟩
  · intro error
    exact hfail error _ ⟨h.keeps, hquiet _⟩
  · intro reply db' hperform
    exact hok reply db' _ hperform ⟨h.keeps.perform hspares hperform, hquiet _⟩

variable (input : LiveOrderWorkerSubmission)

theorem persistLiveOrderIntentFromWorker_sat (notional : ℚ) (before : World) :
    Live.Sat (CallAccounted before)
      (fun r now => Unsent before now ∧ ∀ intentId reject, r = .ok (intentId, reject) →
        before.db.liveOrderIntents.nextId ≤ intentId)
      (persistLiveOrderIntentFromWorker input notional).run before := by
  have hstart : Unsent before before := ⟨Retains.refl _, rfl⟩
  unfold persistLiveOrderIntentFromWorker
  simp only [Live.Sat, sat_run_bind]
  refine hstart.sat_database ?_ ?_ ?_
  · trivial
  · intro error exchanges h
    exact ⟨h, by simp⟩
  intro _ db' exchanges hopen h
  cases hopen
  unfold liveDecisionEvidenceFromEvent
  split
  · split
    · exact ⟨h, by simp⟩
    · simp only [ExceptT.run_pure, sat_pure, afterOk_ok, sat_run_bind]
      refine h.sat_database ?_ ?_ ?_
      · trivial
      · intro error exchanges h
        exact ⟨h, by simp⟩
      intro intentId db' exchanges hperform h
      refine ⟨h, ?_⟩
      intro intentId' reject hreply
      cases hperform
      cases hreply
      exact Nat.le_refl _
  · exact ⟨h, by simp⟩

theorem markIntentSubmittingOrBlock_sat (h : Unsent before now)
    (hfresh : before.db.liveOrderIntents.nextId ≤ intentId) (reservedCost : ℚ) :
    Live.Sat (CallAccounted before)
      (fun r now => Unsent before now ∧ (r = none → Remembered before intentId now))
      (markIntentSubmittingOrBlock intentId reservedCost) now := by
  unfold markIntentSubmittingOrBlock
  simp only [Live.Sat, sat_bind]
  refine h.sat_database ?_ ?_ ?_
  · trivial
  · intro error exchanges h
    exact ⟨h, by simp⟩
  intro _ db' exchanges hopen h
  cases hopen
  simp only [sat_bind]
  refine h.sat_database ?_ ?_ ?_
  · exact hfresh
  · intro error exchanges h
    exact ⟨h, by simp⟩
  intro _ db' exchanges hmark h
  refine ⟨h, ?_⟩
  intro _
  obtain ⟨db'', hset, heq⟩ := ok_of_map hmark
  cases heq
  obtain ⟨htrace, hstored⟩ := VenueTrace.of_submitting hset
  exact ⟨h.keeps, htrace, hfresh, hstored⟩

/-- Every point of a submission is accounted for. -/
theorem submitOneLiveOrderFromWorker_sat (before : World) :
    Live.Sat (CallAccounted before) (fun _ now => Accounted before now)
      (submitOneLiveOrderFromWorker input) before := by
  unfold submitOneLiveOrderFromWorker
  simp only [Live.Sat, sat_bind]
  refine (persistLiveOrderIntentFromWorker_sat input _ before).mono_post ?_
  rintro (error | ⟨intentId, _ | reason⟩) now ⟨h, hid⟩
  · exact h.accounted
  · have hfresh := hid intentId none rfl
    have hreserve := reserveLiveOrderSubmission_always input.sessionId intentId input.nowMs
      input.config.liveMaxSessionOrders input.config.liveMaxSessionFills input.order.reservedCost
    simp only [sat_bind]
    refine (Unsent.sat hreserve hfresh h).mono_post ?_
    rintro (blocked | _) now ⟨-, h⟩
    · exact h.accounted
    · by_cases hdry : input.config.liveDryRun
      · simp only [if_pos hdry]
        have hdryRun := dryRunLiveOrderOutcome_always input.sessionId intentId input.order
          (buildLiveOrderRequestFromWorker input.sessionId intentId input.order
            (input.order.requestedPrice * input.order.requestedSize)) input.nowMs
        refine (Unsent.sat hdryRun hfresh h).mono_post ?_
        rintro _ now ⟨-, h⟩
        exact h.accounted
      · simp only [if_neg hdry, sat_bind]
        refine (markIntentSubmittingOrBlock_sat h hfresh _).mono_post ?_
        rintro (_ | blocked) now ⟨h, htrace⟩
        · have hremembered := htrace rfl
          simp only [sat_bind]
          apply Live.sat_external (by simp)
          · exact ⟨h.accounted, fun _ _ => hremembered.trace⟩
          rintro (error | response)
          · exact Remembered.sat (handleLiveOrderErrorFromWorker_always ..)
              ⟨hremembered.keeps, hremembered.trace, hfresh, hremembered.stored⟩
          · exact Remembered.sat (handleLiveOrderResponseFromWorker_always ..)
              ⟨hremembered.keeps, hremembered.trace, hfresh, hremembered.stored⟩
        · exact h.accounted
  · exact h.accounted

/-- The state of a submission that was cut off after the listed answers. -/
def crashAfter (input : LiveOrderWorkerSubmission) (answers : List Answer) (world : World) :
    Live LiveSubmissionOrderResult × World :=
  runFor LiveCall.answer answers (submitOneLiveOrderFromWorker input, world)

/-- The venue was called for the order: it replied, or the call is under way. -/
def VenueCalled (before : World) (point : Live LiveSubmissionOrderResult × World) : Prop :=
  venueReplies point.2.exchanges ≠ venueReplies before.exchanges ∨
    ∃ request, point.1.pending? = some (.submitOrderIntent request)

theorem crashAfter_accounted (answers : List Answer) (world : World) :
    Retains world.db (crashAfter input answers world).2.db ∧
      (VenueCalled world (crashAfter input answers world) →
        VenueTrace (crashAfter input answers world).2.db) := by
  have hsat := (submitOneLiveOrderFromWorker_sat input world).runFor
    fun answer (_ : answer ∈ answers) => trivial
  rcases hsat.pending with ⟨c, hpending, haccounted, htrace⟩ | ⟨result, hfinished, haccounted⟩
  · refine ⟨haccounted.keeps, ?_⟩
    rintro (hreplies | ⟨request, hrequest⟩)
    · exact haccounted.remembered hreplies
    · exact htrace request (Option.some.inj (hpending.symm.trans hrequest))
  · refine ⟨haccounted.keeps, ?_⟩
    rintro (hreplies | ⟨request, hrequest⟩)
    · exact haccounted.remembered hreplies
    · rw [crashAfter, hfinished] at hrequest
      cases hrequest

/-- Calls of the other parts of the runtime: they write no intent and no order row, except for the
reconciliation marker. -/
def LiveCall.fromElsewhere : LiveCall → Prop
  | .database (.setLiveOrderReconcileStatus ..) => True
  | c => c.leavesOrders

/-- What happens to a run database over any number of processes: calls of the other parts of the
runtime, and submissions that finish or are cut off anywhere. -/
inductive Later (start : World) : World → Prop
  | refl : Later start start
  | call {world : World} (c : LiveCall) (answer : Answer) (hc : c.fromElsewhere)
      (h : Later start world) : Later start (c.answer answer world).2
  | submission {world : World} (input : LiveOrderWorkerSubmission) (answers : List Answer)
      (h : Later start world) : Later start (crashAfter input answers world).2

/-- Every history keeps the database it started from. -/
theorem Later.keeps {start : World} (h : Later start world) : Retains start.db world.db := by
  induction h with
  | refl => exact Retains.refl _
  | call c answer hc h ih =>
    refine ih.trans ((Retains.refl _).answer ?_ answer)
    cases c with
    | database call =>
      cases call with
      | logLiveOrder order => exact hc.elim
      | markLiveOrderIntentDryRun id => exact hc.elim
      | markLiveOrderIntentSubmitting id => exact hc.elim
      | _ => trivial
    | _ => trivial
  | submission input answers h ih =>
    exact ih.trans (crashAfter_accounted input answers _).1

def newRun : World where
  db := .empty
  exchanges := []

def OrdersHaveIntents (db : Database) : Prop :=
  ∀ id order, db.liveOrders.get? id = some order → order.intentId < db.liveOrderIntents.nextId

/-! ## Dry runs -/

/-- What the check reads of two databases is the same. -/
structure SameVerdict (before now : Database) : Prop where
  sessions : now.liveSessions = before.liveSessions
  control : now.liveControlState = before.liveControlState
  orders : now.liveOrders = before.liveOrders
  orphaned : now.orphanedVenueAttemptCount = before.orphanedVenueAttemptCount

/-- A point of a dry run: the check reads what it read before, and no new intent is waiting for a
venue outcome. -/
structure DryClean (before now : Database) : Prop where
  verdict : SameVerdict before now
  clean : ∀ id intent, now.liveOrderIntents.get? id = some intent →
    before.liveOrderIntents.get? id = none →
      before.liveOrderIntents.nextId ≤ id ∧ intent.status ≠ .submitting

/-- A point of a dry run after its intent was stored. -/
structure DryIntent (before : Database) (intentId : ℕ) (now : Database) : Prop where
  verdict : SameVerdict before now
  fresh : before.liveOrderIntents.nextId ≤ intentId
  others : ∀ id, id ≠ intentId →
    now.liveOrderIntents.get? id = before.liveOrderIntents.get? id
  row : ∃ intent, now.liveOrderIntents.get? intentId = some intent ∧ intent.status ≠ .submitting

theorem DryClean.refl (db : Database) : DryClean db db where
  verdict := ⟨rfl, rfl, rfl, rfl⟩
  clean := by
    intro id intent hget hnone
    rw [hget] at hnone
    cases hnone

section DryRun

variable {before db : Database} {intentId : ℕ}

theorem DryIntent.clean (h : DryIntent before intentId db) : DryClean before db where
  verdict := h.verdict
  clean := by
    intro id intent hget hnone
    by_cases hid : id = intentId
    · obtain ⟨row, hrow, hstatus⟩ := h.row
      rw [hid, hrow] at hget
      cases hget
      exact ⟨hid ▸ h.fresh, hstatus⟩
    · rw [h.others id hid, hnone] at hget
      cases hget

theorem DryIntent.insert (db : Database) (evidence : LiveDecisionEvidence)
    (intent : LiveOrderIntent) (hstatus : intent.status ≠ .submitting) :
    DryIntent db db.liveOrderIntents.nextId
      (db.logLiveOrderIntentWithDecisionEvidence evidence intent).2 where
  verdict := by
    refine ⟨rfl, rfl, rfl, ?_⟩
    simp [orphanedVenueAttemptCount, logLiveOrderIntentWithDecisionEvidence,
      logLiveOrderIntent, Table.insert, List.countP_append, hstatus]
  fresh := Nat.le_refl _
  others := by
    intro id hid
    simp [logLiveOrderIntentWithDecisionEvidence, logLiveOrderIntent,
      Table.get?_insert, hid]
  row := by
    refine ⟨{ intent with venueAttemptedAtMs := none }, ?_, hstatus⟩
    simp [logLiveOrderIntentWithDecisionEvidence, logLiveOrderIntent,
      Table.get?_insert]

theorem DryIntent.modify (h : DryIntent before intentId db) (f : LiveOrderIntent → LiveOrderIntent)
    (hf : ∀ row, row.status ≠ .submitting → (f row).status ≠ .submitting) :
    DryIntent before intentId
      { db with liveOrderIntents := db.liveOrderIntents.modify intentId f } where
  verdict := by
    refine ⟨h.verdict.sessions, h.verdict.control, h.verdict.orders, ?_⟩
    refine Eq.trans ?_ h.verdict.orphaned
    apply Table.countP_rows_modify
    intro row hget
    obtain ⟨intent, hintent, hstatus⟩ := h.row
    rw [hget] at hintent
    cases hintent
    rw [beq_eq_false_iff_ne.mpr hstatus, beq_eq_false_iff_ne.mpr (hf row hstatus)]
  fresh := h.fresh
  others := by
    intro id hid
    rw [← h.others id hid]
    exact (Table.get?_modify ..).trans (if_neg hid)
  row := by
    obtain ⟨intent, hget, hstatus⟩ := h.row
    refine ⟨f intent, ?_, hf intent hstatus⟩
    simp [Table.get?_modify, hget]

theorem DryIntent.findLiveOrderByIntent (h : DryIntent before intentId db)
    (horders : OrdersHaveIntents before) : db.findLiveOrderByIntent intentId = none := by
  unfold Database.findLiveOrderByIntent
  rw [Option.map_eq_none_iff, List.find?_eq_none]
  rintro ⟨id, order⟩ hmem
  rw [h.verdict.orders] at hmem
  have hlt := horders id order (Table.get?_eq_some_iff.mpr hmem)
  have hle := h.fresh
  simp only [beq_iff_eq]
  omega

end DryRun

/-- The dry-run view of one submission point. -/
abbrev DrySat {α : Type} (before : Database) (post : α → World → Prop) (p : Live α)
    (now : World) : Prop :=
  Live.Sat (fun c now => (∀ request, c ≠ .submitOrderIntent request) ∧ DryClean before now.db)
    post p now

variable {before now world after : World} {intentId : ℕ}

theorem dry_database {before : Database} (h : DryClean before now.db) {c : DatabaseCall}
    {post : Except String c.Reply → World → Prop}
    (hfail : ∀ error exchanges, post (.error error) ⟨now.db, exchanges⟩)
    (hok : ∀ reply db' exchanges, c.perform now.db = .ok (reply, db') →
      post (.ok reply) ⟨db', exchanges⟩) :
    DrySat before post (Live.call (.database c)) now :=
  Live.sat_database ⟨by simp, h⟩ (fun error => hfail error _)
    fun reply db' hperform => hok reply db' _ hperform

variable (input : LiveOrderWorkerSubmission)

theorem persistLiveOrderIntentFromWorker_dry (notional : ℚ) (before : World) :
    DrySat before.db
      (fun r now => DryClean before.db now.db ∧ ∀ intentId reject, r = .ok (intentId, reject) →
        DryIntent before.db intentId now.db ∧ now.db.venueAttempted intentId = false)
      (persistLiveOrderIntentFromWorker input notional).run before := by
  have hstart := DryClean.refl before.db
  unfold persistLiveOrderIntentFromWorker
  simp only [DrySat, Live.Sat, sat_run_bind]
  refine dry_database ?_ ?_ ?_
  · exact hstart
  · intro error exchanges
    exact ⟨hstart, by simp⟩
  intro _ db' exchanges hopen
  cases hopen
  unfold liveDecisionEvidenceFromEvent
  split
  · split
    · exact ⟨hstart, by simp⟩
    · simp only [ExceptT.run_pure, sat_pure, afterOk_ok, sat_run_bind]
      refine dry_database ?_ ?_ ?_
      · exact hstart
      · intro error exchanges
        exact ⟨hstart, by simp⟩
      intro intentId db' exchanges hperform
      have hstatus : (liveOrderPreSubmitRejection input.order notional input.config).1 ≠
          .submitting := by
        unfold liveOrderPreSubmitRejection
        split
        · simp
        · split
          · simp
          · split <;> simp
      cases hperform
      have hintent := DryIntent.insert before.db
      refine ⟨(hintent _ _ hstatus).clean, ?_⟩
      intro intentId reject hreply
      cases hreply
      refine ⟨hintent _ _ hstatus, ?_⟩
      simp [venueAttempted, Table.get?_insert]
  · exact ⟨hstart, by simp⟩

theorem reserveLiveOrderSubmission_dry {before : Database} (horders : OrdersHaveIntents before)
    (h : DryIntent before intentId now.db) (hattempt : now.db.venueAttempted intentId = false)
    (sessionId nowMs maxSessionOrders maxSessionFills : ℕ) (reservedCost : ℚ) :
    DrySat before (fun _ now => DryIntent before intentId now.db)
      (reserveLiveOrderSubmission sessionId intentId nowMs maxSessionOrders maxSessionFills
        reservedCost) now := by
  unfold reserveLiveOrderSubmission
  simp only [DrySat, Live.Sat, sat_bind]
  refine dry_database ?_ ?_ ?_
  · exact h.clean
  · intro error exchanges
    exact h
  intro _ db' exchanges hopen
  cases hopen
  simp only [sat_bind]
  refine dry_database ?_ ?_ ?_
  · exact h.clean
  · intro error exchanges
    exact h
  intro existing db' exchanges hfind
  rw [DatabaseCall.perform, h.findLiveOrderByIntent horders] at hfind
  cases hfind
  simp only [sat_bind]
  refine dry_database ?_ ?_ ?_
  · exact h.clean
  · intro error exchanges
    exact h
  intro outcome db' exchanges hreserve
  rw [DatabaseCall.perform, Except.ok.injEq] at hreserve
  rcases now.db.tryReserveVenueAttempt_cases intentId nowMs sessionId maxSessionOrders
    maxSessionFills with ⟨-, heq⟩ | ⟨-, heq⟩
  · rw [heq] at hreserve
    cases hreserve
    exact h.modify (fun row => { row with venueAttemptedAtMs := some nowMs }) fun _ hrow => hrow
  · rw [heq, hattempt] at hreserve
    cases hreserve
    exact h

theorem dryRunLiveOrderOutcome_dry {before : Database} (h : DryIntent before intentId now.db)
    (sessionId : ℕ) (order : QueuedOrderIntent) (request : LiveOrderIntentRequest) (nowMs : ℕ) :
    DrySat before (fun _ now => DryClean before now.db)
      (dryRunLiveOrderOutcome sessionId intentId order request nowMs) now := by
  unfold dryRunLiveOrderOutcome
  simp only [DrySat, Live.Sat, sat_bind]
  refine dry_database ?_ ?_ ?_
  · exact h.clean
  · intro error exchanges
    exact h.clean
  intro _ db' exchanges hopen
  cases hopen
  have hmark : DrySat before (fun _ now => DryIntent before intentId now.db)
      (Live.call (.database (.markLiveOrderIntentDryRun intentId))) ⟨now.db, exchanges⟩ := by
    refine dry_database ?_ ?_ ?_
    · exact h.clean
    · intro error exchanges
      exact h
    intro _ db' exchanges hmark
    obtain ⟨db'', hset, heq⟩ := ok_of_map hmark
    cases heq
    obtain ⟨-, rfl⟩ := setIntentStatus_eq_ok hset
    exact h.modify (fun row => { row with status := .dryRun }) fun _ _ => by simp
  simp only [sat_bind]
  refine hmark.mono_post ?_
  intro _ now h
  refine dry_database ?_ ?_ ?_
  · exact h.clean
  · intro error exchanges
    exact h.clean
  intro _ db' exchanges hevent
  cases hevent
  exact ⟨⟨h.verdict.sessions, h.verdict.control, h.verdict.orders, h.verdict.orphaned⟩,
    h.clean.clean⟩

theorem submitOneLiveOrderFromWorker_dry (hdry : input.config.liveDryRun = true)
    (horders : OrdersHaveIntents before.db) :
    DrySat before.db (fun _ now => DryClean before.db now.db)
      (submitOneLiveOrderFromWorker input) before := by
  unfold submitOneLiveOrderFromWorker
  simp only [DrySat, Live.Sat, sat_bind]
  refine (persistLiveOrderIntentFromWorker_dry input _ before).mono_post ?_
  rintro (error | ⟨intentId, _ | reason⟩) now ⟨h, hintent⟩
  · exact h
  · obtain ⟨hintent, hattempt⟩ := hintent intentId none rfl
    simp only [sat_bind]
    refine (reserveLiveOrderSubmission_dry horders hintent hattempt ..).mono_post ?_
    rintro (blocked | _) now hintent
    · exact hintent.clean
    · simp only [if_pos hdry]
      exact dryRunLiveOrderOutcome_dry hintent ..
  · exact h

theorem crashAfter_dry (hdry : input.config.liveDryRun = true) (answers : List Answer)
    (horders : OrdersHaveIntents world.db) :
    DryClean world.db (crashAfter input answers world).2.db := by
  have hsat := (submitOneLiveOrderFromWorker_dry input hdry horders).runFor
    fun answer (_ : answer ∈ answers) => trivial
  rcases hsat.pending with ⟨c, -, -, hclean⟩ | ⟨result, -, hclean⟩
  · exact hclean
  · exact hclean

/-! ## The next start -/

theorem OrdersHaveIntents.keeps {base db : Database} (h : OrdersHaveIntents base)
    (hkeeps : Retains base db) : OrdersHaveIntents db := by
  intro id order hget
  have hle := hkeeps.nextId_le
  rcases hkeeps.newOrder id order hget with ⟨order', hget', hintent⟩ | ⟨-, hstored⟩
  · have hlt := h id order' hget'
    omega
  · exact hstored

theorem Later.ordersHaveIntents (h : Later newRun world) : OrdersHaveIntents world.db := by
  have hstart : OrdersHaveIntents newRun.db := by
    intro id order hget
    simp [newRun, empty, Table.empty, Table.get?] at hget
  exact hstart.keeps h.keeps

def LiveCall.checks : LiveCall → Prop
  | .database .terminalLiveTradingHaltExists | .database (.unconfirmedOnchainFillCount _) |
    .database .liveOrderCount | .database .orphanedVenueAttemptCount => True
  | _ => False

theorem ensureLiveBootstrapClean_always (config : Config) :
    Always checks (fun _ => True) (ensureLiveBootstrapClean config).run := by
  have hbail : ∀ (condition : Bool) (message : String) (next : Unit → LiveResult Unit),
      Always checks (fun _ => True) (next ()).run →
      Always checks (fun _ => True) (bailIf condition message >>= next).run := by
    intro condition message next hnext
    cases condition with
    | true => trivial
    | false => exact hnext
  have hread : ∀ (c : DatabaseCall) (next : c.Reply → LiveResult Unit),
      (database c).checks →
      (∀ reply, Always checks (fun _ => True) (next reply).run) →
      Always checks (fun _ => True) (Live.database c >>= next).run := by
    intro c next hc hnext
    rw [always_run_bind]
    refine ⟨hc, ?_⟩
    rintro (error | reply)
    · trivial
    · exact hnext reply
  refine hread _ _ trivial fun _ => hbail _ _ _ ?_
  refine hread _ _ trivial fun _ => hbail _ _ _ ?_
  refine hread _ _ trivial fun _ => hbail _ _ _ ?_
  refine hread _ _ trivial fun _ => ?_
  unfold bailIf
  split <;> trivial

/-- A call of the check answers alike on two databases that look alike to it, and changes
neither. -/
theorem SameVerdict.answer (h : SameVerdict before.db now.db) {c : LiveCall} (hc : c.checks)
    (answer : Answer) :
    (c.answer answer now).1 = (c.answer answer before).1 ∧
      SameVerdict (c.answer answer before).2.db (c.answer answer now).2.db := by
  have hread : ∀ (call : DatabaseCall) (value : Database → call.Reply),
      (∀ db, call.perform db = .ok (value db, db)) → value now.db = value before.db →
      ((LiveCall.database call).answer answer now).1 =
          ((LiveCall.database call).answer answer before).1 ∧
        SameVerdict ((LiveCall.database call).answer answer before).2.db
          ((LiveCall.database call).answer answer now).2.db := by
    intro call value hperform hvalue
    simp only [LiveCall.answer, respond, DatabaseCall.execute, hperform, hvalue]
    cases answer.databaseError <;> exact ⟨rfl, h⟩
  cases c with
  | database call =>
    cases call with
    | terminalLiveTradingHaltExists =>
      refine hread _ Database.terminalLiveTradingHaltExists (fun _ => rfl) ?_
      simp only [Database.terminalLiveTradingHaltExists, h.sessions, h.control]
    | unconfirmedOnchainFillCount includeUnmarked =>
      refine hread _ (Database.unconfirmedOnchainFillCount · includeUnmarked) (fun _ => rfl) ?_
      simp only [Database.unconfirmedOnchainFillCount, h.orders]
    | liveOrderCount =>
      refine hread _ Database.liveOrderCount (fun _ => rfl) ?_
      simp only [Database.liveOrderCount, h.orders]
    | orphanedVenueAttemptCount =>
      exact hread _ Database.orphanedVenueAttemptCount (fun _ => rfl) h.orphaned
    | _ => exact hc.elim
  | _ => exact hc.elim

theorem SameVerdict.run_eq (h : SameVerdict before.db now.db) (config : Config)
    (oracle : ℕ → Answer) :
    (Live.run (ensureLiveBootstrapClean config).run oracle now).1 =
      (Live.run (ensureLiveBootstrapClean config).run oracle before).1 := by
  have hsame := (ensureLiveBootstrapClean_always config).run_congr LiveCall.answer
    (fun before now => SameVerdict before.db now.db)
    (fun answer c before now hc h => ⟨(h.answer hc answer).1.symm, (h.answer hc answer).2⟩)
    oracle h
  exact hsame.symm

/-- The start of a session is refused, whatever happens to the calls of the check. -/
def StartRefused (config : Config) (world : World) : Prop :=
  ∀ oracle : ℕ → Answer, ∃ error,
    (Live.run (ensureLiveBootstrapClean config).run oracle world).1 = .error error

/-- A submission contributes nothing to a refused start: the check gives the result it gave before,
and whatever happens later, its intent neither waits for an outcome nor has an order row. -/
structure NeverRefuses (before after : World) : Prop where
  sameResult : ∀ (config : Config) (oracle : ℕ → Answer),
    (Live.run (ensureLiveBootstrapClean config).run oracle after).1 =
      (Live.run (ensureLiveBootstrapClean config).run oracle before).1
  settled : ∀ id intent, after.db.liveOrderIntents.get? id = some intent →
    before.db.liveOrderIntents.get? id = none → ∀ later, Later after later →
      (∀ intent', later.db.liveOrderIntents.get? id = some intent' →
        intent'.status ≠ .submitting) ∧
      ∀ orderId order, later.db.liveOrders.get? orderId = some order → order.intentId ≠ id

theorem Later.startRefused {later : World} (hlater : Later after later)
    (htrace : VenueTrace after.db) (config : Config) : StartRefused config later := by
  intro oracle
  have hsat := ensureLiveBootstrapClean_sat config (htrace.keeps hlater.keeps)
  exact hsat.run fun _ => trivial

theorem DryClean.neverRefuses (h : DryClean before.db after.db)
    (horders : OrdersHaveIntents before.db) : NeverRefuses before after where
  sameResult config oracle := h.verdict.run_eq config oracle
  settled := by
    intro id intent hget hnone later hlater
    have hkeeps := hlater.keeps
    obtain ⟨hfresh, hclean⟩ := h.clean id intent hget hnone
    constructor
    · intro intent' hget'
      obtain ⟨kept, hkept, hstatus⟩ := hkeeps.status id intent hget
      rw [hget'] at hkept
      cases hkept
      rw [hstatus]
      exact hclean
    · intro orderId order horder hid
      have hlt := Table.lt_nextId_of_get? hget
      rcases hkeeps.newOrder orderId order horder with ⟨order', horder', hintent⟩ | ⟨hnew, -⟩
      · rw [h.verdict.orders] at horder'
        have hstored := horders orderId order' horder'
        omega
      · omega

/-- Along every history of a run database and for every crash point of a submission: once the venue
was called, every later start is refused, whatever has happened since; and a submission with
`live_dry_run` never refuses one. -/
theorem bootstrap_remembers_submissions {world : World} (hworld : Later newRun world)
    (input : LiveOrderWorkerSubmission) (answers : List Answer) :
    (VenueCalled world (crashAfter input answers world) →
      ∀ later, Later (crashAfter input answers world).2 later → ∀ config,
        StartRefused config later) ∧
    (input.config.liveDryRun = true → NeverRefuses world (crashAfter input answers world).2) := by
  have horders := hworld.ordersHaveIntents
  constructor
  · intro hcalled later hlater config
    exact hlater.startRefused ((crashAfter_accounted input answers world).2 hcalled) config
  · intro hdry
    exact (crashAfter_dry input hdry answers horders).neverRefuses horders

def sampleSubmission (config : Config) : LiveOrderWorkerSubmission :=
  submissionOf config 1 sampleSingle (sampleOrder 1 .up)

/-- The process dies while the venue call is under way; the same crash in a dry run. -/
theorem bootstrap_remembers_submissions_sample :
    StartRefused sampleConfig
        (crashAfter (sampleSubmission sampleConfig) (List.replicate 7 (sampleAnswer 1000))
          newRun).2 ∧
      NeverRefuses newRun
        (crashAfter (sampleSubmission { sampleConfig with liveDryRun := true })
          (List.replicate 7 (sampleAnswer 1000)) newRun).2 := by
  have hpending : ((crashAfter (sampleSubmission sampleConfig)
      (List.replicate 7 (sampleAnswer 1000)) newRun).1.pending?.bind LiveCall.request?).isSome := by
    decide +kernel
  have hcalled : VenueCalled newRun (crashAfter (sampleSubmission sampleConfig)
      (List.replicate 7 (sampleAnswer 1000)) newRun) := by
    rcases Option.isSome_iff_exists.mp hpending with ⟨request, hrequest⟩
    exact .inr ⟨request, eq_of_bind_request? hrequest⟩
  constructor
  · exact (bootstrap_remembers_submissions .refl (sampleSubmission sampleConfig) _).1 hcalled _
      .refl sampleConfig
  · exact (bootstrap_remembers_submissions .refl
      (sampleSubmission { sampleConfig with liveDryRun := true }) _).2 rfl

end BubaPaint
