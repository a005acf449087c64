import BubaPaint.Live.Bootstrap

/-!
# Records of unresolved orders

The writes that follow a venue call leave an order row, a critical event or an unknown control state
behind, all with the time of the submission. Nothing removes such a row later, so a record that was
written is found in every later database, whatever crashes in between.

Main results:

- Theorem `submitOneLiveOrderFromWorker_tracked`: a venue call leaves a record.
-/

namespace BubaPaint

open Effects Program LiveCall List

/-! ## Rows stay -/

/-- A later database has the rows of an earlier one. Intents keep the time of their creation, and
orders keep all but the reconciliation marker. -/
structure Database.Extends (base db : Database) : Prop where
  intents : ∀ id intent, base.liveOrderIntents.get? id = some intent →
    ∃ intent', db.liveOrderIntents.get? id = some intent' ∧
      intent'.createdAtMs = intent.createdAtMs
  orders : ∀ id order, base.liveOrders.get? id = some order →
    ∃ marker, db.liveOrders.get? id = some { order with onchainReconcileStatus := marker }
  events : ∀ id event, base.liveReconciliationEvents.get? id = some event →
    db.liveReconciliationEvents.get? id = some event
  states : ∀ id state, base.liveControlState.get? id = some state →
    db.liveControlState.get? id = some state

namespace Database.Extends

variable {base db db' : Database}

theorem refl (db : Database) : db.Extends db where
  intents _ intent hget := ⟨intent, hget, rfl⟩
  orders _ order hget := ⟨order.onchainReconcileStatus, hget⟩
  events _ _ hget := hget
  states _ _ hget := hget

theorem trans (h : base.Extends db) (h' : db.Extends db') : base.Extends db' where
  intents := by
    intro id intent hget
    rcases h.intents id intent hget with ⟨intent₁, hget₁, hcreated₁⟩
    rcases h'.intents id intent₁ hget₁ with ⟨intent₂, hget₂, hcreated₂⟩
    exact ⟨intent₂, hget₂, hcreated₂.trans hcreated₁⟩
  orders := by
    intro id order hget
    rcases h.orders id order hget with ⟨marker₁, hget₁⟩
    rcases h'.orders id _ hget₁ with ⟨marker₂, hget₂⟩
    exact ⟨marker₂, hget₂⟩
  events id event hget := h'.events id event (h.events id event hget)
  states id state hget := h'.states id state (h.states id state hget)

theorem of_eq (hintents : db.liveOrderIntents = base.liveOrderIntents)
    (horders : db.liveOrders = base.liveOrders)
    (hevents : db.liveReconciliationEvents = base.liveReconciliationEvents)
    (hstates : db.liveControlState = base.liveControlState) : base.Extends db where
  intents := by
    rw [hintents]
    exact (refl base).intents
  orders := by
    rw [horders]
    exact (refl base).orders
  events := by
    rw [hevents]
    exact (refl base).events
  states := by
    rw [hstates]
    exact (refl base).states

end Database.Extends

variable {db db' : Database} {intentId nowMs : ℕ}

theorem get?_insert_of_some {ρ : Type} {t : Table ρ} {row stored : ρ} {id : ℕ}
    (h : t.get? id = some stored) : (t.insert row).get? id = some stored := by
  have hne : id ≠ t.nextId := fun heq => by simp [heq] at h
  rw [Table.get?_insert, if_neg hne, h]

theorem extends_modifyIntent (db : Database) (id : ℕ) (f : LiveOrderIntent → LiveOrderIntent)
    (hf : ∀ intent, (f intent).createdAtMs = intent.createdAtMs) :
    db.Extends { db with liveOrderIntents := db.liveOrderIntents.modify id f } where
  intents := by
    intro id' intent hget
    by_cases hid : id' = id
    · refine ⟨f intent, ?_, hf intent⟩
      rw [Table.get?_modify, if_pos hid, hget, Option.map_some]
    · refine ⟨intent, ?_, rfl⟩
      rw [Table.get?_modify, if_neg hid, hget]
  orders := (Database.Extends.refl db).orders
  events := (Database.Extends.refl db).events
  states := (Database.Extends.refl db).states

/-- No database call removes a row. -/
theorem DatabaseCall.perform_extends {call : DatabaseCall} {reply : call.Reply}
    (h : call.perform db = .ok (reply, db')) : db.Extends db' := by
  have hsame := Database.Extends.refl db
  cases call with
  | logLiveOrderIntentWithDecisionEvidence evidence intent =>
    cases h
    exact
      { intents := fun id intent hget => ⟨intent, get?_insert_of_some hget, rfl⟩
        orders := hsame.orders
        events := hsame.events
        states := hsame.states }
  | logLiveOrder order =>
    cases Database.logLiveOrder_eq_ok h
    exact
      { intents := hsame.intents
        orders := fun id order hget => ⟨order.onchainReconcileStatus, get?_insert_of_some hget⟩
        events := hsame.events
        states := hsame.states }
  | tryReserveVenueAttempt intentId nowMs sessionId maxSessionOrders maxSessionFills =>
    rw [DatabaseCall.perform, Except.ok.injEq] at h
    rcases db.tryReserveVenueAttempt_cases intentId nowMs sessionId maxSessionOrders
      maxSessionFills with ⟨-, heq⟩ | ⟨-, heq⟩
    · rw [heq] at h
      cases h
      exact extends_modifyIntent db intentId
        (fun row => { row with venueAttemptedAtMs := some nowMs }) fun _ => rfl
    · rw [heq] at h
      cases h
      exact hsame
  | markLiveOrderIntentDryRun id =>
    rcases ok_of_map h with ⟨db'', hset, heq⟩
    cases heq
    rcases setIntentStatus_eq_ok hset with ⟨-, rfl⟩
    exact extends_modifyIntent db id (fun row => { row with status := .dryRun }) fun _ => rfl
  | markLiveOrderIntentSubmitting id =>
    rcases ok_of_map h with ⟨db'', hset, heq⟩
    cases heq
    rcases setIntentStatus_eq_ok hset with ⟨-, rfl⟩
    exact extends_modifyIntent db id (fun row => { row with status := .submitting }) fun _ => rfl
  | setLiveOrderReconcileStatus id status =>
    rcases ok_of_map h with ⟨db'', hset, heq⟩
    cases heq
    rw [setLiveOrderReconcileStatus_eq_ok hset]
    refine ⟨hsame.intents, ?_, hsame.events, hsame.states⟩
    intro id' order hget
    by_cases hid : id' = id
    · refine ⟨some status, ?_⟩
      rw [Table.get?_modify, if_pos hid, hget, Option.map_some]
    · refine ⟨order.onchainReconcileStatus, ?_⟩
      rw [Table.get?_modify, if_neg hid, hget]
  | logLiveReconciliationEvent event =>
    cases h
    exact
      { intents := hsame.intents
        orders := hsame.orders
        events := fun id event hget => get?_insert_of_some hget
        states := hsame.states }
  | insertLiveControlState state =>
    cases h
    exact
      { intents := hsame.intents
        orders := hsame.orders
        events := hsame.events
        states := fun id state hget => get?_insert_of_some hget }
  | _ =>
    cases h
    exact .of_eq rfl rfl rfl rfl

theorem LiveCall.answer_extends (c : LiveCall) (answer : Answer) (world : World) :
    world.db.Extends (c.answer answer world).2.db := by
  cases c with
  | database call =>
    simp only [LiveCall.answer, respond, DatabaseCall.execute]
    cases answer.databaseError with
    | some error => exact .refl _
    | none =>
      cases hperform : call.perform world.db with
      | error error => exact .refl _
      | ok result => exact call.perform_extends hperform
  | _ => exact .refl _

theorem runFor_extends {α : Type} (p : Live α) (answers : List Answer) (world : World) :
    world.db.Extends (runFor LiveCall.answer answers (p, world)).2.db := by
  induction answers generalizing p world with
  | nil => exact .refl _
  | cons answer rest ih =>
    cases p with
    | pure a => exact ih _ _
    | request c next => exact (c.answer_extends answer world).trans (ih _ _)

/-- No history removes a row. -/
theorem Later.extends {start world : World} (h : Later start world) :
    start.db.Extends world.db := by
  induction h with
  | refl => exact .refl _
  | call c answer hc h ih => exact ih.trans (c.answer_extends answer _)
  | submission input answers h ih => exact ih.trans (runFor_extends _ answers _)

/-- The write leaves a record that the outcome of an order is open: an order row, a critical event,
or an unknown control state. -/
def Exchange.records : Exchange → Bool
  | ⟨.database (.logLiveOrder _), .ok _⟩ => true
  | ⟨.database (.logLiveReconciliationEvent event), .ok _⟩ => event.severity == .critical
  | ⟨.database (.insertLiveControlState state), .ok _⟩ => state.state == .unknownOrder
  | _ => false

/-- The database has a record of an intent from the given time. -/
inductive RecordedAt (db : Database) (intentId nowMs : ℕ) : Prop
  | order (id : ℕ) (order : LiveOrder) (hget : db.liveOrders.get? id = some order)
      (hintent : order.intentId = intentId) (htime : order.updatedAtMs = nowMs)
  | event (id : ℕ) (event : LiveReconciliationEvent)
      (hget : db.liveReconciliationEvents.get? id = some event)
      (hcritical : event.severity = .critical) (htime : event.timestampMs = nowMs)
  | state (id : ℕ) (state : LiveControlState) (hget : db.liveControlState.get? id = some state)
      (hunknown : state.state = .unknownOrder) (htime : state.updatedAtMs = nowMs)

/-- A record is found in every later database. -/
theorem RecordedAt.extends (h : RecordedAt db intentId nowMs) (hextends : db.Extends db') :
    RecordedAt db' intentId nowMs := by
  cases h with
  | order id order hget hintent htime =>
    rcases hextends.orders id order hget with ⟨marker, hget'⟩
    exact .order id _ hget' hintent htime
  | event id event hget hcritical htime =>
    exact .event id event (hextends.events id event hget) hcritical htime
  | state id state hget hunknown htime =>
    exact .state id state (hextends.states id state hget) hunknown htime

/-- Calls of a submission that has stored its intent: what they write about an order bears its
identifier and the time of the submission. -/
def LiveCall.stamped (intentId nowMs : ℕ) : LiveCall → Prop
  | .database (.logLiveOrder order) => order.intentId = intentId ∧ order.updatedAtMs = nowMs
  | .database (.logLiveReconciliationEvent event) => event.timestampMs = nowMs
  | .database (.insertLiveControlState state) => state.updatedAtMs = nowMs
  | .submitOrderIntent submitted => submitted.intentId = intentId
  | _ => True

theorem recordedAt_answer {c : LiveCall} (hc : c.stamped intentId nowMs) (answer : Answer)
    (world : World) (hrecords : Exchange.records ⟨c, (c.answer answer world).1⟩ = true) :
    RecordedAt (c.answer answer world).2.db intentId nowMs := by
  cases c with
  | database call =>
    simp only [LiveCall.answer, respond, DatabaseCall.execute] at hrecords ⊢
    cases hfailure : answer.databaseError with
    | some error =>
      rw [hfailure] at hrecords
      cases call <;> cases hrecords
    | none =>
      rw [hfailure] at hrecords
      cases call with
      | logLiveOrder order =>
        cases hperform : (DatabaseCall.logLiveOrder order).perform world.db with
        | error error =>
          simp only [hperform] at hrecords
          cases hrecords
        | ok result =>
          cases Database.logLiveOrder_eq_ok hperform
          refine .order world.db.liveOrders.nextId
            { order with onchainReconcileStatus := none } ?_ hc.1 hc.2
          simp [Table.get?_insert]
      | logLiveReconciliationEvent event =>
        refine .event world.db.liveReconciliationEvents.nextId event ?_ (beq_iff_eq.mp hrecords) hc
        exact (Table.get?_insert ..).trans (if_pos rfl)
      | insertLiveControlState state =>
        refine .state world.db.liveControlState.nextId state ?_ (beq_iff_eq.mp hrecords) hc
        exact (Table.get?_insert ..).trans (if_pos rfl)
      | _ => simp [Exchange.records] at hrecords
  | _ => cases hrecords

/-! ## The calls of a submission -/

section Stamped

variable (intentId nowMs : ℕ)

abbrev StampedCalls {α : Type} (p : Live α) : Prop :=
  Always (LiveCall.stamped intentId nowMs) (fun _ => True) p

theorem LiveCall.stamped_of_books {c : LiveCall} (h : c.books nowMs) :
    c.stamped intentId nowMs := by
  cases c with
  | database call => cases call <;> trivial
  | submitOrderIntent request => exact h.elim
  | _ => trivial

theorem StampedCalls.of_prepares {α : Type} {post : α → Prop} {p : Live α}
    (h : Always (LiveCall.prepares intentId nowMs) post p) : StampedCalls intentId nowMs p := by
  refine h.mono ?_ fun _ _ => trivial
  rintro c hc
  cases c with
  | database call => cases call <;> trivial
  | _ => exact LiveCall.stamped_of_books intentId nowMs hc

theorem StampedCalls.of_settles {α : Type} {post : α → Prop} {p : Live α}
    (h : Always (LiveCall.settles intentId nowMs) post p) : StampedCalls intentId nowMs p := by
  refine h.mono ?_ fun _ _ => trivial
  rintro c hc
  cases c with
  | database call => cases call <;> trivial
  | _ => exact LiveCall.stamped_of_books intentId nowMs hc

end Stamped

/-! ## Points of a submission -/

/-- A point before the intent is stored: nothing has been recorded or submitted. -/
structure Unstored (before now : World) : Prop where
  own : ∃ own, now.exchanges = before.exchanges ++ own ∧
    ∀ x ∈ own, x.1.neutral

/-- A point after the intent was stored: a record that was written is in the database, and only this
intent has been submitted. -/
structure Tracked (before : World) (intentId nowMs : ℕ) (now : World) : Prop where
  own : ∃ own, now.exchanges = before.exchanges ++ own ∧
    (own.any Exchange.records = true → RecordedAt now.db intentId nowMs) ∧
      ∀ x ∈ own, ∀ request reply, x = ⟨.submitOrderIntent request, reply⟩ →
        request.intentId = intentId
  created : ∃ intent, now.db.liveOrderIntents.get? intentId = some intent ∧
    intent.createdAtMs = nowMs

/-- What is known where a submission stands, before its next call. -/
def SubmissionPoint (before : World) (nowMs : ℕ) (c : LiveCall) (now : World) : Prop :=
  (Unstored before now ∧ c.neutral) ∨
    ∃ intentId, Tracked before intentId nowMs now ∧ c.stamped intentId nowMs

def SubmissionEnd (before : World) (nowMs : ℕ) (now : World) : Prop :=
  Unstored before now ∨ ∃ intentId, Tracked before intentId nowMs now

section Points

variable {before now : World} {intentId nowMs : ℕ}

theorem Tracked.answer (h : Tracked before intentId nowMs now) {c : LiveCall}
    (hc : c.stamped intentId nowMs) (answer : Answer) :
    Tracked before intentId nowMs (c.answer answer now).2 := by
  rcases h.own with ⟨own, hown, hrecorded, hsubmitted⟩
  rcases h.created with ⟨intent, hintent, hcreated⟩
  have hextends := c.answer_extends answer now
  constructor
  · refine ⟨own ++ [⟨c, (c.answer answer now).1⟩], ?_, ?_, ?_⟩
    · rw [← append_assoc, ← hown]
      rfl
    · intro hany
      rw [any_append, Bool.or_eq_true] at hany
      rcases hany with hany | hany
      · exact (hrecorded hany).extends hextends
      · exact recordedAt_answer hc answer now (by simpa using hany)
    · intro x hx request reply hcall
      rcases mem_append.mp hx with hx | hx
      · exact hsubmitted x hx request reply hcall
      · rw [mem_singleton.mp hx] at hcall
        cases hcall
        exact hc
  · rcases hextends.intents intentId intent hintent with ⟨intent', hintent', hcreated'⟩
    exact ⟨intent', hintent', hcreated'.trans hcreated⟩

/-- A program of stamped calls stays tracked. -/
theorem Tracked.sat {α : Type} {p : Live α} (hp : StampedCalls intentId nowMs p)
    (h : Tracked before intentId nowMs now) :
    Live.Sat (SubmissionPoint before nowMs)
      (fun _ now => Tracked before intentId nowMs now) p now := by
  have hsat : Live.Sat (fun c now => c.stamped intentId nowMs ∧ Tracked before intentId nowMs now)
      (fun _ now => True ∧ Tracked before intentId nowMs now) p now :=
    hp.sat (fun answer c now _ hc hnow => hnow.answer hc answer) h
  refine hsat.mono ?_ fun _ _ hpost => hpost.2
  rintro c now ⟨hc, hnow⟩
  exact .inr ⟨intentId, hnow, hc⟩

theorem Unstored.extend (h : Unstored before now) (c : LiveCall) (hc : c.neutral)
    (reply : c.Reply) (db : Database) : Unstored before ⟨db, now.exchanges ++ [⟨c, reply⟩]⟩ := by
  rcases h.own with ⟨own, hown, hneutral⟩
  refine ⟨own ++ [⟨c, reply⟩], by rw [hown, append_assoc], ?_⟩
  intro x hx
  rcases mem_append.mp hx with hx | hx
  · exact hneutral x hx
  · rw [mem_singleton.mp hx]
    exact hc

variable (input : LiveOrderWorkerSubmission)

theorem persistLiveOrderIntentFromWorker_tracked (notional : ℚ) (before : World) :
    Live.Sat (SubmissionPoint before input.nowMs)
      (fun r now => match r with
        | .ok (intentId, _) => Tracked before intentId input.nowMs now
        | .error _ => Unstored before now)
      (persistLiveOrderIntentFromWorker input notional).run before := by
  have hstart : Unstored before before := ⟨[], (append_nil _).symm, by simp⟩
  unfold persistLiveOrderIntentFromWorker
  simp only [Live.Sat, sat_run_bind]
  refine Live.sat_database (.inl ⟨hstart, trivial⟩) ?_ ?_
  · intro error
    exact hstart.extend (.database .openRuntime) trivial _ _
  intro _ db' hopen
  cases hopen
  have hopened := hstart.extend (.database .openRuntime) trivial (.ok ()) before.db
  unfold liveDecisionEvidenceFromEvent
  split
  · split
    · exact hopened
    simp only [ExceptT.run_pure, sat_pure, afterOk_ok, sat_run_bind]
    refine Live.sat_database (.inl ⟨hopened, trivial⟩) ?_ ?_
    · intro error
      exact hopened.extend (.database (.logLiveOrderIntentWithDecisionEvidence _ _)) trivial _ _
    intro intentId db' hperform
    cases hperform
    constructor
    · refine ⟨_, append_assoc .., by simp [Exchange.records], ?_⟩
      intro x hx request reply hcall
      rw [hcall] at hx
      simp at hx
    · exact ⟨_, (Table.get?_insert ..).trans (if_pos rfl), rfl⟩
  · exact hopened

def submitRest (input : LiveOrderWorkerSubmission) (intentId : ℕ) :
    Live LiveSubmissionOrderResult := do
  let order := input.order
  let request := buildLiveOrderRequestFromWorker input.sessionId intentId order
    (order.requestedPrice * order.requestedSize)
  match ← Live.call (.submitOrderIntent request) with
  | .ok response =>
    handleLiveOrderResponseFromWorker input.config input.sessionId order intentId input.nowMs
      response
  | .error error =>
    handleLiveOrderErrorFromWorker input.sessionId order request intentId input.nowMs error

theorem submitOneLiveOrderFromWorker_tracked (before : World) :
    Live.Sat (SubmissionPoint before input.nowMs)
      (fun _ now => SubmissionEnd before input.nowMs now)
      (submitOneLiveOrderFromWorker input) before := by
  unfold submitOneLiveOrderFromWorker
  simp only [Live.Sat, sat_bind]
  refine (persistLiveOrderIntentFromWorker_tracked input _ before).mono_post ?_
  rintro (error | ⟨intentId, _ | reason⟩) now h
  · exact .inl h
  · have hreserve := reserveLiveOrderSubmission_always input.sessionId intentId input.nowMs
      input.config.liveMaxSessionOrders input.config.liveMaxSessionFills input.order.reservedCost
    simp only [sat_bind]
    refine (Tracked.sat (.of_prepares _ _ hreserve) h).mono_post ?_
    rintro (blocked | _) now h
    · exact .inr ⟨intentId, h⟩
    by_cases hdry : input.config.liveDryRun
    · simp only [if_pos hdry]
      refine (Tracked.sat (.of_prepares _ _ (dryRunLiveOrderOutcome_always ..)) h).mono_post ?_
      exact fun _ now h => .inr ⟨intentId, h⟩
    simp only [if_neg hdry, sat_bind]
    refine (Tracked.sat (.of_prepares _ _ (markIntentSubmittingOrBlock_always ..)) h).mono_post ?_
    rintro (_ | blocked) now h
    · have hvenue : StampedCalls intentId input.nowMs (submitRest input intentId) := by
        unfold submitRest
        rw [StampedCalls, always_bind]
        refine ⟨rfl, ?_⟩
        rintro (error | response)
        · exact StampedCalls.of_settles _ _ (handleLiveOrderErrorFromWorker_always ..)
        · exact StampedCalls.of_settles _ _ (handleLiveOrderResponseFromWorker_always ..)
      exact (Tracked.sat hvenue h).mono_post fun _ now h => .inr ⟨intentId, h⟩
    · exact .inr ⟨intentId, h⟩
  · exact .inr ⟨intentId, h⟩

end Points

end BubaPaint
