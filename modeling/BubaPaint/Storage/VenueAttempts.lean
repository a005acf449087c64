import Mathlib.Data.List.Induction
import BubaPaint.Storage.LiveTables

/-!
# Durable submission caps and idempotency

Every venue submission is preceded by a compare-and-set on the intent row that also enforces the
per-session order and fill caps. This file follows the reservation through arbitrary sequences of
calls on one run database, restarts included, and relates the answers given so far to what the
tables say.

Main results:

- Theorem `venue_attempts_capped_and_idempotent`: one reservation an intent, and caps that hold.
-/

namespace BubaPaint

open Effects List

namespace Database

/-- Whether the intent row exists and carries the venue-attempt marker. -/
def venueAttempted (db : Database) (intentId : ℕ) : Bool :=
  match db.liveOrderIntents.get? intentId with
  | some intent => intent.venueAttemptedAtMs.isSome
  | none => false

/-- The condition under which the guarded update marks the row. -/
def Reservable (db : Database) (intentId sessionId maxSessionOrders maxSessionFills : ℕ) : Prop :=
  ∃ intent, db.liveOrderIntents.get? intentId = some intent ∧ intent.sessionId = sessionId ∧
    intent.venueAttemptedAtMs = none ∧
    (maxSessionOrders = 0 ∨ db.sessionVenueAttemptedCount sessionId < maxSessionOrders) ∧
    (maxSessionFills = 0 ∨ db.sessionFilledCount sessionId < maxSessionFills)

theorem tryReserveVenueAttempt_cases (db : Database)
    (intentId nowMs sessionId maxSessionOrders maxSessionFills : ℕ) :
    (db.Reservable intentId sessionId maxSessionOrders maxSessionFills ∧
      db.tryReserveVenueAttempt intentId nowMs sessionId maxSessionOrders maxSessionFills =
        (.reserved,
          { db with
            liveOrderIntents := db.liveOrderIntents.modify intentId fun row =>
              { row with venueAttemptedAtMs := some nowMs } })) ∨
    (¬ db.Reservable intentId sessionId maxSessionOrders maxSessionFills ∧
      db.tryReserveVenueAttempt intentId nowMs sessionId maxSessionOrders maxSessionFills =
        (if db.venueAttempted intentId then .alreadyAttempted else .capReached, db)) := by
  unfold tryReserveVenueAttempt Reservable venueAttempted
  cases hget : db.liveOrderIntents.get? intentId with
  | none => simp
  | some intent =>
    by_cases hcond : intent.sessionId = sessionId ∧ intent.venueAttemptedAtMs = none ∧
        (maxSessionOrders = 0 ∨ db.sessionVenueAttemptedCount sessionId < maxSessionOrders) ∧
        (maxSessionFills = 0 ∨ db.sessionFilledCount sessionId < maxSessionFills)
    · left
      exact ⟨⟨intent, rfl, hcond⟩, by simp only [if_pos hcond]⟩
    · right
      refine ⟨?_, ?_⟩
      · rintro ⟨intent', hintent', h⟩
        cases hintent'
        exact hcond h
      · simp only [if_neg hcond]
        split <;> simp_all

variable {db : Database} {intentId nowMs sessionId maxSessionOrders maxSessionFills : ℕ}

theorem Reservable.not_venueAttempted
    (h : db.Reservable intentId sessionId maxSessionOrders maxSessionFills) :
    db.venueAttempted intentId = false := by
  obtain ⟨intent, hget, -, hnone, -⟩ := h
  simp [venueAttempted, hget, hnone]

theorem venueAttempted_mark (h : (db.liveOrderIntents.get? intentId).isSome) (id : ℕ) :
    venueAttempted
        { db with
          liveOrderIntents := db.liveOrderIntents.modify intentId fun row =>
            { row with venueAttemptedAtMs := some nowMs } } id =
      (decide (id = intentId) || db.venueAttempted id) := by
  unfold venueAttempted
  rw [Table.get?_modify]
  by_cases hid : id = intentId
  · subst hid
    obtain ⟨intent, hintent⟩ := Option.isSome_iff_exists.mp h
    simp [hintent]
  · simp [hid]

theorem venueAttempted_logLiveOrderIntent (intent : LiveOrderIntent) (id : ℕ) :
    (db.logLiveOrderIntent intent).2.venueAttempted id = db.venueAttempted id := by
  unfold venueAttempted logLiveOrderIntent
  rw [Table.get?_insert]
  by_cases hid : id = db.liveOrderIntents.nextId
  · rw [if_pos hid, hid]
    simp
  · rw [if_neg hid]

theorem logLiveOrder_eq_ok {order : LiveOrder} {result : ℕ × Database}
    (h : db.logLiveOrder order = .ok result) :
    result = (db.liveOrders.nextId,
      { db with
        liveOrders := db.liveOrders.insert { order with onchainReconcileStatus := none } }) := by
  unfold logLiveOrder at h
  split at h
  · cases h
  · exact (Except.ok.inj h).symm

end Database

/-- One call on the run database, each a transaction of its own. -/
inductive AttemptCall where
  | logLiveOrderIntent (intent : LiveOrderIntent)
  | tryReserveVenueAttempt (intentId nowMs sessionId maxSessionOrders maxSessionFills : ℕ)
  | logLiveOrder (order : LiveOrder)
  | restart

/-- What a call answered. -/
inductive AttemptAnswer where
  | venueAttempt (outcome : VenueAttemptOutcome)
  | recorded
  | refused
  | none
  deriving DecidableEq

namespace AttemptCall

/-- Execute one call. A restart reopens the same tables. -/
def perform (db : Database) : AttemptCall → AttemptAnswer × Database
  | .logLiveOrderIntent intent => (.recorded, (db.logLiveOrderIntent intent).2)
  | .tryReserveVenueAttempt intentId nowMs sessionId maxSessionOrders maxSessionFills =>
    let (outcome, db') :=
      db.tryReserveVenueAttempt intentId nowMs sessionId maxSessionOrders maxSessionFills
    (.venueAttempt outcome, db')
  | .logLiveOrder order =>
    match db.logLiveOrder order with
    | .ok (_, db') => (.recorded, db')
    | .error _ => (.refused, db)
  | .restart => (.none, db)

/-- Whether an answered call reserved the venue attempt of `intentId`. -/
def reserves (intentId : ℕ) : AttemptCall × AttemptAnswer → Bool
  | (.tryReserveVenueAttempt id _ _ _ _, answer) =>
    id == intentId && answer == .venueAttempt .reserved
  | _ => false

/-- Whether an answered call reserved a venue attempt in the session. -/
def reservesIn (sessionId : ℕ) : AttemptCall × AttemptAnswer → Bool
  | (.tryReserveVenueAttempt _ _ session _ _, answer) =>
    session == sessionId && answer == .venueAttempt .reserved
  | _ => false

/-- Whether the call, when it reserves in the session, does so under the given order cap. -/
def underOrderCap (sessionId cap : ℕ) : AttemptCall → Prop
  | .tryReserveVenueAttempt _ _ session maxSessionOrders _ =>
    session = sessionId → maxSessionOrders = cap
  | _ => True

/-- Whether an answered call recorded a fill of the session. -/
def fillsIn (sessionId : ℕ) : AttemptCall × AttemptAnswer → Bool
  | (.logLiveOrder order, answer) =>
    order.sessionId == sessionId && Database.isFilled order && answer == .recorded
  | _ => false

end AttemptCall

/-- The calls with their answers, executed one after another. -/
def attemptHistory (db : Database) : List AttemptCall → List (AttemptCall × AttemptAnswer)
  | [] => []
  | call :: calls => (call, (call.perform db).1) :: attemptHistory (call.perform db).2 calls

/-- The database after a list of calls. -/
def afterCalls (db : Database) (calls : List AttemptCall) : Database :=
  calls.foldl (fun db call => (call.perform db).2) db

/-- How often an intent was reserved. -/
def reservedFor (intentId : ℕ) (history : List (AttemptCall × AttemptAnswer)) : ℕ :=
  history.countP (AttemptCall.reserves intentId)

/-- How many reservations a session made. -/
def reservedIn (sessionId : ℕ) (history : List (AttemptCall × AttemptAnswer)) : ℕ :=
  history.countP (AttemptCall.reservesIn sessionId)

/-- How many fills a session recorded. -/
def filledIn (sessionId : ℕ) (history : List (AttemptCall × AttemptAnswer)) : ℕ :=
  history.countP (AttemptCall.fillsIn sessionId)

namespace AttemptCall

open Database

variable (db : Database) (call : AttemptCall)

theorem venueAttempted_perform (id : ℕ) :
    (call.perform db).2.venueAttempted id =
      (reserves id (call, (call.perform db).1) || db.venueAttempted id) := by
  cases call with
  | logLiveOrderIntent intent => exact venueAttempted_logLiveOrderIntent intent id
  | tryReserveVenueAttempt intentId nowMs sessionId maxSessionOrders maxSessionFills =>
    simp only [perform, reserves]
    rcases tryReserveVenueAttempt_cases db intentId nowMs sessionId
      maxSessionOrders maxSessionFills with ⟨hres, heq⟩ | ⟨-, heq⟩
    · obtain ⟨intent, hget, -⟩ := hres
      rw [heq, venueAttempted_mark (by simp [hget])]
      by_cases hid : id = intentId
      · simp [hid]
      · simp [hid, Ne.symm hid]
    · rw [heq]
      by_cases hattempted : db.venueAttempted intentId <;> simp [hattempted]
  | logLiveOrder order =>
    simp only [perform, reserves]
    cases hlog : db.logLiveOrder order with
    | error e => simp
    | ok result =>
      rw [logLiveOrder_eq_ok hlog]
      rfl
  | restart => rfl

theorem sessionVenueAttemptedCount_perform (sessionId : ℕ) :
    (call.perform db).2.sessionVenueAttemptedCount sessionId =
      db.sessionVenueAttemptedCount sessionId +
        if reservesIn sessionId (call, (call.perform db).1) then 1 else 0 := by
  cases call with
  | logLiveOrderIntent intent =>
    unfold sessionVenueAttemptedCount
    simp only [perform, Database.logLiveOrderIntent, Table.count_insert]
    simp [reservesIn]
  | tryReserveVenueAttempt intentId nowMs session maxSessionOrders maxSessionFills =>
    simp only [perform, reservesIn]
    rcases tryReserveVenueAttempt_cases db intentId nowMs session
      maxSessionOrders maxSessionFills with ⟨hres, heq⟩ | ⟨-, heq⟩
    · obtain ⟨intent, hget, hsession, hnone, -⟩ := hres
      simp only [heq]
      unfold sessionVenueAttemptedCount
      by_cases hsame : session = sessionId
      · rw [Table.count_modify_of_gain hget (by simp [hnone]) (by simp [hsession, hsame])]
        simp [hsame]
      · rw [Table.count_modify_of_congr]
        · simp [hsame]
        · intro row hrow
          rw [hget] at hrow
          cases hrow
          simp [hsession, hsame]
    · simp only [heq]
      by_cases hattempted : db.venueAttempted intentId <;> simp [hattempted]
  | logLiveOrder order =>
    simp only [perform, reservesIn]
    cases hlog : db.logLiveOrder order with
    | error e => simp
    | ok result =>
      simp [logLiveOrder_eq_ok hlog, sessionVenueAttemptedCount]
  | restart => rfl

theorem sessionFilledCount_perform (sessionId : ℕ) :
    (call.perform db).2.sessionFilledCount sessionId =
      db.sessionFilledCount sessionId +
        if fillsIn sessionId (call, (call.perform db).1) then 1 else 0 := by
  cases call with
  | logLiveOrderIntent intent => rfl
  | tryReserveVenueAttempt intentId nowMs session maxSessionOrders maxSessionFills =>
    simp only [perform, fillsIn]
    rcases tryReserveVenueAttempt_cases db intentId nowMs session
      maxSessionOrders maxSessionFills with ⟨-, heq⟩ | ⟨-, heq⟩
    · simp only [heq]
      rfl
    · simp only [heq]
      rfl
  | logLiveOrder order =>
    cases hlog : db.logLiveOrder order with
    | error e => simp [perform, fillsIn, hlog]
    | ok result =>
      unfold sessionFilledCount
      simp only [perform, fillsIn, hlog, logLiveOrder_eq_ok hlog, Table.count_insert]
      simp [isFilled]
  | restart => rfl

end AttemptCall

/-! ## What a sequence of calls changes -/

section Sequences

variable (db : Database) (calls : List AttemptCall)
variable {intentId nowMs sessionId cap : ℕ}

theorem venueAttempted_afterCalls (intentId : ℕ) :
    (afterCalls db calls).venueAttempted intentId =
      (decide (0 < reservedFor intentId (attemptHistory db calls)) ||
        db.venueAttempted intentId) := by
  induction calls generalizing db with
  | nil => simp [afterCalls, attemptHistory, reservedFor]
  | cons call calls ih =>
    have hstep := call.venueAttempted_perform db intentId
    simp only [afterCalls, foldl_cons] at ih ⊢
    rw [ih, hstep, attemptHistory, reservedFor, reservedFor, countP_cons]
    cases AttemptCall.reserves intentId (call, (call.perform db).1) <;> simp

theorem reservedFor_le (intentId : ℕ) :
    reservedFor intentId (attemptHistory db calls) ≤
      if db.venueAttempted intentId then 0 else 1 := by
  induction calls generalizing db with
  | nil => simp [attemptHistory, reservedFor]
  | cons call calls ih =>
    have hstep := call.venueAttempted_perform db intentId
    have hrest := ih (call.perform db).2
    rw [attemptHistory, reservedFor, countP_cons]
    rw [reservedFor, hstep] at hrest
    cases hres : AttemptCall.reserves intentId (call, (call.perform db).1) with
    | false =>
      rw [hres] at hrest
      simpa using hrest
    | true =>
      have hnot : db.venueAttempted intentId = false := by
        cases call with
        | tryReserveVenueAttempt id nowMs session maxSessionOrders maxSessionFills =>
          simp only [AttemptCall.perform, AttemptCall.reserves, Bool.and_eq_true,
            beq_iff_eq] at hres
          obtain ⟨rfl, hanswer⟩ := hres
          rcases Database.tryReserveVenueAttempt_cases db id nowMs session
            maxSessionOrders maxSessionFills with ⟨hok, -⟩ | ⟨-, heq⟩
          · exact hok.not_venueAttempted
          · rw [heq] at hanswer
            split at hanswer <;> cases hanswer
        | _ => cases hres
      rw [hres] at hrest
      simp only [Bool.true_or, if_true] at hrest
      simp only [hnot, Bool.false_eq_true, if_false, if_true]
      omega

/-- The attempt count of a session after the calls. -/
theorem sessionVenueAttemptedCount_afterCalls (sessionId : ℕ) :
    (afterCalls db calls).sessionVenueAttemptedCount sessionId =
      db.sessionVenueAttemptedCount sessionId + reservedIn sessionId (attemptHistory db calls) := by
  induction calls generalizing db with
  | nil => simp [afterCalls, attemptHistory, reservedIn]
  | cons call calls ih =>
    have hstep := call.sessionVenueAttemptedCount_perform db sessionId
    simp only [afterCalls, foldl_cons] at ih ⊢
    rw [ih, hstep, attemptHistory, reservedIn, reservedIn, countP_cons]
    omega

/-- The fill count of a session after the calls. -/
theorem sessionFilledCount_afterCalls (sessionId : ℕ) :
    (afterCalls db calls).sessionFilledCount sessionId =
      db.sessionFilledCount sessionId + filledIn sessionId (attemptHistory db calls) := by
  induction calls generalizing db with
  | nil => simp [afterCalls, attemptHistory, filledIn]
  | cons call calls ih =>
    have hstep := call.sessionFilledCount_perform db sessionId
    simp only [afterCalls, foldl_cons] at ih ⊢
    rw [ih, hstep, attemptHistory, filledIn, filledIn, countP_cons]
    omega

theorem attemptHistory_append (calls' : List AttemptCall) :
    attemptHistory db (calls ++ calls') =
      attemptHistory db calls ++ attemptHistory (afterCalls db calls) calls' := by
  induction calls generalizing db with
  | nil => rfl
  | cons call calls ih =>
    simp only [cons_append, attemptHistory, afterCalls, foldl_cons] at ih ⊢
    rw [ih]

theorem reservedIn_succ_le_of_reserved {maxSessionFills : ℕ} (hcap : cap ≠ 0)
    (hreserved : ((afterCalls db calls).tryReserveVenueAttempt intentId nowMs sessionId cap
      maxSessionFills).1 = .reserved) :
    db.sessionVenueAttemptedCount sessionId + reservedIn sessionId (attemptHistory db calls) + 1 ≤
      cap := by
  have horders := sessionVenueAttemptedCount_afterCalls db calls sessionId
  rcases Database.tryReserveVenueAttempt_cases (afterCalls db calls) intentId nowMs sessionId
    cap maxSessionFills with
    ⟨⟨intent, -, -, -, hordercap, -⟩, -⟩ | ⟨-, heq⟩
  · rcases hordercap with hzero | hlt
    · exact absurd hzero hcap
    · omega
  · rw [heq] at hreserved
    split at hreserved <;> cases hreserved

theorem filledIn_lt_of_reserved {maxSessionOrders : ℕ} (hcap : cap ≠ 0)
    (hreserved : ((afterCalls db calls).tryReserveVenueAttempt intentId nowMs sessionId
      maxSessionOrders cap).1 = .reserved) :
    db.sessionFilledCount sessionId + filledIn sessionId (attemptHistory db calls) < cap := by
  have hfills := sessionFilledCount_afterCalls db calls sessionId
  rcases Database.tryReserveVenueAttempt_cases (afterCalls db calls) intentId nowMs sessionId
    maxSessionOrders cap with
    ⟨⟨intent, -, -, -, -, hfillcap⟩, -⟩ | ⟨-, heq⟩
  · rcases hfillcap with hzero | hlt
    · exact absurd hzero hcap
    · omega
  · rw [heq] at hreserved
    split at hreserved <;> cases hreserved

theorem reservedIn_le_cap (hcap : cap ≠ 0)
    (hcalls : ∀ call ∈ calls, call.underOrderCap sessionId cap) :
    reservedIn sessionId (attemptHistory db calls) ≤ cap := by
  induction calls using List.reverseRecOn with
  | nil => simp [attemptHistory, reservedIn]
  | append_singleton calls call ih =>
    have hprefix := ih fun c hc => hcalls c (by simp [hc])
    rw [attemptHistory_append, reservedIn, countP_append]
    simp only [attemptHistory, countP_singleton]
    split <;> rename_i hres
    · cases call with
      | tryReserveVenueAttempt intentId nowMs session maxSessionOrders maxSessionFills =>
        simp only [AttemptCall.perform, AttemptCall.reservesIn, Bool.and_eq_true,
          beq_iff_eq, AttemptAnswer.venueAttempt.injEq] at hres
        obtain ⟨rfl, hreserved⟩ := hres
        have hsame : session = session → maxSessionOrders = cap :=
          hcalls (.tryReserveVenueAttempt intentId nowMs session maxSessionOrders
            maxSessionFills) (by simp)
        obtain rfl := hsame rfl
        have hroom := reservedIn_succ_le_of_reserved db calls hcap hreserved
        rw [reservedIn] at hroom
        omega
      | _ => cases hres
    · exact hprefix

theorem refusal_iff (intentId nowMs sessionId maxSessionOrders maxSessionFills : ℕ) :
    let outcome := (db.tryReserveVenueAttempt intentId nowMs sessionId maxSessionOrders
      maxSessionFills).1
    (outcome = .alreadyAttempted ↔ outcome ≠ .reserved ∧ db.venueAttempted intentId = true) ∧
    (outcome = .capReached ↔ outcome ≠ .reserved ∧ db.venueAttempted intentId = false) := by
  rcases Database.tryReserveVenueAttempt_cases db intentId nowMs sessionId
    maxSessionOrders maxSessionFills with
    ⟨-, heq⟩ | ⟨-, heq⟩
  · simp [heq]
  · by_cases hattempted : db.venueAttempted intentId <;> simp [heq, hattempted]

/-- Over any sequence of calls on one run database, each intent is reserved at most once, and the
reservations of a session stay within a nonzero order cap. After any such sequence, a reservation
call with a nonzero order cap is answered `reserved` only if the reservations of the session, this
one included, stay within that cap, and with a nonzero fill cap only if the fills of the session are
below it. A call that is not answered `reserved` is answered `alreadyAttempted` exactly when its
intent was marked, which an earlier `reserved` answer does, and `capReached` otherwise. -/
theorem venue_attempts_capped_and_idempotent :
    (∀ intentId, reservedFor intentId (attemptHistory db calls) ≤ 1) ∧
    (∀ sessionId cap, cap ≠ 0 → (∀ call ∈ calls, call.underOrderCap sessionId cap) →
      reservedIn sessionId (attemptHistory db calls) ≤ cap) ∧
    ∀ intentId nowMs sessionId maxSessionOrders maxSessionFills,
      let outcome := ((afterCalls db calls).tryReserveVenueAttempt intentId nowMs sessionId
        maxSessionOrders maxSessionFills).1
      (outcome = .reserved → maxSessionOrders ≠ 0 →
        db.sessionVenueAttemptedCount sessionId +
          reservedIn sessionId (attemptHistory db calls) + 1 ≤ maxSessionOrders) ∧
      (outcome = .reserved → maxSessionFills ≠ 0 →
        db.sessionFilledCount sessionId + filledIn sessionId (attemptHistory db calls) <
          maxSessionFills) ∧
      (outcome = .alreadyAttempted ↔ outcome ≠ .reserved ∧
        (0 < reservedFor intentId (attemptHistory db calls) ∨ db.venueAttempted intentId)) ∧
      (outcome = .capReached ↔ outcome ≠ .reserved ∧
        ¬ (0 < reservedFor intentId (attemptHistory db calls) ∨ db.venueAttempted intentId)) := by
  refine ⟨?_, ?_, ?_⟩
  · intro intentId
    have hle := reservedFor_le db calls intentId
    split at hle <;> omega
  · intro sessionId cap hcap hcalls
    exact reservedIn_le_cap db calls hcap hcalls
  · intro intentId nowMs sessionId maxSessionOrders maxSessionFills
    have hmarked := venueAttempted_afterCalls db calls intentId
    obtain ⟨halready, hcapped⟩ := refusal_iff (afterCalls db calls) intentId nowMs sessionId
      maxSessionOrders maxSessionFills
    refine ⟨?_, ?_, ?_, ?_⟩
    · intro hreserved hnonzero
      exact reservedIn_succ_le_of_reserved db calls hnonzero hreserved
    · intro hreserved hnonzero
      exact filledIn_lt_of_reserved db calls hnonzero hreserved
    · rw [halready, hmarked]
      simp
    · rw [hcapped, hmarked]
      simp

end Sequences

end BubaPaint
