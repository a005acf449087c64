import BubaPaint.Library.Replies
import BubaPaint.Live.Bootstrap
import BubaPaint.Live.OnchainVerifier

/-!
# Recorded fills and their verifiers

What a database call does to the order rows, what that does to the sum of the fills up to an order,
and what one verifier does on its own: it marks its order confirmed only after a read that covers
the sum it was given, and it does so in six calls when every call succeeds.

Main results:

- Theorem `RecordedInOrder.onchainExpectedRaw_eq`: the expected balance is the number of units
- Theorem `RowsStep.matchedSize`: later records leave the sum up to an order alone
- Theorem `verifyOnchainFill_justified`, `verifyOnchainFill_confirms`: when a verifier confirms
-/

namespace BubaPaint

open Effects Program Double List Database

/-! ## The order rows -/

/-- What one call does to the order rows: nothing, a new row, or a new marker. -/
inductive RowsStep (orders : Table LiveOrder) : Table LiveOrder → Prop
  | same : RowsStep orders orders
  | record (order : LiveOrder) :
      RowsStep orders (orders.insert { order with onchainReconcileStatus := none })
  | mark (id : ℕ) (status : OnchainReconcileStatus) :
      RowsStep orders (orders.modify id fun row =>
        { row with onchainReconcileStatus := some status })

/-- The order rows after a call. -/
theorem DatabaseCall.execute_liveOrders (failure : Option String) (call : DatabaseCall)
    (db : Database) :
    (call.execute failure db).2.liveOrders = db.liveOrders ∨
      (∃ order, call = .logLiveOrder order ∧ (call.execute failure db).2.liveOrders =
        db.liveOrders.insert { order with onchainReconcileStatus := none }) ∨
      ∃ id status, call = .setLiveOrderReconcileStatus id status ∧
        (call.execute failure db).2.liveOrders = db.liveOrders.modify id fun row =>
          { row with onchainReconcileStatus := some status } := by
  unfold DatabaseCall.execute
  cases failure with
  | some error => exact .inl rfl
  | none =>
    cases hperform : call.perform db with
    | error error => exact .inl rfl
    | ok result =>
      rcases result with ⟨reply, db'⟩
      by_cases hleaves : call.leavesOrders
      · exact .inl (call.perform_leavesOrders hleaves hperform).2
      · cases call with
        | logLiveOrderIntentWithDecisionEvidence evidence intent =>
          cases hperform
          exact .inl rfl
        | logLiveOrder order =>
          have hresult := logLiveOrder_eq_ok hperform
          cases hresult
          exact .inr (.inl ⟨order, rfl, rfl⟩)
        | tryReserveVenueAttempt intentId nowMs sessionId maxSessionOrders maxSessionFills =>
          left
          rw [DatabaseCall.perform, Except.ok.injEq] at hperform
          rcases db.tryReserveVenueAttempt_cases intentId nowMs sessionId maxSessionOrders
            maxSessionFills with ⟨-, heq⟩ | ⟨-, heq⟩
          · rw [heq] at hperform
            cases hperform
            rfl
          · rw [heq] at hperform
            cases hperform
            rfl
        | markLiveOrderIntentDryRun id | markLiveOrderIntentSubmitting id =>
          obtain ⟨db'', hset, heq⟩ := ok_of_map hperform
          cases heq
          obtain ⟨-, rfl⟩ := setIntentStatus_eq_ok hset
          exact .inl rfl
        | setLiveOrderReconcileStatus id status =>
          obtain ⟨db'', hset, heq⟩ := ok_of_map hperform
          cases heq
          rw [setLiveOrderReconcileStatus_eq_ok hset]
          exact .inr (.inr ⟨id, status, rfl, rfl⟩)
        | _ => exact absurd trivial hleaves

/-- Two rows that differ in their markers only. -/
structure SameFill (row row' : LiveOrder) : Prop where
  sessionId : row'.sessionId = row.sessionId
  tokenId : row'.tokenId = row.tokenId
  acceptedSize : row'.acceptedSize = row.acceptedSize
  createdAtMs : row'.createdAtMs = row.createdAtMs

theorem SameFill.refl (row : LiveOrder) : SameFill row row :=
  ⟨rfl, rfl, rfl, rfl⟩

namespace SameFill

variable {row row' : LiveOrder}

theorem isFillOn (h : SameFill row row') (sessionId : ℕ) (tokenId : String) :
    Database.isFillOn sessionId tokenId row' = Database.isFillOn sessionId tokenId row := by
  unfold Database.isFillOn Database.isFilled
  rw [h.sessionId, h.tokenId, h.acceptedSize]

theorem isFilled (h : SameFill row row') : Database.isFilled row' = Database.isFilled row := by
  unfold Database.isFilled
  rw [h.acceptedSize]

theorem filledSize (h : SameFill row row') :
    Database.filledSize row' = Database.filledSize row := by
  unfold Database.filledSize
  rw [h.acceptedSize]

end SameFill

theorem get?_mark {orders : Table LiveOrder} {id id' : ℕ} {status : OnchainReconcileStatus}
    {row' : LiveOrder}
    (hget : (orders.modify id fun row => { row with onchainReconcileStatus := some status }).get?
      id' = some row') :
    ∃ row, orders.get? id' = some row ∧ SameFill row row' ∧
      (row'.onchainReconcileStatus = row.onchainReconcileStatus ∨
        id' = id ∧ row'.onchainReconcileStatus = some status) := by
  rw [Table.get?_modify] at hget
  split at hget <;> rename_i hid
  · obtain ⟨row, hrow, rfl⟩ := Option.map_eq_some_iff.mp hget
    exact ⟨row, hrow, ⟨rfl, rfl, rfl, rfl⟩, .inr ⟨hid, rfl⟩⟩
  · exact ⟨row', hget, .refl row', .inl rfl⟩

/-- Every row stays, with the fill it records. -/
theorem RowsStep.get? {orders orders' : Table LiveOrder} (h : RowsStep orders orders') {id : ℕ}
    {row : LiveOrder} (hget : orders.get? id = some row) :
    ∃ row', orders'.get? id = some row' ∧ SameFill row row' := by
  cases h with
  | same => exact ⟨row, hget, .refl row⟩
  | record order =>
    have hlt := Table.lt_nextId_of_get? hget
    refine ⟨row, ?_, .refl row⟩
    rw [Table.get?_insert, if_neg (by omega)]
    exact hget
  | mark id' status =>
    rw [Table.get?_modify]
    split
    · exact ⟨{ row with onchainReconcileStatus := some status }, by rw [hget]; rfl,
        ⟨rfl, rfl, rfl, rfl⟩⟩
    · exact ⟨row, hget, .refl row⟩

/-! ## The fills in units -/

namespace Database

/-- The fill of a row in units of the chain, a millionth of a share. -/
def rawUnits (row : LiveOrder) : ℕ :=
  (round (filledSize row * 1000000)).toNat

/-- The units of the fills up to an order. -/
def unitsUpToOrder (db : Database) (sessionId : ℕ) (tokenId : String) (liveOrderId : ℕ) : List ℕ :=
  db.liveOrders.collect (db.countsUpToOrder sessionId tokenId liveOrderId) rawUnits

/-- The units of the fills of a session on a token. -/
def unitsOn (db : Database) (sessionId : ℕ) (tokenId : String) : List ℕ :=
  db.liveOrders.collect (fun entry => isFillOn sessionId tokenId entry.2) rawUnits

/-- The units of the fills of a session on a token that settle on the chain. -/
def settledOn (db : Database) (settled : ℕ → Bool) (sessionId : ℕ) (tokenId : String) : ℕ :=
  db.liveOrders.sum (fun entry => isFillOn sessionId tokenId entry.2 && settled entry.1) rawUnits

variable {row : LiveOrder} {sessionId : ℕ} {tokenId : String}

theorem filledSize_pos (h : isFilled row = true) : 0 < filledSize row := by
  unfold isFilled at h
  unfold filledSize
  cases hsize : row.acceptedSize with
  | none =>
    rw [hsize] at h
    cases h
  | some size =>
    rw [hsize] at h
    simpa using h

theorem isFilled_of_isFillOn (h : isFillOn sessionId tokenId row = true) : isFilled row = true := by
  exact (Bool.and_eq_true_iff.mp h).2

theorem isFillOn_iff :
    isFillOn sessionId tokenId row = true ↔
      row.sessionId = sessionId ∧ row.tokenId = some tokenId ∧ isFilled row = true := by
  simp [isFillOn, and_assoc]

theorem isFillOn_of_counts {db : Database} {id liveOrderId : ℕ}
    (h : db.countsUpToOrder sessionId tokenId liveOrderId (id, row) = true) :
    isFillOn sessionId tokenId row = true :=
  (Bool.and_eq_true_iff.mp h).1

theorem units_sum_le (db : Database) (sessionId : ℕ) (tokenId : String) (liveOrderId : ℕ) :
    (db.unitsUpToOrder sessionId tokenId liveOrderId).sum ≤ (db.unitsOn sessionId tokenId).sum :=
  Table.sum_le_sum (fun _ _ _ h => isFillOn_of_counts h) fun _ _ _ _ => Nat.zero_le _

/-- A fill that is a whole number of units is positive in units. -/
theorem rawUnits_pos (hfilled : isFilled row = true) {units : ℕ}
    (hunits : filledSize row = roundDouble (units / 1000000)) : 0 < units ∧ 0 < rawUnits row := by
  have hpositive := filledSize_pos hfilled
  have hpos : 0 < units := by
    rcases Nat.eq_zero_or_pos units with rfl | hpos
    · simp [hunits] at hpositive
    · exact hpos
  refine ⟨hpos, ?_⟩
  have hsize := le_roundDouble (@FloatSum.unit_le_div 1000000 (by norm_num) (by norm_num) units hpos)
  rw [← hunits] at hsize
  have hround : (1 : ℤ) ≤ round (filledSize row * 1000000) := by
    rw [round_eq, Int.le_floor]
    push_cast
    linarith
  unfold rawUnits
  omega

end Database

/-- The fills of every token are the doubles nearest to whole numbers of units, recorded in the
order of their times. -/
structure RecordedInOrder (orders : Table LiveOrder) : Prop where
  units : ∀ id row, orders.get? id = some row → isFilled row = true →
    ∃ units : ℕ, filledSize row = roundDouble (units / 1000000)
  created : ∀ id row id' row', orders.get? id = some row → orders.get? id' = some row' →
    isFilled row = true → isFilled row' = true →
    row.sessionId = row'.sessionId → row.tokenId = row'.tokenId → id ≤ id' →
    row.createdAtMs ≤ row'.createdAtMs

namespace RecordedInOrder

variable {db : Database} {sessionId : ℕ} {tokenId : String}

theorem created_le (h : RecordedInOrder db.liveOrders) {id id' : ℕ} {row row' : LiveOrder}
    (hget : db.liveOrders.get? id = some row) (hget' : db.liveOrders.get? id' = some row')
    (hfill : isFillOn sessionId tokenId row = true)
    (hfill' : isFillOn sessionId tokenId row' = true) (hle : id ≤ id') :
    row.createdAtMs ≤ row'.createdAtMs := by
  obtain ⟨hsession, htoken, hfilled⟩ := isFillOn_iff.mp hfill
  obtain ⟨hsession', htoken', hfilled'⟩ := isFillOn_iff.mp hfill'
  exact h.created id row id' row' hget hget' hfilled hfilled' (hsession.trans hsession'.symm)
    (htoken.trans htoken'.symm) hle

theorem unitsUpToOrder_last (h : RecordedInOrder db.liveOrders) {last : ℕ} {row : LiveOrder}
    (hget : db.liveOrders.get? last = some row)
    (hfill : isFillOn sessionId tokenId row = true)
    (hlast : ∀ id row, db.liveOrders.get? id = some row →
      isFillOn sessionId tokenId row = true → id ≤ last) :
    db.unitsUpToOrder sessionId tokenId last = db.unitsOn sessionId tokenId := by
  apply Table.collect_congr
  intro id row' hget'
  unfold countsUpToOrder
  rw [hget]
  cases hfill' : isFillOn sessionId tokenId row' with
  | false => rfl
  | true =>
    have hle := hlast id row' hget' hfill'
    have hcreated := h.created_le hget' hget hfill' hfill hle
    simp only [upTo, Option.any_some, Bool.true_and, Bool.or_eq_true, Bool.and_eq_true,
      decide_eq_true_eq, beq_iff_eq]
    omega

theorem rawUnits_pos (h : RecordedInOrder db.liveOrders) {id : ℕ} {row : LiveOrder}
    (hget : db.liveOrders.get? id = some row) (hfilled : isFilled row = true) :
    0 < rawUnits row := by
  obtain ⟨units, hunits⟩ := h.units id row hget hfilled
  exact (Database.rawUnits_pos hfilled hunits).2

/-- A missing fill leaves the settled fills below the recorded ones. -/
theorem settledOn_lt (h : RecordedInOrder db.liveOrders) {settled : ℕ → Bool} {id : ℕ}
    {row : LiveOrder} (hget : db.liveOrders.get? id = some row)
    (hfill : isFillOn sessionId tokenId row = true) (hphantom : settled id = false) :
    db.settledOn settled sessionId tokenId < (db.unitsOn sessionId tokenId).sum := by
  refine Table.sum_lt_sum (fun _ _ _ hcounts => (Bool.and_eq_true_iff.mp hcounts).1)
    (fun _ _ _ _ => Nat.zero_le _) hget ?_ hfill ?_
  · simp [hphantom]
  · exact h.rawUnits_pos hget (isFilled_of_isFillOn hfill)

/-- The sizes up to an order are the doubles nearest to their units, if these are few enough. -/
theorem sizes_eq_scaled (h : RecordedInOrder db.liveOrders) {liveOrderId : ℕ}
    (hexact : FloatSum.Exact (db.unitsUpToOrder sessionId tokenId liveOrderId)) :
    db.liveOrders.collect (db.countsUpToOrder sessionId tokenId liveOrderId) Database.filledSize =
      FloatSum.scaled 1000000 (db.unitsUpToOrder sessionId tokenId liveOrderId) := by
  unfold FloatSum.scaled Database.unitsUpToOrder Table.collect
  rw [map_map]
  apply map_congr_left
  rintro ⟨id, row⟩ hmem
  obtain ⟨hrow, hcounts⟩ := mem_filter.mp hmem
  have hget := Table.get?_eq_some_iff.mpr hrow
  have hfilled := isFilled_of_isFillOn (isFillOn_of_counts hcounts)
  obtain ⟨units, hunits⟩ := h.units id row hget hfilled
  have hpos := (Database.rawUnits_pos hfilled hunits).1
  have hsmall : Database.rawUnits row < 2 ^ 51 :=
    (le_sum_of_mem (Table.mem_collect.mpr ⟨id, row, hget, hcounts, rfl⟩)).trans_lt hexact.sum_lt
  have hcount : rawUnits row = units := by
    unfold rawUnits at hsmall ⊢
    rw [hunits] at hsmall ⊢
    exact FloatSum.round_scaled (by norm_num) (by norm_num) hpos hsmall
  change filledSize row = roundDouble (rawUnits row / 1000000)
  rw [hcount]
  exact hunits

/-- Whatever sum the database computes, the expected balance is the sum of the units. -/
theorem onchainExpectedRaw_eq (h : RecordedInOrder db.liveOrders) {id : ℕ} {row : LiveOrder}
    (hget : db.liveOrders.get? id = some row)
    (hfill : isFillOn sessionId tokenId row = true)
    (hexact : FloatSum.Exact (db.unitsUpToOrder sessionId tokenId id)) (acc : FloatSum) :
    onchainExpectedRaw (db.matchedSizeForTokenUpToOrder acc sessionId tokenId id) =
      some (db.unitsUpToOrder sessionId tokenId id).sum := by
  have hown : rawUnits row ∈ db.unitsUpToOrder sessionId tokenId id := by
    refine Table.mem_collect.mpr ⟨id, row, hget, ?_, rfl⟩
    simp [countsUpToOrder, hget, hfill, upTo]
  have hcounts : ∀ count ∈ db.unitsUpToOrder sessionId tokenId id, 0 < count := by
    intro count hmem
    obtain ⟨id', row', hget', hcounts, rfl⟩ := Table.mem_collect.mp hmem
    exact h.rawUnits_pos hget' (isFilled_of_isFillOn (isFillOn_of_counts hcounts))
  have htotal := (hcounts _ hown).trans_le (le_sum_of_mem hown)
  have hround := @FloatSum.round_sum_scaled 1000000 _ acc (by norm_num) (by norm_num)
    (ne_nil_of_mem hown) hcounts hexact
  rw [← h.sizes_eq_scaled hexact] at hround
  change round (roundDouble
    (db.matchedSizeForTokenUpToOrder acc sessionId tokenId id * 1000000)) = _ at hround
  have hpositive : ¬db.matchedSizeForTokenUpToOrder acc sessionId tokenId id ≤ 0 := by
    intro hnonpos
    have hbelow := roundDouble_mono (mul_nonpos_of_nonpos_of_nonneg hnonpos
      (by norm_num : (0 : ℚ) ≤ 1000000))
    have hnone : round (roundDouble (db.matchedSizeForTokenUpToOrder acc sessionId tokenId id *
        1000000)) < 1 := by
      rw [round_eq, Int.floor_lt]
      rw [roundDouble_zero] at hbelow
      push_cast
      linarith
    omega
  have hsmall := hexact.sum_lt
  unfold onchainExpectedRaw u64MaxAsF64
  rw [if_neg hpositive, hround, if_neg (by omega), Int.toNat_natCast]

theorem of_sameFill {orders orders' : Table LiveOrder} (h : RecordedInOrder orders)
    (hsame : ∀ id row', orders'.get? id = some row' →
      ∃ row, orders.get? id = some row ∧ SameFill row row') : RecordedInOrder orders' where
  units := by
    intro id row' hget hfilled
    obtain ⟨row, hrow, hfill⟩ := hsame id row' hget
    rw [hfill.isFilled] at hfilled
    rw [hfill.filledSize]
    exact h.units id row hrow hfilled
  created := by
    intro id₁ row₁' id₂ row₂' hget₁ hget₂ hfilled₁ hfilled₂ hsession htoken hle
    obtain ⟨row₁, hrow₁, hfill₁⟩ := hsame id₁ row₁' hget₁
    obtain ⟨row₂, hrow₂, hfill₂⟩ := hsame id₂ row₂' hget₂
    rw [hfill₁.isFilled] at hfilled₁
    rw [hfill₂.isFilled] at hfilled₂
    rw [hfill₁.sessionId, hfill₂.sessionId] at hsession
    rw [hfill₁.tokenId, hfill₂.tokenId] at htoken
    rw [hfill₁.createdAtMs, hfill₂.createdAtMs]
    exact h.created id₁ row₁ id₂ row₂ hrow₁ hrow₂ hfilled₁ hfilled₂ hsession htoken hle

end RecordedInOrder

/-- Later records leave the fills up to an order alone. -/
theorem RowsStep.collect_counts {β : Type} {f : LiveOrder → β} {db db' : Database} {sessionId : ℕ}
    {tokenId : String} (h : RowsStep db.liveOrders db'.liveOrders)
    (hf : ∀ row status, f { row with onchainReconcileStatus := status } = f row)
    (hordered : RecordedInOrder db'.liveOrders) {id : ℕ} {row : LiveOrder}
    (hget : db.liveOrders.get? id = some row)
    (hfill : isFillOn sessionId tokenId row = true) :
    db'.liveOrders.collect (db'.countsUpToOrder sessionId tokenId id) f =
      db.liveOrders.collect (db.countsUpToOrder sessionId tokenId id) f := by
  obtain ⟨row', hget', hsame⟩ := h.get? hget
  have hfill' : isFillOn sessionId tokenId row' = true :=
    (hsame.isFillOn sessionId tokenId).trans hfill
  have hlater : ∀ id' row'', db'.liveOrders.get? id' = some row'' → id < id' →
      db'.countsUpToOrder sessionId tokenId id (id', row'') = false := by
    intro id' row'' hget'' hlt
    unfold countsUpToOrder
    rw [hget', Option.any_some]
    cases hfill'' : isFillOn sessionId tokenId row'' with
    | false => rfl
    | true =>
      have hcreated := hordered.created_le hget' hget'' hfill' hfill'' hlt.le
      simp only [upTo, Bool.true_and, Bool.or_eq_false_iff, Bool.and_eq_false_iff,
        decide_eq_false_iff_not, beq_eq_false_iff_ne]
      omega
  have hcounts : db'.countsUpToOrder sessionId tokenId id =
      db.countsUpToOrder sessionId tokenId id := by
    funext entry
    unfold countsUpToOrder
    rw [hget, hget', Option.any_some, Option.any_some, hsame.createdAtMs]
  rw [hcounts] at hlater ⊢
  have hmarked (row' : LiveOrder) (id' : ℕ) (status : OnchainReconcileStatus) :
      db.countsUpToOrder sessionId tokenId id (id', { row' with
        onchainReconcileStatus := some status }) =
          db.countsUpToOrder sessionId tokenId id (id', row') := rfl
  generalize db.countsUpToOrder sessionId tokenId id = counts at hlater hmarked
  generalize db.liveOrders = orders at h hget
  generalize db'.liveOrders = orders' at h hget' hlater
  cases h with
  | same => rfl
  | record order =>
    have hlt := Table.lt_nextId_of_get? hget
    have hnew := hlater orders.nextId { order with onchainReconcileStatus := none }
      (by rw [Table.get?_insert, if_pos rfl]) hlt
    rw [Table.collect_insert, hnew]
    simp
  | mark id' status =>
    apply Table.collect_modify_of_congr
    · exact fun row => hmarked row id' status
    · exact fun row => hf row (some status)

section LaterRecords

variable {db db' : Database} {sessionId : ℕ} {tokenId : String} {id : ℕ} {row : LiveOrder}
  (h : RowsStep db.liveOrders db'.liveOrders) (hordered : RecordedInOrder db'.liveOrders)
  (hget : db.liveOrders.get? id = some row)
  (hfill : isFillOn sessionId tokenId row = true)

include h hordered hget hfill

theorem RowsStep.matchedSize (acc : FloatSum) :
    db'.matchedSizeForTokenUpToOrder acc sessionId tokenId id =
      db.matchedSizeForTokenUpToOrder acc sessionId tokenId id :=
  congrArg acc.sum (h.collect_counts (fun _ _ => rfl) hordered hget hfill)

theorem RowsStep.unitsUpToOrder :
    db'.unitsUpToOrder sessionId tokenId id = db.unitsUpToOrder sessionId tokenId id :=
  h.collect_counts (fun _ _ => rfl) hordered hget hfill

end LaterRecords

/-! ## One verifier -/

/-- The verifier has been given the sum up to its order, and a read has covered it. -/
def Covered (verification : OnchainFillVerification) (seen : List VerifierExchange) : Prop :=
  ∃ cumulative expectedRaw response,
    (⟨.matchedSizeForTokenUpToOrder verification.sessionId verification.tokenId
      verification.liveOrderId, .ok cumulative⟩ : VerifierExchange) ∈ seen ∧
    onchainExpectedRaw cumulative = some expectedRaw ∧
    (⟨.onchainPosition verification.tokenId, .ok response⟩ : VerifierExchange) ∈ seen ∧
    classifyOnchainRead response expectedRaw = .ok ()

theorem Covered.append {verification : OnchainFillVerification} {seen : List VerifierExchange}
    (h : Covered verification seen) (x : VerifierExchange) :
    Covered verification (seen ++ [x]) := by
  obtain ⟨cumulative, expectedRaw, response, hsum, hexpected, hread, hcovers⟩ := h
  exact ⟨cumulative, expectedRaw, response, mem_append_left _ hsum, hexpected,
    mem_append_left _ hread, hcovers⟩

/-- The calls a verifier may make after a trace: it asks about its own order and token, writes the
marker of its own order only, and confirms it only when a read has covered the sum. -/
def VerifierCall.justified (verification : OnchainFillVerification) (seen : List VerifierExchange) :
    VerifierCall → Prop
  | .sleep _ | .now | .database .openRuntime | .database (.logLiveReconciliationEvent _) => True
  | .database (.setLiveOrderReconcileStatus id status) =>
    id = verification.liveOrderId ∧ (status = .confirmed → Covered verification seen)
  | .database _ => False
  | .matchedSizeForTokenUpToOrder sessionId tokenId liveOrderId =>
    sessionId = verification.sessionId ∧ tokenId = verification.tokenId ∧
      liveOrderId = verification.liveOrderId
  | .onchainPosition tokenId => tokenId = verification.tokenId

def VerifierCall.persists (call : DatabaseCall) (c : VerifierCall) : Prop :=
  (∃ ms, c = .sleep ms) ∨ c = .database .openRuntime ∨ c = .database call

theorem persistWithRetries_always (call : DatabaseCall) (left : ℕ) :
    Always (VerifierCall.persists call) (fun _ => True) (persistWithRetries call left) := by
  induction left with
  | zero => trivial
  | succ left ih =>
    have hretry : Always (VerifierCall.persists call) (fun _ => True)
        (if 0 < left then do
          Verifier.call (.sleep onchainHaltPersistRetryMs)
          persistWithRetries call left
        else
          Pure.pure ()) := by
      split
      · exact ⟨.inl ⟨_, rfl⟩, fun _ => ih⟩
      · trivial
    unfold persistWithRetries
    refine ⟨.inr (.inl rfl), ?_⟩
    rintro (error | ⟨⟩)
    · exact hretry
    · refine ⟨.inr (.inr rfl), ?_⟩
      rintro (error | reply)
      · exact hretry
      · trivial

section Justified

variable (verification : OnchainFillVerification)
variable {seen : List VerifierExchange}

theorem persistWithRetries_justified {call : DatabaseCall} (inv : List VerifierExchange → Prop)
    (hinv : ∀ seen x, inv seen → inv (seen ++ [x]))
    (hcall : ∀ seen, inv seen → (VerifierCall.database call).justified verification seen)
    (left : ℕ) (h : inv seen) :
    Traced (fun _ _ => True) (fun c seen => c.justified verification seen) (fun _ _ => True)
      (persistWithRetries call left) seen := by
  refine ((persistWithRetries_always call left).traced hinv h).mono ?_ fun _ _ _ => trivial
  rintro c seen ⟨⟨ms, rfl⟩ | rfl | rfl, hseen⟩
  · trivial
  · trivial
  · exact hcall seen hseen

theorem raiseOnchainReconciliationHalt_justified (status : OnchainCheck)
    (seen : List VerifierExchange) :
    Traced (fun _ _ => True) (fun c seen => c.justified verification seen) (fun _ _ => True)
      (raiseOnchainReconciliationHalt verification status) seen := by
  unfold raiseOnchainReconciliationHalt
  simp only [traced_bind]
  refine ⟨trivial, fun now _ => ?_⟩
  have hevent : ∀ seen event, Traced (fun _ _ => True)
      (fun c seen => c.justified verification seen) (fun _ _ => True)
      (persistWithRetries (.logLiveReconciliationEvent event) onchainHaltPersistAttempts) seen :=
    fun seen event => persistWithRetries_justified verification (fun _ => True)
      (fun _ _ _ => trivial) (fun seen _ => by exact trivial) _ trivial
  refine (hevent _ _).mono_post fun _ seen _ => ?_
  apply persistWithRetries_justified verification (fun _ => True) (fun _ _ _ => trivial)
  · intro seen _
    exact ⟨rfl, fun hstatus => by cases hstatus⟩
  · trivial

theorem markOnchainReconcileStatus_confirmed_justified (h : Covered verification seen) :
    Traced (fun _ _ => True) (fun c seen => c.justified verification seen) (fun _ _ => True)
      (markOnchainReconcileStatus verification .confirmed) seen := by
  apply persistWithRetries_justified verification (Covered verification)
  · exact fun _ x h => h.append x
  · exact fun _ h => ⟨rfl, fun _ => h⟩
  · exact h

theorem computeOnchainExpectedRaw_justified (seen : List VerifierExchange) :
    Traced (fun _ _ => True) (fun c seen => c.justified verification seen)
      (fun result seen => ∀ expectedRaw, result = some expectedRaw →
        ∃ cumulative, onchainExpectedRaw cumulative = some expectedRaw ∧
          (⟨.matchedSizeForTokenUpToOrder verification.sessionId verification.tokenId
            verification.liveOrderId, .ok cumulative⟩ : VerifierExchange) ∈ seen)
      (computeOnchainExpectedRaw verification) seen := by
  unfold computeOnchainExpectedRaw
  refine ⟨trivial, ?_⟩
  rintro (error | ⟨⟩) -
  · intro expectedRaw hnone
    cases hnone
  · refine ⟨⟨rfl, rfl, rfl⟩, ?_⟩
    rintro (error | cumulative) -
    · intro expectedRaw hnone
      cases hnone
    · intro expectedRaw hexpected
      exact ⟨cumulative, hexpected, mem_append_right _ mem_cons_self⟩

/-- The polling of a verifier that knows the sum up to its order. -/
theorem pollOnchainPosition_justified {cumulative : ℚ} {expectedRaw : ℕ}
    (hexpected : onchainExpectedRaw cumulative = some expectedRaw) (attempts : List ℕ) :
    ∀ (last : OnchainCheck) (seen : List VerifierExchange),
      (⟨.matchedSizeForTokenUpToOrder verification.sessionId verification.tokenId
        verification.liveOrderId, .ok cumulative⟩ : VerifierExchange) ∈ seen →
      Traced (fun _ _ => True) (fun c seen => c.justified verification seen) (fun _ _ => True)
        (pollOnchainPosition verification expectedRaw attempts last) seen := by
  induction attempts with
  | nil =>
    intro last seen _
    exact raiseOnchainReconciliationHalt_justified verification last seen
  | cons attempt rest ih =>
    intro last seen hseen
    unfold pollOnchainPosition
    split
    -- Before a later read there is a wait.
    on_goal 1 =>
      rw [traced_bind]
      refine ⟨trivial, fun reply _ => ?_⟩
      replace hseen := mem_append_left [⟨.sleep verification.interval, reply⟩] hseen
    all_goals
      simp only [call_eq, traced_bind, traced_request, traced_pure]
      refine ⟨rfl, ?_⟩
      rintro (error | response) -
      · exact ih _ _ (mem_append_left _ hseen)
      · dsimp only
        cases hcheck : classifyOnchainRead response expectedRaw with
        | error status => exact ih _ _ (mem_append_left _ hseen)
        | ok _ =>
          apply markOnchainReconcileStatus_confirmed_justified
          exact ⟨cumulative, expectedRaw, response, mem_append_left _ hseen, hexpected,
            mem_append_right _ mem_cons_self, hcheck⟩

/-- A verifier confirms its order only after a read that covers the sum it was given. -/
theorem verifyOnchainFill_justified :
    Traced (fun _ _ => True) (fun c seen => c.justified verification seen) (fun _ _ => True)
      (verifyOnchainFill verification) [] := by
  unfold verifyOnchainFill
  simp only [call_eq, traced_bind, traced_request, traced_pure]
  refine ⟨trivial, fun _ _ => ?_⟩
  refine (computeOnchainExpectedRaw_justified verification _).mono_post fun result seen h => ?_
  cases result with
  | none => exact raiseOnchainReconciliationHalt_justified verification _ seen
  | some expectedRaw =>
    obtain ⟨cumulative, hexpected, hsum⟩ := h expectedRaw rfl
    exact pollOnchainPosition_justified verification hexpected _ _ seen hsum

end Justified

/-- The call succeeds: a sum amounts to the expected balance, and a read covers it. -/
def VerifierCall.served (expectedRaw : ℕ) : (c : VerifierCall) → c.Reply → Prop
  | .sleep _, _ | .now, _ => True
  | .database _, reply => ∃ value, reply = .ok value
  | .matchedSizeForTokenUpToOrder .., reply =>
    ∃ cumulative, reply = .ok cumulative ∧ onchainExpectedRaw cumulative = some expectedRaw
  | .onchainPosition _, reply =>
    ∃ response, reply = .ok response ∧ classifyOnchainRead response expectedRaw = .ok ()

/-- The calls of a verifier that succeeds: fewer than six came before, and the only marker written
is the confirmation. -/
def VerifierCall.confirms (seen : List VerifierExchange) (c : VerifierCall) : Prop :=
  seen.length < 6 ∧ ∀ id status, c = .database (.setLiveOrderReconcileStatus id status) →
    status = .confirmed

theorem VerifierCall.confirms.of_ne {seen : List VerifierExchange} {c : VerifierCall}
    (hlength : seen.length < 6)
    (hne : ∀ id status, c ≠ .database (.setLiveOrderReconcileStatus id status)) : c.confirms seen :=
  ⟨hlength, fun id status h => absurd h (hne id status)⟩

/-- The trace of a verifier that has confirmed its order with its sixth call. -/
def ConfirmedTrace (verification : OnchainFillVerification) (seen : List VerifierExchange) : Prop :=
  seen.length = 6 ∧
    (⟨.database (.setLiveOrderReconcileStatus verification.liveOrderId .confirmed), .ok ()⟩ :
      VerifierExchange) ∈ seen

section Confirms

variable {verification : OnchainFillVerification} {expectedRaw : ℕ}

theorem pollOnchainPosition_confirms (rest : List ℕ) (last : OnchainCheck)
    {seen : List VerifierExchange} (hlength : seen.length = 3) :
    Traced (VerifierCall.served expectedRaw) (fun c seen => c.confirms seen)
      (fun _ seen => ConfirmedTrace verification seen)
      (pollOnchainPosition verification expectedRaw (0 :: rest) last) seen := by
  unfold pollOnchainPosition
  simp only [Nat.lt_irrefl, if_false, call_eq, traced_bind, traced_request, traced_pure]
  refine ⟨.of_ne (by omega) (by simp), ?_⟩
  rintro _ ⟨response, rfl, hcovers⟩
  simp only [hcovers]
  unfold markOnchainReconcileStatus onchainHaltPersistAttempts persistWithRetries
  refine ⟨.of_ne (by simp [hlength]) (by simp), ?_⟩
  rintro _ ⟨⟨⟩, rfl⟩
  refine ⟨⟨by simp [hlength], fun id status heq => by cases heq; rfl⟩, ?_⟩
  rintro _ ⟨⟨⟩, rfl⟩
  exact ⟨by simp [hlength], mem_append_right _ mem_cons_self⟩

/-- A verifier whose calls all succeed writes the confirmation with its sixth call and ends. -/
theorem verifyOnchainFill_confirms (hattempts : 0 < verification.attempts) :
    Traced (VerifierCall.served expectedRaw) (fun c seen => c.confirms seen)
      (fun _ seen => ConfirmedTrace verification seen) (verifyOnchainFill verification) [] := by
  obtain ⟨more, hcount⟩ : ∃ more, verification.attempts = more + 1 :=
    ⟨verification.attempts - 1, by omega⟩
  unfold verifyOnchainFill computeOnchainExpectedRaw
  simp only [call_eq, traced_bind, traced_request, traced_pure]
  refine ⟨.of_ne (by simp) (by simp), fun _ _ => ⟨.of_ne (by simp) (by simp), ?_⟩⟩
  rintro _ ⟨⟨⟩, rfl⟩
  refine ⟨.of_ne (by simp) (by simp), ?_⟩
  rintro _ ⟨cumulative, rfl, hexpected⟩
  rw [hcount, range_succ_eq_map]
  change Traced _ _ _ (Pure.pure (onchainExpectedRaw cumulative)) _
  rw [traced_pure, hexpected]
  exact pollOnchainPosition_confirms _ _ rfl

end Confirms

end BubaPaint
