import BubaPaint.Library.Runs
import BubaPaint.Live.OnchainFills

/-!
# On-chain reconciliation

The verifiers of a run work beside the runtime: it records orders and spawns verifiers, and every
verifier takes its calls at its own time. A verifier compares the sum of the fills up to its order
with one balance, so a missing fill can hide behind later ones; it cannot hide from the verifier of
the last order.

Main results:

- Theorem `reconciling_run`: what verifiers know and mark in every run.
-/

namespace BubaPaint

open Effects Program Database List

/-! ## The runtime and the verifiers -/

/-- One verifier: its inputs, what is left of it, and the exchanges it has had. -/
structure RunningVerifier where
  verification : OnchainFillVerification
  program : Verifier Unit
  seen : List VerifierExchange

/-- The run database and the verifiers spawned so far. -/
structure ReconcileWorld where
  db : Database
  verifiers : List RunningVerifier

/-- What can happen next: the runtime calls the database, a filled order gets its verifier, or a
verifier has its next call answered. -/
inductive ReconcileAction where
  | runtime (failure : Option String) (call : DatabaseCall)
  | spawn (sessionId : ℕ) (order : QueuedOrderIntent) (acceptedSize : ℚ) (liveOrderId : ℕ)
  | advance (index : ℕ) (answer : OnchainAnswer)

namespace ReconcileWorld

/-- A database without orders. -/
def start : ReconcileWorld where
  db := .empty
  verifiers := []

variable (world : ReconcileWorld)

def verifies (liveOrderId : ℕ) : Bool :=
  world.verifiers.any fun verifier => verifier.verification.liveOrderId == liveOrderId

/-- The calls of the runtime: the only marker it writes is the one that precedes the verifier. -/
def permits : DatabaseCall → Bool
  | .setLiveOrderReconcileStatus id status => status == .pending && !world.verifies id
  | _ => true

def recorded (sessionId : ℕ) (order : QueuedOrderIntent) (acceptedSize : ℚ) (liveOrderId : ℕ) :
    Bool :=
  (world.db.liveOrders.get? liveOrderId).any fun row =>
    row.sessionId == sessionId && row.tokenId == some order.tokenId &&
      row.acceptedSize == some acceptedSize

/-- The world after an action, if it is possible. -/
def step (config : Config) (settings : OnchainReconcileSettings) :
    ReconcileAction → Option ReconcileWorld
  | .runtime failure call =>
    if world.permits call then
      some { world with db := (call.execute failure world.db).2 }
    else
      none
  | .spawn sessionId order acceptedSize liveOrderId =>
    if world.recorded sessionId order acceptedSize liveOrderId && !world.verifies liveOrderId then
      match spawnOnchainFillVerification config settings sessionId order acceptedSize
          liveOrderId with
      | some verification =>
        some { world with
          verifiers := world.verifiers ++
            [{ verification := verification, program := verifyOnchainFill verification,
               seen := [] }] }
      | none => some world
    else
      none
  | .advance index answer =>
    match world.verifiers[index]? with
    | some ⟨verification, .request c next, seen⟩ =>
      some
        { db := (c.respond answer world.db).2
          verifiers := world.verifiers.set index
            { verification := verification, program := next (c.respond answer world.db).1,
              seen := seen ++ [⟨c, (c.respond answer world.db).1⟩] } }
    | _ => none

/-- The world after one verifier has had its call answered. -/
abbrev answered (index : ℕ) (verification : OnchainFillVerification) (c : VerifierCall)
    (next : c.Reply → Verifier Unit) (seen : List VerifierExchange) (answer : OnchainAnswer) :
    ReconcileWorld where
  db := (c.respond answer world.db).2
  verifiers := world.verifiers.set index
    { verification := verification, program := next (c.respond answer world.db).1,
      seen := seen ++ [⟨c, (c.respond answer world.db).1⟩] }

end ReconcileWorld

/-- A balance of a token that a verifier has read. -/
structure BalanceRead where
  sessionId : ℕ
  tokenId : String
  balanceRaw : ℕ

/-- The balances read so far, and the orders that a verifier has set out to confirm. -/
structure ReconcileHistory where
  reads : List BalanceRead
  confirming : List ℕ

namespace ReconcileHistory

def start : ReconcileHistory where
  reads := []
  confirming := []

def readBalance (answer : OnchainAnswer) : Option ℕ :=
  match answer.onchainPosition with
  | .ok response => parseOnchainBalanceRaw response.balanceRaw
  | .error _ => none

def note (history : ReconcileHistory) (verification : OnchainFillVerification)
    (answer : OnchainAnswer) : VerifierCall → ReconcileHistory
  | .onchainPosition tokenId =>
    match readBalance answer with
    | some balanceRaw =>
      { history with
        reads := ⟨verification.sessionId, tokenId, balanceRaw⟩ :: history.reads }
    | none => history
  | .database (.setLiveOrderReconcileStatus id .confirmed) =>
    { history with confirming := id :: history.confirming }
  | _ => history

def record (history : ReconcileHistory) (world : ReconcileWorld) (action : ReconcileAction)
    (_ : ReconcileWorld) : ReconcileHistory :=
  match action with
  | .advance index answer =>
    match world.verifiers[index]? with
    | some ⟨verification, .request c _, _⟩ => history.note verification answer c
    | _ => history
  | _ => history

end ReconcileHistory

/-- The runtime and the verifiers of a run. -/
def reconcileSystem (config : Config) (settings : OnchainReconcileSettings) :
    System ReconcileWorld ReconcileAction ReconcileHistory where
  step world action := world.step config settings action
  record := ReconcileHistory.record

/-- Recorded fills are the doubles nearest to whole numbers of units, and no fill on a token is
older than one recorded before it. -/
structure RecordsFills (world : ReconcileWorld) (order : LiveOrder) : Prop where
  units : Database.isFilled order = true →
    ∃ units : ℕ, Database.filledSize order = Double.roundDouble (units / 1000000)
  created : Database.isFilled order = true → ∀ id row, world.db.liveOrders.get? id = some row →
    Database.isFilled row = true → row.sessionId = order.sessionId →
    row.tokenId = order.tokenId → row.createdAtMs ≤ order.createdAtMs

/-- An order that the action records is recorded so. -/
def ReconcileAction.recordsFills (world : ReconcileWorld) : ReconcileAction → Prop
  | .runtime _ (.logLiveOrder order) => RecordsFills world order
  | _ => True

section StepCases

variable {config : Config} {settings : OnchainReconcileSettings} {world world' : ReconcileWorld}

theorem step_runtime {failure : Option String} {call : DatabaseCall}
    (h : world.step config settings (.runtime failure call) = some world') :
    world.permits call = true ∧
      world' = { world with db := (call.execute failure world.db).2 } := by
  unfold ReconcileWorld.step at h
  dsimp only at h
  split at h <;> rename_i hpermits
  · exact ⟨hpermits, (Option.some.inj h).symm⟩
  · cases h

theorem step_spawn {sessionId : ℕ} {order : QueuedOrderIntent} {acceptedSize : ℚ} {liveOrderId : ℕ}
    (h : world.step config settings (.spawn sessionId order acceptedSize liveOrderId) =
      some world') :
    world.recorded sessionId order acceptedSize liveOrderId = true ∧
      world.verifies liveOrderId = false ∧
      (world' = world ∨ ∃ verification, spawnOnchainFillVerification config settings sessionId order
        acceptedSize liveOrderId = some verification ∧
        world' = { world with
          verifiers := world.verifiers ++
            [{ verification := verification, program := verifyOnchainFill verification,
               seen := [] }] }) := by
  unfold ReconcileWorld.step at h
  dsimp only at h
  split at h <;> rename_i hguard
  · obtain ⟨hrecorded, hnew⟩ := Bool.and_eq_true_iff.mp hguard
    refine ⟨hrecorded, by simpa using hnew, ?_⟩
    split at h <;> rename_i hspawn
    · exact .inr ⟨_, hspawn, (Option.some.inj h).symm⟩
    · exact .inl (Option.some.inj h).symm
  · cases h

theorem step_advance {index : ℕ} {answer : OnchainAnswer}
    (h : world.step config settings (.advance index answer) = some world') :
    ∃ verification c, ∃ next : c.Reply → Verifier Unit, ∃ seen,
      world.verifiers[index]? = some ⟨verification, .request c next, seen⟩ ∧
      world' = world.answered index verification c next seen answer := by
  unfold ReconcileWorld.step at h
  dsimp only at h
  split at h <;> rename_i hverifier
  · exact ⟨_, _, _, _, hverifier, (Option.some.inj h).symm⟩
  · cases h

theorem record_advance {index : ℕ} {verification : OnchainFillVerification} {c : VerifierCall}
    {next : c.Reply → Verifier Unit} {seen : List VerifierExchange}
    (h : world.verifiers[index]? = some ⟨verification, .request c next, seen⟩)
    (history : ReconcileHistory) (answer : OnchainAnswer) :
    history.record world (.advance index answer) world' = history.note verification answer c := by
  unfold ReconcileHistory.record
  dsimp only
  rw [h]

end StepCases

/-- A read has covered the sum of the fills up to an order. -/
def OrderCovered (history : ReconcileHistory) (db : Database) (liveOrderId : ℕ) : Prop :=
  ∃ row sessionId tokenId acc expectedRaw balanceRaw, db.liveOrders.get? liveOrderId = some row ∧
    Database.isFillOn sessionId tokenId row = true ∧
    onchainExpectedRaw (db.matchedSizeForTokenUpToOrder acc sessionId tokenId liveOrderId) =
      some expectedRaw ∧
    (⟨sessionId, tokenId, balanceRaw⟩ : BalanceRead) ∈ history.reads ∧ expectedRaw ≤ balanceRaw

/-- What a verifier has been told is true of the database and the chain. -/
structure VerifierKnows (history : ReconcileHistory) (db : Database) (verifier : RunningVerifier) :
    Prop where
  fill : ∃ row, db.liveOrders.get? verifier.verification.liveOrderId = some row ∧
    Database.isFillOn verifier.verification.sessionId verifier.verification.tokenId row = true
  justified : Traced (fun _ _ => True) (fun c seen => c.justified verifier.verification seen)
    (fun _ _ => True) verifier.program verifier.seen
  sums : ∀ cumulative, (⟨.matchedSizeForTokenUpToOrder verifier.verification.sessionId
      verifier.verification.tokenId verifier.verification.liveOrderId, .ok cumulative⟩ :
        VerifierExchange) ∈ verifier.seen →
    ∃ acc, cumulative = db.matchedSizeForTokenUpToOrder acc verifier.verification.sessionId
      verifier.verification.tokenId verifier.verification.liveOrderId
  reads : ∀ response balanceRaw,
    (⟨.onchainPosition verifier.verification.tokenId, .ok response⟩ : VerifierExchange) ∈
      verifier.seen → parseOnchainBalanceRaw response.balanceRaw = some balanceRaw →
    (⟨verifier.verification.sessionId, verifier.verification.tokenId, balanceRaw⟩ :
      BalanceRead) ∈ history.reads

/-- The fills are recorded in order, the verifiers know what is true, and every confirmed order is
covered by a read. -/
structure Reconciling (history : ReconcileHistory) (world : ReconcileWorld) : Prop where
  ordered : RecordedInOrder world.db.liveOrders
  verifiers : ∀ verifier ∈ world.verifiers, VerifierKnows history world.db verifier
  confirming : ∀ id ∈ history.confirming, OrderCovered history world.db id
  marked : ∀ id row, world.db.liveOrders.get? id = some row →
    row.onchainReconcileStatus = some .confirmed → id ∈ history.confirming

/-! ### Later records and later reads -/

section Later

variable {history history' : ReconcileHistory} {db db' : Database} {world : ReconcileWorld}
variable {liveOrderId : ℕ} {verifier : RunningVerifier} {order : LiveOrder}

theorem OrderCovered.rows (h : OrderCovered history db liveOrderId)
    (hrows : RowsStep db.liveOrders db'.liveOrders) (hordered : RecordedInOrder db'.liveOrders) :
    OrderCovered history db' liveOrderId := by
  obtain ⟨row, sessionId, tokenId, acc, expectedRaw, balanceRaw, hget, hfill, hexpected, hread,
    hle⟩ := h
  obtain ⟨row', hget', hsame⟩ := hrows.get? hget
  refine ⟨row', sessionId, tokenId, acc, expectedRaw, balanceRaw, hget', ?_, ?_, hread, hle⟩
  · rw [hsame.isFillOn]
    exact hfill
  · rw [hrows.matchedSize hordered hget hfill]
    exact hexpected

theorem OrderCovered.mono (h : OrderCovered history db liveOrderId)
    (hreads : ∀ read ∈ history.reads, read ∈ history'.reads) :
    OrderCovered history' db liveOrderId := by
  obtain ⟨row, sessionId, tokenId, acc, expectedRaw, balanceRaw, hget, hfill, hexpected, hread,
    hle⟩ := h
  exact ⟨row, sessionId, tokenId, acc, expectedRaw, balanceRaw, hget, hfill, hexpected,
    hreads _ hread, hle⟩

theorem VerifierKnows.rows (h : VerifierKnows history db verifier)
    (hrows : RowsStep db.liveOrders db'.liveOrders) (hordered : RecordedInOrder db'.liveOrders) :
    VerifierKnows history db' verifier where
  fill := by
    obtain ⟨row, hget, hfill⟩ := h.fill
    obtain ⟨row', hget', hsame⟩ := hrows.get? hget
    refine ⟨row', hget', ?_⟩
    rw [hsame.isFillOn]
    exact hfill
  justified := h.justified
  sums := by
    intro cumulative hsum
    obtain ⟨row, hget, hfill⟩ := h.fill
    obtain ⟨acc, hacc⟩ := h.sums cumulative hsum
    refine ⟨acc, ?_⟩
    rw [hrows.matchedSize hordered hget hfill]
    exact hacc
  reads := h.reads

theorem VerifierKnows.mono (h : VerifierKnows history db verifier)
    (hreads : ∀ read ∈ history.reads, read ∈ history'.reads) :
    VerifierKnows history' db verifier where
  fill := h.fill
  justified := h.justified
  sums := h.sums
  reads response balanceRaw hread hparse := hreads _ (h.reads response balanceRaw hread hparse)

theorem RecordedInOrder.insert (h : RecordedInOrder world.db.liveOrders)
    (hrecords : RecordsFills world order) :
    RecordedInOrder (world.db.liveOrders.insert { order with onchainReconcileStatus := none }) where
  units := by
    intro id row hget hfilled
    rw [Table.get?_insert] at hget
    split at hget
    · cases hget
      exact hrecords.units hfilled
    · exact h.units id row hget hfilled
  created := by
    intro id row id' row' hget hget' hfilled hfilled' hsession htoken hle
    rw [Table.get?_insert] at hget hget'
    split at hget' <;> rename_i hid'
    · cases hget'
      split at hget
      · cases hget
        exact Nat.le_refl _
      · exact hrecords.created hfilled' id row hget hfilled hsession htoken
    · split at hget <;> rename_i hid
      · have hlt := Table.lt_nextId_of_get? hget'
        omega
      · exact h.created id row id' row' hget hget' hfilled hfilled' hsession htoken hle

theorem RecordedInOrder.mark {orders : Table LiveOrder} (h : RecordedInOrder orders) (id : ℕ)
    (status : OnchainReconcileStatus) :
    RecordedInOrder (orders.modify id fun row =>
      { row with onchainReconcileStatus := some status }) := by
  apply h.of_sameFill
  intro id' row' hget
  obtain ⟨row, hrow, hsame, -⟩ := get?_mark hget
  exact ⟨row, hrow, hsame⟩

theorem Reconciling.rows (h : Reconciling history world)
    (hrows : RowsStep world.db.liveOrders db'.liveOrders)
    (hordered : RecordedInOrder db'.liveOrders)
    (hmarked : ∀ id row, db'.liveOrders.get? id = some row →
      row.onchainReconcileStatus = some .confirmed → id ∈ history.confirming) :
    Reconciling history { world with db := db' } where
  ordered := hordered
  verifiers verifier hverifier := (h.verifiers verifier hverifier).rows hrows hordered
  confirming id hid := (h.confirming id hid).rows hrows hordered
  marked := hmarked

theorem Reconciling.same (h : Reconciling history world)
    (hrows : db'.liveOrders = world.db.liveOrders) :
    Reconciling history { world with db := db' } := by
  apply h.rows
  · rw [hrows]
    exact .same
  · rw [hrows]
    exact h.ordered
  · rw [hrows]
    exact h.marked

theorem Reconciling.insert (h : Reconciling history world) (hrecords : RecordsFills world order)
    (hrows : db'.liveOrders =
      world.db.liveOrders.insert { order with onchainReconcileStatus := none }) :
    Reconciling history { world with db := db' } := by
  apply h.rows
  · rw [hrows]
    exact .record order
  · rw [hrows]
    exact h.ordered.insert hrecords
  · rw [hrows]
    intro id row hget hstatus
    rw [Table.get?_insert] at hget
    split at hget
    · cases hget
      cases hstatus
    · exact h.marked id row hget hstatus

theorem Reconciling.mark (h : Reconciling history world) {id : ℕ} {status : OnchainReconcileStatus}
    (hstatus : status = .confirmed → id ∈ history.confirming)
    (hrows : db'.liveOrders = world.db.liveOrders.modify id fun row =>
      { row with onchainReconcileStatus := some status }) :
    Reconciling history { world with db := db' } := by
  apply h.rows
  · rw [hrows]
    exact .mark id status
  · rw [hrows]
    exact h.ordered.mark id status
  · rw [hrows]
    intro id' row' hget hconfirmed
    obtain ⟨row, hrow, -, hkept | ⟨rfl, hnew⟩⟩ := get?_mark hget
    · rw [hkept] at hconfirmed
      exact h.marked id' row hrow hconfirmed
    · rw [hnew] at hconfirmed
      exact hstatus (Option.some.inj hconfirmed)

end Later

/-! ### The steps -/

section Steps

variable {history : ReconcileHistory} {world : ReconcileWorld}
variable {verification : OnchainFillVerification} {c : VerifierCall}

theorem Reconciling.runtime (h : Reconciling history world) {call : DatabaseCall}
    (hpermits : world.permits call = true) (failure : Option String)
    (hrecords : (ReconcileAction.runtime failure call).recordsFills world) :
    Reconciling history { world with db := (call.execute failure world.db).2 } := by
  rcases call.execute_liveOrders failure world.db with hrows | ⟨order, rfl, hrows⟩ |
    ⟨id, status, rfl, hrows⟩
  · exact h.same hrows
  · exact h.insert hrecords hrows
  · refine h.mark ?_ hrows
    rintro rfl
    cases hpermits

/-- A filled order gets its verifier. -/
theorem Reconciling.spawn (h : Reconciling history world) {config : Config}
    {settings : OnchainReconcileSettings} {sessionId : ℕ} {order : QueuedOrderIntent}
    {acceptedSize : ℚ} {liveOrderId : ℕ}
    (hrecorded : world.recorded sessionId order acceptedSize liveOrderId = true)
    (hspawn : spawnOnchainFillVerification config settings sessionId order acceptedSize
      liveOrderId = some verification) :
    Reconciling history { world with
      verifiers := world.verifiers ++
        [{ verification := verification, program := verifyOnchainFill verification,
           seen := [] }] } where
  ordered := h.ordered
  confirming := h.confirming
  marked := h.marked
  verifiers := by
    intro verifier hverifier
    rcases mem_append.mp hverifier with hold | hnew
    · exact h.verifiers verifier hold
    · rw [mem_singleton.mp hnew]
      unfold spawnOnchainFillVerification at hspawn
      split at hspawn
      · cases hspawn
      · split at hspawn <;> rename_i hpositive
        · cases hspawn
        · cases hspawn
          constructor
          · obtain ⟨row, hget, hrow⟩ := (Option.any_eq_true _ _).mp hrecorded
            simp only [Bool.and_eq_true, beq_iff_eq] at hrow
            refine ⟨row, hget, isFillOn_iff.mpr ⟨hrow.1.1, hrow.1.2, ?_⟩⟩
            unfold isFilled
            rw [hrow.2]
            exact decide_eq_true (not_le.mp hpositive)
          · exact verifyOnchainFill_justified _
          · intro cumulative hsum
            cases hsum
          · intro response balanceRaw hread
            cases hread

theorem VerifierCall.respond_liveOrders {seen : List VerifierExchange}
    (hc : c.justified verification seen) (answer : OnchainAnswer) (db : Database) :
    (c.respond answer db).2.liveOrders = db.liveOrders ∨
      ∃ status, c = .database (.setLiveOrderReconcileStatus verification.liveOrderId status) ∧
        (c.respond answer db).2.liveOrders =
          db.liveOrders.modify verification.liveOrderId fun row =>
            { row with onchainReconcileStatus := some status } := by
  cases c with
  | sleep ms => exact .inl rfl
  | now => exact .inl rfl
  | onchainPosition tokenId => exact .inl rfl
  | matchedSizeForTokenUpToOrder sessionId tokenId liveOrderId =>
    left
    unfold VerifierCall.respond
    cases answer.databaseError <;> rfl
  | database call =>
    rcases call.execute_liveOrders answer.databaseError db with hrows | ⟨order, rfl, hrows⟩ |
      ⟨id, status, rfl, hrows⟩
    · exact .inl hrows
    · exact hc.elim
    · obtain ⟨rfl, -⟩ := hc
      exact .inr ⟨status, rfl, hrows⟩

theorem ReconcileHistory.note_reads (history : ReconcileHistory)
    (verification : OnchainFillVerification) (answer : OnchainAnswer) (c : VerifierCall) :
    ∀ read ∈ history.reads, read ∈ (history.note verification answer c).reads := by
  intro read hread
  unfold ReconcileHistory.note
  split
  · split
    · exact mem_cons_of_mem _ hread
    · exact hread
  · exact hread
  · exact hread

theorem ReconcileHistory.mem_note_confirming {history : ReconcileHistory} {answer : OnchainAnswer}
    {id : ℕ} :
    id ∈ (history.note verification answer c).confirming ↔
      id ∈ history.confirming ∨ c = .database (.setLiveOrderReconcileStatus id .confirmed) := by
  unfold ReconcileHistory.note
  split
  · split <;> simp
  · simp [eq_comm, or_comm]
  · rename_i hread hconfirm
    constructor
    · exact .inl
    · rintro (hid | rfl)
      · exact hid
      · exact absurd rfl (hconfirm id)

section Advance

variable {verification : OnchainFillVerification} {c : VerifierCall}
  {next : c.Reply → Verifier Unit} {seen : List VerifierExchange}

theorem VerifierKnows.covered
    (h : VerifierKnows history world.db ⟨verification, .request c next, seen⟩)
    (hc : c = .database (.setLiveOrderReconcileStatus verification.liveOrderId .confirmed)) :
    OrderCovered history world.db verification.liveOrderId := by
  obtain ⟨row, hget, hfill⟩ := h.fill
  have hjustified : c.justified verification seen := h.justified.1
  subst hc
  obtain ⟨cumulative, expectedRaw, response, hsum, hexpected, hread, hcovers⟩ := hjustified.2 rfl
  obtain ⟨-, balanceRaw, hparse, hle⟩ := classifyOnchainRead_eq_ok_iff.mp hcovers
  obtain ⟨acc, hcumulative⟩ := h.sums cumulative hsum
  refine ⟨row, verification.sessionId, verification.tokenId, acc, expectedRaw, balanceRaw, hget,
    hfill, ?_, h.reads response balanceRaw hread hparse, hle⟩
  rw [← hcumulative]
  exact hexpected

/-- What a verifier knows after its call has been answered. -/
theorem VerifierKnows.advance
    (h : VerifierKnows history world.db ⟨verification, .request c next, seen⟩)
    (answer : OnchainAnswer) :
    VerifierKnows (history.note verification answer c) world.db
      ⟨verification, next (c.respond answer world.db).1,
        seen ++ [⟨c, (c.respond answer world.db).1⟩]⟩ where
  fill := h.fill
  justified := h.justified.2 _ trivial
  sums := by
    intro cumulative hsum
    rcases mem_append.mp hsum with hold | hnew
    · exact h.sums cumulative hold
    · obtain ⟨hcall, hreply⟩ := Sigma.mk.inj (mem_singleton.mp hnew)
      dsimp only at hcall
      subst hcall
      have hvalue := eq_of_heq hreply
      unfold VerifierCall.respond at hvalue
      cases herror : answer.databaseError with
      | some error =>
        rw [herror] at hvalue
        cases hvalue
      | none =>
        rw [herror] at hvalue
        exact ⟨answer.sum, Except.ok.inj hvalue⟩
  reads := by
    intro response balanceRaw hread hparse
    rcases mem_append.mp hread with hold | hnew
    · exact history.note_reads verification answer c _ (h.reads response balanceRaw hold hparse)
    · obtain ⟨hcall, hreply⟩ := Sigma.mk.inj (mem_singleton.mp hnew)
      dsimp only at hcall
      subst hcall
      have hanswer : answer.onchainPosition = .ok response := (eq_of_heq hreply).symm
      have hbalance : ReconcileHistory.readBalance answer = some balanceRaw := by
        unfold ReconcileHistory.readBalance
        rw [hanswer]
        exact hparse
      simp [ReconcileHistory.note, hbalance]

/-- A verifier has its next call answered. -/
theorem Reconciling.advance (h : Reconciling history world) {index : ℕ}
    (hverifier : world.verifiers[index]? = some ⟨verification, .request c next, seen⟩)
    (answer : OnchainAnswer) :
    Reconciling (history.note verification answer c)
      (world.answered index verification c next seen answer) := by
  have hknows := h.verifiers _ (mem_of_getElem? hverifier)
  have hreads := history.note_reads verification answer c
  have hcalled : Reconciling (history.note verification answer c)
      { world with
        verifiers := (world.answered index verification c next seen answer).verifiers } := by
    constructor
    · exact h.ordered
    · intro verifier hmem
      rcases mem_or_eq_of_mem_set hmem with hold | rfl
      · exact (h.verifiers verifier hold).mono hreads
      · exact hknows.advance answer
    · intro id hid
      rcases ReconcileHistory.mem_note_confirming.mp hid with hold | hnew
      · exact (h.confirming id hold).mono hreads
      · have hjustified : c.justified verification seen := hknows.justified.1
        have hown : id = verification.liveOrderId := by
          rw [hnew] at hjustified
          exact hjustified.1
        subst hown
        exact (hknows.covered hnew).mono hreads
    · intro id row hget hstatus
      exact ReconcileHistory.mem_note_confirming.mpr (.inl (h.marked id row hget hstatus))
  rcases VerifierCall.respond_liveOrders hknows.justified.1 answer world.db with hrows |
    ⟨status, hcall, hrows⟩
  · exact hcalled.same hrows
  · refine hcalled.mark ?_ hrows
    rintro rfl
    exact ReconcileHistory.mem_note_confirming.mpr (.inr hcall)

end Advance

variable {config : Config} {settings : OnchainReconcileSettings}

/-- A confirmed order has a read that covers its sum, after every step. -/
theorem Reconciling.step (h : Reconciling history world) {action : ReconcileAction}
    {world' : ReconcileWorld} (hstep : world.step config settings action = some world')
    (hrecords : action.recordsFills world) :
    Reconciling (history.record world action world') world' := by
  cases action with
  | runtime failure call =>
    obtain ⟨hpermits, rfl⟩ := step_runtime hstep
    exact h.runtime hpermits failure hrecords
  | spawn sessionId order acceptedSize liveOrderId =>
    obtain ⟨hrecorded, -, rfl | ⟨verification, hspawn, rfl⟩⟩ := step_spawn hstep
    · exact h
    · exact h.spawn hrecorded hspawn
  | advance index answer =>
    obtain ⟨verification, c, next, seen, hverifier, rfl⟩ := step_advance hstep
    rw [record_advance hverifier]
    exact h.advance hverifier answer

theorem reconciling_start : Reconciling .start .start where
  ordered := by
    constructor
    · intro id row hget
      cases hget
    · intro id row id' row' hget
      cases hget
  verifiers verifier hverifier := by cases hverifier
  confirming id hid := by cases hid
  marked id row hget := by cases hget

theorem reconciling_run
    {meets : ReconcileHistory → ReconcileWorld → ReconcileAction → ReconcileWorld → Prop}
    (hmeets : ∀ history world action world', meets history world action world' →
      action.recordsFills world)
    (hrun : (reconcileSystem config settings).Run meets (.start, .start) history world) :
    Reconciling history world :=
  hrun.invariant Reconciling reconciling_start fun _ _ _ _ h hstep hmeet =>
    h.step hstep (hmeets _ _ _ _ hmeet)

/-- The order of the last fill of a token stays unconfirmed while a fill of the token is missing
from every balance. -/
theorem Reconciling.last_unconfirmed (h : Reconciling history world) {settled : ℕ → Bool}
    {sessionId : ℕ} {tokenId : String}
    (hexact : FloatSum.Exact (world.db.unitsOn sessionId tokenId))
    (hbalance : ∀ balanceRaw,
      (⟨sessionId, tokenId, balanceRaw⟩ : BalanceRead) ∈ history.reads →
        balanceRaw ≤ world.db.settledOn settled sessionId tokenId)
    {id : ℕ} {row : LiveOrder} (hget : world.db.liveOrders.get? id = some row)
    (hfill : isFillOn sessionId tokenId row = true) (hphantom : settled id = false) :
    ∃ last row', world.db.liveOrders.get? last = some row' ∧
      isFillOn sessionId tokenId row' = true ∧ last ∉ history.confirming ∧
      row'.onchainReconcileStatus ≠ some .confirmed := by
  obtain ⟨last, row', hget', hfill', hlast⟩ := Table.exists_last
    (fun row => isFillOn sessionId tokenId row = true) hget hfill
  have hunconfirmed : last ∉ history.confirming := by
    intro hconfirming
    obtain ⟨row'', sessionId', tokenId', acc, expectedRaw, balanceRaw, hget'', hfill'', hexpected,
      hread, hle⟩ := h.confirming last hconfirming
    obtain rfl : row' = row'' := Option.some.inj (hget'.symm.trans hget'')
    obtain ⟨hsession, htoken, -⟩ := isFillOn_iff.mp hfill'
    obtain ⟨hsession', htoken', -⟩ := isFillOn_iff.mp hfill''
    obtain rfl : sessionId = sessionId' := hsession.symm.trans hsession'
    obtain rfl : tokenId = tokenId' := Option.some.inj (htoken.symm.trans htoken')
    have hall := h.ordered.unitsUpToOrder_last hget' hfill' hlast
    have hmissing := h.ordered.settledOn_lt hget hfill hphantom
    rw [← hall] at hexact hmissing
    rw [h.ordered.onchainExpectedRaw_eq hget' hfill' hexact acc] at hexpected
    have hraw := Option.some.inj hexpected
    have hbound := hbalance balanceRaw hread
    omega
  refine ⟨last, row', hget', hfill', hunconfirmed, ?_⟩
  intro hstatus
  exact hunconfirmed (h.marked last row' hget' hstatus)

end Steps

end BubaPaint
