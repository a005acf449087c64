import BubaPaint.Live.OnchainReconciliation

/-!
# Soundness of the on-chain reconciliation

When every call of the verifiers succeeds and every fill has settled, every verifier confirms its
order, unless the sum up to it is too large for the doubles to tell its units. Together with the
fate of a fill that never settles this is the soundness of the reconciliation.

Main results:

- Theorem `AllConfirming.step`: while everything succeeds, every verifier stays on its way
- Theorem `unconfirmed_refused`: an unconfirmed fill refuses the next bootstrap
- Theorem `onchain_reconciliation_sound`: the fate of a fill that never settles, and of one that does
- Theorem `oversized_fill_unconfirmed`: a settled fill too large for the verifier
-/

namespace BubaPaint

open Effects Program Database VerifierCall List

/-! ## Runs in which everything succeeds -/

/-- A reply of a call that succeeds. A read reports six decimals and a balance that holds all fills
of the token. -/
def VerifierCall.succeeded (fills : ℕ) : (c : VerifierCall) → c.Reply → Prop
  | .sleep _, _ | .now, _ => True
  | .database _, reply => ∃ value, reply = .ok value
  | .matchedSizeForTokenUpToOrder .., reply => ∃ value, reply = .ok value
  | .onchainPosition _, reply =>
    ∃ response balanceRaw, reply = .ok response ∧ response.collateralDecimals = 6 ∧
      parseOnchainBalanceRaw response.balanceRaw = some balanceRaw ∧ fills ≤ balanceRaw

/-- The calls of the verifiers succeed, and every fill has settled when they read. -/
def ReconcileAction.succeeds (world : ReconcileWorld) : ReconcileAction → Prop
  | .advance index answer =>
    match world.verifiers[index]? with
    | some ⟨verification, .request c _, _⟩ =>
      c.succeeded (world.db.unitsOn verification.sessionId verification.tokenId).sum
        (c.respond answer world.db).1
    | _ => True
  | _ => True

/-- The units of the fills that a verifier is to find on the chain. -/
def RunningVerifier.units (verifier : RunningVerifier) (db : Database) : List ℕ :=
  db.unitsUpToOrder verifier.verification.sessionId verifier.verification.tokenId
    verifier.verification.liveOrderId

/-- The row of an order is marked confirmed. -/
def ConfirmedRow (db : Database) (liveOrderId : ℕ) : Prop :=
  ∃ row, db.liveOrders.get? liveOrderId = some row ∧ row.onchainReconcileStatus = some .confirmed

/-- A verifier on its way to confirm its order. -/
structure Confirming (db : Database) (verifier : RunningVerifier) : Prop where
  confirms : Traced (VerifierCall.served (verifier.units db).sum) (fun c seen => c.confirms seen)
    (fun _ seen => ConfirmedTrace verifier.verification seen) verifier.program verifier.seen
  marked : (⟨.database (.setLiveOrderReconcileStatus verifier.verification.liveOrderId .confirmed),
      .ok ()⟩ : VerifierExchange) ∈ verifier.seen →
    ConfirmedRow db verifier.verification.liveOrderId

/-- Every verifier whose fills add exactly is on its way, and no two verify one order. -/
structure AllConfirming (history : ReconcileHistory) (world : ReconcileWorld) : Prop where
  reconciling : Reconciling history world
  confirming : ∀ verifier ∈ world.verifiers, FloatSum.Exact (verifier.units world.db) →
    Confirming world.db verifier
  distinct : ∀ (i j : ℕ) (verifier other : RunningVerifier),
    world.verifiers[i]? = some verifier → world.verifiers[j]? = some other →
    verifier.verification.liveOrderId = other.verification.liveOrderId → i = j

section Succeeding

variable {history history' : ReconcileHistory} {world : ReconcileWorld} {db db' : Database}
variable {id : ℕ} {verifier : RunningVerifier}
variable {verification : OnchainFillVerification} {seen : List VerifierExchange}
variable {c : VerifierCall} {answer : OnchainAnswer} {call : DatabaseCall} {config : Config}
variable {settings : OnchainReconcileSettings}

theorem ConfirmedRow.same (h : ConfirmedRow db id) (hrows : db'.liveOrders = db.liveOrders) :
    ConfirmedRow db' id := by
  unfold ConfirmedRow
  rw [hrows]
  exact h

theorem ConfirmedRow.insert (h : ConfirmedRow db id) {order : LiveOrder}
    (hrows : db'.liveOrders = db.liveOrders.insert order) : ConfirmedRow db' id := by
  obtain ⟨row, hget, hstatus⟩ := h
  have hlt := Table.lt_nextId_of_get? hget
  refine ⟨row, ?_, hstatus⟩
  rw [hrows, Table.get?_insert, if_neg (by omega)]
  exact hget

theorem ConfirmedRow.mark {id' : ℕ} (h : ConfirmedRow db id) {status : OnchainReconcileStatus}
    (hrows : db'.liveOrders = db.liveOrders.modify id' fun row =>
      { row with onchainReconcileStatus := some status })
    (hstatus : id = id' → status = .confirmed) : ConfirmedRow db' id := by
  obtain ⟨row, hget, hconfirmed⟩ := h
  unfold ConfirmedRow
  rw [hrows, Table.get?_modify]
  by_cases hid : id = id'
  · rw [if_pos hid, hget, hstatus hid]
    exact ⟨_, rfl, rfl⟩
  · rw [if_neg hid]
    exact ⟨row, hget, hconfirmed⟩

theorem Confirming.keep (h : Confirming db verifier) (hsum : verifier.units db' = verifier.units db)
    (hkept : ConfirmedRow db verifier.verification.liveOrderId →
      ConfirmedRow db' verifier.verification.liveOrderId) : Confirming db' verifier where
  confirms := by
    rw [hsum]
    exact h.confirms
  marked hseen := hkept (h.marked hseen)

theorem VerifierKnows.units_eq (h : VerifierKnows history db verifier)
    (hrows : RowsStep db.liveOrders db'.liveOrders) (hordered : RecordedInOrder db'.liveOrders) :
    verifier.units db' = verifier.units db := by
  obtain ⟨row, hget, hfill⟩ := h.fill
  exact hrows.unitsUpToOrder hordered hget hfill

/-- A call that succeeds serves the verifier, whatever sum the database computes. -/
theorem VerifierCall.served_of_succeeded {next : c.Reply → Verifier Unit}
    (hknows : VerifierKnows history db ⟨verification, .request c next, seen⟩)
    (hordered : RecordedInOrder db.liveOrders)
    (hexact : FloatSum.Exact (db.unitsUpToOrder verification.sessionId verification.tokenId
      verification.liveOrderId))
    (h : c.succeeded (db.unitsOn verification.sessionId verification.tokenId).sum
      (c.respond answer db).1) :
    c.served (db.unitsUpToOrder verification.sessionId verification.tokenId
      verification.liveOrderId).sum (c.respond answer db).1 := by
  have hc : c.justified verification seen := hknows.justified.1
  cases c with
  | sleep ms => trivial
  | now => trivial
  | database call => exact h
  | matchedSizeForTokenUpToOrder sessionId tokenId liveOrderId =>
    obtain ⟨rfl, rfl, rfl⟩ := hc
    obtain ⟨row, hget, hfill⟩ := hknows.fill
    obtain ⟨value, hvalue⟩ := h
    unfold respond at hvalue ⊢
    cases herror : answer.databaseError with
    | some error =>
      rw [herror] at hvalue
      cases hvalue
    | none => exact ⟨_, rfl, hordered.onchainExpectedRaw_eq hget hfill hexact answer.sum⟩
  | onchainPosition tokenId =>
    obtain ⟨response, balanceRaw, hreply, hdecimals, hparse, hle⟩ := h
    have hsum := db.units_sum_le verification.sessionId verification.tokenId
      verification.liveOrderId
    exact ⟨response, hreply,
      classifyOnchainRead_eq_ok_iff.mpr ⟨hdecimals, balanceRaw, hparse, hsum.trans hle⟩⟩

theorem ConfirmedRow.runtime (hpermits : world.permits call = true) (failure : Option String)
    (hmem : verifier ∈ world.verifiers)
    (h : ConfirmedRow world.db verifier.verification.liveOrderId) :
    ConfirmedRow (call.execute failure world.db).2 verifier.verification.liveOrderId := by
  rcases call.execute_liveOrders failure world.db with hrows | ⟨order, -, hrows⟩ |
    ⟨id, status, rfl, hrows⟩
  · exact h.same hrows
  · exact h.insert hrows
  · refine h.mark hrows ?_
    intro hid
    simp only [ReconcileWorld.permits, Bool.and_eq_true, Bool.not_eq_true'] at hpermits
    have hverifies : world.verifies id = true :=
      any_eq_true.mpr ⟨verifier, hmem, by simp [hid]⟩
    rw [hpermits.2] at hverifies
    cases hverifies

theorem ConfirmedRow.other (hc : c.justified verification seen) (answer : OnchainAnswer)
    (hother : id ≠ verification.liveOrderId) (h : ConfirmedRow db id) :
    ConfirmedRow (c.respond answer db).2 id := by
  rcases respond_liveOrders hc answer db with hrows | ⟨status, -, hrows⟩
  · exact h.same hrows
  · exact h.mark hrows fun hid => absurd hid hother

theorem ConfirmedRow.own (hc : c.justified verification seen) (hconfirms : c.confirms seen)
    (answer : OnchainAnswer) (h : ConfirmedRow db verification.liveOrderId) :
    ConfirmedRow (c.respond answer db).2 verification.liveOrderId := by
  rcases respond_liveOrders hc answer db with hrows | ⟨status, hcall, hrows⟩
  · exact h.same hrows
  · exact h.mark hrows fun _ => hconfirms.2 _ _ hcall

theorem DatabaseCall.perform_of_execute {failure : Option String} {reply : call.Reply}
    (h : (call.execute failure db).1 = .ok reply) :
    call.perform db = .ok (reply, (call.execute failure db).2) := by
  unfold DatabaseCall.execute at h ⊢
  cases failure with
  | some error => cases h
  | none =>
    cases hperform : call.perform db with
    | error error =>
      rw [hperform] at h
      cases h
    | ok result =>
      rw [hperform] at h
      cases h
      rfl

theorem ConfirmedRow.of_confirmation
    (h : ((database (.setLiveOrderReconcileStatus id .confirmed)).respond answer db).1 = .ok ()) :
    ConfirmedRow ((database (.setLiveOrderReconcileStatus id .confirmed)).respond answer
      db).2 id := by
  have hperform := DatabaseCall.perform_of_execute h
  obtain ⟨db', hset, heq⟩ := ok_of_map hperform
  have hafter : db' = ((database
      (.setLiveOrderReconcileStatus id .confirmed)).respond answer db).2 := congrArg Prod.snd heq
  rw [← hafter]
  unfold setLiveOrderReconcileStatus at hset
  split at hset <;> rename_i hsome
  · cases hset
    obtain ⟨row, hget⟩ := Option.isSome_iff_exists.mp hsome
    refine ⟨{ row with onchainReconcileStatus := some .confirmed }, ?_, rfl⟩
    simp [Table.get?_modify, hget]
  · cases hset

variable {next : c.Reply → Verifier Unit}

/-- The call of a verifier on its way is answered, and it stays on its way. -/
theorem Confirming.advance (h : Confirming world.db ⟨verification, .request c next, seen⟩)
    (hreconciling : Reconciling history world)
    (hknows : VerifierKnows history world.db ⟨verification, .request c next, seen⟩)
    (hexact : FloatSum.Exact (world.db.unitsUpToOrder verification.sessionId verification.tokenId
      verification.liveOrderId)) (answer : OnchainAnswer)
    (hsucceeded : c.succeeded (world.db.unitsOn verification.sessionId verification.tokenId).sum
      (c.respond answer world.db).1)
    (hsum : (c.respond answer world.db).2.unitsUpToOrder verification.sessionId
      verification.tokenId verification.liveOrderId =
        world.db.unitsUpToOrder verification.sessionId verification.tokenId
          verification.liveOrderId) :
    Confirming (c.respond answer world.db).2
      ⟨verification, next (c.respond answer world.db).1,
        seen ++ [⟨c, (c.respond answer world.db).1⟩]⟩ where
  confirms := by
    have hserved := served_of_succeeded hknows hreconciling.ordered hexact hsucceeded
    unfold RunningVerifier.units
    rw [hsum]
    exact h.confirms.2 _ hserved
  marked := by
    intro hseen
    rcases mem_append.mp hseen with hold | hnew
    · exact (h.marked hold).own hknows.justified.1 h.confirms.1 answer
    · obtain ⟨hcall, hreply⟩ := Sigma.mk.inj (mem_singleton.mp hnew)
      dsimp only at hcall
      subst hcall
      exact ConfirmedRow.of_confirmation (eq_of_heq hreply).symm

theorem DatabaseCall.rowsStep (failure : Option String) (call : DatabaseCall) (db : Database) :
    RowsStep db.liveOrders (call.execute failure db).2.liveOrders := by
  rcases call.execute_liveOrders failure db with hrows | ⟨order, -, hrows⟩ |
    ⟨id, status, -, hrows⟩ <;> rw [hrows]
  · exact .same
  · exact .record order
  · exact .mark id status

theorem VerifierCall.rowsStep (hc : c.justified verification seen) (answer : OnchainAnswer)
    (db : Database) : RowsStep db.liveOrders (c.respond answer db).2.liveOrders := by
  rcases respond_liveOrders hc answer db with hrows | ⟨status, -, hrows⟩ <;>
    rw [hrows]
  · exact .same
  · exact .mark verification.liveOrderId status

theorem AllConfirming.runtime (h : AllConfirming history world)
    (hpermits : world.permits call = true) (failure : Option String)
    (hreconciling : Reconciling history { world with db := (call.execute failure world.db).2 }) :
    AllConfirming history { world with db := (call.execute failure world.db).2 } where
  reconciling := hreconciling
  distinct := h.distinct
  confirming := by
    intro verifier hmem hexact
    have hsum := (h.reconciling.verifiers verifier hmem).units_eq
      (call.rowsStep failure world.db) hreconciling.ordered
    rw [hsum] at hexact
    exact (h.confirming verifier hmem hexact).keep hsum (ConfirmedRow.runtime hpermits failure hmem)

/-- A filled order gets its verifier. -/
theorem AllConfirming.spawn (h : AllConfirming history world) {sessionId : ℕ}
    {order : QueuedOrderIntent} {acceptedSize : ℚ} {liveOrderId : ℕ}
    (hnew : world.verifies liveOrderId = false)
    (hspawn : spawnOnchainFillVerification config settings sessionId order acceptedSize
      liveOrderId = some verification)
    (hreconciling : Reconciling history { world with
      verifiers := world.verifiers ++
        [{ verification := verification, program := verifyOnchainFill verification,
           seen := [] }] }) :
    AllConfirming history { world with
      verifiers := world.verifiers ++
        [{ verification := verification, program := verifyOnchainFill verification,
           seen := [] }] } := by
  have hspawned : verification.liveOrderId = liveOrderId ∧ 0 < verification.attempts := by
    unfold spawnOnchainFillVerification at hspawn
    split at hspawn
    · cases hspawn
    · split at hspawn
      · cases hspawn
      · cases hspawn
        exact ⟨rfl, lt_max_of_lt_right Nat.one_pos⟩
  have hothers : ∀ verifier ∈ world.verifiers,
      verifier.verification.liveOrderId ≠ verification.liveOrderId := by
    intro verifier hmem heq
    have hverifies : world.verifies liveOrderId = true :=
      any_eq_true.mpr ⟨verifier, hmem, by simp [heq, hspawned.1]⟩
    rw [hnew] at hverifies
    cases hverifies
  constructor
  · exact hreconciling
  · intro verifier hmem hexact
    rcases mem_append.mp hmem with hold | hlast
    · exact h.confirming verifier hold hexact
    · obtain rfl := mem_singleton.mp hlast
      constructor
      · exact verifyOnchainFill_confirms hspawned.2
      · intro hseen
        cases hseen
  · intro i j verifier other hverifier hother heq
    rw [List.getElem?_append] at hverifier hother
    split at hverifier <;> split at hother
    · exact h.distinct i j verifier other hverifier hother heq
    · obtain rfl := mem_singleton.mp (mem_of_getElem? hother)
      exact absurd heq (hothers verifier (mem_of_getElem? hverifier))
    · obtain rfl := mem_singleton.mp (mem_of_getElem? hverifier)
      exact absurd heq.symm (hothers other (mem_of_getElem? hother))
    · have hi := (List.getElem?_eq_some_iff.mp hverifier).1
      have hj := (List.getElem?_eq_some_iff.mp hother).1
      simp only [length_singleton] at hi hj
      omega

/-- A verifier has its next call answered. -/
theorem AllConfirming.advance (h : AllConfirming history world) {index : ℕ}
    (hverifier : world.verifiers[index]? = some ⟨verification, .request c next, seen⟩)
    (answer : OnchainAnswer)
    (hsucceeded : c.succeeded (world.db.unitsOn verification.sessionId verification.tokenId).sum
      (c.respond answer world.db).1)
    (hreconciling : Reconciling history' (world.answered index verification c next seen answer)) :
    AllConfirming history' (world.answered index verification c next seen answer) := by
  have hmem := mem_of_getElem? hverifier
  have hknows := h.reconciling.verifiers _ hmem
  have hrows := rowsStep hknows.justified.1 answer world.db
  constructor
  · exact hreconciling
  · intro verifier hverifier' hexact
    obtain ⟨j, hj⟩ := mem_iff_getElem?.mp hverifier'
    rw [List.getElem?_set] at hj
    split at hj <;> rename_i hindex
    · split at hj
      · cases hj
        have hsum : (c.respond answer world.db).2.unitsUpToOrder verification.sessionId
            verification.tokenId verification.liveOrderId = _ :=
          hknows.units_eq hrows hreconciling.ordered
        change FloatSum.Exact ((c.respond answer world.db).2.unitsUpToOrder _ _ _) at hexact
        rw [hsum] at hexact
        exact (h.confirming _ hmem hexact).advance h.reconciling hknows hexact answer
          hsucceeded hsum
      · cases hj
    · have hother := mem_of_getElem? hj
      have hsum := (h.reconciling.verifiers verifier hother).units_eq hrows hreconciling.ordered
      rw [hsum] at hexact
      refine (h.confirming verifier hother hexact).keep hsum ?_
      apply ConfirmedRow.other hknows.justified.1 answer
      intro heq
      exact hindex (h.distinct index j _ verifier hverifier hj heq.symm)
  · intro i j first second hfirst hsecond heq
    have hids : ∀ (k : ℕ) (verifier : RunningVerifier),
        (world.answered index verification c next seen answer).verifiers[k]? = some verifier →
        ∃ old, world.verifiers[k]? = some old ∧
          old.verification.liveOrderId = verifier.verification.liveOrderId := by
      intro k verifier hk
      rw [List.getElem?_set] at hk
      split at hk <;> rename_i hindex
      · split at hk
        · cases hk
          subst hindex
          exact ⟨_, hverifier, rfl⟩
        · cases hk
      · exact ⟨verifier, hk, rfl⟩
    obtain ⟨old, hold, hid⟩ := hids i first hfirst
    obtain ⟨old', hold', hid'⟩ := hids j second hsecond
    exact h.distinct i j old old' hold hold' (hid.trans (heq.trans hid'.symm))

/-- While everything succeeds, every verifier stays on its way. -/
theorem AllConfirming.step (h : AllConfirming history world) {action : ReconcileAction}
    {world' : ReconcileWorld} (hstep : world.step config settings action = some world')
    (hrecords : action.recordsFills world) (hsucceeds : action.succeeds world) :
    AllConfirming (history.record world action world') world' := by
  have hreconciling := h.reconciling.step hstep hrecords
  cases action with
  | runtime failure call =>
    obtain ⟨hpermits, rfl⟩ := step_runtime hstep
    exact h.runtime hpermits failure hreconciling
  | spawn sessionId order acceptedSize liveOrderId =>
    obtain ⟨-, hnew, rfl | ⟨verification, hspawn, rfl⟩⟩ := step_spawn hstep
    · exact h
    · exact h.spawn hnew hspawn hreconciling
  | advance index answer =>
    obtain ⟨verification, c, next, seen, hverifier, rfl⟩ := step_advance hstep
    unfold ReconcileAction.succeeds at hsucceeds
    dsimp only at hsucceeds
    rw [hverifier] at hsucceeds
    exact h.advance hverifier answer hsucceeds hreconciling

theorem allConfirming_run
    (hrun : (reconcileSystem config settings).Run
      (fun _ world action _ => action.recordsFills world ∧ action.succeeds world)
      (.start, .start) history world) : AllConfirming history world := by
  refine hrun.invariant AllConfirming ⟨reconciling_start, ?_, ?_⟩ fun _ _ _ _ h hstep hmeets =>
    h.step hstep hmeets.1 hmeets.2
  · intro verifier hverifier
    cases hverifier
  · intro i j verifier other hverifier
    cases hverifier

end Succeeding

/-! ## Soundness -/

variable {db : Database} {id : ℕ} {row : LiveOrder} {verifier : RunningVerifier}
variable {world : ReconcileWorld} {action : ReconcileAction}

theorem Confirming.ends (h : Confirming db verifier) :
    (verifier.seen.length < 6 ∧ verifier.program.pending?.isSome = true) ∨
      (verifier.seen.length = 6 ∧ verifier.program.pending? = none ∧
        ConfirmedRow db verifier.verification.liveOrderId) := by
  have htrace := h.confirms
  have hmarked := h.marked
  rcases verifier with ⟨verification, program, seen⟩
  cases program with
  | pure value => exact .inr ⟨htrace.1, rfl, hmarked htrace.2⟩
  | request c next => exact .inl ⟨htrace.1.1, rfl⟩

theorem unconfirmed_refused (hget : db.liveOrders.get? id = some row)
    (hfilled : isFilled row = true) (hstatus : row.onchainReconcileStatus ≠ some .confirmed) :
    0 < db.unconfirmedOnchainFillCount true ∧
      ∀ (config : Config) (oracle : ℕ → Answer) (exchanges : List Exchange), ∃ error,
        (Live.run (ensureLiveBootstrapClean config).run oracle ⟨db, exchanges⟩).1 =
          .error error := by
  constructor
  · apply Table.count_pos_iff.mpr
    refine ⟨id, row, hget, ?_⟩
    cases hmarker : row.onchainReconcileStatus with
    | none => simp [hfilled]
    | some status =>
      rw [hmarker] at hstatus
      have hne : status ≠ .confirmed := fun heq => hstatus (congrArg some heq)
      simp [hfilled, hne]
  · intro config oracle exchanges
    have htrace : VenueTrace db := .inl ⟨id, row, hget⟩
    exact (ensureLiveBootstrapClean_sat config htrace).run fun _ => trivial

/-- In every run whose fills are whole units recorded in the order of their times: if a fill of a
token never settles and no balance read exceeds the fills that do, and the fills of the token add
exactly, some order of the token is never set out to be confirmed, so that no live session starts on
the database. If moreover every call succeeds and every fill has settled at every read, a verifier
whose fills add exactly makes six calls and its order is confirmed. -/
theorem onchain_reconciliation_sound (config : Config) (settings : OnchainReconcileSettings) :
    (∀ history world, (reconcileSystem config settings).Run
        (fun _ world action _ => action.recordsFills world) (.start, .start) history world →
      ∀ (settled : ℕ → Bool) (sessionId : ℕ) (tokenId : String),
      FloatSum.Exact (world.db.unitsOn sessionId tokenId) →
      (∀ balanceRaw, (⟨sessionId, tokenId, balanceRaw⟩ : BalanceRead) ∈ history.reads →
        balanceRaw ≤ world.db.settledOn settled sessionId tokenId) →
      ∀ id row, world.db.liveOrders.get? id = some row →
      Database.isFillOn sessionId tokenId row = true → settled id = false →
      (∃ last row', world.db.liveOrders.get? last = some row' ∧
        Database.isFillOn sessionId tokenId row' = true ∧ last ∉ history.confirming ∧
        row'.onchainReconcileStatus ≠ some .confirmed) ∧
      0 < world.db.unconfirmedOnchainFillCount true ∧
      ∀ (config : Config) (oracle : ℕ → Answer) (exchanges : List Exchange), ∃ error,
        (Live.run (ensureLiveBootstrapClean config).run oracle ⟨world.db, exchanges⟩).1 =
          .error error) ∧
    ∀ history world, (reconcileSystem config settings).Run
        (fun _ world action _ => action.recordsFills world ∧ action.succeeds world)
        (.start, .start) history world →
      ∀ verifier ∈ world.verifiers, FloatSum.Exact (verifier.units world.db) →
      (verifier.seen.length < 6 ∧ verifier.program.pending?.isSome = true) ∨
        (verifier.seen.length = 6 ∧ verifier.program.pending? = none ∧
          ConfirmedRow world.db verifier.verification.liveOrderId) := by
  constructor
  · intro history world hrun settled sessionId tokenId hexact hbalance id row hget hfill hphantom
    have hreconciling := reconciling_run (fun _ _ _ _ h => h) hrun
    obtain ⟨last, row', hget', hfill', hlast, hstatus⟩ :=
      hreconciling.last_unconfirmed hexact hbalance hget hfill hphantom
    have hfilled := Database.isFilled_of_isFillOn hfill'
    exact ⟨⟨last, row', hget', hfill', hlast, hstatus⟩, unconfirmed_refused hget' hfilled hstatus⟩
  · intro history world hrun verifier hmem hexact
    exact ((allConfirming_run hrun).confirming verifier hmem hexact).ends

/-! ### Sample runs -/

/-- Whether an order records its fill as it should, as a test. -/
def checkOrder (world : ReconcileWorld) (order : LiveOrder) : Bool :=
  decide (filledSize order = Double.roundDouble (rawUnits order / 1000000)) &&
    world.db.liveOrders.rows.all fun entry => decide (entry.2.createdAtMs ≤ order.createdAtMs)

theorem RecordsFills.of_check {order : LiveOrder} (h : checkOrder world order = true) :
    RecordsFills world order := by
  obtain ⟨hsize, hcreated⟩ := Bool.and_eq_true_iff.mp h
  constructor
  · exact fun _ => ⟨rawUnits order, of_decide_eq_true hsize⟩
  · intro _ id row hget _ _ _
    have hentry := all_eq_true.mp hcreated (id, row) (Table.get?_eq_some_iff.mp hget)
    exact of_decide_eq_true hentry

/-- Whether an action records fills as it should, as a test. -/
def checkRecords (world : ReconcileWorld) : ReconcileAction → Bool
  | .runtime _ (.logLiveOrder order) => checkOrder world order
  | _ => true

theorem ReconcileAction.recordsFills_of_check (h : checkRecords world action = true) :
    action.recordsFills world := by
  unfold ReconcileAction.recordsFills
  split
  · exact RecordsFills.of_check h
  · trivial

/-- Whether a call succeeds, as a test. -/
def checkReply (fills : ℕ) : (c : VerifierCall) → c.Reply → Bool
  | .sleep _, _ | .now, _ => true
  | .database _, reply => reply.isOk
  | .matchedSizeForTokenUpToOrder .., reply => reply.isOk
  | .onchainPosition _, .ok response =>
    response.collateralDecimals == 6 &&
      (parseOnchainBalanceRaw response.balanceRaw).any fun balanceRaw =>
        decide (fills ≤ balanceRaw)
  | .onchainPosition _, .error _ => false

theorem VerifierCall.succeeded_of_check {fills : ℕ} {c : VerifierCall} {reply : c.Reply}
    (h : checkReply fills c reply = true) : c.succeeded fills reply := by
  cases c with
  | sleep ms => trivial
  | now => trivial
  | database call | matchedSizeForTokenUpToOrder sessionId tokenId liveOrderId =>
    cases reply with
    | error error => cases h
    | ok value => exact ⟨value, rfl⟩
  | onchainPosition tokenId =>
    cases reply with
    | error error => cases h
    | ok response =>
      obtain ⟨hdecimals, hbalance⟩ := Bool.and_eq_true_iff.mp h
      obtain ⟨balanceRaw, hparse, hle⟩ := (Option.any_eq_true _ _).mp hbalance
      exact ⟨response, balanceRaw, rfl, beq_iff_eq.mp hdecimals, hparse, of_decide_eq_true hle⟩

def checkSucceeds (world : ReconcileWorld) : ReconcileAction → Bool
  | .advance index answer =>
    match world.verifiers[index]? with
    | some ⟨verification, .request c _, _⟩ =>
      checkReply (world.db.unitsOn verification.sessionId verification.tokenId).sum c
        (c.respond answer world.db).1
    | _ => true
  | _ => true

theorem ReconcileAction.succeeds_of_check (h : checkSucceeds world action = true) :
    action.succeeds world := by
  unfold checkSucceeds at h
  unfold ReconcileAction.succeeds
  cases action with
  | advance index answer =>
    dsimp only at h ⊢
    split
    · rename_i hverifier
      rw [hverifier] at h
      exact succeeded_of_check h
    · trivial
  | _ => trivial

theorem ReconcileAction.meets_of_check
    (h : (checkRecords world action && checkSucceeds world action) = true) :
    action.recordsFills world ∧ action.succeeds world :=
  ⟨recordsFills_of_check (Bool.and_eq_true_iff.mp h).1,
    succeeds_of_check (Bool.and_eq_true_iff.mp h).2⟩

def sampleFillRow (intentId : ℕ) (acceptedSize : ℚ) : LiveOrder where
  sessionId := 1
  intentId := intentId
  venueOrderId := some "venue-order"
  marketId := "market"
  tokenId := some "token"
  side := "BUY"
  orderType := "FOK"
  status := "matched"
  createdAtMs := 1000
  acknowledgedAtMs := some 1000
  updatedAtMs := 1000
  requestedPrice := some (1 / 2)
  limitPrice := some (1 / 2)
  requestedSize := some acceptedSize
  acceptedSize := some acceptedSize

def sampleReconcileConfig : Config :=
  { sampleConfig with liveOnchainReconcile := true }

def sampleSettings : OnchainReconcileSettings where
  liveOnchainReconcileGraceMs := 1000
  liveOnchainReconcileRetryIntervalMs := 1000
  liveOnchainReconcileMaxAttempts := 1

def sampleChain : OnchainAnswer where
  databaseError := none
  sum := .leftToRight
  onchainPosition := .ok
    { tokenId := "token", account := "wallet", balanceRaw := "10000000", collateralDecimals := 6 }
  now := 2000

def sampleFilledActions (intentId : ℕ) (acceptedSize : ℚ) : List ReconcileAction :=
  [.runtime none (.logLiveOrder (sampleFillRow intentId acceptedSize)),
    .spawn 1 (sampleOrder 1 .up) acceptedSize intentId]

/-- A settled fill that no 64-bit amount holds is marked failed, although every call succeeds. -/
theorem oversized_fill_unconfirmed :
    ∃ history world, (reconcileSystem sampleReconcileConfig sampleSettings).Run
        (fun _ world action _ => action.recordsFills world ∧ action.succeeds world)
        (.start, .start) history world ∧
      ∃ verifier ∈ world.verifiers, verifier.program.pending? = none ∧
        ¬ ConfirmedRow world.db verifier.verification.liveOrderId := by
  have hfollow : (System.follow (reconcileSystem sampleReconcileConfig sampleSettings)
      (fun _ world action _ => checkRecords world action && checkSucceeds world action)
      (sampleFilledActions 1 20000000000000 ++ List.replicate 8 (.advance 0 sampleChain))
      (.start, .start)).any (fun x => x.2.verifiers.any fun verifier =>
        verifier.program.pending?.isNone &&
          !(x.2.db.liveOrders.get? verifier.verification.liveOrderId).any fun row =>
            row.onchainReconcileStatus == some .confirmed) = true := by
    decide +kernel
  obtain ⟨history, world, hrun, hend⟩ :=
    System.exists_run_of_follow hfollow fun _ _ _ _ => ReconcileAction.meets_of_check
  obtain ⟨verifier, hmem, hverifier⟩ := any_eq_true.mp hend
  obtain ⟨hended, hunconfirmed⟩ := Bool.and_eq_true_iff.mp hverifier
  refine ⟨history, world, hrun, verifier, hmem, Option.isNone_iff_eq_none.mp hended, ?_⟩
  rintro ⟨row, hget, hstatus⟩
  rw [hget] at hunconfirmed
  simp [hstatus] at hunconfirmed

/-- The first of two fills never settles, and its order is confirmed by the balance of the second;
the order of the second stays unconfirmed. A fill that settles is confirmed. -/
theorem onchain_reconciliation_sound_sample :
    (∃ history world, (reconcileSystem sampleReconcileConfig sampleSettings).Run
        (fun _ world action _ => action.recordsFills world) (.start, .start) history world ∧
      1 ∈ history.confirming ∧ 0 < world.db.unconfirmedOnchainFillCount true) ∧
    ∃ history world, (reconcileSystem sampleReconcileConfig sampleSettings).Run
        (fun _ world action _ => action.recordsFills world ∧ action.succeeds world)
        (.start, .start) history world ∧
      ∃ verifier ∈ world.verifiers, ConfirmedRow world.db verifier.verification.liveOrderId := by
  constructor
  · have hfollow : (System.follow (reconcileSystem sampleReconcileConfig sampleSettings)
        (fun _ world action _ => checkRecords world action)
        (sampleFilledActions 1 10 ++ sampleFilledActions 2 10 ++
          List.replicate 6 (.advance 0 sampleChain) ++ List.replicate 4 (.advance 1 sampleChain))
        (.start, .start)).any (fun x =>
          (x.1.reads.all fun read =>
            decide (read.balanceRaw ≤ x.2.db.settledOn (· == 2) 1 "token")) &&
          decide (FloatSum.Exact (x.2.db.unitsOn 1 "token")) &&
          (x.2.db.liveOrders.get? 1).any (Database.isFillOn 1 "token") &&
          x.1.confirming.contains 1) = true := by
      decide +kernel
    obtain ⟨history, world, hrun, hend⟩ := System.exists_run_of_follow hfollow fun _ _ _ _ =>
      ReconcileAction.recordsFills_of_check
    simp only [Bool.and_eq_true] at hend
    obtain ⟨⟨⟨hreads, hexact⟩, hrow⟩, hconfirming⟩ := hend
    obtain ⟨row, hget, hfill⟩ := (Option.any_eq_true _ _).mp hrow
    refine ⟨history, world, hrun, contains_iff_mem.mp hconfirming, ?_⟩
    have hsound := (onchain_reconciliation_sound sampleReconcileConfig sampleSettings).1 history
      world hrun (· == 2) 1 "token" (of_decide_eq_true hexact)
      (fun balanceRaw hread => of_decide_eq_true (all_eq_true.mp hreads _ hread))
      1 row hget hfill rfl
    exact hsound.2.1
  · have hfollow : (System.follow (reconcileSystem sampleReconcileConfig sampleSettings)
        (fun _ world action _ => checkRecords world action && checkSucceeds world action)
        (sampleFilledActions 1 10 ++ List.replicate 6 (.advance 0 sampleChain))
        (.start, .start)).any (fun x => x.2.verifiers.any fun verifier =>
          decide (FloatSum.Exact (verifier.units x.2.db)) &&
            verifier.program.pending?.isNone) = true := by
      decide +kernel
    obtain ⟨history, world, hrun, hend⟩ :=
      System.exists_run_of_follow hfollow fun _ _ _ _ => ReconcileAction.meets_of_check
    obtain ⟨verifier, hmem, hverifier⟩ := any_eq_true.mp hend
    obtain ⟨hbound, hended⟩ := Bool.and_eq_true_iff.mp hverifier
    refine ⟨history, world, hrun, verifier, hmem, ?_⟩
    rcases (onchain_reconciliation_sound sampleReconcileConfig sampleSettings).2 history world hrun
      verifier hmem (of_decide_eq_true hbound) with ⟨-, hpending⟩ | ⟨-, -, hconfirmed⟩
    · rw [Option.isNone_iff_eq_none.mp hended] at hpending
      cases hpending
    · exact hconfirmed

end BubaPaint
