import BubaPaint.Dashboard.ArtifactTransfers
import BubaPaint.Library.Runs

/-!
# What happens to a transfer

The rows of the transfers move one by one. A terminal status lasts under every status update, the
bytes done only grow, and only an operator starts them again.

Main results:

- Theorem `transfer_decisions`: what the rows keep in every run, and which updates they accept.
-/

namespace BubaPaint

open Effects List ArtifactTransferStatus

/-! ## Status updates -/

/-- A row accepts a status update and becomes another one: a terminal row keeps its status, the
bytes done do not decrease nor exceed the total, a completed transfer is verified, and the numbers
can be stored. -/
structure TransferProgress.Moves (progress : TransferProgress) (now : ℕ)
    (before after : ArtifactTransfer) : Prop where
  status : validateTransferStatus progress.status = .ok after.status
  checked : ∃ checksumStatus,
    progress.checksumStatus.mapM validateTransferChecksumStatus = .ok checksumStatus ∧
      (after.status = .completed → checksumStatus = some .verified) ∧
        after.checksumStatus = checksumStatus.or before.checksumStatus
  error : progress.error.any isBlank = false
  terminal : before.status.IsTerminal → before.status = after.status
  positive : after.bytesTotal ≠ some 0
  grows : before.bytesDone ≤ after.bytesDone
  bounded : ∀ total, after.bytesTotal = some total → after.bytesDone ≤ total
  storable : (∀ total, after.bytesTotal = some total → total < 2 ^ 63) ∧
    after.bytesDone < 2 ^ 63 ∧ now < 2 ^ 63
  written : after =
    { before with
      status := after.status
      bytesTotal := progress.bytesTotal.or before.bytesTotal
      bytesDone := progress.bytesDone.getD before.bytesDone
      checksumStatus := after.checksumStatus
      error := progress.error
      updatedAt := now
      completedAt := if after.status = .completed then some now else before.completedAt }

theorem sqlInteger_eq_ok_iff {value stored : ℕ} :
    sqlInteger value = .ok stored ↔ value < 2 ^ 63 ∧ stored = value := by
  unfold sqlInteger
  rw [require_eq_ok_iff, Except.ok.injEq, eq_comm (a := value)]

theorem mapM_sqlInteger_eq_ok_iff {value stored : Option ℕ} :
    value.mapM sqlInteger = .ok stored ↔ (∀ n, value = some n → n < 2 ^ 63) ∧ stored = value := by
  cases value with
  | none =>
    constructor
    · intro h
      cases h
      exact ⟨fun _ hn => absurd hn.symm (Option.some_ne_none _), rfl⟩
    · rintro ⟨-, rfl⟩
      rfl
  | some n =>
    have hmap : (some n).mapM sqlInteger = sqlInteger n >>= fun stored => .ok (some stored) := by
      rfl
    rw [hmap, bind_eq_ok_iff]
    constructor
    · rintro ⟨m, hm, h⟩
      rcases sqlInteger_eq_ok_iff.mp hm with ⟨hbound, rfl⟩
      cases h
      refine ⟨fun k hk => ?_, rfl⟩
      cases hk
      exact hbound
    · rintro ⟨hbound, rfl⟩
      exact ⟨n, sqlInteger_eq_ok_iff.mpr ⟨hbound n rfl, rfl⟩, rfl⟩

namespace TransferStore

variable {store store' : TransferStore}
variable {id : String} {before after : ArtifactTransfer} {progress : TransferProgress} {now : ℕ}

theorem queryArtifactTransfer_eq_ok_iff {transfer : ArtifactTransfer} :
    store.queryArtifactTransfer id = .ok transfer ↔
      transfer ∈ store.transfers.rows ∧ transfer.id = id := by
  unfold queryArtifactTransfer
  rw [← KeyedTable.find?_eq_some_iff]
  cases store.transfers.find? id with
  | none => simp
  | some found => simp

theorem reply_update {f : ArtifactTransfer → ArtifactTransfer}
    {hf : ∀ transfer, (f transfer).id = transfer.id} (hmem : before ∈ store.transfers.rows)
    (hid : before.id = id) (hafter : f before = after) :
    (store.updateTransfers (fun transfer => transfer.id = id) f hf).reply id =
      .ok (after, store.updateTransfers (fun transfer => transfer.id = id) f hf) := by
  have hrow : after ∈ (store.updateTransfers (fun transfer => transfer.id = id) f
      hf).transfers.rows := by
    refine mem_map.mpr ⟨before, hmem, ?_⟩
    simp [hid, hafter]
  have hquery : (store.updateTransfers (fun transfer => transfer.id = id) f
      hf).queryArtifactTransfer id = .ok after :=
    queryArtifactTransfer_eq_ok_iff.mpr ⟨hrow, by rw [← hafter, hf, hid]⟩
  unfold reply
  rw [hquery]
  rfl

theorem reply_eq_ok (h : store.reply id = .ok (after, store')) :
    store' = store ∧ after ∈ store'.transfers.rows ∧ after.id = id := by
  unfold reply at h
  cases hquery : store.queryArtifactTransfer id with
  | error error =>
    rw [hquery] at h
    cases h
  | ok transfer =>
    rw [hquery] at h
    cases h
    exact ⟨rfl, queryArtifactTransfer_eq_ok_iff.mp hquery⟩

theorem updateArtifactTransferProgress_eq_ok
    (h : store.updateArtifactTransferProgress id progress now = .ok (after, store')) :
    ∃ (before : ArtifactTransfer) (f : ArtifactTransfer → ArtifactTransfer)
      (hf : ∀ transfer, (f transfer).id = transfer.id),
      store.queryArtifactTransfer id = .ok before ∧ progress.Moves now before (f before) ∧
        (store.updateTransfers (fun transfer => transfer.id = id) f hf).reply id =
          .ok (after, store') := by
  rcases ok_of_bind h with ⟨status, hstatus, h⟩
  rcases ok_of_bind h with ⟨checksumStatus, hchecksum, h⟩
  rcases ok_of_refuse h with ⟨herror, h⟩
  rcases ok_of_bind h with ⟨before, hquery, h⟩
  rcases ok_of_refuse h with ⟨hterminal, h⟩
  rcases ok_of_refuse h with ⟨hpositive, h⟩
  rcases ok_of_refuse h with ⟨hgrows, h⟩
  rcases ok_of_refuse h with ⟨hbounded, h⟩
  rcases ok_of_refuse h with ⟨hverified, h⟩
  rcases ok_of_bind h with ⟨total, htotal, h⟩
  rcases ok_of_bind h with ⟨done, hdone, h⟩
  rcases ok_of_bind h with ⟨time, htime, h⟩
  rcases mapM_sqlInteger_eq_ok_iff.mp htotal with ⟨htotalBound, rfl⟩
  rcases sqlInteger_eq_ok_iff.mp hdone with ⟨hdoneBound, rfl⟩
  rcases sqlInteger_eq_ok_iff.mp htime with ⟨htimeBound, rfl⟩
  refine ⟨before, _, _, hquery, ?_, h⟩
  push Not at hterminal hverified
  exact
    { status := hstatus
      checked := ⟨checksumStatus, hchecksum, hverified, rfl⟩
      error := by simpa using herror
      terminal := hterminal
      positive := hpositive
      grows := Nat.le_of_not_lt hgrows
      bounded := by
        intro bound hbound
        simp only at hbound
        simpa [hbound] using hbounded
      storable := ⟨htotalBound, hdoneBound, htimeBound⟩
      written := rfl }

/-- A status update is accepted exactly when it fits the row. -/
theorem updateArtifactTransferProgress_eq_ok_iff (hmem : before ∈ store.transfers.rows)
    (hid : before.id = id) :
    (∃ store', store.updateArtifactTransferProgress id progress now = .ok (after, store')) ↔
      progress.Moves now before after := by
  have hquery : store.queryArtifactTransfer id = .ok before :=
    queryArtifactTransfer_eq_ok_iff.mpr ⟨hmem, hid⟩
  constructor
  · rintro ⟨store', h⟩
    rcases updateArtifactTransferProgress_eq_ok h with ⟨existing, f, hf, hexisting, hmoves, hreply⟩
    rw [hquery] at hexisting
    cases hexisting
    rw [reply_update hmem hid rfl] at hreply
    cases hreply
    exact hmoves
  · intro hmoves
    rcases hmoves.checked with ⟨checksumStatus, hchecksum, hverified, hstored⟩
    have hwritten := hmoves.written
    have hbytesTotal : after.bytesTotal = progress.bytesTotal.or before.bytesTotal :=
      congrArg ArtifactTransfer.bytesTotal hwritten
    have hbytesDone : after.bytesDone = progress.bytesDone.getD before.bytesDone :=
      congrArg ArtifactTransfer.bytesDone hwritten
    rcases hmoves.storable with ⟨htotalBound, hdoneBound, htimeBound⟩
    have hpositive := hmoves.positive
    have hgrows := hmoves.grows
    have hbounded := hmoves.bounded
    rw [hbytesTotal] at htotalBound hpositive hbounded
    rw [hbytesDone] at hdoneBound hgrows hbounded
    apply Exists.intro
    refine bind_eq_ok_iff.mpr ⟨after.status, hmoves.status, ?_⟩
    refine bind_eq_ok_iff.mpr ⟨checksumStatus, hchecksum, ?_⟩
    refine refuse_eq_ok_iff.mpr ⟨by simp [hmoves.error], ?_⟩
    refine bind_eq_ok_iff.mpr ⟨before, hquery, ?_⟩
    refine refuse_eq_ok_iff.mpr ⟨fun hboth => hboth.2 (hmoves.terminal hboth.1), ?_⟩
    refine refuse_eq_ok_iff.mpr ⟨hpositive, ?_⟩
    refine refuse_eq_ok_iff.mpr ⟨Nat.not_lt.mpr hgrows, ?_⟩
    refine refuse_eq_ok_iff.mpr ⟨?_, ?_⟩
    · cases htotal : progress.bytesTotal.or before.bytesTotal with
      | none => simp
      | some total => simpa using hbounded total htotal
    refine refuse_eq_ok_iff.mpr ⟨fun hboth => hboth.2 (hverified hboth.1), ?_⟩
    refine bind_eq_ok_iff.mpr ⟨_, mapM_sqlInteger_eq_ok_iff.mpr ⟨htotalBound, rfl⟩, ?_⟩
    refine bind_eq_ok_iff.mpr ⟨_, sqlInteger_eq_ok_iff.mpr ⟨hdoneBound, rfl⟩, ?_⟩
    refine bind_eq_ok_iff.mpr ⟨_, sqlInteger_eq_ok_iff.mpr ⟨htimeBound, rfl⟩, ?_⟩
    refine reply_update hmem hid ?_
    rw [hwritten, hstored]

end TransferStore

/-! ## Moves -/

namespace TransferAction

/-- The operation creates or deletes a transfer. -/
def ChangesRows : TransferAction → Prop
  | .createArtifactTransfer .. | .deleteArtifactTransfer _ => True
  | _ => False

/-- An operator starts the bytes of the transfer again, or deletes it. -/
def Restarts (id : String) : TransferAction → Prop
  | .retryArtifactTransfer transferId resume _ => transferId = id ∧ resume = false
  | .deleteArtifactTransfer transferId => transferId = id
  | _ => False

/-- An operator retries or deletes the transfer. -/
def Requeues (id : String) : TransferAction → Prop
  | .retryArtifactTransfer transferId _ _ | .deleteArtifactTransfer transferId => transferId = id
  | _ => False

/-- An operator resumes or cancels the transfer. -/
def Releases (id : String) : TransferAction → Prop
  | .resumeArtifactTransfer transferId _ | .cancelArtifactTransfer transferId _ => transferId = id
  | _ => False

/-- A worker sends a status update of the transfer. -/
def Updates (id : String) : TransferAction → Prop
  | .updateArtifactTransferProgress _ transferId _ _ => transferId = id
  | _ => False

end TransferAction

/-- How an operation moves a row. -/
inductive TransferMove : TransferAction → ArtifactTransfer → ArtifactTransfer → Prop
  | stay (action : TransferAction) (row : ArtifactTransfer) : TransferMove action row row
  | claim {workerId destMachineId : String} {now : ℕ} {before after : ArtifactTransfer}
      (hstatus : before.status ∈ [queued, .retryable])
      (hafter : after =
        { before with
          status := .running, checksumStatus := some .pending, error := none, updatedAt := now }) :
      TransferMove (.claimNextArtifactTransfer workerId destMachineId now) before after
  | recover {destMachineId : String} {staleAfterMs now : ℕ} {before after : ArtifactTransfer}
      (hstatus : before.status = .running) (hafter : after.status = .retryable)
      (hbytes : after.bytesDone = before.bytesDone ∧ after.bytesTotal = before.bytesTotal) :
      TransferMove (.recoverStaleArtifactTransfers destMachineId staleAfterMs now) before after
  | update {sender : Option String} {progress : TransferProgress} {now : ℕ}
      {before after : ArtifactTransfer} (hmoves : progress.Moves now before after) :
      TransferMove (.updateArtifactTransferProgress sender before.id progress now) before after
  | cancel {now : ℕ} {before after : ArtifactTransfer} (hstatus : ¬ before.status.IsTerminal)
      (hafter : after =
        { before with status := .cancelled, updatedAt := now, completedAt := none }) :
      TransferMove (.cancelArtifactTransfer before.id now) before after
  | pause {now : ℕ} {before after : ArtifactTransfer}
      (hstatus : before.status ∈ [queued, .running, .retryable])
      (hafter : after = { before with status := .paused, updatedAt := now, completedAt := none }) :
      TransferMove (.pauseArtifactTransfer before.id now) before after
  | resume {now : ℕ} {before after : ArtifactTransfer} (hstatus : before.status = .paused)
      (hafter : after =
        { before with
          status := .queued, checksumStatus := none, error := none, updatedAt := now,
          completedAt := none }) :
      TransferMove (.resumeArtifactTransfer before.id now) before after
  | retry {resume : Bool} {now : ℕ} {before after : ArtifactTransfer}
      (hstatus : before.status ∈ [failed, .retryable, .cancelled])
      (hafter : after =
        { before with
          status := .queued, bytesDone := if resume then before.bytesDone else 0,
          checksumStatus := none, error := none, updatedAt := now, completedAt := none }) :
      TransferMove (.retryArtifactTransfer before.id resume now) before after

namespace TransferStore

variable {store store' : TransferStore}

/-- Every row moves to a row of the new store, and none is left out or added. -/
structure MovesBy (store store' : TransferStore) (action : TransferAction) : Prop where
  forward : ∀ before ∈ store.transfers.rows, ∃ after ∈ store'.transfers.rows,
    after.id = before.id ∧ TransferMove action before after
  backward : ∀ after ∈ store'.transfers.rows, ∃ before ∈ store.transfers.rows,
    after.id = before.id ∧ TransferMove action before after

variable {action : TransferAction} {replied : ArtifactTransfer} {id destMachineId : String}
variable {now : ℕ}

theorem movesBy_refl (action : TransferAction) : store.MovesBy store action where
  forward := fun row hrow => ⟨row, hrow, rfl, .stay action row⟩
  backward := fun row hrow => ⟨row, hrow, rfl, .stay action row⟩

variable {f : ArtifactTransfer → ArtifactTransfer}

theorem movesBy_update {p : ArtifactTransfer → Bool}
    {hf : ∀ transfer, (f transfer).id = transfer.id}
    (hmoves : ∀ row ∈ store.transfers.rows, p row = true → TransferMove action row (f row)) :
    store.MovesBy (store.updateTransfers p f hf) action := by
  have hmove : ∀ row ∈ store.transfers.rows, (if p row = true then f row else row).id = row.id ∧
      TransferMove action row (if p row = true then f row else row) := by
    intro row hrow
    by_cases hp : p row = true
    · rw [if_pos hp]
      exact ⟨hf row, hmoves row hrow hp⟩
    · rw [if_neg hp]
      exact ⟨rfl, .stay action row⟩
  constructor
  · exact fun row hrow => ⟨_, mem_map_of_mem hrow, hmove row hrow⟩
  · intro after hafter
    rcases mem_map.mp hafter with ⟨row, hrow, rfl⟩
    exact ⟨row, hrow, hmove row hrow⟩

theorem movesBy_reply {existing : ArtifactTransfer} {hf : ∀ transfer, (f transfer).id = transfer.id}
    (hexisting : store.queryArtifactTransfer id = .ok existing)
    (h : (store.updateTransfers (fun transfer => transfer.id = id) f hf).reply id =
      .ok (replied, store')) (hmove : TransferMove action existing (f existing)) :
    store.MovesBy store' action := by
  rw [(reply_eq_ok h).1]
  refine movesBy_update fun row hrow hp => ?_
  rcases queryArtifactTransfer_eq_ok_iff.mp hexisting with ⟨hmem, hid⟩
  rw [KeyedTable.eq_of_key hrow hmem ((of_decide_eq_true hp).trans hid.symm)]
  exact hmove

theorem claimNextArtifactTransfer_eq_ok {workerId : String} {replied : Option ArtifactTransfer}
    (h : store.claimNextArtifactTransfer destMachineId now = .ok (replied, store')) :
    store.MovesBy store' (.claimNextArtifactTransfer workerId destMachineId now) := by
  rcases ok_of_refuse h with ⟨-, h⟩
  rcases ok_of_bind h with ⟨accepts, -, h⟩
  split at h
  · cases h
    exact movesBy_refl _
  split at h
  · cases h
    exact movesBy_refl _
  · rename_i oldest _
    rcases ok_of_bind h with ⟨time, htime, h⟩
    rw [(sqlInteger_eq_ok_iff.mp htime).2] at h
    dsimp only at h
    cases hreply : (store.updateTransfers
        (fun transfer => transfer.id = oldest.id && transfer.status ∈ [.queued, .retryable])
        fun transfer =>
          { transfer with
            status := .running
            checksumStatus := some .pending
            error := none
            updatedAt := now }).reply oldest.id with
    | error error =>
      rw [hreply] at h
      cases h
    | ok outcome =>
      rw [hreply] at h
      cases h
      rw [(reply_eq_ok hreply).1]
      refine movesBy_update fun row _ hp => ?_
      simp only [Bool.and_eq_true, decide_eq_true_eq] at hp
      exact .claim hp.2 rfl

theorem recoverStaleArtifactTransfers_eq_ok {staleAfterMs count : ℕ}
    (h : store.recoverStaleArtifactTransfers destMachineId staleAfterMs now =
      .ok (count, store')) :
    store.MovesBy store' (.recoverStaleArtifactTransfers destMachineId staleAfterMs now) := by
  rcases ok_of_refuse h with ⟨-, h⟩
  rcases ok_of_bind h with ⟨cutoff, -, h⟩
  rcases ok_of_bind h with ⟨time, -, h⟩
  cases h
  refine movesBy_update fun row _ hp => ?_
  simp only [Bool.and_eq_true, decide_eq_true_eq] at hp
  exact .recover hp.1.1 rfl ⟨rfl, rfl⟩

theorem updateArtifactTransferProgress_moves {sender : Option String} {progress : TransferProgress}
    (h : store.updateArtifactTransferProgress id progress now = .ok (replied, store')) :
    store.MovesBy store' (.updateArtifactTransferProgress sender id progress now) := by
  rcases updateArtifactTransferProgress_eq_ok h with ⟨existing, f, hf, hexisting, hmoves, hreply⟩
  rcases queryArtifactTransfer_eq_ok_iff.mp hexisting with ⟨-, rfl⟩
  exact movesBy_reply hexisting hreply (.update hmoves)

theorem cancelArtifactTransfer_moves
    (h : store.cancelArtifactTransfer id now = .ok (replied, store')) :
    store.MovesBy store' (.cancelArtifactTransfer id now) := by
  rcases ok_of_bind h with ⟨existing, hexisting, h⟩
  rcases queryArtifactTransfer_eq_ok_iff.mp hexisting with ⟨-, rfl⟩
  rcases ok_of_refuse h with ⟨hstatus, h⟩
  rcases ok_of_bind h with ⟨time, htime, h⟩
  rw [(sqlInteger_eq_ok_iff.mp htime).2] at h
  exact movesBy_reply hexisting h (.cancel hstatus rfl)

theorem pauseArtifactTransfer_moves
    (h : store.pauseArtifactTransfer id now = .ok (replied, store')) :
    store.MovesBy store' (.pauseArtifactTransfer id now) := by
  rcases ok_of_bind h with ⟨existing, hexisting, h⟩
  rcases queryArtifactTransfer_eq_ok_iff.mp hexisting with ⟨-, rfl⟩
  split at h
  · cases h
    exact movesBy_refl _
  · rcases ok_of_refuse h with ⟨hstatus, h⟩
    rcases ok_of_bind h with ⟨time, htime, h⟩
    rw [(sqlInteger_eq_ok_iff.mp htime).2] at h
    exact movesBy_reply hexisting h (.pause (not_not.mp hstatus) rfl)

theorem resumeArtifactTransfer_moves
    (h : store.resumeArtifactTransfer id now = .ok (replied, store')) :
    store.MovesBy store' (.resumeArtifactTransfer id now) := by
  rcases ok_of_bind h with ⟨existing, hexisting, h⟩
  rcases queryArtifactTransfer_eq_ok_iff.mp hexisting with ⟨-, rfl⟩
  rcases ok_of_refuse h with ⟨hstatus, h⟩
  rcases ok_of_bind h with ⟨time, htime, h⟩
  rw [(sqlInteger_eq_ok_iff.mp htime).2] at h
  exact movesBy_reply hexisting h (.resume (not_not.mp hstatus) rfl)

theorem retryArtifactTransfer_moves {resume : Bool}
    (h : store.retryArtifactTransfer id resume now = .ok (replied, store')) :
    store.MovesBy store' (.retryArtifactTransfer id resume now) := by
  rcases ok_of_bind h with ⟨existing, hexisting, h⟩
  rcases queryArtifactTransfer_eq_ok_iff.mp hexisting with ⟨-, rfl⟩
  rcases ok_of_refuse h with ⟨hstatus, h⟩
  rcases ok_of_bind h with ⟨time, htime, h⟩
  rw [(sqlInteger_eq_ok_iff.mp htime).2] at h
  exact movesBy_reply hexisting h (.retry (not_not.mp hstatus) rfl)

theorem movesBy_settle {α : Type} {outcome : Except DashboardError (α × TransferStore)}
    (h : ∀ replied store', outcome = .ok (replied, store') → store.MovesBy store' action) :
    store.MovesBy (settle store outcome) action :=
  settle_induction (motive := (store.MovesBy · action)) (movesBy_refl action) h

theorem movesBy_apply (hrows : ¬ action.ChangesRows) :
    store.MovesBy (store.apply action) action := by
  cases action with
  | createArtifactTransfer => exact absurd trivial hrows
  | claimNextArtifactTransfer => exact movesBy_settle fun _ _ => claimNextArtifactTransfer_eq_ok
  | recoverStaleArtifactTransfers =>
    exact movesBy_settle fun _ _ => recoverStaleArtifactTransfers_eq_ok
  | updateArtifactTransferProgress =>
    exact movesBy_settle fun _ _ => updateArtifactTransferProgress_moves
  | cancelArtifactTransfer => exact movesBy_settle fun _ _ => cancelArtifactTransfer_moves
  | pauseArtifactTransfer => exact movesBy_settle fun _ _ => pauseArtifactTransfer_moves
  | resumeArtifactTransfer => exact movesBy_settle fun _ _ => resumeArtifactTransfer_moves
  | retryArtifactTransfer => exact movesBy_settle fun _ _ => retryArtifactTransfer_moves
  | deleteArtifactTransfer => exact absurd trivial hrows
  | elsewhere => exact ⟨(movesBy_refl _).forward, (movesBy_refl _).backward⟩

variable (store) in
theorem rows_create (artifactId : String) (sourceMachineId destMachineId : Option String)
    (bytesTotal : Option ℕ) (now : ℕ) (transferId : String) :
    (store.apply (.createArtifactTransfer artifactId sourceMachineId destMachineId bytesTotal now
        transferId)).transfers.rows = store.transfers.rows ∨
      ∃ new : ArtifactTransfer, new.bytesDone = 0 ∧
        (store.apply (.createArtifactTransfer artifactId sourceMachineId destMachineId bytesTotal now
          transferId)).transfers.rows = store.transfers.rows ++ [new] := by
  refine settle_induction (motive := fun later : TransferStore =>
    later.transfers.rows = store.transfers.rows ∨ ∃ new : ArtifactTransfer, new.bytesDone = 0 ∧
      later.transfers.rows = store.transfers.rows ++ [new]) (.inl rfl) fun replied store' h => ?_
  rcases ok_of_refuse h with ⟨-, h⟩
  rcases ok_of_refuse h with ⟨-, h⟩
  rcases ok_of_bind h with ⟨_, -, h⟩
  rcases ok_of_bind h with ⟨_, -, h⟩
  rcases ok_of_bind h with ⟨_, -, h⟩
  rcases ok_of_bind h with ⟨total, -, h⟩
  rcases ok_of_bind h with ⟨time, -, h⟩
  split at h
  · cases h
  · rename_i transfers hinsert
    rcases reply_eq_ok h with ⟨rfl, -, -⟩
    exact .inr ⟨_, rfl, (KeyedTable.rows_insert hinsert).1⟩

variable (store) in
theorem rows_delete (id : String) :
    (store.apply (.deleteArtifactTransfer id)).transfers.rows = store.transfers.rows ∨
      (∃ existing ∈ store.transfers.rows, existing.id = id ∧
        existing.status ∈ [completed, .cancelled, .failed]) ∧
        (store.apply (.deleteArtifactTransfer id)).transfers.rows =
          store.transfers.rows.filter fun transfer => !decide (transfer.id = id) := by
  refine settle_induction (motive := fun later : TransferStore =>
    later.transfers.rows = store.transfers.rows ∨
      (∃ existing ∈ store.transfers.rows, existing.id = id ∧
        existing.status ∈ [completed, .cancelled, .failed]) ∧
        later.transfers.rows =
          store.transfers.rows.filter fun transfer => !decide (transfer.id = id)) (.inl rfl)
    fun replied store' h => ?_
  rcases ok_of_bind h with ⟨existing, hexisting, h⟩
  rcases ok_of_refuse h with ⟨hstatus, h⟩
  rcases queryArtifactTransfer_eq_ok_iff.mp hexisting with ⟨hmem, hid⟩
  cases h
  exact .inr ⟨⟨replied, hmem, hid, not_not.mp hstatus⟩, rfl⟩

/-- Every row moves, unless it has ended and is deleted. -/
theorem exists_move {row : ArtifactTransfer} (hrow : row ∈ store.transfers.rows)
    (hkept : action = .deleteArtifactTransfer row.id →
      row.status ∉ [completed, .cancelled, .failed]) :
    ∃ after ∈ (store.apply action).transfers.rows, after.id = row.id ∧
      TransferMove action row after := by
  by_cases hrows : action.ChangesRows
  · refine ⟨row, ?_, rfl, .stay action row⟩
    cases action with
    | createArtifactTransfer artifactId sourceMachineId destMachineId bytesTotal now transferId =>
      rcases rows_create store artifactId sourceMachineId destMachineId bytesTotal now
        transferId with hsame | ⟨new, -, hnew⟩
      · rwa [hsame]
      · rw [hnew]
        exact mem_append_left _ hrow
    | deleteArtifactTransfer id =>
      rcases rows_delete store id with hsame | ⟨⟨existing, hmem, hid, hended⟩, hdeleted⟩
      · rwa [hsame]
      · rw [hdeleted]
        refine mem_filter.mpr ⟨hrow, ?_⟩
        by_cases hrowId : row.id = id
        · rw [KeyedTable.eq_of_key hmem hrow (hid.trans hrowId.symm)] at hended
          exact absurd hended (hkept (congrArg _ hrowId.symm))
        · simp [hrowId]
    | _ => exact absurd hrows id
  · exact (movesBy_apply hrows).forward row hrow

/-- Every row was moved, or it is new. -/
theorem mem_apply {after : ArtifactTransfer}
    (hafter : after ∈ (store.apply action).transfers.rows) :
    (∃ before ∈ store.transfers.rows, TransferMove action before after) ∨ after.bytesDone = 0 := by
  by_cases hrows : action.ChangesRows
  · cases action with
    | createArtifactTransfer artifactId sourceMachineId destMachineId bytesTotal now transferId =>
      rcases rows_create store artifactId sourceMachineId destMachineId bytesTotal now
        transferId with hsame | ⟨new, hbytes, hnew⟩
      · rw [hsame] at hafter
        exact .inl ⟨after, hafter, .stay _ after⟩
      · rw [hnew] at hafter
        rcases mem_append.mp hafter with hold | hlast
        · exact .inl ⟨after, hold, .stay _ after⟩
        · rw [mem_singleton.mp hlast]
          exact .inr hbytes
    | deleteArtifactTransfer id =>
      rcases rows_delete store id with hsame | ⟨-, hdeleted⟩
      · rw [hsame] at hafter
        exact .inl ⟨after, hafter, .stay _ after⟩
      · rw [hdeleted] at hafter
        exact .inl ⟨after, (mem_filter.mp hafter).1, .stay _ after⟩
    | _ => exact absurd hrows id
  · rcases (movesBy_apply hrows).backward after hafter with ⟨before, hbefore, -, hmove⟩
    exact .inl ⟨before, hbefore, hmove⟩

end TransferStore

namespace TransferMove

variable {action : TransferAction} {before after : ArtifactTransfer}

section Moves

variable (h : TransferMove action before after)

include h

theorem bytesDone_le (hkept : ¬ action.Restarts before.id) :
    before.bytesDone ≤ after.bytesDone := by
  cases h with
  | stay => exact le_rfl
  | claim hstatus hafter | cancel hstatus hafter | pause hstatus hafter
  | resume hstatus hafter => simp [hafter]
  | recover hstatus hafter hbytes => exact hbytes.1.ge
  | update hmoves => exact hmoves.grows
  | @retry resume _ _ _ hstatus hafter =>
    cases resume with
    | true => simp [hafter]
    | false => exact absurd ⟨rfl, rfl⟩ hkept

theorem bounded (hbefore : ∀ total, before.bytesTotal = some total → before.bytesDone ≤ total) :
    ∀ total, after.bytesTotal = some total → after.bytesDone ≤ total := by
  cases h with
  | stay => exact hbefore
  | claim hstatus hafter | cancel hstatus hafter | pause hstatus hafter
  | resume hstatus hafter => simpa [hafter] using hbefore
  | recover hstatus hafter hbytes => rwa [hbytes.1, hbytes.2]
  | update hmoves => exact hmoves.bounded
  | @retry resume _ _ _ hstatus hafter =>
    cases resume with
    | true => simpa [hafter] using hbefore
    | false => simp [hafter]

theorem status_eq (hterminal : before.status.IsTerminal) (hkept : ¬ action.Requeues before.id) :
    after.status = before.status := by
  have hnot : ∀ {status : ArtifactTransferStatus}, before.status = status → ¬ status.IsTerminal →
      False := fun hstatus hother => hother (hstatus ▸ hterminal)
  cases h with
  | stay => rfl
  | claim hstatus hafter =>
    simp only [mem_cons, not_mem_nil, or_false] at hstatus
    rcases hstatus with hstatus | hstatus <;> exact (hnot hstatus (by decide)).elim
  | recover hstatus => exact (hnot hstatus (by decide)).elim
  | update hmoves => exact (hmoves.terminal hterminal).symm
  | cancel hstatus => exact absurd hterminal hstatus
  | pause hstatus =>
    simp only [mem_cons, not_mem_nil, or_false] at hstatus
    rcases hstatus with hstatus | hstatus | hstatus <;> exact (hnot hstatus (by decide)).elim
  | resume hstatus => exact (hnot hstatus (by decide)).elim
  | retry => exact absurd rfl hkept

/-- A completed transfer stays completed, also when an operator tries to retry it. -/
theorem completed (hcompleted : before.status = .completed) : after.status = .completed := by
  by_cases hrequeues : action.Requeues before.id
  · cases h with
    | stay => exact hcompleted
    | retry hstatus => simp [hcompleted] at hstatus
    | _ => exact absurd hrequeues id
  · rw [h.status_eq (.inl hcompleted) hrequeues, hcompleted]

theorem paused (hpaused : before.status = .paused) (hkept : ¬ action.Releases before.id)
    (hupdates : ¬ action.Updates before.id) : after = before := by
  cases h with
  | stay => rfl
  | claim hstatus | recover hstatus | pause hstatus | retry hstatus => simp [hpaused] at hstatus
  | update => exact absurd rfl hupdates
  | cancel => exact absurd rfl hkept
  | resume => exact absurd rfl hkept

end Moves

end TransferMove

/-! ## Runs -/

/-- The transfers under operations, with the claims that workers have made. -/
def transferSystem : System TransferStore TransferAction (List (String × String)) where
  step store action := some (store.apply action)
  record claims store action _ :=
    match action with
    | .claimNextArtifactTransfer workerId destMachineId now =>
      match store.claimNextArtifactTransfer destMachineId now with
      | .ok (some transfer, _) => (workerId, transfer.id) :: claims
      | _ => claims
    | _ => claims

namespace TransferStore

variable {store : TransferStore}

/-- No transfer has more bytes done than it has in total. -/
def Bounded (store : TransferStore) : Prop :=
  ∀ row ∈ store.transfers.rows, ∀ total, row.bytesTotal = some total → row.bytesDone ≤ total

variable {claims : List (String × String)} {row : ArtifactTransfer}

theorem bounded_of_run (hrun : transferSystem.Run (fun _ _ _ _ => True) ([], .new) claims store) :
    store.Bounded := by
  refine hrun.invariant (fun _ store => store.Bounded) (fun _ hrow => absurd hrow not_mem_nil) ?_
  intro _ before action after hbounded hstep _
  cases hstep
  intro row hrow
  rcases mem_apply hrow with ⟨old, hold, hmove⟩ | hnew
  · exact hmove.bounded (hbounded old hold)
  · simp [hnew]

theorem exists_row_of_run {keeps : ArtifactTransfer → Prop} {allowed : TransferAction → Prop}
    {claims' : List (String × String)} {later : TransferStore} (hrow : row ∈ store.transfers.rows)
    (hkeeps : keeps row)
    (hdelete : ∀ before, keeps before → allowed (.deleteArtifactTransfer row.id) →
      before.status ∉ [completed, .cancelled, .failed])
    (hmove : ∀ {action before after}, before.id = row.id → allowed action → keeps before →
      TransferMove action before after → keeps after)
    (hrun : transferSystem.Run (fun _ _ action _ => allowed action) (claims, store) claims' later) :
    ∃ row' ∈ later.transfers.rows, row'.id = row.id ∧ keeps row' := by
  refine hrun.invariant
    (fun _ later => ∃ row' ∈ later.transfers.rows, row'.id = row.id ∧ keeps row')
    ⟨row, hrow, rfl, hkeeps⟩ ?_
  rintro _ before action after ⟨old, hold, hid, hkeeps⟩ hstep hallowed
  cases hstep
  rcases exists_move hold fun haction => hdelete old hkeeps (hid ▸ haction ▸ hallowed) with
    ⟨new, hnew, hnewId, hmoved⟩
  exact ⟨new, hnew, hnewId.trans hid, hmove hid hallowed hkeeps hmoved⟩

theorem apply_update_of_terminal (hrow : row ∈ store.transfers.rows)
    (hterminal : row.status.IsTerminal) {progress : TransferProgress}
    (hother : validateTransferStatus progress.status ≠ .ok row.status) (sender : Option String)
    (now : ℕ) :
    store.apply (.updateArtifactTransferProgress sender row.id progress now) = store := by
  refine settle_induction (motive := (· = store)) rfl fun replied store' h => ?_
  rcases updateArtifactTransferProgress_eq_ok h with ⟨before, f, hf, hbefore, hmoves, -⟩
  rcases queryArtifactTransfer_eq_ok_iff.mp hbefore with ⟨hmem, hid⟩
  cases KeyedTable.eq_of_key hmem hrow hid
  exact absurd (hmoves.terminal hterminal ▸ hmoves.status) hother

end TransferStore

/-- In every run the bytes done stay below the total, an update of a transfer that is not paused is
accepted exactly when it fits the row, whoever sends it, and an update of a terminal transfer that
names another status is refused. From then on the bytes done do not decrease until an operator
starts them again, no other operation touches a paused transfer until it is resumed or cancelled
(what an update does to it is left out), a cancelled one stays cancelled until an operator retries
or deletes it, and a completed one stays completed until it is deleted. -/
theorem transfer_decisions (claims : List (String × String)) (store : TransferStore)
    (hrun : transferSystem.Run (fun _ _ _ _ => True) ([], .new) claims store) :
    store.Bounded ∧ ∀ row ∈ store.transfers.rows,
      (row.status ≠ .paused → ∀ progress now after,
        (∃ store', store.updateArtifactTransferProgress row.id progress now = .ok (after, store')) ↔
          progress.Moves now row after) ∧
      (row.status.IsTerminal → ∀ sender progress now,
        validateTransferStatus progress.status ≠ .ok row.status →
          store.apply (.updateArtifactTransferProgress sender row.id progress now) = store) ∧
      ∀ claims' later,
        (transferSystem.Run (fun _ _ action _ => ¬ action.Restarts row.id) (claims, store) claims'
          later → ∃ row' ∈ later.transfers.rows, row'.id = row.id ∧
            row.bytesDone ≤ row'.bytesDone) ∧
        (row.status = .paused →
          transferSystem.Run
            (fun _ _ action _ => ¬ action.Releases row.id ∧ ¬ action.Updates row.id)
            (claims, store) claims' later → row ∈ later.transfers.rows) ∧
        (row.status = .cancelled →
          transferSystem.Run (fun _ _ action _ => ¬ action.Requeues row.id) (claims, store) claims'
            later → ∃ row' ∈ later.transfers.rows, row'.id = row.id ∧ row'.status = .cancelled) ∧
        (row.status = .completed →
          transferSystem.Run (fun _ _ action _ => action ≠ .deleteArtifactTransfer row.id)
            (claims, store) claims' later →
          ∃ row' ∈ later.transfers.rows, row'.id = row.id ∧ row'.status = .completed) := by
  refine ⟨TransferStore.bounded_of_run hrun, fun row hrow => ⟨fun _ progress now after => ?_,
    fun hterminal sender progress now hother => ?_, fun claims' later => ⟨?_, ?_, ?_, ?_⟩⟩⟩
  · exact TransferStore.updateArtifactTransferProgress_eq_ok_iff hrow rfl
  · exact TransferStore.apply_update_of_terminal hrow hterminal hother sender now
  · refine TransferStore.exists_row_of_run hrow le_rfl (fun _ _ hkept => absurd rfl hkept) ?_
    intro action before after hid hkept hbytes hmove
    exact hbytes.trans (hmove.bytesDone_le (hid ▸ hkept))
  · intro hpaused hlater
    have hsame : ∃ row' ∈ later.transfers.rows, row'.id = row.id ∧ row' = row := by
      refine TransferStore.exists_row_of_run hrow rfl ?_ ?_ hlater
      · rintro before rfl -
        simp [hpaused]
      · rintro action before after - ⟨hkept, hupdates⟩ rfl hmove
        exact hmove.paused hpaused hkept hupdates
    rcases hsame with ⟨row', hrow', -, rfl⟩
    exact hrow'
  · intro hcancelled
    refine TransferStore.exists_row_of_run hrow hcancelled (fun _ _ hkept => absurd rfl hkept) ?_
    intro action before after hid hkept hstatus hmove
    rw [hmove.status_eq (.inr hstatus) (hid ▸ hkept), hstatus]
  · intro hcompleted
    refine TransferStore.exists_row_of_run hrow hcompleted (fun _ _ hkept => absurd rfl hkept) ?_
    intro action before after _ _ hstatus hmove
    exact hmove.completed hstatus

def sampleArtifactTables : TransferAction :=
  .elsewhere
    { rows :=
        [{ id := "artifact", sourceMachineId := none, kind := "paper", status := "available",
           runMode := none, artifactRoot := none, manifestPath := none, bundlePath := none,
           sourceDbPath := none, intervalStartMs := none, intervalEndMs := none, bytes := none,
           checksum := none, replayQualityClass := none, backtestReadyClass := none,
           liveFidelityClass := none, createdAt := 0, updatedAt := 0, archivedAt := none }]
      distinct := nodup_singleton _ }
    { rows := [{ id := "machine", sshAlias := none, status := "online" }]
      distinct := nodup_singleton _ }

def sampleTransferActions : List TransferAction :=
  [sampleArtifactTables,
    .createArtifactTransfer "artifact" none (some "machine") (some 100) 1000 "transfer",
    .claimNextArtifactTransfer "first" "machine" 2000,
    .recoverStaleArtifactTransfers "machine" 500 3000,
    .claimNextArtifactTransfer "second" "machine" 4000]

def sampleCompletion (workerId : String) (error : Option String) (now : ℕ) : TransferAction :=
  .updateArtifactTransferProgress (some workerId) "transfer"
    ⟨"completed", some 100, none, some "verified", error⟩ now

/-- The worker that claimed the transfer first is still heard after the second claim, and a second
report that the transfer is completed changes the completed row. -/
theorem earlier_claimant_heard :
    ∃ store, transferSystem.Run (fun _ _ _ _ => True) ([], .new)
        [("second", "transfer"), ("first", "transfer")] store ∧
      store.transfers.rows.map (fun row => (row.status, row.bytesDone)) = [(.running, 0)] ∧
      (store.apply (.updateArtifactTransferProgress (some "first") "transfer"
          ⟨"running", some 40, none, none, none⟩ 5000)).transfers.rows.map
        (fun row => (row.status, row.bytesDone)) = [(.running, 40)] ∧
      (store.apply (sampleCompletion "second" none 6000)).transfers.rows.map
        (fun row => (row.status, row.error)) = [(.completed, none)] ∧
      ((store.apply (sampleCompletion "second" none 6000)).apply
          (sampleCompletion "first" (some "again") 7000)).transfers.rows.map
        (fun row => (row.status, row.error)) = [(.completed, some "again")] := by
  have hfollow : (transferSystem.follow (fun _ _ _ _ => true) sampleTransferActions
      ([], .new)).any (fun reached =>
        decide (reached.1 = [("second", "transfer"), ("first", "transfer")] ∧
          reached.2.transfers.rows.map (fun row => (row.status, row.bytesDone)) = [(.running, 0)] ∧
          (reached.2.apply (.updateArtifactTransferProgress (some "first") "transfer"
              ⟨"running", some 40, none, none, none⟩ 5000)).transfers.rows.map
            (fun row => (row.status, row.bytesDone)) = [(.running, 40)] ∧
          (reached.2.apply (sampleCompletion "second" none 6000)).transfers.rows.map
            (fun row => (row.status, row.error)) = [(.completed, none)] ∧
          ((reached.2.apply (sampleCompletion "second" none 6000)).apply
              (sampleCompletion "first" (some "again") 7000)).transfers.rows.map
            (fun row => (row.status, row.error)) = [(.completed, some "again")])) = true := by
    decide +kernel
  rcases System.exists_run_of_follow hfollow fun _ _ _ _ _ => trivial with
    ⟨claims, store, hrun, hproperty⟩
  rcases of_decide_eq_true hproperty with ⟨hclaims, hproperty⟩
  cases hclaims
  exact ⟨store, hrun, hproperty⟩

/-- The claimed transfer of the sample is followed to its completion, which lasts. -/
theorem transfer_decisions_sample :
    ∃ (store : TransferStore) (row : ArtifactTransfer), row ∈ store.transfers.rows ∧
      row.status = .completed ∧ store.Bounded ∧
      (store.apply (.updateArtifactTransferProgress (some "first") row.id
        ⟨"running", none, none, none, none⟩ 7000)) = store := by
  have hfollow : (transferSystem.follow (fun _ _ _ _ => true)
      (sampleTransferActions ++ [sampleCompletion "second" none 6000]) ([], .new)).any
        (fun reached => decide (∃ row ∈ reached.2.transfers.rows, row.status = .completed)) =
          true := by
    decide +kernel
  rcases System.exists_run_of_follow hfollow fun _ _ _ _ _ => trivial with
    ⟨claims, store, hrun, hproperty⟩
  rcases of_decide_eq_true hproperty with ⟨row, hrow, hcompleted⟩
  have hdecisions := transfer_decisions claims store hrun
  refine ⟨store, row, hrow, hcompleted, hdecisions.1, ?_⟩
  refine (hdecisions.2 row hrow).2.1 (.inl hcompleted) _ _ _ ?_
  rw [hcompleted]
  decide

end BubaPaint
