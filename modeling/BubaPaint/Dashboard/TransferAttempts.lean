import BubaPaint.Dashboard.ResumedCopies
import BubaPaint.Dashboard.TransferDecisions

/-!
# Attempts of a transfer

What each part of an attempt does to the dashboard and to the destination directory, when it
succeeds, and that an attempt which fails leaves the transfer open.

Main results:

- Theorem `At.finishTransfer`: what a finished transfer leaves.
- Theorem `leaves_open_finishTransfer`: a failure leaves it open.
-/

namespace BubaPaint

open Effects Paths Attempt List TransferRun

variable {host : ArtifactHost} {source : ArtifactDir} {manifest : ArtifactManifest}

/-! ## Status updates of an attempt -/

theorem validate_running : validateTransferStatus "running" = .ok .running :=
  rfl

theorem validate_verifying : validateTransferChecksumStatus "verifying" = .ok .verifying :=
  rfl

/-- The attempt has come so far: the transfer is running with the given bytes done, everything but
the transfers is as it was, and every status update has been accepted. -/
structure TransferRun.At (run : TransferRun) (store : TransferStore) (id : String) (done : ℕ)
    (destination : ArtifactDir) : Prop where
  row : ∃ row ∈ run.store.transfers.rows, row.id = id ∧ row.status = .running ∧ row.bytesDone = done
  artifacts : run.store.artifacts = store.artifacts
  machines : run.store.machines = store.machines
  destination : run.destination = destination
  replies : ∀ reply ∈ run.replies, ∃ row, reply = .ok row

namespace TransferStore

variable {store store' : TransferStore}

theorem updateArtifactTransferProgress_spec {before after : ArtifactTransfer} {id : String}
    {progress : TransferProgress} {now : ℕ} (hmem : before ∈ store.transfers.rows)
    (hid : before.id = id)
    (h : store.updateArtifactTransferProgress id progress now = .ok (after, store')) :
    progress.Moves now before after ∧ after ∈ store'.transfers.rows ∧ after.id = id ∧
      store'.artifacts = store.artifacts ∧ store'.machines = store.machines := by
  have hmoves := (updateArtifactTransferProgress_eq_ok_iff hmem hid).mp ⟨store', h⟩
  rcases updateArtifactTransferProgress_eq_ok h with ⟨existing, f, hf, -, -, hreply⟩
  rcases reply_eq_ok hreply with ⟨hstore, hafter, hafterId⟩
  exact ⟨hmoves, hafter, hafterId, hstore ▸ rfl, hstore ▸ rfl⟩

end TransferStore

/-- A running row accepts a report if and only if the bytes do not decrease nor exceed the total,
and the total is positive and can be stored. -/
theorem running_moves_iff {before : ArtifactTransfer} {bytes total now : ℕ}
    (hrunning : before.status = .running) (hnow : now < 2 ^ 63) {checksum : String}
    {checksumStatus : TransferChecksumStatus}
    (hchecksum : validateTransferChecksumStatus checksum = .ok checksumStatus)
    {status : String} {newStatus : ArtifactTransferStatus}
    (hstatus : validateTransferStatus status = .ok newStatus)
    (hverified : newStatus = .completed → checksumStatus = .verified) :
    (∃ after, TransferProgress.Moves
      { status := status, bytesDone := some bytes, bytesTotal := some total,
        checksumStatus := some checksum, error := none } now before after) ↔
      before.bytesDone ≤ bytes ∧ bytes ≤ total ∧ 0 < total ∧ total < 2 ^ 63 := by
  constructor
  · rintro ⟨after, h⟩
    have htotal : after.bytesTotal = some total := congrArg ArtifactTransfer.bytesTotal h.written
    have hdone : after.bytesDone = bytes := congrArg ArtifactTransfer.bytesDone h.written
    refine ⟨hdone ▸ h.grows, hdone ▸ h.bounded total htotal, ?_, h.storable.1 total htotal⟩
    refine Nat.pos_of_ne_zero fun hzero => h.positive ?_
    rw [htotal, hzero]
  · rintro ⟨hgrows, hbounded, hpositive, hstorable⟩
    refine ⟨{ before with
      status := newStatus
      bytesTotal := some total
      bytesDone := bytes
      checksumStatus := some checksumStatus
      error := none
      updatedAt := now
      completedAt := if newStatus = .completed then some now else before.completedAt }, ?_⟩
    exact
      { status := hstatus
        checked := by
          refine ⟨some checksumStatus, ?_, fun h => congrArg some (hverified h), rfl⟩
          simp only [Option.mapM_some, hchecksum]
          rfl
        error := rfl
        terminal := fun h => by
          rw [hrunning] at h
          rcases h with h | h <;> cases h
        positive := by
          intro h
          cases h
          exact absurd hpositive (Nat.lt_irrefl 0)
        grows := hgrows
        bounded := by
          rintro _ ⟨⟩
          exact hbounded
        storable := ⟨by rintro _ ⟨⟩; exact hstorable, lt_of_le_of_lt hbounded hstorable, hnow⟩
        written := rfl }

section Updates

variable {store : TransferStore} {run run' : TransferRun} {id : String} {done bytes total : ℕ}
variable {dir : ArtifactDir} {reply : ArtifactTransfer}
variable {progress : TransferProgress} {path : List String} {now : ℕ} {store' : TransferStore}

theorem outcome_updateArtifactTransferProgress (progress : TransferProgress) (run : TransferRun) :
    (updateArtifactTransferProgress host id progress).outcome run =
      match run.store.updateArtifactTransferProgress id progress (host.clock run.ticks) with
      | .ok (reply, store) =>
        (.ok reply,
          { run with
            store := store
            ticks := run.ticks + 1
            replies := run.replies ++ [.ok reply] })
      | .error error =>
        (.error (.dashboard error),
          { run with ticks := run.ticks + 1, replies := run.replies ++ [.error error] }) := by
  unfold updateArtifactTransferProgress outcome
  cases hupdate : run.store.updateArtifactTransferProgress id progress (host.clock run.ticks) with
  | error error | ok result => simp [ExceptT.run, StateT.run, ExceptT.mk, hupdate]

theorem outcome_updateArtifactTransferProgress_eq_ok_iff :
    (updateArtifactTransferProgress host id progress).outcome run = (.ok reply, run') ↔
      ∃ store', run.store.updateArtifactTransferProgress id progress (host.clock run.ticks) =
        .ok (reply, store') ∧
          run' =
            { run with
              store := store'
              ticks := run.ticks + 1
              replies := run.replies ++ [.ok reply] } := by
  rw [outcome_updateArtifactTransferProgress]
  rcases run.store.updateArtifactTransferProgress id progress (host.clock run.ticks) with
    error | ⟨replied, store'⟩
  · simp
  · grind

variable {checksum status : String} {checksumStatus : TransferChecksumStatus}
variable {newStatus : ArtifactTransferStatus}

/-- What a status update of a running transfer does if it is accepted. -/
structure TransferRun.Updated (run run' : TransferRun) (reply : ArtifactTransfer) (id : String)
    (newStatus : ArtifactTransferStatus) (checksumStatus : TransferChecksumStatus) (bytes : ℕ) :
    Prop where
  row : reply ∈ run'.store.transfers.rows ∧ reply.id = id
  status : reply.status = newStatus ∧ reply.checksumStatus = some checksumStatus
  bytesDone : reply.bytesDone = bytes
  artifacts : run'.store.artifacts = run.store.artifacts
  machines : run'.store.machines = run.store.machines
  destination : run'.destination = run.destination
  replies : run'.replies = run.replies ++ [.ok reply]

theorem TransferRun.At.updated (h : run.At store id done dir)
    (hchecksum : validateTransferChecksumStatus checksum = .ok checksumStatus)
    (hstatus : validateTransferStatus status = .ok newStatus)
    (hverified : newStatus = .completed → checksumStatus = .verified)
    (hrun : (updateArtifactTransferProgress host id
      { status := status, bytesDone := some bytes, bytesTotal := some total,
        checksumStatus := some checksum, error := none }).outcome run = (.ok reply, run')) :
    (done ≤ bytes ∧ bytes ≤ total ∧ 0 < total ∧ total < 2 ^ 63) ∧
      run.Updated run' reply id newStatus checksumStatus bytes := by
  rcases h.row with ⟨before, hmem, hid, hrunning, rfl⟩
  rcases outcome_updateArtifactTransferProgress_eq_ok_iff.mp hrun with ⟨store', hupdate, rfl⟩
  rcases TransferStore.updateArtifactTransferProgress_spec hmem hid hupdate with
    ⟨hmoves, hreply, hreplyId, hartifacts, hmachines⟩
  refine ⟨(running_moves_iff hrunning (host.storable _) hchecksum hstatus hverified).mp
    ⟨reply, hmoves⟩, ?_⟩
  have hnewStatus : reply.status = newStatus :=
    (Except.ok.inj (hstatus.symm.trans hmoves.status)).symm
  have hnewChecksum : reply.checksumStatus = some checksumStatus := by
    rcases hmoves.checked with ⟨checked, hchecked, -, hstored⟩
    simp only [Option.mapM_some, hchecksum] at hchecked
    rw [hstored, ← Except.ok.inj hchecked]
    rfl
  exact
    { row := ⟨hreply, hreplyId⟩
      status := ⟨hnewStatus, hnewChecksum⟩
      bytesDone := congrArg ArtifactTransfer.bytesDone hmoves.written
      artifacts := hartifacts
      machines := hmachines
      destination := rfl
      replies := rfl }

variable (host) in
theorem TransferRun.At.exists_updated (h : run.At store id done dir)
    (hchecksum : validateTransferChecksumStatus checksum = .ok checksumStatus)
    (hstatus : validateTransferStatus status = .ok newStatus)
    (hverified : newStatus = .completed → checksumStatus = .verified)
    (hbytes : done ≤ bytes ∧ bytes ≤ total ∧ 0 < total ∧ total < 2 ^ 63) :
    ∃ reply run', (updateArtifactTransferProgress host id
      { status := status, bytesDone := some bytes, bytesTotal := some total,
        checksumStatus := some checksum, error := none }).outcome run = (.ok reply, run') := by
  rcases h.row with ⟨before, hmem, hid, hrunning, rfl⟩
  rcases (running_moves_iff hrunning (host.storable run.ticks) hchecksum hstatus hverified).mpr
    hbytes with ⟨after, hmoves⟩
  rcases (TransferStore.updateArtifactTransferProgress_eq_ok_iff hmem hid).mpr hmoves with
    ⟨store', hupdate⟩
  exact ⟨after, _, outcome_updateArtifactTransferProgress_eq_ok_iff.mpr ⟨store', hupdate, rfl⟩⟩

theorem TransferRun.At.of_updated (h : run.At store id done dir)
    (hupdated : run.Updated run' reply id .running checksumStatus bytes) :
    run'.At store id bytes dir where
  row := ⟨reply, hupdated.row.1, hupdated.row.2, hupdated.status.1, hupdated.bytesDone⟩
  artifacts := hupdated.artifacts.trans h.artifacts
  machines := hupdated.machines.trans h.machines
  destination := hupdated.destination.trans h.destination
  replies := by
    rw [hupdated.replies]
    intro answer hanswer
    rcases mem_append.mp hanswer with hanswer | hanswer
    · exact h.replies answer hanswer
    · exact ⟨reply, mem_singleton.mp hanswer⟩

/-! ## Copied files -/

theorem outcome_writeDestination_bind {α : Type} {copy : ArtifactDir → Except WorkerError ArtifactDir}
    {f : PUnit → Attempt WorkerError TransferRun α} {dir' : ArtifactDir}
    (hcopy : copy run.destination = .ok dir') :
    (writeDestination copy >>= f).outcome run =
      (f ⟨⟩).outcome { run with destination := dir' } := by
  have hwrite : (writeDestination copy).outcome run =
      (.ok ⟨⟩, { run with destination := dir' }) := by
    unfold writeDestination
    rw [outcome_get_bind, outcome_ofExcept_bind hcopy]
    rfl
  rw [outcome_bind, hwrite]

theorem copyFileResumable_eq (hsource : (source path).isSome) :
    copyFileResumable source path dir = .ok (copyStep source dir path) := by
  rcases Option.isSome_iff_exists.mp hsource with ⟨bytes, hbytes⟩
  unfold copyFileResumable copyStep
  rw [hbytes, Option.getD_some]

theorem TransferRun.At.write {dir' : ArtifactDir} (h : run.At store id done dir) :
    At { run with destination := dir' } store id done dir' :=
  { h with destination := rfl }

variable {transfer : ArtifactTransfer} {file : ArtifactFile} {files : List ArtifactFile}

section ListedFiles

variable (h : run.At store transfer.id done dir) (hintact : SourceIntact host source manifest)

include h hintact

theorem TransferRun.At.outcome_copyListedFile (hfile : file ∈ manifest.files) :
    (BubaPaint.copyListedFile host source transfer manifest file).outcome run =
      (updateRunningProgress host transfer
        (min (sizeOf (copyStep source dir file.path) manifest.paths) maxBytes)
        (some (manifestPayloadBytes manifest)) >>= fun _ => pure ⟨⟩).outcome
          { run with destination := copyStep source dir file.path } := by
  have hcopy : copyFileResumable source file.path run.destination =
      .ok (copyStep source dir file.path) := by
    rw [h.destination, copyFileResumable_eq (hintact.isSome (mem_map_of_mem hfile))]
  unfold BubaPaint.copyListedFile
  rw [outcome_ofExcept_bind (hintact.paths file hfile), outcome_writeDestination_bind hcopy,
    outcome_get_bind, outcome_ofExcept_bind (payloadBytesFromManifest_eq hintact.paths _)]

/-- One listed file is copied, and the report on it is accepted. -/
theorem TransferRun.At.copyListedFile (hfile : file ∈ manifest.files)
    (hrun : (BubaPaint.copyListedFile host source transfer manifest file).outcome run =
      (.ok ⟨⟩, run')) :
    done ≤ sizeOf (copyStep source dir file.path) manifest.paths ∧
      sizeOf (copyStep source dir file.path) manifest.paths ≤ manifestPayloadBytes manifest ∧
        run'.At store transfer.id (sizeOf (copyStep source dir file.path) manifest.paths)
          (copyStep source dir file.path) := by
  rw [h.outcome_copyListedFile hintact hfile] at hrun
  rcases outcome_bind_eq_ok_iff.mp hrun with ⟨reply, _, hreport, hrun⟩
  cases hrun
  have hat : At { run with destination := copyStep source dir file.path } store
      transfer.id done (copyStep source dir file.path) := h.write
  rcases hat.updated validate_verifying validate_running (fun hend => by cases hend) hreport with
    ⟨⟨hgrows, hbounded, -, htotal⟩, hupdated⟩
  have hsize : min (sizeOf (copyStep source dir file.path) manifest.paths) maxBytes =
      sizeOf (copyStep source dir file.path) manifest.paths := by
    unfold maxBytes at hbounded ⊢
    omega
  rw [hsize] at hgrows hbounded hupdated
  exact ⟨hgrows, hbounded, hat.of_updated hupdated⟩

theorem TransferRun.At.exists_copyListedFile (hfile : file ∈ manifest.files)
    (htotal : 0 < manifestPayloadBytes manifest ∧ manifestPayloadBytes manifest < 2 ^ 63)
    (hgrows : done ≤ sizeOf (copyStep source dir file.path) manifest.paths)
    (hbounded : sizeOf (copyStep source dir file.path) manifest.paths ≤
      manifestPayloadBytes manifest) :
    ∃ run', (BubaPaint.copyListedFile host source transfer manifest file).outcome run =
      (.ok ⟨⟩, run') := by
  have hat : At { run with destination := copyStep source dir file.path } store
      transfer.id done (copyStep source dir file.path) := h.write
  have hsize : min (sizeOf (copyStep source dir file.path) manifest.paths) maxBytes =
      sizeOf (copyStep source dir file.path) manifest.paths := by
    unfold maxBytes
    omega
  rcases hat.exists_updated host validate_verifying validate_running (fun hend => by cases hend)
    ⟨hgrows, hbounded, htotal⟩ with ⟨reply, run', hreport⟩
  rw [h.outcome_copyListedFile hintact hfile, hsize]
  exact ⟨run', outcome_bind_eq_ok_iff.mpr ⟨reply, run', hreport, rfl⟩⟩

theorem TransferRun.At.copyFiles (hfiles : ∀ file ∈ files, file ∈ manifest.files)
    (hrun : (forEach files (BubaPaint.copyListedFile host source transfer manifest)).outcome run =
      (.ok ⟨⟩, run')) :
    Progresses source manifest.paths (manifestPayloadBytes manifest) done dir (files.map (·.path)) ∧
      ∃ done', run'.At store transfer.id done' (copyAll source dir (files.map (·.path))) ∧
        (files ≠ [] → done' = sizeOf (copyAll source dir (files.map (·.path))) manifest.paths) := by
  induction files generalizing run done dir with
  | nil =>
    cases hrun
    exact ⟨trivial, done, h, fun hne => absurd rfl hne⟩
  | cons file rest ih =>
    rcases outcome_bind_eq_ok_iff.mp hrun with ⟨_, run₁, hfirst, hrest⟩
    rcases h.copyListedFile hintact (hfiles file mem_cons_self) hfirst with
      ⟨hgrows, hbounded, hat⟩
    rcases ih hat (fun other hother => hfiles other (mem_cons_of_mem _ hother)) hrest with
      ⟨hprogress, done', hdone, hlast⟩
    refine ⟨⟨hgrows, hbounded, hprogress⟩, done', hdone, fun _ => ?_⟩
    cases rest with
    | nil =>
      cases hrest
      rcases hat.row with ⟨row, hrow, hid, -, hbytes⟩
      rcases hdone.row with ⟨row', hrow', hid', -, hbytes'⟩
      rw [← hbytes', ← KeyedTable.eq_of_key hrow hrow' (hid.trans hid'.symm), hbytes]
      rfl
    | cons next rest => exact hlast (cons_ne_nil _ _)

theorem TransferRun.At.exists_copyFiles (hfiles : ∀ file ∈ files, file ∈ manifest.files)
    (htotal : 0 < manifestPayloadBytes manifest ∧ manifestPayloadBytes manifest < 2 ^ 63)
    (hprogress : Progresses source manifest.paths (manifestPayloadBytes manifest) done dir
      (files.map (·.path))) :
    ∃ run', (forEach files
      (BubaPaint.copyListedFile host source transfer manifest)).outcome run = (.ok ⟨⟩, run') := by
  induction files generalizing run done dir with
  | nil => exact ⟨run, rfl⟩
  | cons file rest ih =>
    rcases hprogress with ⟨hgrows, hbounded, hlater⟩
    have hfile := hfiles file mem_cons_self
    rcases h.exists_copyListedFile hintact hfile htotal hgrows hbounded with ⟨run₁, hfirst⟩
    rcases h.copyListedFile hintact hfile hfirst with ⟨-, -, hat⟩
    rcases ih hat (fun other hother => hfiles other (mem_cons_of_mem _ hother)) hlater with
      ⟨run', hrest⟩
    exact ⟨run', outcome_bind_eq_ok_iff.mpr ⟨⟨⟩, run₁, hfirst, hrest⟩⟩

end ListedFiles

/-! ## The whole copy -/

/-- The directory after the manifest and the checksums have been copied. -/
def withSupportFiles (source dir : ArtifactDir) : ArtifactDir :=
  if source ["checksums.sha256"] = none then copyStep source dir ["manifest.json"]
  else copyStep source (copyStep source dir ["manifest.json"]) ["checksums.sha256"]

theorem normalize_checksums : normalizeRelativePath "checksums.sha256" = .ok ["checksums.sha256"] :=
  rfl

theorem SourceIntact.isSome_manifest (h : SourceIntact host source manifest) :
    (source ["manifest.json"]).isSome := by
  have hread := h.read
  rw [readManifest_eq] at hread
  cases hbytes : source ["manifest.json"] with
  | none =>
    rw [hbytes] at hread
    cases hread
  | some bytes => rfl

theorem copySupportFile_manifest (h : SourceIntact host source manifest) (dir : ArtifactDir) :
    copySupportFile source "manifest.json" dir = .ok (copyStep source dir ["manifest.json"]) := by
  have hsome := h.isSome_manifest
  have hne : source ["manifest.json"] ≠ none := Option.isSome_iff_ne_none.mp hsome
  unfold copySupportFile
  rw [normalize_manifest]
  exact (if_neg hne).trans (copyFileResumable_eq hsome)

theorem copySupportFile_checksums (source dir : ArtifactDir) :
    copySupportFile source "checksums.sha256" dir =
      .ok (if source ["checksums.sha256"] = none then dir
        else copyStep source dir ["checksums.sha256"]) := by
  unfold copySupportFile
  rw [normalize_checksums]
  by_cases hnone : source ["checksums.sha256"] = none
  · rw [if_pos hnone]
    exact if_pos hnone
  · rw [if_neg hnone]
    exact (if_neg hnone).trans (copyFileResumable_eq (Option.isSome_iff_ne_none.mpr hnone))

theorem copyStep_same (source : ArtifactDir) (hsource : (source path).isSome) :
    copyStep source source path = source := by
  rcases Option.isSome_iff_exists.mp hsource with ⟨bytes, hbytes⟩
  have hsame : resumeCopy bytes (some bytes) = some bytes := resumeCopy_of_length rfl
  unfold copyStep
  rw [hbytes, Option.getD_some, hsame, ← hbytes, Function.update_eq_self]

theorem withSupportFiles_same (h : SourceIntact host source manifest) :
    withSupportFiles source source = source := by
  unfold withSupportFiles
  rw [copyStep_same source h.isSome_manifest]
  split
  · rfl
  · rename_i hsome
    exact copyStep_same source (Option.isSome_iff_ne_none.mpr hsome)

theorem copyAll_same (h : SourceIntact host source manifest) :
    copyAll source source manifest.paths = source := by
  funext path
  rw [copyAll_apply]
  split
  · rename_i hpath
    rcases Option.isSome_iff_exists.mp (h.isSome hpath) with ⟨bytes, hbytes⟩
    rw [hbytes, Option.getD_some]
    exact resumeCopy_of_length rfl
  · rfl

theorem SourceIntact.total_eq (h : SourceIntact host source manifest)
    (htotal : manifestPayloadBytes manifest < 2 ^ 63) :
    sizeOf source manifest.paths = manifestPayloadBytes manifest := by
  have heq := h.manifestPayloadBytes_eq
  unfold maxBytes at heq
  omega

/-- The bytes that the first report of an attempt shows, if it is accepted. -/
structure Reports (source start : ArtifactDir) (manifest : ArtifactManifest) (bytesDone : ℕ) :
    Prop where
  total : 0 < manifestPayloadBytes manifest ∧ manifestPayloadBytes manifest < 2 ^ 63
  first : max (sizeOf start manifest.paths) bytesDone ≤ manifestPayloadBytes manifest
  later : Progresses source manifest.paths (manifestPayloadBytes manifest)
    (max (sizeOf start manifest.paths) bytesDone) start manifest.paths

variable {sourceRoot destinationRoot : Path} {same : Bool}

theorem TransferRun.At.firstReport (h : run.At store transfer.id transfer.bytesDone dir)
    (hrun : (updateRunningProgress host transfer
      (max (min (sizeOf dir manifest.paths) maxBytes) transfer.bytesDone)
      (some (manifestPayloadBytes manifest))).outcome run = (.ok reply, run')) :
    (0 < manifestPayloadBytes manifest ∧ manifestPayloadBytes manifest < 2 ^ 63) ∧
      max (sizeOf dir manifest.paths) transfer.bytesDone ≤ manifestPayloadBytes manifest ∧
        run'.At store transfer.id (max (sizeOf dir manifest.paths) transfer.bytesDone) dir := by
  rcases h.updated validate_verifying validate_running (fun hend => by cases hend) hrun with
    ⟨⟨-, hbounded, htotal⟩, hupdated⟩
  have hsize : min (sizeOf dir manifest.paths) maxBytes = sizeOf dir manifest.paths := by
    unfold maxBytes at hbounded ⊢
    omega
  rw [hsize] at hbounded hupdated
  exact ⟨htotal, hbounded, h.of_updated hupdated⟩

variable (host) in
theorem TransferRun.At.exists_firstReport (h : run.At store transfer.id transfer.bytesDone dir)
    (htotal : 0 < manifestPayloadBytes manifest ∧ manifestPayloadBytes manifest < 2 ^ 63)
    (hfirst : max (sizeOf dir manifest.paths) transfer.bytesDone ≤ manifestPayloadBytes manifest) :
    ∃ reply run', (updateRunningProgress host transfer
      (max (min (sizeOf dir manifest.paths) maxBytes) transfer.bytesDone)
      (some (manifestPayloadBytes manifest))).outcome run = (.ok reply, run') :=
  h.exists_updated host validate_verifying validate_running (fun hend => by cases hend)
    ⟨Nat.le_max_right _ _, by omega, htotal⟩

section LocalCopy

variable (h : run.At store transfer.id transfer.bytesDone dir)
  (hintact : SourceIntact host source manifest)
  (hroots : ArtifactTransferConfig.samePath sourceRoot destinationRoot = .ok same)
  (hsame : same = true → dir = source)

include h hintact hroots hsame

omit hsame in
theorem TransferRun.At.outcome_copyLocalArtifact :
    (BubaPaint.copyLocalArtifact host source transfer sourceRoot destinationRoot).outcome run =
      if same then
        (updateRunningProgress host transfer
          (max (min (sizeOf dir manifest.paths) maxBytes) transfer.bytesDone)
          (some (manifestPayloadBytes manifest)) >>= fun _ => pure ⟨⟩).outcome run
      else
        (updateRunningProgress host transfer
          (max (min (sizeOf (withSupportFiles source dir) manifest.paths) maxBytes)
            transfer.bytesDone)
          (some (manifestPayloadBytes manifest)) >>= fun _ =>
            forEach manifest.files (BubaPaint.copyListedFile host source transfer manifest)).outcome
                { run with destination := withSupportFiles source dir } := by
  unfold BubaPaint.copyLocalArtifact
  rw [outcome_ofExcept_bind hroots, outcome_ofExcept_bind hintact.read]
  cases same with
  | true =>
    simp only [if_true]
    rw [outcome_get_bind, outcome_ofExcept_bind (payloadBytesFromManifest_eq hintact.paths _),
      h.destination]
  | false =>
    have hmanifest : copySupportFile source "manifest.json" run.destination =
        .ok (copyStep source dir ["manifest.json"]) := by
      rw [h.destination, copySupportFile_manifest hintact]
    simp only [Bool.false_eq_true, if_false]
    rw [outcome_writeDestination_bind hmanifest,
      outcome_writeDestination_bind (copySupportFile_checksums _ _), outcome_get_bind,
      outcome_ofExcept_bind (payloadBytesFromManifest_eq hintact.paths _)]
    rfl

/-- The artifact is copied, and every report is accepted. -/
theorem TransferRun.At.copyLocalArtifact
    (hrun : (BubaPaint.copyLocalArtifact host source transfer sourceRoot destinationRoot).outcome
      run = (.ok ⟨⟩, run')) :
    Reports source (withSupportFiles source dir) manifest transfer.bytesDone ∧
      run'.At store transfer.id (manifestPayloadBytes manifest)
        (copyAll source (withSupportFiles source dir) manifest.paths) := by
  rw [h.outcome_copyLocalArtifact hintact hroots] at hrun
  cases same with
  | true =>
    have hdir := hsame rfl
    rw [if_pos rfl] at hrun
    rcases outcome_bind_eq_ok_iff.mp hrun with ⟨reply, _, hreport, hrun⟩
    cases hrun
    rcases h.firstReport hreport with ⟨htotal, hfirst, hat⟩
    rw [hdir] at hfirst hat
    rw [hdir, withSupportFiles_same hintact, copyAll_same hintact]
    have hsource := hintact.total_eq htotal.2
    have hmax : max (sizeOf source manifest.paths) transfer.bytesDone =
        manifestPayloadBytes manifest := by omega
    refine ⟨⟨htotal, hfirst, ?_⟩, hmax ▸ hat⟩
    refine progresses_of_le (fun _ _ => le_rfl) hsource.le (fun _ hpath => hpath) ?_
    intro first hmem
    rw [copyStep_same source (hintact.isSome (mem_of_head? hmem)), hmax, hsource]
  | false =>
    rw [if_neg Bool.false_ne_true] at hrun
    rcases outcome_bind_eq_ok_iff.mp hrun with ⟨reply, _, hreport, hrun⟩
    have hstart : At { run with destination := withSupportFiles source dir } store
        transfer.id transfer.bytesDone (withSupportFiles source dir) := h.write
    rcases hstart.firstReport hreport with ⟨htotal, hfirst, hat⟩
    rcases hat.copyFiles hintact (fun _ hfile => hfile) hrun with
      ⟨hprogress, done, hdone, hlast⟩
    refine ⟨⟨htotal, hfirst, hprogress⟩, ?_⟩
    have hfiles : manifest.files ≠ [] := by
      intro hnone
      have hzero : manifestPayloadBytes manifest = 0 := by
        unfold manifestPayloadBytes
        rw [hnone]
        rfl
      omega
    have hdoneEq : done = manifestPayloadBytes manifest :=
      (hlast hfiles).trans (sizeOf_copyAll.trans (hintact.total_eq htotal.2))
    exact hdoneEq ▸ hdone

/-- The artifact is copied if the reports can be accepted. -/
theorem TransferRun.At.exists_copyLocalArtifact
    (hreports : Reports source (withSupportFiles source dir) manifest transfer.bytesDone) :
    ∃ run', (BubaPaint.copyLocalArtifact host source transfer sourceRoot destinationRoot).outcome
      run = (.ok ⟨⟩, run') := by
  rcases hreports with ⟨htotal, hfirst, hlater⟩
  rw [h.outcome_copyLocalArtifact hintact hroots]
  cases same with
  | true =>
    rw [hsame rfl, withSupportFiles_same hintact] at hfirst
    rw [if_pos rfl, hsame rfl]
    rw [hsame rfl] at h
    rcases h.exists_firstReport host htotal hfirst with ⟨reply, run', hreport⟩
    exact ⟨run', outcome_bind_eq_ok_iff.mpr ⟨reply, run', hreport, rfl⟩⟩
  | false =>
    have hstart : At { run with destination := withSupportFiles source dir } store
        transfer.id transfer.bytesDone (withSupportFiles source dir) := h.write
    rcases hstart.exists_firstReport host htotal hfirst with ⟨reply, run₁, hreport⟩
    rcases hstart.firstReport hreport with ⟨-, -, hat⟩
    rcases hat.exists_copyFiles hintact (fun _ hfile => hfile) htotal hlater with ⟨run', hfiles⟩
    rw [if_neg Bool.false_ne_true]
    exact ⟨run', outcome_bind_eq_ok_iff.mpr ⟨reply, run₁, hreport, hfiles⟩⟩

end LocalCopy

/-! ## Registration -/

/-- The dashboard takes the artifact as the manifest describes it. -/
structure Registers (store : TransferStore) (artifact : ResearchArtifact)
    (manifest : ArtifactManifest) : Prop where
  id : isBlank manifest.artifactId = false
  kind : isBlank manifest.kind = false
  start : ∀ time, manifest.intervalStartMs.or artifact.intervalStartMs = some time → time < 2 ^ 63
  finish : ∀ time, manifest.intervalEndMs.or artifact.intervalEndMs = some time → time < 2 ^ 63
  machine : ∀ id, artifact.sourceMachineId.or manifest.sourceMachineId = some id →
    (store.machines.find? id).isSome

variable {artifact : ResearchArtifact} {verification : ArtifactVerification}

theorem upsertResearchArtifact_iff (hnow : now < 2 ^ 63) {sourceDbPath : Option String}
    {runtimeDbFile : Option ArtifactFile} :
    (∃ result, store.upsertResearchArtifact (localArtifactRecord artifact manifest destinationRoot
      sourceDbPath runtimeDbFile verification) now = .ok result) ↔
      Registers store artifact manifest ∧ verification.bytesChecked < 2 ^ 63 := by
  constructor
  · rintro ⟨result, h⟩
    rcases ok_of_refuse h with ⟨hid, h⟩
    rcases ok_of_refuse h with ⟨hkind, h⟩
    rcases ok_of_refuse h with ⟨-, h⟩
    rcases ok_of_bind h with ⟨_, -, h⟩
    rcases ok_of_bind h with ⟨_, hstart, h⟩
    rcases ok_of_bind h with ⟨_, hfinish, h⟩
    rcases ok_of_bind h with ⟨_, hbytes, h⟩
    rcases ok_of_refuse h with ⟨hmachine, -⟩
    refine ⟨⟨by simpa [localArtifactRecord] using hid,
      by simpa [localArtifactRecord] using hkind, (mapM_sqlInteger_eq_ok_iff.mp hstart).1,
      (mapM_sqlInteger_eq_ok_iff.mp hfinish).1, fun id hid => ?_⟩,
      (mapM_sqlInteger_eq_ok_iff.mp hbytes).1 _ rfl⟩
    simp only [localArtifactRecord, hid, Option.any_some] at hmachine
    simpa [Option.isSome_iff_ne_none] using hmachine
  · rintro ⟨hregisters, hbytes⟩
    refine exists_refuse_eq_ok_iff.mpr ⟨by simp [localArtifactRecord, hregisters.id], ?_⟩
    refine exists_refuse_eq_ok_iff.mpr ⟨by simp [localArtifactRecord, hregisters.kind], ?_⟩
    refine exists_refuse_eq_ok_iff.mpr ⟨by simp [localArtifactRecord]; decide, ?_⟩
    refine exists_bind_eq_ok_iff.mpr ⟨now, sqlInteger_eq_ok_iff.mpr ⟨hnow, rfl⟩, ?_⟩
    refine exists_bind_eq_ok_iff.mpr ⟨_, mapM_sqlInteger_eq_ok_iff.mpr ⟨hregisters.start, rfl⟩, ?_⟩
    refine exists_bind_eq_ok_iff.mpr ⟨_, mapM_sqlInteger_eq_ok_iff.mpr ⟨hregisters.finish, rfl⟩, ?_⟩
    refine exists_bind_eq_ok_iff.mpr ⟨some verification.bytesChecked,
      mapM_sqlInteger_eq_ok_iff.mpr ⟨fun _ hn => Option.some.inj hn ▸ hbytes, rfl⟩, ?_⟩
    refine exists_refuse_eq_ok_iff.mpr ⟨?_, ?_⟩
    · cases hid : artifact.sourceMachineId.or manifest.sourceMachineId with
      | none => simp [localArtifactRecord, hid]
      | some id =>
        have hfound := Option.isSome_iff_ne_none.mp (hregisters.machine id hid)
        simp [localArtifactRecord, hid, hfound]
    · dsimp only
      split
      · rename_i hnone
        exact absurd hnone (Option.ne_none_iff_exists'.mpr KeyedTable.exists_find?_upsert)
      · exact ⟨_, rfl⟩

theorem upsertResearchArtifact_transfers {record : ResearchArtifactRecord}
    (h : store.upsertResearchArtifact record now = .ok (artifact, store')) :
    store'.transfers = store.transfers := by
  rcases ok_of_refuse h with ⟨-, h⟩
  rcases ok_of_refuse h with ⟨-, h⟩
  rcases ok_of_refuse h with ⟨-, h⟩
  rcases ok_of_bind h with ⟨_, -, h⟩
  rcases ok_of_bind h with ⟨_, -, h⟩
  rcases ok_of_bind h with ⟨_, -, h⟩
  rcases ok_of_bind h with ⟨_, -, h⟩
  rcases ok_of_refuse h with ⟨-, h⟩
  dsimp only at h
  split at h
  · cases h
  · cases h
    rfl

theorem outcome_askDashboard {α : Type}
    (operation : TransferStore → ℕ → Except DashboardError (α × TransferStore))
    (run : TransferRun) :
    (askDashboard host operation).outcome run =
      match operation run.store (host.clock run.ticks) with
      | .ok (reply, store) => (.ok reply, { run with store := store, ticks := run.ticks + 1 })
      | .error error => (.error (.dashboard error), { run with ticks := run.ticks + 1 }) := by
  unfold askDashboard outcome
  cases hreply : operation run.store (host.clock run.ticks) with
  | error error | ok result => simp [ExceptT.run, StateT.run, ExceptT.mk, hreply]

theorem outcome_askDashboard_eq_ok_iff {α : Type} {reply : α}
    {operation : TransferStore → ℕ → Except DashboardError (α × TransferStore)} :
    (askDashboard host operation).outcome run = (.ok reply, run') ↔
      ∃ store', operation run.store (host.clock run.ticks) = .ok (reply, store') ∧
        run' = { run with store := store', ticks := run.ticks + 1 } := by
  rw [outcome_askDashboard]
  rcases operation run.store (host.clock run.ticks) with error | ⟨replied, store'⟩
  · simp
  · grind

theorem normalize_of_verify (h : verifyManifestFiles host dir manifest = .ok verification) :
    ∀ file ∈ manifest.files, normalizeRelativePath file.relativePath = .ok file.path := by
  have hfold : ∀ (files : List ArtifactFile) (bytes bytes' : ℕ),
      files.foldlM (verifyFile host dir) bytes = .ok bytes' →
      ∀ file ∈ files, normalizeRelativePath file.relativePath = .ok file.path := by
    intro files
    induction files with
    | nil => exact fun _ _ _ file hfile => absurd hfile not_mem_nil
    | cons first rest ih =>
      intro bytes bytes' hfold file hfile
      rw [foldlM_cons] at hfold
      rcases ok_of_bind hfold with ⟨_, hfirst, hrest⟩
      rcases mem_cons.mp hfile with rfl | hfile
      · rcases ok_of_bind hfirst with ⟨path, hpath, -⟩
        rw [hpath, normalizeRelativePath_eq_ok hpath]
        rfl
      · exact ih _ _ hrest file hfile
  rcases ok_of_bind h with ⟨bytes, hbytes, -⟩
  exact hfold _ _ _ hbytes

variable (destinationRoot) in
theorem TransferRun.At.outcome_upsertLocalArtifact (h : run.At store id done dir)
    (hread : readManifest host dir = .ok manifest)
    (hverify : verifyManifestFiles host dir manifest = .ok verification) :
    ∃ sourceDbPath runtimeDbFile,
      (upsertLocalArtifact host artifact destinationRoot verification).outcome run =
        (askDashboard host (fun store => store.upsertResearchArtifact (localArtifactRecord artifact
          manifest destinationRoot sourceDbPath runtimeDbFile verification)) >>=
            fun _ => pure ⟨⟩).outcome run := by
  have hdbPath : ∀ file : Option ArtifactFile, (∀ f, file = some f → f ∈ manifest.files) →
      ∃ sourceDbPath, (file.mapM fun file => do
        let path ← normalizeRelativePath file.relativePath
        .ok (destinationRoot.join (path.map .name)).text : Except WorkerError (Option String)) =
          .ok sourceDbPath := by
    intro file hfile
    cases file with
    | none => exact ⟨none, rfl⟩
    | some f =>
      simp only [Option.mapM_some, normalize_of_verify hverify f (hfile f rfl)]
      exact ⟨_, rfl⟩
  have hmem : ∀ f, (manifest.files.find? (·.logicalName = "runtime_db")).or
      (manifest.files.find? (·.kind = "sqlite")) = some f → f ∈ manifest.files := by
    intro f hf
    rcases Option.or_eq_some_iff.mp hf with hfound | ⟨-, hfound⟩
    · exact mem_of_find?_eq_some hfound
    · exact mem_of_find?_eq_some hfound
  rcases hdbPath _ hmem with ⟨sourceDbPath, hsourceDbPath⟩
  refine ⟨sourceDbPath, (manifest.files.find? (·.logicalName = "runtime_db")).or
    (manifest.files.find? (·.kind = "sqlite")), ?_⟩
  unfold upsertLocalArtifact
  rw [outcome_get_bind, h.destination, outcome_ofExcept_bind hread,
    outcome_ofExcept_bind hsourceDbPath]

variable (destinationRoot) in
/-- The artifact is registered at its destination if and only if the dashboard takes it. -/
theorem TransferRun.At.upsertLocalArtifact_iff (h : run.At store id done dir)
    (hread : readManifest host dir = .ok manifest)
    (hverify : verifyManifestFiles host dir manifest = .ok verification) :
    (∃ run', (upsertLocalArtifact host artifact destinationRoot verification).outcome run =
      (.ok ⟨⟩, run')) ↔ Registers store artifact manifest ∧ verification.bytesChecked < 2 ^ 63 := by
  have hmachines : Registers run.store artifact manifest ↔ Registers store artifact manifest := by
    constructor
    · rintro ⟨hid, hkind, hstart, hfinish, hmachine⟩
      exact ⟨hid, hkind, hstart, hfinish, h.machines ▸ hmachine⟩
    · rintro ⟨hid, hkind, hstart, hfinish, hmachine⟩
      exact ⟨hid, hkind, hstart, hfinish, h.machines.symm ▸ hmachine⟩
  rcases h.outcome_upsertLocalArtifact destinationRoot hread hverify with
    ⟨sourceDbPath, runtimeDbFile, houtcome⟩
  rw [← hmachines, houtcome]
  constructor
  · rintro ⟨run', hrun⟩
    rcases outcome_bind_eq_ok_iff.mp hrun with ⟨_, _, hupsert, -⟩
    rcases outcome_askDashboard_eq_ok_iff.mp hupsert with ⟨store', hupsert, -⟩
    exact (upsertResearchArtifact_iff (host.storable _)).mp ⟨_, hupsert⟩
  · intro hregisters
    rcases (upsertResearchArtifact_iff (host.storable run.ticks)).mpr hregisters with
      ⟨⟨reply, store'⟩, hupsert⟩
    exact ⟨_, outcome_bind_eq_ok_iff.mpr
      ⟨reply, _, outcome_askDashboard_eq_ok_iff.mpr ⟨store', hupsert, rfl⟩, rfl⟩⟩

theorem TransferRun.At.of_upsertLocalArtifact (h : run.At store id done dir)
    (hread : readManifest host dir = .ok manifest)
    (hverify : verifyManifestFiles host dir manifest = .ok verification)
    (hrun : (upsertLocalArtifact host artifact destinationRoot verification).outcome run =
      (.ok ⟨⟩, run')) :
    run'.At run'.store id done dir := by
  rcases h.outcome_upsertLocalArtifact destinationRoot hread hverify with
    ⟨sourceDbPath, runtimeDbFile, houtcome⟩
  rw [houtcome] at hrun
  rcases outcome_bind_eq_ok_iff.mp hrun with ⟨_, _, hupsert, hrun⟩
  cases hrun
  rcases outcome_askDashboard_eq_ok_iff.mp hupsert with ⟨store', hstored, rfl⟩
  exact ⟨(upsertResearchArtifact_transfers hstored).symm ▸ h.row, rfl, rfl, h.destination,
    h.replies⟩

variable (host) in
/-- What an attempt does after the copy. -/
def finishTransfer (transfer : ArtifactTransfer) (artifact : ResearchArtifact)
    (destinationRoot : Path) : Attempt WorkerError TransferRun ArtifactTransfer := do
  let run ← get
  let verification ← .ofExcept (verifyArtifact host run.destination)
  upsertLocalArtifact host artifact destinationRoot verification
  updateArtifactTransferProgress host transfer.id
    { status := "completed"
      bytesDone := some verification.bytesChecked
      bytesTotal := some verification.bytesChecked
      checksumStatus := some "verified"
      error := none }

/-- The directory passes the check of its own manifest, which is large enough for the bytes done, and
the dashboard takes the artifact. -/
def Finishes (host : ArtifactHost) (store : TransferStore) (artifact : ResearchArtifact)
    (bytesDone : ℕ) (dir : ArtifactDir) : Prop :=
  ∃ manifest verification, readManifest host dir = .ok manifest ∧
    verifyManifestFiles host dir manifest = .ok verification ∧
      Registers store artifact manifest ∧ bytesDone ≤ verification.bytesChecked ∧
        verification.bytesChecked < 2 ^ 63

theorem validate_completed : validateTransferStatus "completed" = .ok .completed :=
  rfl

theorem validate_verified : validateTransferChecksumStatus "verified" = .ok .verified :=
  rfl

/-- An attempt that is finished. -/
theorem TransferRun.At.finishTransfer (h : run.At store transfer.id done dir)
    (hrun : (BubaPaint.finishTransfer host transfer artifact destinationRoot).outcome run =
      (.ok reply, run')) :
    Finishes host store artifact done dir ∧ reply.status = .completed ∧
      reply.checksumStatus = some .verified ∧ run'.destination = dir ∧
        ∀ answer ∈ run'.replies, ∃ row, answer = .ok row := by
  unfold BubaPaint.finishTransfer at hrun
  rw [outcome_get_bind, h.destination] at hrun
  rcases outcome_bind_eq_ok_iff.mp hrun with ⟨verification, _, hverify, hrun⟩
  rcases Prod.mk.inj hverify with ⟨hverified, rfl⟩
  rcases ok_of_bind hverified with ⟨manifest, hread, hfiles⟩
  rcases outcome_bind_eq_ok_iff.mp hrun with ⟨_, run₁, hupsert, hrun⟩
  rcases (h.upsertLocalArtifact_iff destinationRoot hread hfiles).mp ⟨_, hupsert⟩ with
    ⟨hregisters, hbytes⟩
  have hat := h.of_upsertLocalArtifact hread hfiles hupsert
  rcases hat.updated validate_verified validate_completed (fun _ => rfl) hrun with
    ⟨⟨hgrows, -, -, -⟩, hupdated⟩
  refine ⟨⟨manifest, verification, hread, hfiles, hregisters, hgrows, hbytes⟩,
    hupdated.status.1, hupdated.status.2, hupdated.destination.trans hat.destination, ?_⟩
  rw [hupdated.replies]
  intro answer hanswer
  rcases mem_append.mp hanswer with hanswer | hanswer
  · exact hat.replies answer hanswer
  · exact ⟨reply, mem_singleton.mp hanswer⟩

/-- An attempt can be finished. -/
theorem TransferRun.At.exists_finishTransfer (h : run.At store transfer.id done dir)
    (hdone : 0 < done) (hfinishes : Finishes host store artifact done dir) :
    ∃ reply run', (BubaPaint.finishTransfer host transfer artifact destinationRoot).outcome run =
      (.ok reply, run') := by
  rcases hfinishes with ⟨manifest, verification, hread, hfiles, hregisters, hgrows, hbytes⟩
  rcases (h.upsertLocalArtifact_iff destinationRoot hread hfiles).mpr
    ⟨hregisters, hbytes⟩ with ⟨run₁, hupsert⟩
  have hat := h.of_upsertLocalArtifact hread hfiles hupsert
  rcases hat.exists_updated host validate_verified validate_completed (fun _ => rfl)
    ⟨hgrows, le_rfl, lt_of_lt_of_le hdone hgrows, hbytes⟩ with ⟨reply, run', hupdate⟩
  have hverified : verifyArtifact host dir = .ok verification :=
    bind_eq_ok_iff.mpr ⟨manifest, hread, hfiles⟩
  unfold BubaPaint.finishTransfer
  rw [outcome_get_bind, h.destination, outcome_ofExcept_bind hverified]
  exact ⟨reply, run', outcome_bind_eq_ok_iff.mpr ⟨⟨⟩, run₁, hupsert, hupdate⟩⟩

/-! ## Failed attempts -/

def TransferRun.Open (run : TransferRun) (id : String) : Prop :=
  ∀ row ∈ run.store.transfers.rows, row.id = id → ¬ row.status.IsTerminal

theorem open_of_update (hstatus : validateTransferStatus progress.status = .ok newStatus)
    (hopen : ¬ newStatus.IsTerminal)
    (h : store.updateArtifactTransferProgress id progress now = .ok (reply, store')) :
    ∀ row ∈ store'.transfers.rows, row.id = id → ¬ row.status.IsTerminal := by
  rcases TransferStore.updateArtifactTransferProgress_eq_ok h with
    ⟨before, f, hf, hbefore, hmoves, hreply⟩
  rcases TransferStore.queryArtifactTransfer_eq_ok_iff.mp hbefore with ⟨hmem, hid⟩
  rcases TransferStore.reply_eq_ok hreply with ⟨rfl, -⟩
  have hafter : (f before).status = newStatus :=
    (Except.ok.inj (hstatus.symm.trans hmoves.status)).symm
  intro row hrow hrowId
  rcases mem_map.mp hrow with ⟨old, hold, rfl⟩
  by_cases hsame : old.id = id
  · have hbeforeEq : old = before := KeyedTable.eq_of_key hold hmem (hsame.trans hid.symm)
    simpa [hsame, hbeforeEq, hid, hafter] using hopen
  · simp [hsame] at hrowId

variable (host) in
theorem leaves_open_update (progress : TransferProgress) :
    Attempt.LeavesOnFailure (Open · id)
      (updateArtifactTransferProgress host id progress) := by
  intro run hrun error run' houtcome
  rw [outcome_updateArtifactTransferProgress] at houtcome
  split at houtcome
  · cases houtcome
  · cases houtcome
    exact hrun

variable (host) in
theorem keeps_open_update (hstatus : validateTransferStatus progress.status = .ok newStatus)
    (hopen : ¬ newStatus.IsTerminal) :
    Attempt.Keeps (Open · id) (updateArtifactTransferProgress host id progress) := by
  intro run hrun
  rcases houtcome : (updateArtifactTransferProgress host id progress).outcome run with
    ⟨error | reply, run'⟩
  · exact leaves_open_update host progress run hrun error run' houtcome
  · rcases outcome_updateArtifactTransferProgress_eq_ok_iff.mp houtcome with ⟨store', hupdate, rfl⟩
    exact open_of_update hstatus hopen hupdate

variable (host) in
theorem keeps_open_report (transfer : ArtifactTransfer) (bytes : ℕ) (total : Option ℕ) :
    Attempt.Keeps (Open · transfer.id)
      (updateRunningProgress host transfer bytes total) :=
  keeps_open_update host validate_running (by decide)

theorem keeps_open_write (copy : ArtifactDir → Except WorkerError ArtifactDir) :
    Attempt.Keeps (Open · id) (writeDestination copy) :=
  .get_bind fun _ => .bind (.ofExcept _) fun _ _ hrun => hrun

variable (host source) in
theorem keeps_open_copyListedFile (transfer : ArtifactTransfer) (manifest : ArtifactManifest)
    (file : ArtifactFile) :
    Attempt.Keeps (Open · transfer.id)
      (copyListedFile host source transfer manifest file) :=
  .bind (.ofExcept _) fun _ =>
  .bind (keeps_open_write _) fun _ =>
  .get_bind fun _ =>
  .bind (.ofExcept _) fun _ =>
  .bind (keeps_open_report host transfer _ _) fun _ =>
  .pure _

variable (host source) in
theorem keeps_open_copyLocalArtifact (transfer : ArtifactTransfer)
    (sourceRoot destinationRoot : Path) :
    Attempt.Keeps (Open · transfer.id)
      (copyLocalArtifact host source transfer sourceRoot destinationRoot) := by
  refine .bind (.ofExcept _) fun same => .bind (.ofExcept _) fun manifest => ?_
  split
  · exact .get_bind fun _ => .bind (.ofExcept _) fun _ =>
      .bind (keeps_open_report host transfer _ _) fun _ => .pure _
  · exact .bind (keeps_open_write _) fun _ => .bind (keeps_open_write _) fun _ =>
      .get_bind fun _ => .bind (.ofExcept _) fun _ =>
      .bind (keeps_open_report host transfer _ _) fun _ =>
      .forEach fun _ _ => keeps_open_copyListedFile host source transfer manifest _

variable (host) in
theorem keeps_open_upsertLocalArtifact (artifact : ResearchArtifact) (destinationRoot : Path)
    (verification : ArtifactVerification) :
    Attempt.Keeps (Open · id)
      (upsertLocalArtifact host artifact destinationRoot verification) := by
  refine .get_bind fun _ => .bind (.ofExcept _) fun _ => .bind (.ofExcept _) fun _ =>
    .bind ?_ fun _ => .pure _
  intro run hrun
  rw [outcome_askDashboard]
  split
  · rename_i hupsert
    unfold Open
    rw [upsertResearchArtifact_transfers hupsert]
    exact hrun
  · exact hrun

variable (host) in
/-- If an attempt cannot be finished, it leaves the transfer open. -/
theorem leaves_open_finishTransfer (transfer : ArtifactTransfer) (artifact : ResearchArtifact)
    (destinationRoot : Path) :
    Attempt.LeavesOnFailure (Open · transfer.id)
      (finishTransfer host transfer artifact destinationRoot) :=
  .bind .read fun _ =>
  .bind (.ofExcept _) fun _ =>
  .bind (keeps_open_upsertLocalArtifact host artifact destinationRoot _) fun _ =>
  leaves_open_update host _

/-- A transfer that is open is not completed by being marked as retryable. -/
theorem status_of_markRetryable {error : String} {row : Option ArtifactTransfer}
    (hopen : run.Open transfer.id)
    (hrun : (markRetryable host transfer error).outcome run = (.ok row, run')) :
    ∃ current, row = some current ∧ current.status ≠ .completed := by
  rcases outcome_bind_eq_ok_iff.mp hrun with ⟨_, _, hget, hrun⟩
  cases hget
  rcases outcome_bind_eq_ok_iff.mp hrun with ⟨current, _, hcurrent, hrun⟩
  rcases Prod.mk.inj hcurrent with ⟨hquery, rfl⟩
  have hfound : run.store.queryArtifactTransfer transfer.id = .ok current := by
    cases hresult : run.store.queryArtifactTransfer transfer.id with
    | error error =>
      rw [hresult] at hquery
      cases hquery
    | ok found =>
      rw [hresult] at hquery
      cases hquery
      rfl
  rcases TransferStore.queryArtifactTransfer_eq_ok_iff.mp hfound with ⟨hmem, hid⟩
  rw [if_neg (hopen current hmem hid)] at hrun
  rcases outcome_bind_eq_ok_iff.mp hrun with ⟨failed, _, hupdate, hrun⟩
  cases hrun
  refine ⟨failed, rfl, ?_⟩
  rcases outcome_updateArtifactTransferProgress_eq_ok_iff.mp hupdate with ⟨store', hstored, -⟩
  rcases TransferStore.updateArtifactTransferProgress_spec hmem hid hstored with ⟨hmoves, -⟩
  have hretryable : failed.status = .retryable := (Except.ok.inj hmoves.status).symm
  rw [hretryable]
  decide

theorem claimed_running {destMachineId : String}
    (h : store.claimNextArtifactTransfer destMachineId now = .ok (some transfer, store')) :
    transfer ∈ store'.transfers.rows ∧ transfer.status = .running := by
  rcases ok_of_refuse h with ⟨-, h⟩
  rcases ok_of_bind h with ⟨accepts, -, h⟩
  split at h
  · cases h
  split at h
  · cases h
  · rename_i oldest holdest
    rcases ok_of_bind h with ⟨time, -, h⟩
    rcases ok_of_map h with ⟨⟨replied, _⟩, hreply, heq⟩
    cases heq
    rcases TransferStore.reply_eq_ok hreply with ⟨rfl, hmem, hid⟩
    refine ⟨hmem, ?_⟩
    rcases mem_map.mp hmem with ⟨old, hold, rfl⟩
    have hclaimable : oldest ∈ store.transfers.rows ∧
        oldest.status ∈ [ArtifactTransferStatus.queued, .retryable] := by
      have hoccurs := mem_of_head? holdest
      rw [mem_insertionSort, mem_filter] at hoccurs
      simp only [Bool.and_eq_true, decide_eq_true_eq] at hoccurs
      exact ⟨hoccurs.1, hoccurs.2.1⟩
    by_cases hsame : old.id = oldest.id
    · have heq : old = oldest := KeyedTable.eq_of_key hold hclaimable.1 hsame
      simp only [heq, hclaimable.2, decide_true, Bool.and_self, if_true]
    · simp [hsame] at hid

end Updates

end BubaPaint
