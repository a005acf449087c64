import BubaPaint.Dashboard.TransferAttempts

/-!
# Transfers that are resumed

An attempt continues what earlier ones have left at the destination. It completes if every file
there can be continued, and otherwise it never will: nothing removes a file of the right length, a
report that shows fewer bytes than before is refused, and each attempt starts from the same files.

Main results:

- Theorem `completes_iff`: an attempt completes the transfer iff its steps succeed.
- Theorem `resumed_transfers`: it completes iff what is at the destination can be resumed.
- Theorem `resumed_transfers_stuck`: a destination that makes every attempt fail.
-/

namespace BubaPaint

open Effects Paths ArtifactTransferConfig Attempt

section Attempts

variable {host : ArtifactHost} {config : ArtifactTransferConfig} {source : ArtifactDir}
variable {manifest : ArtifactManifest} {store : TransferStore} {run run' : TransferRun}
variable {transfer : ArtifactTransfer} {artifact : ResearchArtifact} {dir : ArtifactDir}
variable {sourceRoot destinationRoot : Path}
variable (copyRemoteArtifact :
  ArtifactTransfer → ResearchMachine → Path → Path → Attempt WorkerError TransferRun PUnit)

/-- The attempt claims a transfer from an intact local source. -/
structure LocalAttempt (host : ArtifactHost) (config : ArtifactTransferConfig)
    (source : ArtifactDir) (manifest : ArtifactManifest) (run : TransferRun)
    (transfer : ArtifactTransfer) (store : TransferStore) (artifact : ResearchArtifact)
    (sourceRoot : Path) : Prop where
  claimed : run.store.claimNextArtifactTransfer config.localMachineId (host.clock run.ticks) =
    .ok (some transfer, store)
  found : store.artifactOf transfer = .ok artifact
  machine : ∃ machine, store.sourceMachine transfer artifact = .ok machine ∧
    ∀ m, machine = some m → m.id = config.localMachineId
  root : ArtifactTransferConfig.artifactSourceRoot artifact = .ok sourceRoot
  intact : SourceIntact host source manifest
  same : ∀ destinationRoot, config.destinationRoot artifact.id = .ok destinationRoot →
    ArtifactTransferConfig.samePath sourceRoot destinationRoot = .ok true → run.destination = source
  replies : run.replies = []

namespace LocalAttempt

section Local

variable (h : LocalAttempt host config source manifest run transfer store artifact sourceRoot)

include h

/-- The claimed transfer runs, and no update has been answered yet. -/
theorem at_claimed :
    TransferRun.At { run with store := store, ticks := run.ticks + 1 } store transfer.id
      transfer.bytesDone run.destination where
  row := ⟨transfer, (claimed_running h.claimed).1, rfl, (claimed_running h.claimed).2, rfl⟩
  artifacts := rfl
  machines := rfl
  destination := rfl
  replies := by simp [h.replies]

/-- Both roots are normal paths, so they can be compared. -/
theorem samePath_eq_ok (hdestination : config.destinationRoot artifact.id = .ok destinationRoot) :
    ∃ same, samePath sourceRoot destinationRoot = .ok same := by
  have hsource : normalizePath sourceRoot = .ok sourceRoot := by
    have hroot := h.root
    unfold artifactSourceRoot artifactDirectory at hroot
    split at hroot
    · exact lexicalPath_of_lexicalPath hroot
    · exact lexicalPath_of_lexicalPath hroot
    · cases hroot
  have hnormal : normalizePath destinationRoot = .ok destinationRoot := by
    rcases ok_of_bind hdestination with ⟨name, -, hresolve⟩
    rcases ok_of_bind hresolve with ⟨candidate, hcandidate, hunder⟩
    rcases require_eq_ok_iff.mp hunder with ⟨-, hresult⟩
    cases hresult
    exact lexicalPath_of_lexicalPath hcandidate
  refine ⟨decide (sourceRoot = destinationRoot), ?_⟩
  unfold samePath
  rw [hsource, hnormal]
  rfl

/-- A local attempt copies the files and then finishes the transfer. -/
theorem runClaimed_eq :
    (runClaimed host config source copyRemoteArtifact transfer).outcome
        { run with store := store, ticks := run.ticks + 1 } =
      match config.destinationRoot artifact.id with
      | .error error => (.error error, { run with store := store, ticks := run.ticks + 1 })
      | .ok destinationRoot =>
        (copyLocalArtifact host source transfer sourceRoot destinationRoot >>= fun _ =>
          finishTransfer host transfer artifact destinationRoot).outcome
            { run with store := store, ticks := run.ticks + 1 } := by
  rcases h.machine with ⟨machine, hmachine, hlocal⟩
  have hfilter : machine.filter (·.id ≠ config.localMachineId) = none := by
    cases machine with
    | none => rfl
    | some m => simp [hlocal m rfl]
  unfold runClaimed
  rw [outcome_get_bind, outcome_ofExcept_bind h.found, outcome_ofExcept_bind hmachine,
    outcome_ofExcept_bind h.root]
  cases hdestination : config.destinationRoot artifact.id with
  | error error =>
    rw [outcome_bind]
    rfl
  | ok destinationRoot =>
    rw [outcome_ofExcept_bind rfl, hfilter]
    rfl

/-- An attempt that fails is marked retryable. -/
theorem runOne_eq :
    (runOne host config source copyRemoteArtifact).outcome run =
      match (runClaimed host config source copyRemoteArtifact transfer).outcome
        { run with store := store, ticks := run.ticks + 1 } with
      | (.ok completed, run') => (.ok (some completed), run')
      | (.error error, run') => (markRetryable host transfer error.text).outcome run' := by
  have hclaim : (askDashboard host fun store =>
      store.claimNextArtifactTransfer config.localMachineId).outcome run =
        (.ok (some transfer), { run with store := store, ticks := run.ticks + 1 }) :=
    outcome_askDashboard_eq_ok_iff.mpr ⟨store, h.claimed, rfl⟩
  unfold runOne
  rw [outcome_bind, hclaim]
  rfl

end Local

end LocalAttempt

/-! ## When a resumed transfer completes -/

/-- The attempt ends with the transfer completed and verified, every listed file is that of the
source, and no status update has been refused. -/
def Completes (host : ArtifactHost) (config : ArtifactTransferConfig) (source : ArtifactDir)
    (copyRemoteArtifact :
      ArtifactTransfer → ResearchMachine → Path → Path → Attempt WorkerError TransferRun PUnit)
    (manifest : ArtifactManifest) (run : TransferRun) : Prop :=
  ∃ row run', (runOne host config source copyRemoteArtifact).outcome run = (.ok (some row), run') ∧
    row.status = .completed ∧ row.checksumStatus = some .verified ∧
      (∀ path ∈ manifest.paths, run'.destination path = source path) ∧
        ∀ reply ∈ run'.replies, ∃ row, reply = .ok row

/-- What is at the destination can be resumed: its manifest and checksums once they are copied, each
listed file, and the bytes done that have been stored. -/
structure Resumable (host : ArtifactHost) (config : ArtifactTransferConfig) (source : ArtifactDir)
    (manifest : ArtifactManifest) (store : TransferStore) (artifact : ResearchArtifact)
    (bytesDone : ℕ) (start : ArtifactDir) : Prop where
  directory : ∃ destinationRoot, config.destinationRoot artifact.id = .ok destinationRoot
  total : 0 < manifestPayloadBytes manifest ∧ manifestPayloadBytes manifest < 2 ^ 63
  files : ∀ path ∈ manifest.paths, CanResume source start path
  stored : ∀ first, manifest.paths.head? = some first →
    bytesDone ≤ sizeOf (copyStep source start first) manifest.paths
  finishes : Finishes host store artifact (manifestPayloadBytes manifest)
    (deliveredDir source start manifest.paths)

/-- An attempt that succeeds completes the transfer, and one that fails does not. -/
theorem completes_iff (h : LocalAttempt host config source manifest run transfer store artifact
    sourceRoot) :
    Completes host config source copyRemoteArtifact manifest run ↔
      ∃ destinationRoot reply run', config.destinationRoot artifact.id = .ok destinationRoot ∧
        (copyLocalArtifact host source transfer sourceRoot destinationRoot >>= fun _ =>
          finishTransfer host transfer artifact destinationRoot).outcome
            { run with store := store, ticks := run.ticks + 1 } = (.ok reply, run') ∧
          ∀ path ∈ manifest.paths, run'.destination path = source path := by
  have hopen : TransferRun.Open { run with store := store, ticks := run.ticks + 1 }
      transfer.id := by
    intro row hrow hid
    rcases claimed_running h.claimed with ⟨hmem, hrunning⟩
    rw [KeyedTable.eq_of_key hrow hmem hid, hrunning]
    decide
  unfold Completes
  rw [h.runOne_eq, h.runClaimed_eq]
  cases hdestination : config.destinationRoot artifact.id with
  | error error =>
    constructor
    · rintro ⟨row, run', hrun, hcompleted, -⟩
      rcases status_of_markRetryable hopen hrun with ⟨current, hcurrent, hother⟩
      cases hcurrent
      exact absurd hcompleted hother
    · rintro ⟨_, _, _, hok, -⟩
      cases hok
  | ok destinationRoot =>
    dsimp only
    rcases hrun : (copyLocalArtifact host source transfer sourceRoot destinationRoot >>= fun _ =>
        finishTransfer host transfer artifact destinationRoot).outcome
          { run with store := store, ticks := run.ticks + 1 } with ⟨error | reply, run'⟩
    · constructor
      · rintro ⟨row, run'', hmarked, hcompleted, -⟩
        have hleft : run'.Open transfer.id :=
          Attempt.LeavesOnFailure.bind
            (keeps_open_copyLocalArtifact host source transfer sourceRoot destinationRoot)
            (fun _ => leaves_open_finishTransfer host transfer artifact destinationRoot) _ hopen
            error run' hrun
        rcases status_of_markRetryable hleft hmarked with ⟨current, hcurrent, hother⟩
        cases hcurrent
        exact absurd hcompleted hother
      · rintro ⟨root, reply, run'', hroot, hother, -⟩
        cases hroot
        cases hrun.symm.trans hother
    · constructor
      · rintro ⟨row, run'', hcompleted, -, -, hfiles, -⟩
        cases hcompleted
        exact ⟨destinationRoot, reply, run', rfl, hrun, hfiles⟩
      · rintro ⟨root, reply', run'', hroot, hother, hfiles⟩
        cases hroot
        cases hrun.symm.trans hother
        rcases h.samePath_eq_ok hdestination with ⟨same, hroots⟩
        rcases outcome_bind_eq_ok_iff.mp hrun with ⟨_, run₁, hcopy, hfinish⟩
        rcases h.at_claimed.copyLocalArtifact h.intact hroots
          (fun hsame => h.same _ hdestination (hsame ▸ hroots)) hcopy with ⟨-, hat⟩
        rcases hat.finishTransfer hfinish with ⟨-, hstatus, hchecksum, -, hreplies⟩
        exact ⟨reply, run', rfl, hstatus, hchecksum, hfiles, hreplies⟩

/-- Where every listed file can be resumed, copying delivers each of them. -/
theorem copyAll_eq_delivered (hintact : SourceIntact host source manifest)
    (hfiles : ∀ path ∈ manifest.paths, CanResume source dir path) :
    copyAll source dir manifest.paths = deliveredDir source dir manifest.paths := by
  funext path
  rw [copyAll_apply]
  unfold deliveredDir
  by_cases hpath : path ∈ manifest.paths
  · have hcopied := (copyStep_eq_source_iff (hintact.isSome hpath) (hfiles path hpath).le).mpr
      (hfiles path hpath)
    rw [copyStep, Function.update_self] at hcopied
    rw [if_pos hpath, if_pos hpath, hcopied]
  · rw [if_neg hpath, if_neg hpath]

/-- A transfer that is completed was one that can be resumed. -/
theorem resumable_of_completes (h : LocalAttempt host config source manifest run transfer store
    artifact sourceRoot)
    (hcompletes : Completes host config source copyRemoteArtifact manifest run) :
    Resumable host config source manifest store artifact transfer.bytesDone
      (withSupportFiles source run.destination) := by
  have hpaths : ∀ path ∈ manifest.files.map (·.path), path ∈ manifest.paths := fun _ hpath => hpath
  rcases (completes_iff copyRemoteArtifact h).mp hcompletes with
    ⟨destinationRoot, reply, run', hdestination, hrun, hfiles⟩
  rcases h.samePath_eq_ok hdestination with ⟨same, hroots⟩
  rcases outcome_bind_eq_ok_iff.mp hrun with ⟨_, run₁, hcopy, hfinish⟩
  rcases h.at_claimed.copyLocalArtifact h.intact hroots
    (fun hsame => h.same _ hdestination (hsame ▸ hroots)) hcopy with ⟨hreports, hat⟩
  rcases hat.finishTransfer hfinish with ⟨hfinishes, -, -, hkept, -⟩
  have hle := hreports.later.le_source hpaths (Nat.le_max_left _ _)
  have hresume : ∀ path ∈ manifest.paths,
      CanResume source (withSupportFiles source run.destination) path := by
    intro path hpath
    refine (copyStep_eq_source_iff (h.intact.isSome hpath) (hle path hpath)).mp ?_
    have hdelivered := hfiles path hpath
    rw [hkept, copyAll_apply, if_pos hpath] at hdelivered
    rw [copyStep, Function.update_self, hdelivered]
  refine ⟨⟨destinationRoot, hdestination⟩, hreports.total, hresume, ?_, ?_⟩
  · intro first hfirst
    have hlater := hreports.later
    cases hlist : manifest.paths with
    | nil => simp [hlist] at hfirst
    | cons head rest =>
      rw [hlist] at hfirst
      cases hfirst
      have hprogress : Progresses source manifest.paths (manifestPayloadBytes manifest)
          (max (sizeOf (withSupportFiles source run.destination) manifest.paths)
            transfer.bytesDone) (withSupportFiles source run.destination) (first :: rest) := by
        rwa [← hlist]
      rw [← hlist]
      exact (Nat.le_max_right _ _).trans hprogress.1
  · rw [← copyAll_eq_delivered h.intact hresume]
    exact hfinishes

/-- A transfer that can be resumed is completed. -/
theorem completes_of_resumable (h : LocalAttempt host config source manifest run transfer store
    artifact sourceRoot)
    (hresumable : Resumable host config source manifest store artifact transfer.bytesDone
      (withSupportFiles source run.destination)) :
    Completes host config source copyRemoteArtifact manifest run := by
  have hpaths : ∀ path ∈ manifest.files.map (·.path), path ∈ manifest.paths := fun _ hpath => hpath
  rw [completes_iff copyRemoteArtifact h]
  rcases hresumable with ⟨⟨destinationRoot, hdestination⟩, htotal, hfiles, hstored, hfinishes⟩
  rcases h.samePath_eq_ok hdestination with ⟨same, hroots⟩
  have hle : ∀ path ∈ manifest.paths, fileSize (withSupportFiles source run.destination path) ≤
      fileSize (source path) := fun path hpath => (hfiles path hpath).le
  have hsource := h.intact.total_eq htotal.2
  have hsize := (sizeOf_le_sizeOf hle).trans hsource.le
  have hfirst : ∀ first, manifest.paths.head? = some first →
      max (sizeOf (withSupportFiles source run.destination) manifest.paths) transfer.bytesDone ≤
        sizeOf (copyStep source (withSupportFiles source run.destination) first)
          manifest.paths := by
    intro first hmem
    have hgrows : sizeOf (withSupportFiles source run.destination) manifest.paths ≤
        sizeOf (copyStep source (withSupportFiles source run.destination) first) manifest.paths :=
      sizeOf_le_sizeOf fun path _ => le_copyStep (hle first (List.mem_of_head? hmem)) path
    exact Nat.max_le.mpr ⟨hgrows, hstored first hmem⟩
  have hlater := progresses_of_le hle hsource.le hpaths hfirst
  have hbound : max (sizeOf (withSupportFiles source run.destination) manifest.paths)
      transfer.bytesDone ≤ manifestPayloadBytes manifest := by
    cases hlist : manifest.paths with
    | nil =>
      have hzero : sizeOf source manifest.paths = 0 := by
        rw [hlist]
        rfl
      omega
    | cons first rest =>
      have hprogress : Progresses source manifest.paths (manifestPayloadBytes manifest)
          (max (sizeOf (withSupportFiles source run.destination) manifest.paths)
            transfer.bytesDone) (withSupportFiles source run.destination) (first :: rest) := by
        rwa [← hlist]
      rw [← hlist]
      exact hprogress.1.trans hprogress.2.1
  have hsame : same = true → run.destination = source := fun hsame =>
    h.same _ hdestination (hsame ▸ hroots)
  rcases h.at_claimed.exists_copyLocalArtifact h.intact hroots hsame ⟨htotal, hbound, hlater⟩
    with ⟨run₁, hcopy⟩
  rcases h.at_claimed.copyLocalArtifact h.intact hroots hsame hcopy with ⟨-, hat⟩
  rw [copyAll_eq_delivered h.intact hfiles] at hat
  rcases hat.exists_finishTransfer htotal.1 hfinishes with ⟨reply, run', hfinish⟩
  refine ⟨destinationRoot, reply, run', hdestination,
    outcome_bind_eq_ok_iff.mpr ⟨⟨⟩, run₁, hcopy, hfinish⟩, fun path hpath => ?_⟩
  rcases hat.finishTransfer hfinish with ⟨-, -, -, hkept, -⟩
  rw [hkept]
  exact if_pos hpath

/-- Claiming a local transfer and running it completes it if and only if what is at the destination
can be resumed. -/
theorem resumed_transfers (host : ArtifactHost) (config : ArtifactTransferConfig)
    (source : ArtifactDir) (copyRemoteArtifact :
      ArtifactTransfer → ResearchMachine → Path → Path → Attempt WorkerError TransferRun PUnit)
    (manifest : ArtifactManifest) (run : TransferRun) (transfer : ArtifactTransfer)
    (store : TransferStore) (artifact : ResearchArtifact) (sourceRoot : Path)
    (h : LocalAttempt host config source manifest run transfer store artifact sourceRoot) :
    Completes host config source copyRemoteArtifact manifest run ↔
      Resumable host config source manifest store artifact transfer.bytesDone
        (withSupportFiles source run.destination) :=
  ⟨resumable_of_completes copyRemoteArtifact h, completes_of_resumable copyRemoteArtifact h⟩

/-- The manifest that is read after the copy is that of the source. -/
theorem readManifest_deliveredDir (hintact : SourceIntact host source manifest)
    (hmanifest : CanResume source dir ["manifest.json"]) :
    readManifest host (deliveredDir source (withSupportFiles source dir) manifest.paths) =
      .ok manifest := by
  have hcopied := (copyStep_eq_source_iff hintact.isSome_manifest hmanifest.le).mpr hmanifest
  have hstart : withSupportFiles source dir ["manifest.json"] = source ["manifest.json"] := by
    unfold withSupportFiles
    split
    · exact hcopied
    · exact (copyStep_of_ne (by decide)).trans hcopied
  have hsame : deliveredDir source (withSupportFiles source dir) manifest.paths ["manifest.json"] =
      source ["manifest.json"] := by
    unfold deliveredDir
    rw [hstart, ite_self]
  rw [readManifest_eq, hsame, ← readManifest_eq]
  exact hintact.read

/-- Where the manifest and the listed files start like those of the source, the transfer can be
resumed, if the dashboard takes the artifact and the bytes done are not too many. -/
theorem resumable_of_prefixes (hintact : SourceIntact host source manifest)
    (hdirectory : ∃ destinationRoot, config.destinationRoot artifact.id = .ok destinationRoot)
    (htotal : 0 < manifestPayloadBytes manifest ∧ manifestPayloadBytes manifest < 2 ^ 63)
    (hmanifest : CanResume source dir ["manifest.json"])
    (hfiles : ∀ path ∈ manifest.paths, CanResume source (withSupportFiles source dir) path)
    {bytesDone : ℕ}
    (hstored : ∀ first, manifest.paths.head? = some first →
      bytesDone ≤ sizeOf (copyStep source (withSupportFiles source dir) first) manifest.paths)
    (hregisters : Registers store artifact manifest) :
    Resumable host config source manifest store artifact bytesDone
      (withSupportFiles source dir) where
  directory := hdirectory
  total := htotal
  files := hfiles
  stored := hstored
  finishes :=
    ⟨manifest, _, readManifest_deliveredDir hintact hmanifest, verify_deliveredDir hintact _,
    hregisters, le_rfl, htotal.2⟩

end Attempts

/-! ## Two files -/

def asciiBytes (text : String) : List UInt8 :=
  text.toList.map fun c => c.toNat.toUInt8

def sampleSha256 (bytes : List UInt8) : String :=
  if bytes = asciiBytes "hello" then
    "2cf24dba5fb0a30e26e83b2ac5b9e29e1b161e5c1fa7425e73043362938b9824"
  else if bytes = asciiBytes "jello" then
    "187c9bceeb919e1b3e6d20fa50ecabf7d9d50b5343e8f9a3d912abb13929102e"
  else "486ea46224d1bb4fb680f34f7c9ad96a8f24ec88be73ea8e5a6c65260e9cb8a7"

/-- A manifest of two files of five bytes. -/
def sampleManifest : ArtifactManifest where
  schemaVersion := 1
  artifactId := "a1"
  kind := "run"
  sourceMachineId := none
  runMode := none
  createdAtMs := 1
  intervalStartMs := none
  intervalEndMs := none
  files := [
    { logicalName := "log", kind := "log", relativePath := "a.log", bytes := 5,
      sha256 := sampleSha256 (asciiBytes "hello") },
    { logicalName := "log", kind := "log", relativePath := "b.log", bytes := 5,
      sha256 := sampleSha256 (asciiBytes "world") }]

def sampleListing (relativePath sha256 : String) : String :=
  "\x7b\"logical_name\":\"log\",\"kind\":\"log\",\"relative_path\":\"" ++ relativePath ++
    "\",\"bytes\":5,\"sha256\":\"" ++ sha256 ++ "\"\x7d"

def sampleManifestText : String :=
  "\x7b\"schema_version\":1,\"artifact_id\":\"a1\",\"kind\":\"run\",\"created_at_ms\":1," ++
    "\"files\":[" ++ sampleListing "a.log" (sampleSha256 (asciiBytes "hello")) ++ "," ++
    sampleListing "b.log" (sampleSha256 (asciiBytes "world")) ++ "]\x7d"

theorem storable_sampleClock (_ : ℕ) : 1000 < 2 ^ 63 := by
  decide

/-- A host that knows the checksums of the sample files. -/
def sampleArtifactHost : ArtifactHost where
  sha256 := sampleSha256
  parseManifest bytes :=
    if bytes = asciiBytes sampleManifestText then .ok sampleManifest
    else .error (.badRequest "invalid artifact manifest: expected value at line 1 column 1")
  clock _ := 1000
  storable := storable_sampleClock

/-- The directory of the source. -/
def sampleSource : ArtifactDir := fun path =>
  if path = ["manifest.json"] then some (asciiBytes sampleManifestText)
  else if path = ["a.log"] then some (asciiBytes "hello")
  else if path = ["b.log"] then some (asciiBytes "world")
  else none

def sampleTransferConfig : ArtifactTransferConfig where
  workRoot := [.root, .name "work"]
  localMachineId := "research"

def sampleLocalArtifact : ResearchArtifact where
  id := "a1"
  kind := "run"
  status := "available"
  artifactRoot := some "/runs/a1"
  createdAt := 1
  updatedAt := 1

/-- A transfer whose last attempt was interrupted. -/
def sampleInterrupted (bytesDone : ℕ) : ArtifactTransfer where
  id := "t1"
  artifactId := "a1"
  destMachineId := some "research"
  status := .retryable
  bytesTotal := some 10
  bytesDone := bytesDone
  checksumStatus := some .failed
  error := some "interrupted"
  createdAt := 1
  updatedAt := 2

def sampleTransferRun (bytesDone : ℕ) (destination : ArtifactDir) : TransferRun where
  store :=
    { artifacts := ⟨[sampleLocalArtifact], List.nodup_singleton _⟩
      machines :=
        ⟨[{ id := "research", sshAlias := none, status := "online" }], List.nodup_singleton _⟩
      transfers := ⟨[sampleInterrupted bytesDone], List.nodup_singleton _⟩ }
  destination := destination
  ticks := 0
  replies := []

def sampleClaimed (bytesDone : ℕ) : ArtifactTransfer :=
  { sampleInterrupted bytesDone with
    status := .running
    checksumStatus := some .pending
    error := none
    updatedAt := 1000 }

def sampleClaimedStore (bytesDone : ℕ) : TransferStore :=
  { (sampleTransferRun bytesDone sampleSource).store with
    transfers := ⟨[sampleClaimed bytesDone], List.nodup_singleton _⟩ }

theorem sampleSource_intact : SourceIntact sampleArtifactHost sampleSource sampleManifest where
  read := by
    have hthere : sampleSource ["manifest.json"] = some (asciiBytes sampleManifestText) :=
      if_pos rfl
    have hparsed : sampleArtifactHost.parseManifest (asciiBytes sampleManifestText) =
        .ok sampleManifest := by
      simp [sampleArtifactHost]
    rw [readManifest_eq, hthere]
    exact hparsed
  files := by
    intro file hfile
    simp only [sampleManifest, List.mem_cons, List.not_mem_nil, or_false] at hfile
    rcases hfile with rfl | rfl
    · exact ⟨rfl, asciiBytes "hello", rfl, rfl, rfl⟩
    · exact ⟨rfl, asciiBytes "world", rfl, rfl, rfl⟩

theorem sample_localAttempt (bytesDone : ℕ) (destination : ArtifactDir) :
    LocalAttempt sampleArtifactHost sampleTransferConfig sampleSource sampleManifest
      (sampleTransferRun bytesDone destination) (sampleClaimed bytesDone)
      (sampleClaimedStore bytesDone) sampleLocalArtifact [.root, .name "runs", .name "a1"] where
  claimed := rfl
  found := rfl
  machine := ⟨none, rfl, fun _ h => by cases h⟩
  root := rfl
  intact := sampleSource_intact
  same := by
    intro destinationRoot hdestination hsame
    have hroot : sampleTransferConfig.destinationRoot "a1" =
        .ok [.root, .name "work", .name "artifacts", .name "a1"] := rfl
    cases Except.ok.inj (hroot.symm.trans hdestination)
    cases hsame
  replies := rfl

/-- A file of the right length with a wrong byte is never repaired, and where the destination has
lost bytes that have been reported, the reports are refused from then on. -/
theorem resumed_transfers_stuck :
    (∃ transfer store, LocalAttempt sampleArtifactHost sampleTransferConfig sampleSource
      sampleManifest (sampleTransferRun 5 fun path =>
        if path = ["a.log"] then some (asciiBytes "jello") else none)
      transfer store sampleLocalArtifact [.root, .name "runs", .name "a1"] ∧
        ¬ Completes sampleArtifactHost sampleTransferConfig sampleSource (fun _ _ _ _ => pure ⟨⟩)
          sampleManifest (sampleTransferRun 5 fun path =>
            if path = ["a.log"] then some (asciiBytes "jello") else none)) ∧
      ∃ transfer store, LocalAttempt sampleArtifactHost sampleTransferConfig sampleSource
        sampleManifest (sampleTransferRun 7 fun _ => none) transfer store sampleLocalArtifact
        [.root, .name "runs", .name "a1"] ∧
          ¬ Completes sampleArtifactHost sampleTransferConfig sampleSource (fun _ _ _ _ => pure ⟨⟩)
            sampleManifest (sampleTransferRun 7 fun _ => none) := by
  constructor
  · refine ⟨_, _, sample_localAttempt 5 _, fun hcompletes => ?_⟩
    have hresumes := (resumable_of_completes _ (sample_localAttempt 5 _) hcompletes).files
      ["a.log"] List.mem_cons_self
    exact absurd hresumes.1 (by decide +kernel)
  · refine ⟨_, _, sample_localAttempt 7 _, fun hcompletes => ?_⟩
    have hstored := (resumable_of_completes _ (sample_localAttempt 7 _) hcompletes).stored
      ["a.log"] rfl
    exact absurd hstored (by decide +kernel)

/-- A transfer that was interrupted in its first file is completed. -/
theorem resumed_transfers_sample :
    Completes sampleArtifactHost sampleTransferConfig sampleSource (fun _ _ _ _ => pure ⟨⟩)
      sampleManifest (sampleTransferRun 3 fun path =>
        if path = ["a.log"] then some (asciiBytes "hel") else none) := by
  refine (resumed_transfers sampleArtifactHost sampleTransferConfig sampleSource
    (fun _ _ _ _ => pure ⟨⟩) sampleManifest _ _ _ _ _ (sample_localAttempt 3 _)).mpr ?_
  refine resumable_of_prefixes sampleSource_intact ⟨_, rfl⟩ (by decide) (by decide +kernel)
    (by decide +kernel) ?_ ⟨rfl, rfl, ?_, ?_, ?_⟩
  · rintro first ⟨⟩
    decide +kernel
  · rintro time ⟨⟩
  · rintro time ⟨⟩
  · rintro id ⟨⟩

end BubaPaint
