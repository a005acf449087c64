import BubaPaint.Dashboard.TransferWorker
import Mathlib.Algebra.Order.BigOperators.Group.List

/-!
# Copies that are resumed

A copied file has the length of its source afterwards, but it is the source only if it started like
it. While no file is too long, the bytes at the destination grow towards those of the source.

Main results:

- Theorem `copyStep_eq_source_iff`: when copying a file delivers that of the source.
-/

namespace BubaPaint

open Effects Paths List

section Copies

/-- The length of a file, which is zero if it is not there. -/
def fileSize (file : Option (List UInt8)) : ℕ :=
  file.elim 0 List.length

/-- The bytes of the listed files. -/
def sizeOf (dir : ArtifactDir) (paths : List (List String)) : ℕ :=
  (paths.map fun path => fileSize (dir path)).sum

variable {dir' : ArtifactDir} {path : List String} {destination : Option (List UInt8)}

theorem foldl_saturatingAdd (l : List ℕ) {bytes : ℕ} (h : bytes ≤ maxBytes) :
    l.foldl saturatingAddBytes bytes = min (bytes + l.sum) maxBytes := by
  induction l generalizing bytes with
  | nil => simpa using h
  | cons n rest ih =>
    have hnext : saturatingAddBytes bytes n ≤ maxBytes := Nat.min_le_right _ _
    rw [foldl_cons, ih hnext, sum_cons, saturatingAddBytes]
    omega

theorem sizeOf_le_sizeOf {dir : ArtifactDir} {paths : List (List String)}
    (h : ∀ path ∈ paths, fileSize (dir path) ≤ fileSize (dir' path)) :
    sizeOf dir paths ≤ sizeOf dir' paths :=
  sum_le_sum h

theorem sizeOf_lt_sizeOf {dir : ArtifactDir} {paths : List (List String)}
    (h : ∀ path ∈ paths, fileSize (dir path) ≤ fileSize (dir' path)) (hpath : path ∈ paths)
    (hlt : fileSize (dir path) < fileSize (dir' path)) : sizeOf dir paths < sizeOf dir' paths :=
  sum_lt_sum _ _ h ⟨path, hpath, hlt⟩

theorem fileSize_resumeCopy (source : List UInt8) (destination : Option (List UInt8)) :
    fileSize (resumeCopy source destination) = source.length := by
  unfold resumeCopy fileSize
  by_cases hover : (destination.elim 0 List.length) > source.length
  · by_cases hempty : source = []
    · simp [hempty] at hover ⊢
      simp [hover]
    · have hne : 0 ≠ source.length := fun h => hempty (length_eq_zero_iff.mp h.symm)
      simp [hover, hne]
  · by_cases hsame : destination.elim 0 List.length = source.length
    · simp [hsame]
    · cases destination with
      | none =>
        simp only [Option.elim_none] at hsame hover ⊢
        simp [hsame, hover]
      | some bytes =>
        simp only [Option.elim_some] at hsame hover ⊢
        simp [hsame, hover]
        omega

theorem resumeCopy_eq_source_iff {source : List UInt8}
    (hsize : fileSize destination ≤ source.length) :
    resumeCopy source destination = some source ↔
      destination.getD [] <+: source ∧ (destination = none → source ≠ []) := by
  unfold resumeCopy
  have hover : ¬ (destination.elim 0 List.length) > source.length := Nat.not_lt.mpr hsize
  cases destination with
  | none =>
    cases source with
    | nil => simp
    | cons byte rest => simp
  | some bytes =>
    simp only [Option.elim_some] at hover
    by_cases hsame : bytes.length = source.length
    · have hstart : bytes <+: source ↔ bytes = source :=
        ⟨fun h => h.eq_of_length hsame, fun h => h ▸ prefix_rfl⟩
      simp [hsame, hstart]
    · simp only [Option.elim_some, hover, if_false, hsame, Option.getD_some, Option.some.injEq]
      constructor
      · intro h
        exact ⟨⟨_, h⟩, fun hnone => by cases hnone⟩
      · rintro ⟨hstart, -⟩
        exact prefix_iff_eq_append.mp hstart

/-- The directory after one file has been copied. -/
def copyStep (source : ArtifactDir) (dir : ArtifactDir) (path : List String) : ArtifactDir :=
  Function.update dir path (resumeCopy ((source path).getD []) (dir path))

variable {source dir : ArtifactDir} {paths rest : List (List String)} {total done : ℕ}

theorem copyStep_self (path : List String) :
    fileSize (copyStep source dir path path) = fileSize (source path) := by
  unfold copyStep
  rw [Function.update_self, fileSize_resumeCopy]
  cases source path with
  | none => rfl
  | some bytes => rfl

theorem copyStep_of_ne {other : List String} (h : other ≠ path) :
    copyStep source dir path other = dir other :=
  Function.update_of_ne h _ _

theorem le_copyStep (h : fileSize (dir path) ≤ fileSize (source path)) (other : List String) :
    fileSize (dir other) ≤ fileSize (copyStep source dir path other) := by
  by_cases hother : other = path
  · rw [hother, copyStep_self]
    exact h
  · rw [copyStep_of_ne hother]

theorem copyStep_lt (hpath : path ∈ paths) (h : fileSize (source path) < fileSize (dir path)) :
    sizeOf (copyStep source dir path) paths < sizeOf dir paths := by
  refine sizeOf_lt_sizeOf (fun other _ => ?_) hpath (by rwa [copyStep_self])
  by_cases hother : other = path
  · rw [hother, copyStep_self]
    exact h.le
  · rw [copyStep_of_ne hother]

/-- The reports on the copied files are accepted: the bytes do not decrease nor exceed the total. -/
def Progresses (source : ArtifactDir) (paths : List (List String)) (total : ℕ) :
    ℕ → ArtifactDir → List (List String) → Prop
  | _, _, [] => True
  | done, dir, path :: rest =>
    done ≤ sizeOf (copyStep source dir path) paths ∧
      sizeOf (copyStep source dir path) paths ≤ total ∧
        Progresses source paths total (sizeOf (copyStep source dir path) paths)
          (copyStep source dir path) rest

/-- Files that are reported on without complaint were not too long. -/
theorem Progresses.le_source (h : Progresses source paths total done dir rest)
    (hrest : ∀ path ∈ rest, path ∈ paths) (hdone : sizeOf dir paths ≤ done) :
    ∀ path ∈ rest, fileSize (dir path) ≤ fileSize (source path) := by
  induction rest generalizing dir done with
  | nil => exact fun path hpath => absurd hpath not_mem_nil
  | cons first rest ih =>
    rcases h with ⟨hgrows, -, hlater⟩
    have hfirst : fileSize (dir first) ≤ fileSize (source first) := by
      by_contra hover
      have hless : sizeOf (copyStep source dir first) paths < sizeOf dir paths :=
        copyStep_lt (hrest first mem_cons_self) (Nat.lt_of_not_le hover)
      omega
    have hothers := ih hlater (fun path hpath => hrest path (mem_cons_of_mem _ hpath)) le_rfl
    intro path hpath
    rcases mem_cons.mp hpath with rfl | hpath
    · exact hfirst
    · by_cases hsame : path = first
      · exact hsame ▸ hfirst
      · have hother : copyStep source dir first path = dir path := copyStep_of_ne hsame
        rw [← hother]
        exact hothers path hpath

/-- If no listed file is too long, the reports are accepted from the first one on. -/
theorem progresses_of_le (hle : ∀ path ∈ paths, fileSize (dir path) ≤ fileSize (source path))
    (htotal : sizeOf source paths ≤ total) (hrest : ∀ path ∈ rest, path ∈ paths)
    (hdone : ∀ first, rest.head? = some first → done ≤ sizeOf (copyStep source dir first) paths) :
    Progresses source paths total done dir rest := by
  induction rest generalizing dir done with
  | nil => trivial
  | cons first rest ih =>
    have hfirst := hle first (hrest first mem_cons_self)
    have hstep : ∀ path ∈ paths, fileSize (copyStep source dir first path) ≤
        fileSize (source path) := by
      intro path hpath
      by_cases hsame : path = first
      · rw [hsame, copyStep_self]
      · rw [copyStep_of_ne hsame]
        exact hle path hpath
    refine ⟨hdone first rfl, (sizeOf_le_sizeOf hstep).trans htotal, ?_⟩
    refine ih hstep (fun path hpath => hrest path (mem_cons_of_mem _ hpath)) ?_
    intro next hnext
    have hmem : next ∈ rest := mem_of_head? hnext
    exact sizeOf_le_sizeOf fun path _ =>
      le_copyStep (hstep next (hrest next (mem_cons_of_mem _ hmem))) path

theorem resumeCopy_of_length {source : List UInt8} (h : fileSize destination = source.length) :
    resumeCopy source destination = destination := by
  have hover : ¬ destination.elim 0 List.length > source.length := Nat.not_lt.mpr h.le
  unfold resumeCopy
  simp only [hover, if_false]
  exact if_pos h

/-- The directory after the listed files have been copied. -/
def copyAll (source dir : ArtifactDir) (paths : List (List String)) : ArtifactDir :=
  paths.foldl (copyStep source) dir

theorem copyAll_apply (path : List String) :
    copyAll source dir rest path =
      if path ∈ rest then resumeCopy ((source path).getD []) (dir path) else dir path := by
  induction rest generalizing dir with
  | nil => simp [copyAll]
  | cons first rest ih =>
    have hsplit : copyAll source dir (first :: rest) =
        copyAll source (copyStep source dir first) rest := rfl
    rw [hsplit, ih]
    by_cases hsame : path = first
    · have hcopied : copyStep source dir first path =
          resumeCopy ((source path).getD []) (dir path) := by
        rw [hsame, copyStep, Function.update_self]
      have htwice := resumeCopy_of_length (fileSize_resumeCopy ((source path).getD []) (dir path))
      rw [hcopied, htwice, ite_self, if_pos (by simp [hsame])]
    · rw [copyStep_of_ne hsame]
      simp [hsame]

theorem sizeOf_copyAll : sizeOf (copyAll source dir paths) paths = sizeOf source paths := by
  refine congrArg List.sum (map_congr_left fun path hpath => ?_)
  rw [copyAll_apply, if_pos hpath, fileSize_resumeCopy]
  cases source path with
  | none => rfl
  | some bytes => rfl

def deliveredDir (source dir : ArtifactDir) (paths : List (List String)) : ArtifactDir :=
  fun path => if path ∈ paths then source path else dir path

/-- The file can be continued: it starts like the source, and is there if the source is empty. -/
def CanResume (source dir : ArtifactDir) (path : List String) : Prop :=
  ((dir path).getD []) <+: ((source path).getD []) ∧ (dir path = none → source path ≠ some [])

theorem CanResume.le (h : CanResume source dir path) :
    fileSize (dir path) ≤ fileSize (source path) := by
  have hlength := h.1.length_le
  cases hdir : dir path with
  | none => exact Nat.zero_le _
  | some bytes =>
    rw [hdir] at hlength
    cases hsource : source path with
    | none => simpa [hsource, fileSize] using hlength
    | some bytes' => simpa [hsource, fileSize] using hlength

instance (source dir : ArtifactDir) (path : List String) : Decidable (CanResume source dir path) :=
  inferInstanceAs (Decidable (_ ∧ _))

/-- A file is delivered if and only if it can be continued. -/
theorem copyStep_eq_source_iff (hsource : (source path).isSome)
    (hle : fileSize (dir path) ≤ fileSize (source path)) :
    copyStep source dir path path = source path ↔ CanResume source dir path := by
  rcases Option.isSome_iff_exists.mp hsource with ⟨bytes, hbytes⟩
  rw [hbytes] at hle
  unfold copyStep CanResume
  rw [Function.update_self, hbytes, Option.getD_some, resumeCopy_eq_source_iff hle]
  simp

end Copies

def ArtifactFile.path (file : ArtifactFile) : List String :=
  (Path.parse file.relativePath).locate []

/-- The names that lead to the listed files. -/
def ArtifactManifest.paths (manifest : ArtifactManifest) : List (List String) :=
  manifest.files.map (·.path)

theorem normalizeRelativePath_eq_ok {relativePath : String} {path : List String}
    (h : normalizeRelativePath relativePath = .ok path) :
    path = (Path.parse relativePath).locate [] := by
  rcases ok_of_refuse h with ⟨-, h⟩
  rcases ok_of_refuse h with ⟨-, h⟩
  rcases ok_of_refuse h with ⟨-, h⟩
  exact (Except.ok.inj h).symm

theorem normalize_manifest : normalizeRelativePath "manifest.json" = .ok ["manifest.json"] :=
  rfl

theorem readManifest_eq (host : ArtifactHost) (dir : ArtifactDir) :
    readManifest host dir =
      match dir ["manifest.json"] with
      | none => .error (missingFile "reading manifest")
      | some bytes => host.parseManifest bytes := by
  unfold readManifest
  rw [normalize_manifest]
  rfl

/-- The source has every listed file, as the manifest says. -/
structure SourceIntact (host : ArtifactHost) (source : ArtifactDir) (manifest : ArtifactManifest) :
    Prop where
  read : readManifest host source = .ok manifest
  files : ∀ file ∈ manifest.files, normalizeRelativePath file.relativePath = .ok file.path ∧
    ∃ bytes, source file.path = some bytes ∧ bytes.length = file.bytes ∧
      host.sha256 bytes = file.sha256

variable {host : ArtifactHost} {source : ArtifactDir} {manifest : ArtifactManifest}

theorem payloadBytesFromManifest_eq
    (hpaths : ∀ file ∈ manifest.files, normalizeRelativePath file.relativePath = .ok file.path)
    (dir : ArtifactDir) :
    payloadBytesFromManifest dir manifest = .ok (min (sizeOf dir manifest.paths) maxBytes) := by
  have hfold : ∀ (files : List ArtifactFile) (bytes : ℕ),
      (∀ file ∈ files, normalizeRelativePath file.relativePath = .ok file.path) →
      (files.foldlM (fun bytes file => do
        let path ← normalizeRelativePath file.relativePath
        .ok (saturatingAddBytes bytes ((dir path).elim 0 List.length))) bytes :
          Except WorkerError ℕ) =
        .ok ((files.map fun file => fileSize (dir file.path)).foldl saturatingAddBytes bytes) := by
    intro files
    induction files with
    | nil => exact fun _ _ => rfl
    | cons file rest ih =>
      intro bytes hfiles
      rw [foldlM_cons, hfiles file mem_cons_self]
      exact ih _ fun other hother => hfiles other (mem_cons_of_mem _ hother)
  unfold payloadBytesFromManifest
  rw [hfold _ _ hpaths, foldl_saturatingAdd _ (Nat.zero_le _), Nat.zero_add]
  simp only [sizeOf, ArtifactManifest.paths, map_map]
  rfl

theorem SourceIntact.paths (h : SourceIntact host source manifest) :
    ∀ file ∈ manifest.files, normalizeRelativePath file.relativePath = .ok file.path :=
  fun file hfile => (h.files file hfile).1

theorem SourceIntact.isSome (h : SourceIntact host source manifest) {path : List String}
    (hpath : path ∈ manifest.paths) : (source path).isSome := by
  rcases mem_map.mp hpath with ⟨file, hfile, rfl⟩
  rcases (h.files file hfile).2 with ⟨bytes, hbytes, -⟩
  simp [hbytes]

theorem SourceIntact.manifestPayloadBytes_eq (h : SourceIntact host source manifest) :
    manifestPayloadBytes manifest = min (sizeOf source manifest.paths) maxBytes := by
  unfold manifestPayloadBytes
  rw [foldl_saturatingAdd _ (Nat.zero_le _), Nat.zero_add]
  refine congrArg (min · maxBytes) ?_
  unfold sizeOf ArtifactManifest.paths
  rw [map_map]
  refine congrArg List.sum (map_congr_left fun file hfile => ?_)
  rcases (h.files file hfile).2 with ⟨bytes, hbytes, hlength, -⟩
  simp [hbytes, fileSize, hlength]

/-- A delivered directory passes the check of the manifest. -/
theorem verify_deliveredDir (h : SourceIntact host source manifest) (dir : ArtifactDir) :
    verifyManifestFiles host (deliveredDir source dir manifest.paths) manifest =
      .ok
        { artifactId := manifest.artifactId
          filesChecked := manifest.files.length
          bytesChecked := manifestPayloadBytes manifest } := by
  have hfold : ∀ (files : List ArtifactFile) (bytes : ℕ), (∀ file ∈ files, file ∈ manifest.files) →
      files.foldlM (verifyFile host (deliveredDir source dir manifest.paths)) bytes =
        .ok ((files.map (·.bytes)).foldl saturatingAddBytes bytes) := by
    intro files
    induction files with
    | nil => exact fun _ _ => rfl
    | cons file rest ih =>
      intro bytes hfiles
      have hfile := hfiles file mem_cons_self
      rcases h.files file hfile with ⟨hpath, contents, hcontents, hlength, hdigest⟩
      have hthere : deliveredDir source dir manifest.paths file.path = some contents := by
        have hlisted : file.path ∈ manifest.paths := mem_map_of_mem hfile
        unfold deliveredDir
        rw [if_pos hlisted, hcontents]
      have hchecked : verifyFile host (deliveredDir source dir manifest.paths) bytes file =
          .ok (saturatingAddBytes bytes file.bytes) := by
        refine bind_eq_ok_iff.mpr ⟨file.path, hpath, ?_⟩
        refine bind_eq_ok_iff.mpr ⟨(file.bytes, file.sha256), ?_, ?_⟩
        · unfold fileDigest
          rw [hthere, ← hlength, ← hdigest]
        · simp
      rw [foldlM_cons, hchecked]
      exact ih _ fun other hother => hfiles other (mem_cons_of_mem _ hother)
  unfold verifyManifestFiles
  rw [hfold _ _ fun _ hfile => hfile]
  rfl

end BubaPaint
