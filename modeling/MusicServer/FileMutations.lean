/-
# Files of a mutation

What every mutation of the library's files is built from: the state of a journal's own
stage and backup files, reading what a file is for the index, replacing the tags of a file
and publishing an upload.  How a failure is reported, and whether it leaves its journal to
recovery, is one table.
-/
import MusicServer.MediaRoot
import MusicServer.TagUpdate

namespace MusicServer

open CrashProgram FileTree
open CrashProgram.Program (fail attempt syscall syscallTorn ofExcept)
open RootKind

/-! ## Errors -/

inductive FilesystemDiscoveryError where
  | rootedPath (error : RootedPathError)
  | io (kind : IoErrorKind)
  | fileTooLarge
  deriving DecidableEq

inductive FilesystemMutationError where
  | rootedPath (error : RootedPathError)
  | discovery (error : FilesystemDiscoveryError)
  | metadata (error : MetadataError)
  | io (kind : IoErrorKind)
  | safeIo (kind : IoErrorKind)
  | notADirectory
  | destinationExists
  | directoryNotEmpty
  | invalidMove
  | invalidMutationPath
  | unexpectedMutationArtifact
  | recoveryArtifactConflict
  | uploadStageMissing
  | uploadRenameExhausted
  | conversionUnavailable
  | conversionStageMissing
  | trackFileMissing
  | originalMissing
  | ambiguousOriginal
  deriving DecidableEq

/-- A program that applies a mutation or a part of it. -/
abbrev MutationProgram (α : Type) := DiskProgram FilesystemMutationError α

/-! ## Names -/

theorem mapError_eq_ok {ε ε' α : Type} {f : ε → ε'} {x : Except ε α} {a : α} :
    x.mapError f = .ok a ↔ x = .ok a := by
  cases x with
  | error e | ok b => simp [Except.mapError]

namespace LibraryPath

def extension (path : LibraryPath) : Option (List Char) :=
  match rsplitOnce '.' path.fileName with
  | some (front, extension) => if front = [] then none else some extension
  | none => none

end LibraryPath

def audioExtensions : List String := ["mp3", "flac", "ogg", "opus", "m4a", "aac", "wav", "wma"]

def isSupportedLibraryPath (path : LibraryPath) : Bool :=
  match path.extension with
  | some extension => audioExtensions.any fun candidate =>
      MetadataAdapter.hasExtension extension candidate.toList
  | none => false

def sibling (path : LibraryPath) (name : List Char) :
    Except FilesystemMutationError LibraryPath :=
  let parsed := match path.parent with
    | none => LibraryPath.parse name
    | some parent => parent.join name
  parsed.mapError fun _ => .invalidMutationPath

theorem sibling_eq_ok {path candidate : LibraryPath} {name : List Char} (hname : '/' ∉ name) :
    sibling path name = .ok candidate ↔
      candidate.parent = path.parent ∧ candidate.fileName = name := by
  unfold sibling
  rw [mapError_eq_ok]
  split
  · next hparent =>
    rw [LibraryPath.parse_eq_ok, hparent, LibraryPath.parent_eq_none]
    constructor
    · intro h
      have hsplit : candidate.fileName = name := by
        rw [LibraryPath.fileName, h, rsplitOnce_eq_none.mpr hname]
        rfl
      rw [hsplit]
      exact ⟨h, rfl⟩
    · rintro ⟨h, rfl⟩
      exact h
  · next parent hparent =>
    rw [LibraryPath.join, LibraryPath.parse_eq_ok, hparent, LibraryPath.parent_eq_some]
    constructor
    · intro h
      have hsplit : candidate.fileName = name := by
        rw [LibraryPath.fileName, h, rsplitOnce_append hname]
        rfl
      rw [hsplit]
      exact ⟨h, rfl⟩
    · rintro ⟨h, rfl⟩
      exact h

theorem place_sibling {path candidate : LibraryPath} (h : candidate.parent = path.parent)
    (root : RootKind) :
    root.place candidate = (root.folderOf path).child candidate.fileName := by
  rw [place_eq, folderOf, folderOf, candidate.components_eq, path.components_eq, h,
    List.dropLast_concat, List.dropLast_concat]

theorem reaches_sibling {path candidate : LibraryPath} (h : candidate.parent = path.parent)
    {disk : MediaDisk} {root : RootKind} : Reaches disk root candidate ↔ Reaches disk root path := by
  rw [Reaches, Reaches, candidate.components_eq, path.components_eq, h, List.dropLast_concat,
    List.dropLast_concat]

/-- A hidden name beside a file that says which journal it belongs to and as what. -/
def artifactName (path : LibraryPath) (journalId : String) (role : String) : List Char :=
  '.' :: path.fileName ++ '.' :: journalId.toList ++ '.' :: role.toList

def metadataSiblingPath (path : LibraryPath) (journalId role : String) :
    Except FilesystemMutationError LibraryPath :=
  sibling path (artifactName path journalId ("metadata-" ++ role))

def uploadBackupPath (destination : LibraryPath) (journalId : String) :
    Except FilesystemMutationError LibraryPath :=
  sibling destination (artifactName destination journalId "upload-backup")

/-- A hidden sibling for one journal's copy between the roots. -/
def partialPath (path : LibraryPath) (journalId role : String) :
    Except FilesystemMutationError LibraryPath :=
  sibling path (artifactName path journalId (role ++ "-partial"))

/-! ## Looking at places -/

def resolved {α : Type} (program : DiskProgram RootedPathError α) : MutationProgram α :=
  program.mapError .rootedPath

inductive MutationArtifactState where
  | missing
  | regularFile
  deriving DecidableEq

def mutationArtifactState (place : MediaPlace) : MutationProgram MutationArtifactState := do
  match ← symlinkMetadata .io place with
  | none => pure .missing
  | some (.file _) => pure .regularFile
  | some _ => fail .unexpectedMutationArtifact

inductive UploadTargetState where
  | missing
  | regularFile
  | occupied
  deriving DecidableEq

def uploadTargetState (place : MediaPlace) : MutationProgram UploadTargetState := do
  match ← symlinkMetadata .io place with
  | none => pure .missing
  | some (.file _) => pure .regularFile
  | some _ => pure .occupied

def removeRegularFileIfPresent (place : MediaPlace) : MutationProgram Unit := do
  match ← symlinkMetadata .io place with
  | none => pure ()
  | some (.file _) => syscall .io fun disk : MediaDisk => disk.removeFile place
  | some _ => fail .unexpectedMutationArtifact

def renamePlace (onError : IoErrorKind → FilesystemMutationError) (source destination : MediaPlace) :
    MutationProgram Unit :=
  syscall onError fun disk : MediaDisk => disk.rename source destination

/-- `is_dir`, which takes a failing call for an answer. -/
def ensureIsDirectory (place : MediaPlace) : MutationProgram Unit := do
  match ← symlinkMetadata (fun _ => .notADirectory) place with
  | some .directory => pure ()
  | _ => fail .notADirectory

/-- The entries of a folder; no name in a file system has a slash. -/
def entriesOf (disk : MediaDisk) (place : MediaPlace) : List (List Char × Node) :=
  (disk.names place).filterMap fun name =>
    if '/' ∈ name then none
    else (disk.lookup (place.child name)).map fun node => (name, node)

def readDir (place : MediaPlace) : MutationProgram (List (List Char × Node)) :=
  syscall .io fun disk : MediaDisk => .ok (entriesOf disk place, disk)

theorem mem_entriesOf {disk : MediaDisk} {place : MediaPlace} {name : List Char} {node : Node} :
    (name, node) ∈ entriesOf disk place ↔
      '/' ∉ name ∧ disk.lookup (place.child name) = some node := by
  rw [entriesOf, List.mem_filterMap]
  constructor
  · rintro ⟨other, -, hentry⟩
    split at hentry
    · cases hentry
    · next hslash =>
      rw [Option.map_eq_some_iff] at hentry
      obtain ⟨found, hfound, hpair⟩ := hentry
      cases hpair
      exact ⟨hslash, hfound⟩
  · rintro ⟨hslash, hnode⟩
    refine ⟨name, Disk.mem_names.mpr ?_, ?_⟩
    · rw [hnode]
      rfl
    · rw [if_neg hslash, hnode]
      rfl

def hasChildDirectories (place : MediaPlace) : MutationProgram Bool := do
  let entries ← readDir place
  pure (entries.any fun entry => entry.2 = .directory)

def fileFacts {ε : Type} (onError : IoErrorKind → ε) (place : MediaPlace) :
    DiskProgram ε FileRecord :=
  syscall onError fun disk =>
    match disk.lookup place with
    | some (.file record) => .ok (record, disk)
    | _ => .error .notFound

/-! ## What the index keeps of a file -/

def unixSeconds (modified : ℤ) : ℤ := modified.tdiv 1000000000

def fallbackMetadata (path : LibraryPath) : AudioMetadata where
  title := String.ofList (((rsplitOnce '.' path.fileName).map Prod.fst).getD path.fileName)
  artist := ""
  albumArtist := ""
  album := String.ofList ((path.parent.map LibraryPath.fileName).getD [])
  releaseDate := ""
  originalReleaseDate := ""
  composer := ""
  trackNo := none
  discNo := none
  genre := ""
  bpm := none
  duration := 0

def orElse (value fallback : String) : String := if value = "" then fallback else value

def discoveredTrack (path : LibraryPath) (metadata : AudioMetadata) (record : FileRecord) :
    DiscoveredTrack where
  path := path
  metadata :=
    { title := orElse metadata.title (String.ofList path.fileStem)
      artist := metadata.artist
      albumArtist := orElse metadata.albumArtist metadata.artist
      album := orElse metadata.album (String.ofList ((path.parent.map LibraryPath.fileName).getD []))
      releaseDate := metadata.releaseDate
      originalReleaseDate := metadata.originalReleaseDate
      composer := metadata.composer
      trackNo := metadata.trackNo
      discNo := metadata.discNo
      year := metadata.year
      genre := metadata.genre
      bpm := metadata.bpm }
  duration := metadata.duration
  sizeBytes := record.bytes.length
  mtimeUnixSeconds := unixSeconds record.modified

/-- The tags of a file, or what its name says where they cannot be read. -/
def readOrFallback (adapter : MetadataAdapter) (path : LibraryPath) (place : MediaPlace) :
    DiskProgram FilesystemDiscoveryError AudioMetadata := do
  match ← attempt (fileFacts id place) with
  | .error _ => pure (fallbackMetadata path)
  | .ok record =>
    match adapter.read (path.extension.getD []) record.bytes with
    | .ok metadata => pure metadata
    | .error _ => pure (fallbackMetadata path)

def inspectLibraryTrack (adapter : MetadataAdapter) (path : LibraryPath) :
    DiskProgram FilesystemDiscoveryError DiscoveredTrack := do
  let place ← (library.resolveExistingFileForMutation path).mapError .rootedPath
  let record ← fileFacts .io place
  if record.bytes.length > 2 ^ 63 - 1 then fail .fileTooLarge
  else
    let metadata ← readOrFallback adapter path place
    pure (discoveredTrack path metadata record)

/-- The library's effects: whether originals are kept, the tag tools, and the lower case of
the standard library. -/
structure FilesystemLibraryMutations where
  originals : Bool
  metadata : MetadataAdapter
  toLowercase : List Char → List Char

namespace FilesystemLibraryMutations

variable (effects : FilesystemLibraryMutations)

def inspect (path : LibraryPath) : MutationProgram DiscoveredTrack :=
  (inspectLibraryTrack effects.metadata path).mapError .discovery

/-! ## Replacing the tags of a file -/

def writeStage (stage : MediaPlace) (bytes : List UInt8) : MutationProgram Unit :=
  syscallTorn (fun _ => .metadata .io) (fun disk : MediaDisk => disk.writeFile stage bytes)
    fun progress disk => disk.writeTorn stage bytes progress

/-- Writes the edited copy of a file beside it. -/
def stageUpdate (path : LibraryPath) (source stage : MediaPlace) (tags : TagPatch) :
    MutationProgram Unit := do
  let record ← fileFacts (fun _ => .metadata .io) source
  match effects.metadata.stageUpdate (path.extension.getD []) record.bytes tags with
  | .error e => fail (.metadata e)
  | .ok bytes =>
    match ← symlinkMetadata (fun _ => .metadata .io) stage with
    | some _ => fail (.metadata .stagedPathExists)
    | none => writeStage stage bytes

/-- Puts the edited copy in the place of the file, which is kept until it is there. -/
def publishTags (source stage backup : MediaPlace) : MutationProgram Unit := do
  renamePlace .io source backup
  match ← attempt (syscall id fun disk : MediaDisk => disk.rename stage source) with
  | .ok _ => removeRegularFileIfPresent backup
  | .error kind =>
    let _ ← attempt (syscall (fun kind : IoErrorKind => kind)
      fun disk : MediaDisk => disk.rename backup source)
    fail (.io kind)

def editFile (path : LibraryPath) (patch : TrackMetadataPatch)
    (source stage backup : MediaPlace) (backupState stageState : MutationArtifactState)
    (replay : Bool) : MutationProgram Unit :=
  if replay = true ∧ backupState = .regularFile ∧ stageState = .missing then
    removeRegularFileIfPresent backup
  else do
    removeRegularFileIfPresent stage
    if backupState ≠ .missing then fail .unexpectedMutationArtifact
    else
      let tags ← ofExcept ((mediaTagPatch patch).mapError .metadata)
      effects.stageUpdate path source stage tags
      publishTags source stage backup

/-- Replaces a file with a verified tag-edited copy, resuming an interrupted replacement
from its journal-named stage and backup files. -/
def replaceFileTags (root : RootKind) (journalId : String) (path : LibraryPath)
    (patch : TrackMetadataPatch) (replay : Bool) : MutationProgram Unit := do
  let stagePath ← ofExcept (metadataSiblingPath path journalId "stage")
  let backupPath ← ofExcept (metadataSiblingPath path journalId "backup")
  let stage ← resolved (root.resolveForCreation stagePath)
  let backup ← resolved (root.resolveForCreation backupPath)
  let stageState ← mutationArtifactState stage
  let backupState ← mutationArtifactState backup
  match ← attempt (root.resolveExistingFileForMutation path) with
  | .ok source => effects.editFile path patch source stage backup backupState stageState replay
  | .error e =>
    if rootedPathIsMissing e = true ∧ backupState = .regularFile then
      let target ← resolved (root.resolveForCreation path)
      if stageState = .regularFile then
        renamePlace .io stage target
        removeRegularFileIfPresent backup
      else
        renamePlace .io backup target
        let source ← resolved (root.resolveExistingFileForMutation path)
        effects.editFile path patch source stage backup .missing stageState replay
    else fail (.rootedPath e)

/-! ## Publishing an upload -/

def publishNewUpload (staged destination : MediaPlace) (stageState : MutationArtifactState)
    (targetState : UploadTargetState) (replay : Bool) : MutationProgram Unit :=
  match stageState, targetState with
  | .regularFile, .missing => do
    match ← attempt (syscall id fun disk : MediaDisk => disk.hardLink staged destination) with
    | .ok _ => removeRegularFileIfPresent staged
    | .error .alreadyExists => fail .destinationExists
    | .error kind => fail (.safeIo kind)
  | .regularFile, .regularFile =>
    if replay then do
      let left ← fileFacts .io staged
      let right ← fileFacts .io destination
      if left.inode = right.inode then removeRegularFileIfPresent staged
      else fail .destinationExists
    else fail .destinationExists
  | .missing, .regularFile => if replay then pure () else fail .destinationExists
  | .missing, .missing => fail .uploadStageMissing
  | _, .occupied => fail .recoveryArtifactConflict

/-- The file that an upload replaces is kept until the upload is there. -/
def stageReplaced (destination backup : MediaPlace) (targetState : UploadTargetState) :
    MutationProgram Unit :=
  if targetState = .regularFile then renamePlace .io destination backup else pure ()

def publishReplacingUpload (staged destination backup : MediaPlace)
    (stageState : MutationArtifactState) (targetState : UploadTargetState)
    (backupState : MutationArtifactState) (replay : Bool) : MutationProgram Unit :=
  if targetState = .occupied then fail .recoveryArtifactConflict
  else
    match stageState with
    | .regularFile =>
      if targetState = .regularFile ∧ backupState = .regularFile then
        fail .recoveryArtifactConflict
      else do
        stageReplaced destination backup targetState
        renamePlace .io staged destination
        removeRegularFileIfPresent backup
    | .missing =>
      if replay = true ∧ targetState = .regularFile then removeRegularFileIfPresent backup
      else if targetState = .missing ∧ backupState = .regularFile then do
        renamePlace .io backup destination
        fail .uploadStageMissing
      else fail .uploadStageMissing

def publishUploadFiles (staged destination backup : MediaPlace)
    (stageState : MutationArtifactState) (targetState : UploadTargetState)
    (backupState : MutationArtifactState) (replaceExisting replay : Bool) : MutationProgram Unit :=
  if replaceExisting then
    publishReplacingUpload staged destination backup stageState targetState backupState replay
  else if backupState ≠ .missing then fail .recoveryArtifactConflict
  else publishNewUpload staged destination stageState targetState replay

def applyUploadPublish (journalId : String) (staged destination : LibraryPath)
    (replaceExisting replay : Bool) : MutationProgram LibraryFileMutationOutcome := do
  let stagedPlace ← resolved (library.resolveForCreation staged)
  let destinationPlace ← resolved (library.resolveForCreation destination)
  let backupPath ← ofExcept (uploadBackupPath destination journalId)
  let backupPlace ← resolved (library.resolveForCreation backupPath)
  let stageState ← mutationArtifactState stagedPlace
  let targetState ← uploadTargetState destinationPlace
  let backupState ← mutationArtifactState backupPlace
  publishUploadFiles stagedPlace destinationPlace backupPlace stageState targetState backupState
    replaceExisting replay
  if isSupportedLibraryPath destination then
    let track ← effects.inspect destination
    pure (.uploadPublished destination (some track))
  else pure (.uploadPublished destination none)

end FilesystemLibraryMutations

/-! ## What only reads -/

/-- The program changes nothing; where a call fails, it ends with an error. -/
def Reads {α : Type} (program : MutationProgram α) : Prop := program.Checks fun _ => True

theorem reads_symlinkMetadata (onError : IoErrorKind → FilesystemMutationError)
    (place : MediaPlace) : Reads (symlinkMetadata onError place) :=
  symlinkMetadata_checks place trivial

theorem reads_resolved {α : Type} {program : DiskProgram RootedPathError α}
    (h : program.Checks DeviceFailure) : Reads (resolved program) :=
  h.mapError fun _ _ => trivial

theorem reads_ofExcept {α : Type} (result : Except FilesystemMutationError α) :
    Reads (ofExcept result) := trivial

theorem reads_resolveForCreation (root : RootKind) (path : LibraryPath) :
    Reads (resolved (root.resolveForCreation path)) :=
  reads_resolved (resolveForCreation_checks root path)

theorem reads_resolveExistingFile (root : RootKind) (path : LibraryPath) :
    Reads (resolved (root.resolveExistingFileForMutation path)) :=
  reads_resolved (resolveExistingFile_checks root path)

theorem reads_mutationArtifactState (place : MediaPlace) : Reads (mutationArtifactState place) := by
  refine (reads_symlinkMetadata _ place).bind fun node => ?_
  rcases node with _ | (_ | _ | _ | _) <;> trivial

theorem reads_readDir (place : MediaPlace) : Reads (readDir place) := by
  refine Program.Checks.syscall (fun disk entries disk' h => ?_) trivial
  cases h
  rfl

theorem fileFacts_checks {ε : Type} {onError : IoErrorKind → ε} {E : ε → Prop} (place : MediaPlace)
    (h : E (onError .device)) : (fileFacts onError place).Checks E := by
  refine Program.Checks.syscall (fun disk record disk' hact => ?_) h
  split at hact
  · cases hact
    rfl
  · cases hact

theorem reads_fileFacts (onError : IoErrorKind → FilesystemMutationError) (place : MediaPlace) :
    Reads (fileFacts onError place) := fileFacts_checks place trivial

theorem finish_fileFacts {ε : Type} {onError : IoErrorKind → ε} {place : MediaPlace}
    {disk : MediaDisk} {record : FileRecord} (h : disk.lookup place = some (.file record)) :
    (fileFacts onError place).finish disk = (.ok record, disk) :=
  Program.finish_syscall_ok (by rw [h])

/-! ## What they find -/

section

variable {disk : MediaDisk} {place : MediaPlace}

theorem finish_resolved_ok {program : DiskProgram RootedPathError MediaPlace}
    (h : ((resolved program).finish disk).1 = .ok place) : (program.finish disk).1 = .ok place := by
  rw [resolved, Program.finish_mapError] at h
  exact mapError_eq_ok.mp h

theorem resolved_resolveForCreation_ok {root : RootKind} {path : LibraryPath}
    (h : ((resolved (root.resolveForCreation path)).finish disk).1 = .ok place) :
    Reaches disk root path ∧ disk.lookup (root.place path) ≠ some .symlink ∧
      place = root.place path :=
  resolveForCreation_ok.mp (finish_resolved_ok h)

theorem finish_resolveExistingFile {root : RootKind} {path : LibraryPath} {record : FileRecord}
    (hreaches : Reaches disk root path)
    (hfile : disk.lookup (root.place path) = some (.file record)) :
    (root.resolveExistingFileForMutation path).finish disk = (.ok (root.place path), disk) := by
  rw [(resolveExistingFile_checks root path).finish_eq disk,
    resolveExistingFile_ok.mpr ⟨hreaches, ⟨record, hfile⟩, rfl⟩]

theorem resolved_resolveExistingFile_ok {root : RootKind} {path : LibraryPath}
    (h : ((resolved (root.resolveExistingFileForMutation path)).finish disk).1 = .ok place) :
    Reaches disk root path ∧ (∃ record, disk.lookup (root.place path) = some (.file record)) ∧
      place = root.place path :=
  resolveExistingFile_ok.mp (finish_resolved_ok h)

end

section

variable {faulty : Bool} {C : MediaDisk → Prop} {disk : MediaDisk}

theorem wp_renamePlace {onError : IoErrorKind → FilesystemMutationError}
    {source destination : MediaPlace} {Q : Except FilesystemMutationError Unit → MediaDisk → Prop}
    (hcrash : C disk) (herror : ∀ kind, Q (.error (onError kind)) disk)
    (hok : ∀ disk', disk.rename source destination = .ok ((), disk') → Q (.ok ()) disk') :
    (renamePlace onError source destination).wp faulty C Q disk :=
  Program.wp_syscall hcrash (fun _ => herror _) (fun kind _ => herror kind) fun _ => hok

theorem FilesystemLibraryMutations.wp_inspect {effects : FilesystemLibraryMutations}
    {path : LibraryPath} {Q : Except FilesystemMutationError DiscoveredTrack → MediaDisk → Prop}
    (hcrash : C disk) (herror : ∀ e, Q (.error (.discovery e)) disk)
    (hok : ∀ track record, disk.lookup (library.place path) = some (.file record) →
      record.bytes.length ≤ 2 ^ 63 - 1 → Q (.ok track) disk) :
    (effects.inspect path).wp faulty C Q disk := by
  refine Program.wp_mapError ?_
  have hresolve : ((library.resolveExistingFileForMutation path).mapError
      FilesystemDiscoveryError.rootedPath).Checks fun _ => True :=
    (resolveExistingFile_checks library path).mapError fun _ _ => trivial
  refine hresolve.wp_bind hcrash (fun _ e _ => herror e) (fun e _ => herror e) fun place hplace => ?_
  rw [Program.finish_mapError, mapError_eq_ok] at hplace
  obtain ⟨-, ⟨record, hrecord⟩, rfl⟩ := resolveExistingFile_ok.mp hplace
  refine (fileFacts_checks (E := fun _ => True) _ trivial).wp_bind hcrash
    (fun _ e _ => herror e) (fun e _ => herror e) fun found hfound => ?_
  rw [finish_fileFacts hrecord] at hfound
  cases hfound
  split
  · exact herror _
  · next hsize =>
    have hsize : record.bytes.length ≤ 2 ^ 63 - 1 := by omega
    refine Program.wp_bind (Program.wp_bind (Program.wp_attempt ?_))
    refine (fileFacts_checks (E := fun _ => True) _ trivial).wp hcrash
      (fun _ e _ => hok _ record hrecord hsize) ?_
    rcases ((fileFacts id (library.place path)).finish disk).1 with e | other
    · exact hok _ record hrecord hsize
    · dsimp only [Program.Then]
      cases effects.metadata.read (path.extension.getD []) other.bytes with
      | ok metadata | error e => exact hok _ record hrecord hsize

end

/-! ## What stays as it is -/

/-- Only places of `changed` may be other than before. -/
def Frame (changed : MediaPlace → Prop) (disk disk' : MediaDisk) : Prop :=
  ∀ place, ¬ changed place → disk'.lookup place = disk.lookup place

theorem Frame.refl (changed : MediaPlace → Prop) (disk : MediaDisk) : Frame changed disk disk :=
  fun _ _ => rfl

theorem Frame.trans {changed : MediaPlace → Prop} (disk disk' disk'' : MediaDisk)
    (h : Frame changed disk disk') (h' : Frame changed disk' disk'') :
    Frame changed disk disk'' := fun place hplace => (h' place hplace).trans (h place hplace)

/-- The program changes nothing but places of `changed`. -/
def Touches {ε α : Type} (changed : MediaPlace → Prop) (program : DiskProgram ε α) : Prop :=
  program.Keeps (Frame changed)

section

variable {ε α β : Type} {changed : MediaPlace → Prop}

theorem Touches.bind {program : DiskProgram ε α} {f : α → DiskProgram ε β}
    (hprogram : Touches changed program) (hf : ∀ a, Touches changed (f a)) :
    Touches changed (program >>= f) := Program.Keeps.bind Frame.trans hprogram hf

theorem touches_done (result : Except ε α) : Touches changed (.done result) :=
  Program.Keeps.done (Frame.refl changed) result

theorem touches_pure (a : α) : Touches changed (pure a : DiskProgram ε α) := touches_done (.ok a)

theorem touches_fail (e : ε) : Touches changed (fail e : DiskProgram ε α) := touches_done (.error e)

theorem Reads.touches {program : MutationProgram α} (h : Reads program) :
    Touches changed program := Program.Checks.keeps (Frame.refl changed) h

theorem touches_rename {onError : IoErrorKind → ε} {source destination : MediaPlace}
    (hsource : ∀ place : MediaPlace, place.isBeneath source = true → changed place)
    (hdestination : ∀ place : MediaPlace, place.isBeneath destination = true → changed place) :
    Touches changed (syscall onError fun disk : MediaDisk => disk.rename source destination) := by
  refine Program.Keeps.syscall (Frame.refl changed) fun disk u disk' h place hplace => ?_
  refine Disk.lookup_rename h ?_ ?_
  · by_contra hbeneath
    exact hplace (hsource place (by simpa using hbeneath))
  · by_contra hbeneath
    exact hplace (hdestination place (by simpa using hbeneath))

theorem touches_removeFile {onError : IoErrorKind → ε} {place : MediaPlace}
    (hplace : changed place) :
    Touches changed (syscall onError fun disk : MediaDisk => disk.removeFile place) := by
  refine Program.Keeps.syscall (Frame.refl changed) fun disk u disk' h other hother => ?_
  have hne : other ≠ place := by
    rintro rfl
    exact hother hplace
  unfold Disk.removeFile at h
  split at h
  · cases h
  · cases h
  · cases h
    exact Disk.lookup_erase_of_ne _ hne

theorem touches_removeRegularFileIfPresent {place : MediaPlace} (hplace : changed place) :
    Touches changed (removeRegularFileIfPresent place) := by
  refine Touches.bind (reads_symlinkMetadata _ place).touches fun node => ?_
  rcases node with _ | (_ | _ | _ | _)
  · exact touches_pure ()
  · exact touches_removeFile hplace
  · exact touches_fail _
  · exact touches_fail _
  · exact touches_fail _

theorem touches_writeFile {onError : IoErrorKind → ε} {place : MediaPlace} {bytes : List UInt8}
    (hplace : changed place) :
    Touches changed (syscallTorn onError (fun disk : MediaDisk => disk.writeFile place bytes)
      fun progress disk => disk.writeTorn place bytes progress) := by
  have hne : ∀ other, ¬ changed other → other ≠ place := by
    rintro other hother rfl
    exact hother hplace
  refine Program.Keeps.syscallTorn (Frame.refl changed) ?_ ?_
  · exact fun progress disk other hother => Disk.lookup_writeTorn disk bytes progress (hne other hother)
  · exact fun disk u disk' h other hother => Disk.lookup_writeFile h (hne other hother)

namespace FilesystemLibraryMutations

variable (effects : FilesystemLibraryMutations)

theorem touches_inspect (path : LibraryPath) : Touches changed (effects.inspect path) :=
  fun _ disk => effects.wp_inspect (Frame.refl changed disk) (fun _ => Frame.refl changed disk)
    fun _ _ _ _ => Frame.refl changed disk

theorem touches_publishTags {source stage backup : MediaPlace}
    (hsource : ∀ place : MediaPlace, place.isBeneath source = true → changed place)
    (hstage : ∀ place : MediaPlace, place.isBeneath stage = true → changed place)
    (hbackup : ∀ place : MediaPlace, place.isBeneath backup = true → changed place) :
    Touches changed (publishTags source stage backup) := by
  refine Touches.bind (touches_rename hsource hbackup) fun _ => ?_
  refine Touches.bind (Program.Keeps.attempt (touches_rename hstage hsource)) fun result => ?_
  cases result with
  | ok u => exact touches_removeRegularFileIfPresent (hbackup _ (Disk.isBeneath_self _))
  | error kind =>
    exact Touches.bind (Program.Keeps.attempt (touches_rename hbackup hsource)) fun _ =>
      touches_fail _

theorem touches_stageUpdate {path : LibraryPath} {source stage : MediaPlace} {tags : TagPatch}
    (hstage : changed stage) : Touches changed (effects.stageUpdate path source stage tags) := by
  refine Touches.bind (reads_fileFacts _ source).touches fun record => ?_
  cases effects.metadata.stageUpdate (path.extension.getD []) record.bytes tags with
  | error e => exact touches_fail _
  | ok bytes =>
    refine Touches.bind (reads_symlinkMetadata _ stage).touches fun node => ?_
    cases node with
    | some node => exact touches_fail _
    | none => exact touches_writeFile hstage

theorem touches_editFile {path : LibraryPath} {patch : TrackMetadataPatch}
    {source stage backup : MediaPlace} {backupState stageState : MutationArtifactState}
    {replay : Bool}
    (hsource : ∀ place : MediaPlace, place.isBeneath source = true → changed place)
    (hstage : ∀ place : MediaPlace, place.isBeneath stage = true → changed place)
    (hbackup : ∀ place : MediaPlace, place.isBeneath backup = true → changed place) :
    Touches changed
      (effects.editFile path patch source stage backup backupState stageState replay) := by
  unfold editFile
  split
  · exact touches_removeRegularFileIfPresent (hbackup _ (Disk.isBeneath_self _))
  · refine Touches.bind (touches_removeRegularFileIfPresent (hstage _ (Disk.isBeneath_self _)))
      fun _ => ?_
    split
    · exact touches_fail _
    · refine Touches.bind (reads_ofExcept _).touches fun tags => ?_
      refine Touches.bind (effects.touches_stageUpdate (hstage _ (Disk.isBeneath_self _)))
        fun _ => ?_
      exact touches_publishTags hsource hstage hbackup

end FilesystemLibraryMutations

theorem Reads.touches_bind {program : MutationProgram α} {f : α → MutationProgram β}
    (h : Reads program)
    (hf : ∀ disk a, (program.finish disk).1 = .ok a → Touches changed (f a)) :
    Touches changed (program >>= f) := Program.Checks.keeps_bind (Frame.refl changed) h hf

/-- Replacing the tags of a file changes only what is at the file and at its journal's
artifacts. -/
theorem FilesystemLibraryMutations.touches_replaceFileTags (effects : FilesystemLibraryMutations)
    {root : RootKind} {journalId : String} {path : LibraryPath} {patch : TrackMetadataPatch}
    {replay : Bool}
    (hpath : ∀ place : MediaPlace, place.isBeneath (root.place path) = true → changed place)
    (hartifact : ∀ role artifact, metadataSiblingPath path journalId role = .ok artifact →
      ∀ place : MediaPlace, place.isBeneath (root.place artifact) = true → changed place) :
    Touches changed (effects.replaceFileTags root journalId path patch replay) := by
  refine (reads_ofExcept _).touches_bind fun _ stagePath hstagePath => ?_
  refine (reads_ofExcept _).touches_bind fun _ backupPath hbackupPath => ?_
  refine (reads_resolveForCreation root stagePath).touches_bind fun _ stage hstage => ?_
  refine (reads_resolveForCreation root backupPath).touches_bind fun _ backup hbackup => ?_
  obtain ⟨-, -, rfl⟩ := resolved_resolveForCreation_ok hstage
  obtain ⟨-, -, rfl⟩ := resolved_resolveForCreation_ok hbackup
  have hstageIn := hartifact _ _ hstagePath
  have hbackupIn := hartifact _ _ hbackupPath
  refine Touches.bind (reads_mutationArtifactState _).touches fun stageState => ?_
  refine Touches.bind (reads_mutationArtifactState _).touches fun backupState => ?_
  refine (resolveExistingFile_checks root path).keeps_attempt_bind (Frame.refl changed)
    (fun e => ?_) fun _ source hsource => ?_
  · dsimp only
    split
    · refine (reads_resolveForCreation root path).touches_bind fun _ target htarget => ?_
      obtain ⟨-, -, rfl⟩ := resolved_resolveForCreation_ok htarget
      split
      · refine Touches.bind (touches_rename hstageIn hpath) fun _ => ?_
        exact touches_removeRegularFileIfPresent (hbackupIn _ (Disk.isBeneath_self _))
      · refine Touches.bind (touches_rename hbackupIn hpath) fun _ => ?_
        refine (reads_resolveExistingFile root path).touches_bind fun _ source hsource => ?_
        obtain ⟨-, -, rfl⟩ := resolved_resolveExistingFile_ok hsource
        exact effects.touches_editFile hpath hstageIn hbackupIn
    · exact touches_fail _
  · obtain ⟨-, -, rfl⟩ := resolveExistingFile_ok.mp hsource
    exact effects.touches_editFile hpath hstageIn hbackupIn

theorem root_of_beneath {root : RootKind} {path : LibraryPath} {place : MediaPlace}
    (h : place.isBeneath (root.place path) = true) : place.root = root := by
  simp only [Place.isBeneath, Bool.and_eq_true] at h
  exact of_decide_eq_true h.1

end

end MusicServer
