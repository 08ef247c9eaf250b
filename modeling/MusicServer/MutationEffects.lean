/-
# Applying a mutation

The originals tree mirrors the library: a track's kept original has the folder and the
stem of the track and an extension of its own, and every change of the library's files is
made there too.  Conversion and restoring move a file between the two trees.  `apply`
is the whole of it, one branch for each kind of mutation.
-/
import MusicServer.FileMutations

namespace MusicServer

open CrashProgram FileTree
open CrashProgram.Program (fail attempt syscall syscallTorn ofExcept)
open RootKind

/-! ## Kept originals -/

/-- The folder of the originals tree that mirrors a track's, where it is there. -/
def originalsFolder (path : LibraryPath) : MutationProgram (Option MediaPlace) :=
  match path.parent with
  | none => pure (some originals.top)
  | some parent => do
    match ← attempt (originals.resolveExistingDirectory parent) with
    | .ok folder => pure (some folder)
    | .error e => if rootedPathIsMissing e then pure none else fail (.rootedPath e)

/-- The one file among the entries with the track's stem; hidden ones are not looked at. -/
def selectOriginal (path : LibraryPath) :
    List (List Char × Node) → Option LibraryPath →
      Except FilesystemMutationError (Option LibraryPath)
  | [], found => .ok found
  | (name, node) :: rest, found =>
    if name.head? = some '.' then selectOriginal path rest found
    else
      match sibling path name with
      | .error e => .error e
      | .ok candidate =>
        if candidate.fileStem ≠ path.fileStem ∨ isSupportedLibraryPath candidate = false then
          selectOriginal path rest found
        else
          match node, found with
          | .file _, none => selectOriginal path rest (some candidate)
          | .file _, some _ => .error .ambiguousOriginal
          | _, _ => .error .unexpectedMutationArtifact

/-- The kept original that shares the path's folder and stem, if any. -/
def findOriginal (path : LibraryPath) : MutationProgram (Option LibraryPath) := do
  match ← originalsFolder path with
  | none => pure none
  | some folder =>
    let entries ← readDir folder
    ofExcept (selectOriginal path entries none)

/-- The file name within the name of one of a journal's artifacts. -/
def artifactOriginalName (journalId : String) (name : List Char) : List (List Char) :=
  match name with
  | '.' :: hidden =>
    ["stage", "backup"].filterMap fun role =>
      let suffix := '.' :: journalId.toList ++ ".metadata-".toList ++ role.toList
      if suffix.isSuffixOf hidden then some (hidden.take (hidden.length - suffix.length)) else none
  | _ => []

/-- The first of the names that is one of an original of the track. -/
def firstOriginalName (path : LibraryPath) :
    List (List Char) → Except FilesystemMutationError (Option LibraryPath)
  | [] => .ok none
  | name :: rest =>
    match sibling path name with
    | .error e => .error e
    | .ok candidate =>
      if candidate.fileStem = path.fileStem ∧ isSupportedLibraryPath candidate = true then
        .ok (some candidate)
      else firstOriginalName path rest

/-- Like `findOriginal`; but a replayed tag edit may have left the original only as that
journal's stage or backup, which names it. -/
def findOriginalForTagEdit (path : LibraryPath) (journalId : String) (replay : Bool) :
    MutationProgram (Option LibraryPath) := do
  match ← findOriginal path with
  | some original => pure (some original)
  | none =>
    if !replay then pure none
    else
      match ← originalsFolder path with
      | none => pure none
      | some folder =>
        let entries ← readDir folder
        ofExcept (firstOriginalName path
          (entries.flatMap fun entry => artifactOriginalName journalId entry.1))

def originalMtime (modified : ℤ) : ℤ := if modified < 0 then 0 else modified / 1000000000

/-- The original's facts as the index stores them. -/
def originalFacts (path : LibraryPath) : MutationProgram TrackOriginal := do
  let place ← resolved (originals.resolveExistingFileForMutation path)
  let record ← fileFacts .io place
  match path.extension with
  | none => fail .invalidMutationPath
  | some extension => pure ⟨extension, record.bytes.length, originalMtime record.modified⟩

/-- Refuses a destination that is taken, unless the move only changes the case of a name. -/
def ensureFree (target : MediaPlace) (caseOnly : Bool) : MutationProgram Unit :=
  if caseOnly then pure ()
  else do
    match ← mutationArtifactState target with
    | .missing => pure ()
    | .regularFile => fail .destinationExists

def ensureParent (root : RootKind) (path : LibraryPath) : MutationProgram Unit :=
  match path.parent with
  | none => pure ()
  | some parent => do
    let _ ← resolved (root.ensureDirectory parent)
    pure ()

/-- Where the original of a moved track goes. -/
def movedOriginal (original destination : LibraryPath) :
    Except FilesystemMutationError LibraryPath :=
  match original.extension with
  | none => .error .invalidMutationPath
  | some extension => (destination.withExtension extension).mapError fun _ => .invalidMutationPath

def moveFoundOriginal (original target : LibraryPath) (caseOnly : Bool) : MutationProgram Unit := do
  let source ← resolved (originals.resolveExistingFileForMutation original)
  ensureParent originals target
  let place ← resolved (originals.resolveForCreation target)
  ensureFree place caseOnly
  renamePlace .safeIo source place

/-- Moves the original of the library file at `source` beside `destination`. -/
def moveOriginal (source destination : LibraryPath) (caseOnly : Bool) : MutationProgram Unit := do
  match ← findOriginal source with
  | none => pure ()
  | some original =>
    let target ← ofExcept (movedOriginal original destination)
    if target = original then pure () else moveFoundOriginal original target caseOnly

def deleteOriginal (path : LibraryPath) : MutationProgram Unit := do
  match ← findOriginal path with
  | none => pure ()
  | some original =>
    let place ← resolved (originals.resolveExistingFileForMutation original)
    syscall .safeIo fun disk : MediaDisk => disk.removeFile place

/-- A folder of the originals tree, where it is there. -/
def existingOriginalsFolder (path : LibraryPath) : MutationProgram (Option MediaPlace) := do
  match ← attempt (originals.resolveExistingDirectory path) with
  | .ok place => pure (some place)
  | .error e => if rootedPathIsMissing e then pure none else fail (.rootedPath e)

def pathExists (place : MediaPlace) : MutationProgram Bool := do
  let node ← symlinkMetadata .io place
  pure node.isSome

/-- Renames the mirrored folder, which is missing where there is nothing to mirror. -/
def renameOriginalFolder (source destination : LibraryPath) (caseOnly : Bool) :
    MutationProgram Unit := do
  match ← existingOriginalsFolder source with
  | none => pure ()
  | some sourcePlace =>
    if caseOnly = true ∧ source.fileName = destination.fileName then pure ()
    else
      ensureParent originals destination
      let place ← resolved (originals.resolveForCreation destination)
      let taken ← pathExists place
      if caseOnly = false ∧ taken = true then fail .destinationExists
      else renamePlace .safeIo sourcePlace place

def removeFolder (onError : IoErrorKind → FilesystemMutationError) (place : MediaPlace)
    (recursive : Bool) : MutationProgram Unit :=
  if recursive then
    syscallTorn onError (fun disk : MediaDisk => disk.removeDirAll place)
      fun progress disk => disk.removeDirAllTorn place progress
  else syscall onError fun disk : MediaDisk => disk.removeDir place

/-- Removes the mirrored folder after the library's.  A deletion that is not recursive
keeps originals that no longer belong to a track. -/
def deleteOriginalFolder (path : LibraryPath) (recursive : Bool) : MutationProgram Unit := do
  match ← existingOriginalsFolder path with
  | none => pure ()
  | some place =>
    match ← attempt (removeFolder .io place recursive) with
    | .ok _ => pure ()
    | .error (.io .directoryNotEmpty) =>
      if recursive then fail (.io .directoryNotEmpty) else pure ()
    | .error e => fail e

/-! ## Files between the roots -/

/-- Whether a regular file is at a path, and its place where its folder is there. -/
def fileState (root : RootKind) (path : LibraryPath) :
    MutationProgram (MutationArtifactState × Option MediaPlace) := do
  match ← attempt (root.resolveForCreation path) with
  | .ok place =>
    let state ← mutationArtifactState place
    pure (state, some place)
  | .error e => if rootedPathIsMissing e then pure (.missing, none) else fail (.rootedPath e)

/-- An input or output failure before anything has changed refuses the mutation. -/
def beforeAnyChange : FilesystemMutationError → FilesystemMutationError
  | .io kind => .safeIo kind
  | other => other

inductive Transfer where
  | renamed
  /-- The source remains, for the caller to remove. -/
  | copied
  deriving DecidableEq

/-- Writes a copy of `source` that keeps its modification time, then renames it. -/
def copyIntoPlace (source target partialPlace : MediaPlace) : MutationProgram Unit := do
  removeRegularFileIfPresent partialPlace
  let record ← fileFacts .io source
  syscallTorn .io (fun disk : MediaDisk => disk.writeFile partialPlace record.bytes)
    fun progress disk => disk.writeTorn partialPlace record.bytes progress
  syscall .io fun disk : MediaDisk => disk.setModified partialPlace record.modified
  renamePlace .io partialPlace target

/-- Places `source` at `target`, which may be on another device. -/
def transferFile (source target partialPlace : MediaPlace) : MutationProgram Transfer := do
  match ← attempt (syscall id fun disk : MediaDisk => disk.rename source target) with
  | .ok _ => pure .renamed
  | .error .crossesDevices =>
    copyIntoPlace source target partialPlace
    pure .copied
  | .error kind => fail (.io kind)

def ensureSibling (left right : LibraryPath) : MutationProgram Unit :=
  if left.parent = right.parent ∧ left.fileStem = right.fileStem then pure ()
  else fail .invalidMutationPath

/-- The file at `destination` is the published copy, not the source: a kept original has
the source's size and time. -/
def stageWasPublished (destination original : MediaPlace) : MutationProgram Bool := do
  match ← uploadTargetState destination with
  | .regularFile =>
    let left ← fileFacts .io destination
    let right ← fileFacts .io original
    pure ((left.bytes.length, left.modified) ≠ (right.bytes.length, right.modified))
  | _ => pure false

def returnOriginal (journalId : String) (source : LibraryPath) (original sourcePlace : MediaPlace) :
    MutationProgram Unit := do
  let partialName ← ofExcept (partialPath source journalId "rollback")
  let partialPlace ← resolved (library.resolveForCreation partialName)
  match ← transferFile original sourcePlace partialPlace with
  | .copied => removeRegularFileIfPresent original
  | .renamed => pure ()

def rollBackKeptOriginal (journalId : String) (source : LibraryPath) (original : MediaPlace)
    (sourcePlace : Option MediaPlace) : MutationProgram Unit :=
  match sourcePlace with
  | none => fail .recoveryArtifactConflict
  | some sourcePlace => do
    match ← uploadTargetState sourcePlace with
    | .regularFile => removeRegularFileIfPresent original
    | _ => returnOriginal journalId source original sourcePlace

/-- Refuses a destination other than the source that is taken. -/
def ensureUntaken (samePath : Bool) (destination : MediaPlace) (error : FilesystemMutationError) :
    MutationProgram Unit :=
  if samePath then pure ()
  else do
    match ← uploadTargetState destination with
    | .missing => pure ()
    | _ => fail error

def removeUnlessSame (samePath : Bool) (place : Option MediaPlace) : MutationProgram Unit :=
  match samePath, place with
  | false, some place => removeRegularFileIfPresent place
  | _, _ => pure ()

/-! ## Conversion and restoring -/

namespace FilesystemLibraryMutations

variable (effects : FilesystemLibraryMutations)

/-- Keeps the source as the original, where every check that can refuse has passed. -/
def keepOriginal (source : LibraryPath) (samePath : Bool) (sourceState stagedState :
    MutationArtifactState) (sourcePlace : Option MediaPlace)
    (original originalPartial destination : MediaPlace) : MutationProgram Transfer :=
  match sourcePlace with
  | none => fail .trackFileMissing
  | some sourcePlace =>
    if sourceState ≠ .regularFile then fail .trackFileMissing
    else if stagedState ≠ .regularFile then do
      removeRegularFileIfPresent originalPartial
      fail .conversionStageMissing
    else do
      ensureUntaken samePath destination .destinationExists
      match ← findOriginal source with
      | some _ => fail .destinationExists
      | none => (transferFile sourcePlace original originalPartial).mapError beforeAnyChange

/-- An original that is there already is left to a replay, which kept it. -/
def keepUnlessKept (originalState : MutationArtifactState) (keep : MutationProgram Transfer) :
    MutationProgram (Option Transfer) :=
  if originalState = .missing then do
    let transfer ← keep
    pure (some transfer)
  else pure none

/-- Publishes the staged copy, or finds out that it was published; a replay that finds it
gone before that undoes what was kept. -/
def publishConversion (journalId : String) (source : LibraryPath) (samePath : Bool)
    (transfer : Option Transfer) (sourcePlace : Option MediaPlace)
    (staged original destination : MediaPlace) : MutationProgram Unit := do
  match ← mutationArtifactState staged with
  | .regularFile =>
    ensureUntaken samePath destination .recoveryArtifactConflict
    renamePlace .io staged destination
  | .missing =>
    if transfer.isSome then pure ()
    else
      let published ← stageWasPublished destination original
      if published then pure ()
      else
        rollBackKeptOriginal journalId source original sourcePlace
        fail .conversionStageMissing

/-- The library's source goes, and what was converted is read for the index. -/
def finishConversion (trackId : TrackId) (source destination : LibraryPath) (samePath : Bool)
    (sourcePlace : Option MediaPlace) : MutationProgram LibraryFileMutationOutcome := do
  removeUnlessSame samePath sourcePlace
  let track ← effects.inspect destination
  let original ← originalFacts source
  pure (.trackConverted trackId track original)

/-- The conversion where all its paths were resolved. -/
def convertResolved (journalId : String) (trackId : TrackId) (source destination : LibraryPath)
    (samePath replay : Bool) (sourceState stagedState originalState : MutationArtifactState)
    (sourcePlace : Option MediaPlace)
    (stagedPlace originalPlace originalPartial destinationPlace : MediaPlace) :
    MutationProgram LibraryFileMutationOutcome :=
  if originalState = .regularFile ∧ replay = false then fail .destinationExists
  else do
    let transfer ← keepUnlessKept originalState (keepOriginal source samePath sourceState
      stagedState sourcePlace originalPlace originalPartial destinationPlace)
    publishConversion journalId source samePath transfer sourcePlace stagedPlace originalPlace
      destinationPlace
    effects.finishConversion trackId source destination samePath sourcePlace

/-- Keeps `source` under the originals root, publishes the staged streaming copy at
`destination` and removes the library's `source`. -/
def applyTrackConversion (journalId : String) (trackId : TrackId)
    (source staged destination : LibraryPath) (replay : Bool) :
    MutationProgram LibraryFileMutationOutcome := do
  ensureSibling source destination
  let (sourceState, sourcePlace) ← fileState library source
  let stagedPlace ← resolved (library.resolveForCreation staged)
  let stagedState ← mutationArtifactState stagedPlace
  ensureParent RootKind.originals source
  let originalPlace ← resolved (RootKind.originals.resolveForCreation source)
  let partialName ← ofExcept (partialPath source journalId "original")
  let originalPartial ← resolved (RootKind.originals.resolveForCreation partialName)
  let destinationPlace ← resolved (library.resolveForCreation destination)
  let originalState ← mutationArtifactState originalPlace
  effects.convertResolved journalId trackId source destination (decide (source = destination))
    replay sourceState stagedState originalState sourcePlace stagedPlace originalPlace
    originalPartial destinationPlace

/-- Moves the original back to the library's destination. -/
def restoreOriginal (samePath replay : Bool) (destinationState : UploadTargetState)
    (original destination restorePartial : MediaPlace) : MutationProgram Unit :=
  if replay = false ∧ samePath = false ∧ destinationState ≠ .missing then fail .destinationExists
  else if destinationState = .occupied then fail .recoveryArtifactConflict
  else do
    match ← (transferFile original destination restorePartial).mapError beforeAnyChange with
    | .copied => removeRegularFileIfPresent original
    | .renamed => pure ()

/-- Without an original, the destination must be the restored file. -/
def restoreIfKept (samePath replay : Bool) (originalState : MutationArtifactState)
    (originalPlace : Option MediaPlace) (destinationState : UploadTargetState)
    (destination restorePartial : MediaPlace) : MutationProgram Unit :=
  match originalState, originalPlace with
  | .regularFile, some originalPlace =>
    restoreOriginal samePath replay destinationState originalPlace destination restorePartial
  | _, _ => if destinationState ≠ .regularFile then fail .originalMissing else pure ()

/-- The converted file goes, and what was restored is read for the index. -/
def finishRestore (trackId : TrackId) (destination : LibraryPath) (samePath : Bool)
    (pathPlace : Option MediaPlace) : MutationProgram LibraryFileMutationOutcome := do
  removeUnlessSame samePath pathPlace
  let track ← effects.inspect destination
  pure (.trackRestored trackId track)

/-- The restoring where all its paths were resolved. -/
def restoreResolved (trackId : TrackId) (destination : LibraryPath) (samePath replay : Bool)
    (originalState : MutationArtifactState) (originalPlace pathPlace : Option MediaPlace)
    (destinationState : UploadTargetState) (destinationPlace restorePartial : MediaPlace) :
    MutationProgram LibraryFileMutationOutcome :=
  if originalState = .missing ∧ replay = false then fail .originalMissing
  else do
    restoreIfKept samePath replay originalState originalPlace destinationState destinationPlace
      restorePartial
    effects.finishRestore trackId destination samePath pathPlace

/-- Returns the original kept at `destination` to the library, replacing the converted
file at `path`. -/
def applyTrackRestore (journalId : String) (trackId : TrackId) (path destination : LibraryPath)
    (replay : Bool) : MutationProgram LibraryFileMutationOutcome := do
  ensureSibling path destination
  let (originalState, originalPlace) ← fileState RootKind.originals destination
  let (_, pathPlace) ← fileState library path
  let destinationPlace ← resolved (library.resolveForCreation destination)
  let partialName ← ofExcept (partialPath destination journalId "restore")
  let restorePartial ← resolved (library.resolveForCreation partialName)
  let destinationState ← uploadTargetState destinationPlace
  effects.restoreResolved trackId destination (decide (path = destination)) replay originalState
    originalPlace pathPlace destinationState destinationPlace restorePartial

/-! ## Tag edits -/

/-- Edits the kept original, where there is one, and reads its facts. -/
def updateOriginal (journalId : String) (path : LibraryPath) (patch : TrackMetadataPatch)
    (replay : Bool) : MutationProgram (Option TrackOriginal) :=
  if effects.originals then do
    match ← findOriginalForTagEdit path journalId replay with
    | none => pure none
    | some original =>
      effects.replaceFileTags RootKind.originals journalId original patch replay
      let facts ← originalFacts original
      pure (some facts)
  else pure none

/-- The original is edited first, so that a refused edit of it leaves both files alone. -/
def applyMetadataUpdate (journalId : String) (trackId : TrackId) (path : LibraryPath)
    (patch : TrackMetadataPatch) (replay : Bool) : MutationProgram LibraryFileMutationOutcome :=
  if patch.hasTagChanges = false then pure (.trackMetadataUpdated trackId none none)
  else do
    let original ← effects.updateOriginal journalId path patch replay
    effects.replaceFileTags library journalId path patch replay
    let discovered ← effects.inspect path
    pure (.trackMetadataUpdated trackId (some discovered) original)

/-! ## Moves and deletions -/

/-- What is done to the originals tree, where there is one. -/
def mirrored (program : MutationProgram Unit) : MutationProgram Unit :=
  if effects.originals then program else pure ()

/-- The two paths differ only in the case of the last name. -/
def caseOnly (source destination : LibraryPath) : Bool :=
  effects.toLowercase source.encoded = effects.toLowercase destination.encoded &&
    (source.parent.map fun path => effects.toLowercase path.encoded) =
      destination.parent.map fun path => effects.toLowercase path.encoded

def applyTrackMoveTo (trackId : TrackId) (source destination : LibraryPath)
    (sourcePlace : MediaPlace) : MutationProgram LibraryFileMutationOutcome := do
  ensureParent library destination
  let destinationPlace ← resolved (library.resolveForCreation destination)
  let taken ← pathExists destinationPlace
  if taken = true ∧ effects.caseOnly source destination = false then fail .destinationExists
  else
    effects.mirrored (moveOriginal source destination (effects.caseOnly source destination))
    renamePlace .io sourcePlace destinationPlace
    let track ← effects.inspect destination
    pure (.trackMoved trackId track)

def applyTrackMove (trackId : TrackId) (source destination : LibraryPath) (replay : Bool) :
    MutationProgram LibraryFileMutationOutcome :=
  if source = destination then do
    let track ← effects.inspect destination
    pure (.trackMoved trackId track)
  else do
    match ← attempt (library.resolveExistingFileForMutation source) with
    | .error e =>
      if replay = true ∧ rootedPathIsMissing e = true then
        let _ ← resolved (library.resolveExistingFileForMutation destination)
        let track ← effects.inspect destination
        pure (.trackMoved trackId track)
      else fail (.rootedPath e)
    | .ok sourcePlace =>
      if replay = true ∧ effects.caseOnly source destination = true ∧
          source.fileName = destination.fileName then
        let track ← effects.inspect destination
        pure (.trackMoved trackId track)
      else effects.applyTrackMoveTo trackId source destination sourcePlace

def applyTrackDelete (trackId : TrackId) (path : LibraryPath) :
    MutationProgram LibraryFileMutationOutcome := do
  effects.mirrored (deleteOriginal path)
  match ← attempt (library.resolveExistingFileForMutation path) with
  | .error e =>
    if rootedPathIsMissing e then pure (.trackDeleted trackId) else fail (.rootedPath e)
  | .ok place =>
    syscall .io fun disk : MediaDisk => disk.removeFile place
    pure (.trackDeleted trackId)

/-! ## Folders -/

def folderOutcome (path : LibraryPath) (place : MediaPlace) :
    MutationProgram LibraryFileMutationOutcome := do
  let hasChildren ← hasChildDirectories place
  pure (.folder path hasChildren)

def applyFolderRenameTo (source destination : LibraryPath) (sourcePlace : MediaPlace) :
    MutationProgram LibraryFileMutationOutcome := do
  ensureParent library destination
  let destinationPlace ← resolved (library.resolveForCreation destination)
  let taken ← pathExists destinationPlace
  if taken = true ∧ effects.caseOnly source destination = false then fail .destinationExists
  else
    effects.mirrored
      (renameOriginalFolder source destination (effects.caseOnly source destination))
    renamePlace .io sourcePlace destinationPlace
    folderOutcome destination destinationPlace

def applyFolderRename (source destination : LibraryPath) (replay : Bool) :
    MutationProgram LibraryFileMutationOutcome :=
  if source = destination ∨ (source.encoded ++ ['/']).isPrefixOf destination.encoded = true then
    fail .invalidMove
  else do
    match ← attempt (library.resolveExistingDirectory source) with
    | .error e =>
      if replay = true ∧ rootedPathIsMissing e = true then
        let place ← resolved (library.resolveExistingDirectory destination)
        ensureIsDirectory place
        folderOutcome destination place
      else fail (.rootedPath e)
    | .ok sourcePlace =>
      ensureIsDirectory sourcePlace
      if replay = true ∧ effects.caseOnly source destination = true ∧
          source.fileName = destination.fileName then
        folderOutcome destination sourcePlace
      else effects.applyFolderRenameTo source destination sourcePlace

def folderDeletionError : IoErrorKind → FilesystemMutationError
  | .directoryNotEmpty => .directoryNotEmpty
  | kind => .io kind

def deleteLibraryFolder (path : LibraryPath) (recursive replay : Bool) : MutationProgram Unit := do
  match ← attempt (library.resolveExistingDirectory path) with
  | .ok place =>
    ensureIsDirectory place
    removeFolder folderDeletionError place recursive
  | .error e =>
    if replay = true ∧ rootedPathIsMissing e = true then pure () else fail (.rootedPath e)

def applyFolderDelete (path : LibraryPath) (recursive replay : Bool) :
    MutationProgram LibraryFileMutationOutcome := do
  deleteLibraryFolder path recursive replay
  effects.mirrored (deleteOriginalFolder path recursive)
  pure .deleted

/-! ## All mutations -/

def apply (journalId : String) (mutation : LibraryFileMutation) (replay : Bool) :
    MutationProgram LibraryFileMutationOutcome :=
  match mutation with
  | .createFolder path => do
    let place ← resolved (library.ensureDirectory path)
    folderOutcome path place
  | .renameFolder source destination => effects.applyFolderRename source destination replay
  | .deleteFolder path recursive => effects.applyFolderDelete path recursive replay
  | .moveTrack trackId source destination =>
    effects.applyTrackMove trackId source destination replay
  | .deleteTrack trackId path => effects.applyTrackDelete trackId path
  | .updateTrackMetadata trackId path patch =>
    effects.applyMetadataUpdate journalId trackId path patch replay
  | .publishUpload staged destination replaceExisting =>
    effects.applyUploadPublish journalId staged destination replaceExisting replay
  | .convertTrack trackId source staged destination =>
    if effects.originals then
      effects.applyTrackConversion journalId trackId source staged destination replay
    else fail .conversionUnavailable
  | .restoreTrack trackId path destination =>
    if effects.originals then
      effects.applyTrackRestore journalId trackId path destination replay
    else fail .conversionUnavailable

end FilesystemLibraryMutations

end MusicServer
