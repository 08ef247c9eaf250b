/-
# Committing mutations to the index

One transaction for each kind of mutation, and the three of a reconciliation.  Each checks
its journal, changes the rows it is about and finishes with the bookkeeping that all of
them share.
-/
import MusicServer.LibraryIndex

namespace MusicServer

namespace LibraryIndex

open RecoveryJournals

/-! ## Rows of one track -/

def maxReconciliationTracks : ℕ := 1000000

def storedSize (sizeBytes : ℕ) : Except StorageError ℕ := do
  ensure (sizeBytes ≤ sqliteMax)
    (.invalidLibraryRecord "track size exceeds SQLite integer range")
  return sizeBytes

/-- The row of the track with this id at this path: `WHERE id = ? AND path = ?`. -/
def rowAt (trackId : TrackId) (path : LibraryPath) (row : TrackRow) : Bool :=
  row.id = trackId && row.path = path.encoded

/-- A row after its file was read again, possibly at another path. -/
def rediscover (discovered : DiscoveredTrack) (row : TrackRow) : TrackRow :=
  { row with
    path := discovered.path.encoded
    metadata := discovered.metadata
    duration := discovered.duration
    sizeBytes := discovered.sizeBytes
    mtimeUnixSeconds := discovered.mtimeUnixSeconds }

def fetchTrack (index : LibraryIndex) (trackId : TrackId) : Except StorageError IndexedTrack :=
  match index.tracks.find trackId with
  | some row => index.indexedTrackFromRow row
  | none => .error (.invalidLibraryRecord "no rows returned")

/-- `UPDATE tracks SET … WHERE id = ? AND path = ?`, which has to find its row. -/
def updateTrackAt (index : LibraryIndex) (trackId : TrackId) (path : LibraryPath)
    (update : TrackRow → TrackRow) (missing : String) : Except StorageError LibraryIndex := do
  let tracks ← index.tracks.updateWhere (rowAt trackId path) update
  ensure (index.tracks.rows.any (rowAt trackId path)) (.invalidLibraryRecord missing)
  return { index with tracks := tracks }

def commitLibraryTrackMoveWithCleanup (index : LibraryIndex) (journalId : String)
    (trackId : TrackId) (source : LibraryPath) (discovered : DiscoveredTrack)
    (context : MutationJournalContext) (now : ℤ) :
    Except StorageError (LibraryIndex × IndexedTrack × Option ℤ) := do
  let _ ← storedSize discovered.sizeBytes
  index.validateLibraryMutationJournal journalId (.moveTrack trackId source discovered.path) context
  let index ← index.updateTrackAt trackId source (rediscover discovered) "track move source changed"
  let (index, batchId) ← index.finishLibraryIndexMutation journalId "move_track" 1
    .preserveMembership context now
  let track ← index.fetchTrack trackId
  return (index, track, batchId)

def commitLibraryTrackDelete (index : LibraryIndex) (journalId : String) (trackId : TrackId)
    (path : LibraryPath) (now : ℤ) : Except StorageError (LibraryIndex × ℕ) := do
  index.validateLibraryMutationJournal journalId (.deleteTrack trackId path) .library
  let affectedTracks := index.tracks.rows.countP (rowAt trackId path)
  let (index, _) ← (index.deleteTracks (rowAt trackId path)).finishLibraryIndexMutation journalId
    "delete_track" affectedTracks .removeTracks .library now
  return (index, affectedTracks)

/-- A row after the fields that only the index keeps were patched. -/
def patchDatabaseField (row : TrackRow) :
    TrackMetadataField × TrackMetadataPatchValue → Except StorageError TrackRow
  | (.displayTitle, .text value) => .ok { row with displayTitle := value }
  | (.displayTitle, .cleared) => .ok { row with displayTitle := "" }
  | (.origin, .text value) => .ok { row with origin := value }
  | (.origin, .cleared) => .ok { row with origin := "" }
  | (.displayTitle, .number _) =>
    .error (.invalidLibraryState "database-only metadata field has a numeric value")
  | (.origin, .number _) =>
    .error (.invalidLibraryState "database-only metadata field has a numeric value")
  | _ => .ok row

def patchedRow (row : TrackRow) (patch : TrackMetadataPatch)
    (discovered : Option DiscoveredTrack) : Except StorageError TrackRow :=
  patch.changes.foldlM patchDatabaseField ((discovered.map fun d => rediscover d row).getD row)

/-- Refreshes the recorded facts of an original that was edited with its track. -/
def refreshOriginal (index : LibraryIndex) (trackId : TrackId) :
    Option TrackOriginal → Except StorageError LibraryIndex
  | none => .ok index
  | some original => do
    let sizeBytes ← storedSize original.sizeBytes
    ensure (index.originals.any fun row => row.1 = trackId)
      (.invalidLibraryRecord "edited original is not recorded for the track")
    let originals := index.originals.map fun row =>
      if row.1 = trackId then
        (row.1, { row.2 with sizeBytes := sizeBytes, mtimeUnixSeconds := original.mtimeUnixSeconds })
      else row
    return { index with originals := originals }

def commitLibraryTrackMetadataWithCleanup (index : LibraryIndex) (journalId : String)
    (trackId : TrackId) (path : LibraryPath) (patch : TrackMetadataPatch)
    (discovered : Option DiscoveredTrack) (original : Option TrackOriginal)
    (context : MutationJournalContext) (now : ℤ) :
    Except StorageError (LibraryIndex × IndexedTrack × Option ℤ) := do
  ensure (patch.isEmpty = false ∧ patch.hasTagChanges = discovered.isSome)
    (.invalidLibraryState "metadata mutation outcome does not match its patch")
  ensure (∀ track ∈ discovered, track.path = path)
    (.invalidLibraryRecord "metadata mutation changed the track path")
  ensure (∀ track ∈ discovered, track.sizeBytes ≤ sqliteMax)
    (.invalidLibraryRecord "track size exceeds SQLite integer range")
  index.validateLibraryMutationJournal journalId (.updateTrackMetadata trackId path patch) context
  match index.tracks.rows.find? (rowAt trackId path) with
  | none => .error (.invalidLibraryRecord "metadata mutation track changed")
  | some row =>
    let _ ← index.indexedTrackFromRow row
    let row ← patchedRow row patch discovered
    let index ← index.updateTrackAt trackId path (fun _ => row) "metadata mutation track changed"
    let index ← index.refreshOriginal trackId original
    let (index, batchId) ← index.finishLibraryIndexMutation journalId "update_track_metadata" 1
      .preserveMembership context now
    let track ← index.fetchTrack trackId
    return (index, track, batchId)

/-- Records the kept original of a track, or forgets it. -/
def recordOriginal (index : LibraryIndex) (trackId : TrackId) :
    Option TrackOriginal → Except StorageError LibraryIndex
  | some original => do
    let _ ← storedSize original.sizeBytes
    ensure ((index.originals.any fun row => row.1 = trackId) = false) .constraintViolation
    return { index with originals := index.originals ++ [(trackId, original)] }
  | none => do
    ensure (index.originals.any fun row => row.1 = trackId)
      (.invalidLibraryRecord "kept original record changed during its file swap")
    return { index with originals := index.originals.filter fun row => row.1 ≠ trackId }

/-- Points the track at the file a conversion or restore published, and records or forgets
the kept original. -/
def commitLibraryTrackFileSwap (index : LibraryIndex) (journalId : String) (trackId : TrackId)
    (mutation : LibraryFileMutation) (previousPath : LibraryPath) (discovered : DiscoveredTrack)
    (original : Option TrackOriginal) (now : ℤ) :
    Except StorageError (LibraryIndex × IndexedTrack) := do
  let _ ← storedSize discovered.sizeBytes
  index.validateLibraryMutationJournal journalId mutation .library
  let index ← index.updateTrackAt trackId previousPath (rediscover discovered)
    "converted track changed during its file swap"
  let index ← index.recordOriginal trackId original
  let (index, _) ← index.finishLibraryIndexMutation journalId mutation.operation 1
    .preserveMembership .library now
  let track ← index.fetchTrack trackId
  return (index, track)

def commitTrackConversion (index : LibraryIndex) (journalId : String) (trackId : TrackId)
    (source staged : LibraryPath) (discovered : DiscoveredTrack) (original : TrackOriginal)
    (now : ℤ) : Except StorageError (LibraryIndex × IndexedTrack) :=
  index.commitLibraryTrackFileSwap journalId trackId
    (.convertTrack trackId source staged discovered.path) source discovered (some original) now

def commitTrackRestore (index : LibraryIndex) (journalId : String) (trackId : TrackId)
    (path : LibraryPath) (discovered : DiscoveredTrack) (now : ℤ) :
    Except StorageError (LibraryIndex × IndexedTrack) :=
  index.commitLibraryTrackFileSwap journalId trackId
    (.restoreTrack trackId path discovered.path) path discovered none now

/-! ## Uploads -/

def newRow (table : TrackTable) (discovered : DiscoveredTrack) (now : ℤ) : TrackRow where
  id := table.nextId
  path := discovered.path.encoded
  metadata := discovered.metadata
  duration := discovered.duration
  displayTitle := ""
  origin := ""
  sizeBytes := discovered.sizeBytes
  mtimeUnixSeconds := discovered.mtimeUnixSeconds
  addedAtUnixSeconds := now

/-- `INSERT … ON CONFLICT(path) DO UPDATE`. -/
def upsertTrack (table : TrackTable) (discovered : DiscoveredTrack) (now : ℤ) :
    Except StorageError TrackTable :=
  let atPath := fun row : TrackRow => row.path = discovered.path.encoded
  if table.rows.any atPath then table.updateWhere atPath (rediscover discovered)
  else table.insert (newRow table discovered now)

def commitLibraryUpload (index : LibraryIndex) (journalId : String)
    (staged destination : LibraryPath) (replaceExisting : Bool)
    (discovered : Option DiscoveredTrack) (now : ℤ) :
    Except StorageError (LibraryIndex × Option IndexedTrack × ℕ) := do
  ensure (∀ track ∈ discovered, track.path = destination)
    (.invalidLibraryRecord "uploaded track path changed")
  ensure (∀ track ∈ discovered, track.sizeBytes ≤ sqliteMax)
    (.invalidLibraryRecord "uploaded track size exceeds SQLite integer range")
  index.validateLibraryMutationJournal journalId
    (.publishUpload staged destination replaceExisting) .library
  match discovered with
  | none =>
    let (index, _) ← index.finishLibraryIndexMutation journalId "publish_upload" 0
      .preserveMembership .library now
    return (index, none, 0)
  | some discovered =>
    let existed := index.tracks.rows.any fun row => row.path = destination.encoded
    let tracks ← upsertTrack index.tracks discovered now
    let index := { index with tracks := tracks }
    match tracks.findPath destination.encoded with
    | none => .error (.invalidLibraryRecord "no rows returned")
    | some row =>
      let track ← index.indexedTrackFromRow row
      let (index, _) ← index.finishLibraryIndexMutation journalId "publish_upload" 1
        (if existed then .preserveMembership else .addTracks) .library now
      return (index, some track, 1)

/-! ## Folders -/

def asciiLower (c : Char) : Char :=
  if 'A' ≤ c ∧ c ≤ 'Z' then Char.ofNat (c.toNat + 32) else c

/-- `LIKE ? ESCAPE '\'`, which folds the case of ASCII letters. -/
def sqliteLike (pattern text : List Char) : Bool :=
  LikePattern.like asciiLower '\\' pattern text

def replaceChar (c : Char) (replacement text : List Char) : List Char :=
  text.flatMap fun d => if d = c then replacement else [d]

def escapeLike (value : List Char) : List Char :=
  replaceChar '_' ['\\', '_'] (replaceChar '%' ['\\', '%'] (replaceChar '\\' ['\\', '\\'] value))

/-- The pattern of the paths inside a folder. -/
def folderPattern (folder : LibraryPath) : List Char := escapeLike (folder.encoded ++ ['/']) ++ ['%']

def inFolder (folder : LibraryPath) (row : TrackRow) : Bool :=
  sqliteLike (folderPattern folder) row.path

/-- The check of a path that is about to move with its folder. -/
def validateMovedPath (source destination : LibraryPath) (row : TrackRow) :
    Except StorageError Unit :=
  let sourcePrefix := source.encoded ++ ['/']
  if sourcePrefix.isPrefixOf row.path then
    ((destination.join (row.path.drop sourcePrefix.length)).mapError .invalidLibraryPath).map
      fun _ => ()
  else .error (.invalidLibraryRecord "folder mutation path has an invalid prefix")

def movedPath (source destination : LibraryPath) (path : List Char) : List Char :=
  destination.encoded ++ path.drop source.encoded.length

/-- Moves the matching rows to another folder. -/
def commitFolderRename (index : LibraryIndex) (matching : TrackRow → Bool) (journalId : String)
    (source destination : LibraryPath) (context : MutationJournalContext) (now : ℤ) :
    Except StorageError (LibraryIndex × ℕ × Option ℤ) := do
  index.validateLibraryMutationJournal journalId (.renameFolder source destination) context
  let rows := (index.tracks.rows.filter matching).take (maxReconciliationTracks + 1)
  ensure (rows.length ≤ maxReconciliationTracks)
    (.invalidLibraryState "folder mutation contains too many tracks")
  rows.forM (validateMovedPath source destination)
  let updated ← TrackTable.rewritePaths matching (movedPath source destination) []
    index.tracks.rows
  ensure (index.tracks.rows.countP matching = rows.length)
    (.invalidLibraryRecord "folder mutation track set changed")
  let tracks ← TrackTable.store updated
  let (index, batchId) ← { index with tracks := tracks }.finishLibraryIndexMutation journalId
    "rename_folder" rows.length .preserveMembership context now
  return (index, rows.length, batchId)

def commitLibraryFolderRenameWithCleanup (index : LibraryIndex) (journalId : String)
    (source destination : LibraryPath) (context : MutationJournalContext) (now : ℤ) :
    Except StorageError (LibraryIndex × ℕ × Option ℤ) :=
  index.commitFolderRename (inFolder source) journalId source destination context now

def commitLibraryFolderDelete (index : LibraryIndex) (journalId : String) (path : LibraryPath)
    (now : ℤ) : Except StorageError (LibraryIndex × ℕ) := do
  index.validateLibraryDeleteJournal journalId path
  let affectedTracks := index.tracks.rows.countP (inFolder path)
  let (index, _) ← (index.deleteTracks (inFolder path)).finishLibraryIndexMutation journalId
    "delete_folder" affectedTracks .removeTracks .library now
  return (index, affectedTracks)

/-! ## Reconciliation -/

structure ReconciliationSummary where
  added : ℕ
  updated : ℕ
  removed : ℕ
  unchanged : ℕ
  deriving DecidableEq

inductive ReconciliationCommit where
  | applied (status : LibraryStatus) (summary : ReconciliationSummary) (trackIds : List TrackId)
  | conflict (currentGeneration : ℕ)
  deriving DecidableEq

def beginLibraryReconciliation (index : LibraryIndex) (now : ℤ) : LibraryIndex :=
  { index with state := { index.state with
      status := .reconciling
      scanStartedAtUnixSeconds := some now
      lastErrorCode := none } }

/-- The row does not say of the file what the scan found. -/
def outdated (row : TrackRow) (discovered : DiscoveredTrack) : Bool :=
  rediscover discovered row ≠ row

/-- The upsert of a scan leaves alone the rows that say what was found. -/
def reconcileTrack (now : ℤ) (table : TrackTable) (discovered : DiscoveredTrack) :
    Except StorageError TrackTable :=
  let atPath := fun row : TrackRow => row.path = discovered.path.encoded
  if table.rows.any atPath then
    table.updateWhere (fun row => atPath row && outdated row discovered) (rediscover discovered)
  else table.insert (newRow table discovered now)

/-- Each found track beside the row at its path. -/
def matchingRows (table : TrackTable) (discovered : List DiscoveredTrack) :
    List (DiscoveredTrack × TrackRow) :=
  discovered.filterMap fun track => (table.findPath track.path.encoded).map fun row => (track, row)

/-- The row is at a path that the scan did not find. -/
def missing (discovered : List DiscoveredTrack) (row : TrackRow) : Bool :=
  !discovered.any fun track => track.path.encoded = row.path

/-- The index took in a scan: its rows, its next generation and what changed. -/
def applyReconciliation (index : LibraryIndex) (discovered : List DiscoveredTrack) (now : ℤ) :
    Except StorageError (LibraryIndex × ReconciliationCommit) := do
  let matching := matchingRows index.tracks discovered
  let added := discovered.countP fun track => (index.tracks.findPath track.path.encoded).isNone
  let updated := matching.countP fun pair => outdated pair.2 pair.1
  let removed := index.tracks.rows.countP (missing discovered)
  ensure (updated ≤ matching.length)
    (.invalidLibraryState "reconciliation counts are inconsistent")
  let tracks ← discovered.foldlM (reconcileTrack now) index.tracks
  let index := { index with tracks := tracks }.deleteTracks (missing discovered)
  ensure (index.state.generation < u64Max) (.invalidLibraryState "generation overflowed")
  ensure (index.state.generation + 1 ≤ sqliteMax)
    (.invalidLibraryState "generation exceeds SQLite integer range")
  let state : LibraryStatus :=
    ⟨index.state.generation + 1, .current, none, some now, none, discovered.length⟩
  let summary : ReconciliationSummary := ⟨added, updated, removed, matching.length - updated⟩
  return ({ index with state := state },
    .applied state summary (index.tracks.rows.map (·.id)))

def commitLibraryReconciliation (index : LibraryIndex) (expectedGeneration : ℕ)
    (discovered : List DiscoveredTrack) (now : ℤ) :
    Except StorageError (LibraryIndex × ReconciliationCommit) := do
  ensure (discovered.length ≤ maxReconciliationTracks)
    (.invalidLibraryState "reconciliation contains too many tracks")
  ensure (discovered.map (·.path.encoded)).Nodup
    (.invalidLibraryState "reconciliation contains duplicate paths")
  ensure (∀ track ∈ discovered, track.sizeBytes ≤ sqliteMax)
    (.invalidLibraryState "track size exceeds SQLite integer range")
  if index.state.generation ≠ expectedGeneration then
    return (index, .conflict index.state.generation)
  else if index.state.status ≠ .reconciling then
    .error (.invalidLibraryState "reconciliation was not started")
  else index.applyReconciliation discovered now

def validErrorCode (errorCode : String) : Bool :=
  1 ≤ errorCode.length && errorCode.length ≤ 64 &&
    errorCode.toList.all fun c => c.isLower || c.isDigit || c = '_'

def failLibraryReconciliation (index : LibraryIndex) (expectedGeneration : ℕ) (errorCode : String) :
    Except StorageError LibraryIndex := do
  ensure (validErrorCode errorCode) (.invalidLibraryState "reconciliation error code is invalid")
  ensure (expectedGeneration ≤ sqliteMax)
    (.invalidLibraryState "generation exceeds SQLite integer range")
  if index.state.generation = expectedGeneration ∧ index.state.status = .reconciling then
    return { index with state := { index.state with
      status := .failed
      lastErrorCode := some errorCode } }
  else return index

/-! ## Cleanup commits -/

/-- The mutation an item of a batch applies, or the one that reverts it: the commit of the
two differs in the context of the journal. -/
def commitCleanupContext (index : LibraryIndex) (journalId : String)
    (mutation : LibraryFileMutation) (outcome : LibraryFileMutationOutcome)
    (context : MutationJournalContext) (invalid : String) (now : ℤ) :
    Except StorageError (LibraryIndex × ℕ × Option IndexedTrack × Option ℤ) :=
  match mutation, outcome with
  | .renameFolder source destination, .folder path _ =>
    if destination = path then
      (index.commitLibraryFolderRenameWithCleanup journalId source destination context now).map
        fun r => (r.1, r.2.1, none, r.2.2)
    else .error (.invalidLibraryState invalid)
  | .moveTrack trackId source destination, .trackMoved movedId discovered =>
    if trackId = movedId ∧ destination = discovered.path then
      (index.commitLibraryTrackMoveWithCleanup journalId trackId source discovered context now).map
        fun r => (r.1, 1, some r.2.1, r.2.2)
    else .error (.invalidLibraryState invalid)
  | .updateTrackMetadata trackId path patch, .trackMetadataUpdated updatedId discovered original =>
    if trackId = updatedId ∧ ∀ track ∈ discovered, track.path = path then
      (index.commitLibraryTrackMetadataWithCleanup journalId trackId path patch discovered original
        context now).map fun r => (r.1, 1, some r.2.1, r.2.2)
    else .error (.invalidLibraryState invalid)
  | _, _ => .error (.invalidLibraryState invalid)

structure CleanupMutationCommit where
  affectedTracks : ℕ
  track : Option IndexedTrack
  batchId : ℤ
  deriving DecidableEq

def commitCleanupMutation (index : LibraryIndex) (journalId : String)
    (mutation : LibraryFileMutation) (outcome : LibraryFileMutationOutcome)
    (append : CleanupBatchAppend) (now : ℤ) :
    Except StorageError (LibraryIndex × CleanupMutationCommit) := do
  let (index, affectedTracks, track, batchId) ← index.commitCleanupContext journalId mutation
    outcome (.cleanupApply append) "cleanup mutation outcome is invalid" now
  match batchId with
  | none => .error (.invalidLibraryState "cleanup mutation did not append its batch journal")
  | some batchId => return (index, ⟨affectedTracks, track, batchId⟩)

def commitCleanupRevertMutation (index : LibraryIndex) (journalId : String)
    (mutation : LibraryFileMutation) (outcome : LibraryFileMutationOutcome)
    (revert : CleanupRevertMutation) (now : ℤ) :
    Except StorageError (LibraryIndex × ℕ × Option IndexedTrack) := do
  let (index, affectedTracks, track, _) ← index.commitCleanupContext journalId mutation outcome
    (.cleanupRevert revert) "cleanup revert mutation outcome is invalid" now
  return (index, affectedTracks, track)

def finishCleanupBatchRevert (index : LibraryIndex) (journalId : String) (batchId : ℤ) (now : ℤ) :
    Except StorageError LibraryIndex := do
  ensure (0 < batchId) (.invalidLibraryRecord "cleanup batch id is invalid")
  let plan ← index.readApplyingMutationJournal journalId .cleanup "revert_batch"
  ensure (plan = .revertBatch batchId) .invalidRecoveryJournalRecord
  let open_ := fun batch : CleanupBatch =>
    batch.id = batchId && batch.revertedAtUnixSeconds.isNone
  ensure (index.batches.any open_) (.invalidLibraryRecord "cleanup batch changed during revert")
  let batches := index.batches.map fun batch =>
    if open_ batch then { batch with revertedAtUnixSeconds := some now } else batch
  let matching := fun entry : RecoveryJournalEntry =>
    entry.id = journalId && entry.domain = .cleanup &&
      entry.plan.operation = "revert_batch" && entry.state = .applying
  let journals := index.journals.updateWhere matching fun entry => entry.moveTo .committed now
  return { index with batches := batches, journals := journals }

end LibraryIndex

end MusicServer
