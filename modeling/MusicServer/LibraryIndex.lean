/-
# The library index

The tables the library's database keeps of its tracks, their kept originals, the state of
the library, the cleanup batches and the journals, and the transactions that commit a
mutation of the files to them.  A transaction either returns the new tables or an error,
after which the old tables stand.
-/
import MusicServer.RecoveryJournal
import MusicServer.LikePattern

namespace MusicServer

open RecoveryJournals

/-! ## The tables -/

/-- A row of `tracks`; its path is the text of the column. -/
structure TrackRow where
  id : TrackId
  path : List Char
  metadata : TrackMetadata
  duration : ℕ
  displayTitle : String
  origin : String
  sizeBytes : ℕ
  mtimeUnixSeconds : ℤ
  addedAtUnixSeconds : ℤ
  deriving DecidableEq

/-- The rows of `tracks`, by id: ids and paths are unique. -/
structure TrackTable where
  rows : List TrackRow
  ids_nodup : (rows.map (·.id)).Nodup
  paths_nodup : (rows.map (·.path)).Nodup
  deriving DecidableEq

namespace TrackTable

def empty : TrackTable := ⟨[], List.nodup_nil, List.nodup_nil⟩

/-- Stores rows under the primary key and the unique index. -/
def store (rows : List TrackRow) : Except StorageError TrackTable :=
  if h : (rows.map (·.id)).Nodup ∧ (rows.map (·.path)).Nodup then .ok ⟨rows, h.1, h.2⟩
  else .error .constraintViolation

theorem store_eq_ok {rows : List TrackRow} {table : TrackTable} (h : store rows = .ok table) :
    table.rows = rows := by
  unfold store at h
  split at h
  · cases h
    rfl
  · cases h

def find (table : TrackTable) (id : TrackId) : Option TrackRow :=
  table.rows.find? fun row => row.id = id

def findPath (table : TrackTable) (path : List Char) : Option TrackRow :=
  table.rows.find? fun row => row.path = path

/-- The id of the next row: one more than the largest. -/
def nextId (table : TrackTable) : TrackId :=
  ⟨(table.rows.map (·.id.get)).foldl max 0 + 1, by
    have hmax : ∀ (ids : List ℤ) (start : ℤ), 0 ≤ start → 0 ≤ ids.foldl max start := by
      intro ids
      induction ids with
      | nil => exact fun _ h => h
      | cons id rest ih => exact fun start h => ih _ (le_max_of_le_left h)
    have := hmax (table.rows.map (·.id.get)) 0 le_rfl
    omega⟩

def insert (table : TrackTable) (row : TrackRow) : Except StorageError TrackTable :=
  store (table.rows ++ [row])

def updateWhere (table : TrackTable) (matching : TrackRow → Bool) (update : TrackRow → TrackRow) :
    Except StorageError TrackTable :=
  store (table.rows.map fun row => if matching row then update row else row)

def deleteWhere (table : TrackTable) (matching : TrackRow → Bool) : TrackTable :=
  ⟨table.rows.filter fun row => !matching row,
    table.ids_nodup.sublist (List.filter_sublist.map _),
    table.paths_nodup.sublist (List.filter_sublist.map _)⟩

/-- Rewrites the paths of the matching rows, row after row under the unique index. -/
def rewritePaths (matching : TrackRow → Bool) (rewrite : List Char → List Char)
    (done : List TrackRow) : List TrackRow → Except StorageError (List TrackRow)
  | [] => .ok done
  | row :: rest =>
    if matching row then
      if rewrite row.path ∈ (done ++ rest).map (·.path) then .error .constraintViolation
      else rewritePaths matching rewrite (done ++ [{ row with path := rewrite row.path }]) rest
    else rewritePaths matching rewrite (done ++ [row]) rest

theorem rewritePaths_eq_ok {matching : TrackRow → Bool} {rewrite : List Char → List Char}
    {done rows result : List TrackRow}
    (h : rewritePaths matching rewrite done rows = .ok result) :
    result = done ++ rows.map fun row =>
      if matching row then { row with path := rewrite row.path } else row := by
  induction rows generalizing done with
  | nil =>
    cases h
    simp
  | cons row rest ih =>
    unfold rewritePaths at h
    split at h
    · next hmatching =>
      split at h
      · cases h
      · rw [ih h]
        simp [hmatching]
    · next hmatching =>
      rw [ih h]
      simp [hmatching]

end TrackTable

inductive ReconciliationStatus where
  | pending
  | reconciling
  | current
  | failed
  deriving DecidableEq

/-- The one row of `library_state`, which is also what a reader of the status sees. -/
structure LibraryStatus where
  generation : ℕ
  status : ReconciliationStatus
  scanStartedAtUnixSeconds : Option ℤ
  lastScanAtUnixSeconds : Option ℤ
  lastErrorCode : Option String
  discoveredTracks : ℕ
  deriving DecidableEq

structure CleanupBatch where
  id : ℤ
  createdAtUnixSeconds : ℤ
  scopeLabel : String
  items : List CleanupItem
  revertedAtUnixSeconds : Option ℤ
  deriving DecidableEq

structure LibraryIndex where
  tracks : TrackTable
  originals : List (TrackId × TrackOriginal)
  state : LibraryStatus
  batches : List CleanupBatch
  journals : RecoveryJournals
  deriving DecidableEq

def LibraryIndex.empty : LibraryIndex where
  tracks := .empty
  originals := []
  state := ⟨0, .pending, none, none, none, 0⟩
  batches := []
  journals := []

namespace LibraryIndex

structure IndexedTrack where
  id : TrackId
  path : LibraryPath
  metadata : TrackMetadata
  duration : ℕ
  displayTitle : String
  origin : String
  sizeBytes : ℕ
  mtimeUnixSeconds : ℤ
  addedAtUnixSeconds : ℤ
  original : Option TrackOriginal
  deriving DecidableEq

def originalOf (index : LibraryIndex) (id : TrackId) : Option TrackOriginal :=
  (index.originals.find? fun row => row.1 = id).map Prod.snd

def indexedTrackFromRow (index : LibraryIndex) (row : TrackRow) :
    Except StorageError IndexedTrack := do
  let path ← (LibraryPath.parse row.path).mapError .invalidLibraryPath
  return ⟨row.id, path, row.metadata, row.duration, row.displayTitle, row.origin, row.sizeBytes,
    row.mtimeUnixSeconds, row.addedAtUnixSeconds, index.originalOf row.id⟩

/-- Deletes rows of `tracks` and, with them, the originals recorded for them. -/
def deleteTracks (index : LibraryIndex) (matching : TrackRow → Bool) : LibraryIndex :=
  let deleted := (index.tracks.rows.filter matching).map (·.id)
  { index with
    tracks := index.tracks.deleteWhere matching
    originals := index.originals.filter fun row => row.1 ∉ deleted }

end LibraryIndex

namespace LibraryIndex

/-! ## Validating a journal -/

/-- Under which journal a mutation is committed: the library's own, or that of an item of a
cleanup batch or of its revert. -/
inductive MutationJournalContext where
  | library
  | cleanupApply (append : CleanupBatchAppend)
  | cleanupRevert (revert : CleanupRevertMutation)
  deriving DecidableEq

namespace MutationJournalContext

def domain : MutationJournalContext → RecoveryDomain
  | .library => .library
  | .cleanupApply _ => .cleanup
  | .cleanupRevert _ => .cleanup

def expectedPlan (mutation : LibraryFileMutation) : MutationJournalContext → RecoveryPlan
  | .library => .mutation mutation
  | .cleanupApply append => .cleanupBatch append mutation
  | .cleanupRevert revert => .cleanupRevert revert mutation

def batchAppend : MutationJournalContext → Option CleanupBatchAppend
  | .cleanupApply append => some append
  | .library => none
  | .cleanupRevert _ => none

end MutationJournalContext

def readApplyingMutationJournal (index : LibraryIndex) (journalId : String)
    (domain : RecoveryDomain) (operation : String) : Except StorageError RecoveryPlan :=
  match index.journals.readEntry journalId with
  | none => .error .invalidRecoveryJournalRecord
  | some row =>
    if row.domain = domain ∧ row.plan.operation = operation ∧ row.state = .applying then
      .ok row.plan
    else .error .invalidRecoveryJournalRecord

def validateLibraryMutationJournal (index : LibraryIndex) (journalId : String)
    (mutation : LibraryFileMutation) (context : MutationJournalContext) :
    Except StorageError Unit := do
  let plan ← index.readApplyingMutationJournal journalId context.domain mutation.operation
  ensure (plan = context.expectedPlan mutation) .invalidRecoveryJournalRecord

/-- The journal of a folder deletion may say either way whether it is recursive. -/
def validateLibraryDeleteJournal (index : LibraryIndex) (journalId : String)
    (path : LibraryPath) : Except StorageError Unit := do
  let plan ← index.readApplyingMutationJournal journalId .library "delete_folder"
  ensure (plan = .mutation (.deleteFolder path true) ∨ plan = .mutation (.deleteFolder path false))
    .invalidRecoveryJournalRecord

/-! ## Finishing a mutation -/

inductive LibraryCatalogEffect where
  | preserveMembership
  | addTracks
  | removeTracks
  deriving DecidableEq

/-- The largest integer of an SQLite column. -/
def sqliteMax : ℕ := 2 ^ 63 - 1

def maxCleanupScopeLabelChars : ℕ := 512

def maxCleanupBatchJsonBytes : ℕ := 16 * 1024 * 1024

def trackCount (current affected : ℕ) : LibraryCatalogEffect → Except StorageError ℕ
  | .preserveMembership => .ok current
  | .addTracks => do
    ensure (current + affected ≤ u64Max)
      (.invalidLibraryState "catalog count overflowed during track addition")
    return current + affected
  | .removeTracks => do
    ensure (affected ≤ current) (.invalidLibraryState "track removal exceeds the catalog count")
    return current - affected

def appendCleanupBatch (index : LibraryIndex) (append : CleanupBatchAppend) (now : ℤ) :
    Except StorageError (LibraryIndex × ℤ) := do
  ensure (append.scopeLabel.length ≤ maxCleanupScopeLabelChars)
    (.invalidLibraryRecord "cleanup batch append is invalid")
  match append.batchId with
  | some batchId =>
    match index.batches.find? fun batch => batch.id = batchId with
    | none => .error (.invalidLibraryRecord "cleanup batch does not exist")
    | some batch =>
      ensure (batch.revertedAtUnixSeconds = none)
        (.invalidLibraryRecord "cleanup batch was already reverted")
      let items := batch.items ++ [append.item]
      ensure (CleanupItem.jsonLength items ≤ maxCleanupBatchJsonBytes)
        (.invalidLibraryRecord "cleanup batch journal is too large")
      let batches := index.batches.map fun batch =>
        if batch.id = batchId then { batch with items := items } else batch
      return ({ index with batches := batches }, batchId)
  | none =>
    ensure (CleanupItem.jsonLength [append.item] ≤ maxCleanupBatchJsonBytes)
      (.invalidLibraryRecord "cleanup batch journal is too large")
    let batchId := (index.batches.map (·.id)).foldl max 0 + 1
    let batch : CleanupBatch := ⟨batchId, now, append.scopeLabel, [append.item], none⟩
    return ({ index with batches := index.batches ++ [batch] }, batchId)

/-- The state after a mutation that affected tracks: the next generation, and current. -/
def advance (index : LibraryIndex) (affectedTracks : ℕ) (effect : LibraryCatalogEffect) :
    Except StorageError LibraryStatus :=
  if affectedTracks = 0 then .ok index.state
  else do
    ensure (index.state.generation < u64Max) (.invalidLibraryState "generation overflowed")
    let count ← trackCount index.state.discoveredTracks affectedTracks effect
    ensure (index.state.generation + 1 ≤ sqliteMax)
      (.invalidLibraryState "generation exceeds SQLite integer range")
    ensure (count ≤ sqliteMax) (.invalidLibraryState "track count exceeds SQLite integer range")
    return { index.state with
      generation := index.state.generation + 1
      status := .current
      scanStartedAtUnixSeconds := none
      lastErrorCode := none
      discoveredTracks := count }

/-- Only the items of a cleanup are appended to a batch. -/
def appendItem (index : LibraryIndex) (context : MutationJournalContext) (now : ℤ) :
    Except StorageError (LibraryIndex × Option ℤ) :=
  match context.batchAppend with
  | some append => (index.appendCleanupBatch append now).map fun r => (r.1, some r.2)
  | none => .ok (index, none)

/-- Moves the generation and the count of tracks on, appends to the cleanup batch and
closes the journal. -/
def finishLibraryIndexMutation (index : LibraryIndex) (journalId operation : String)
    (affectedTracks : ℕ) (effect : LibraryCatalogEffect) (context : MutationJournalContext)
    (now : ℤ) : Except StorageError (LibraryIndex × Option ℤ) := do
  let state ← index.advance affectedTracks effect
  let (index, batchId) ← { index with state := state }.appendItem context now
  let matching := fun entry : RecoveryJournalEntry =>
    entry.id = journalId && entry.domain = context.domain &&
      entry.plan.operation = operation && entry.state = .applying
  ensure (index.journals.any matching = true) .invalidRecoveryJournalRecord
  let journals := index.journals.updateWhere matching fun entry => entry.moveTo .committed now
  return ({ index with journals := journals }, batchId)

theorem appendCleanupBatch_eq_ok {index index' : LibraryIndex} {append : CleanupBatchAppend}
    {now batchId : ℤ} (h : index.appendCleanupBatch append now = .ok (index', batchId)) :
    ∃ batches, index' = { index with batches := batches } := by
  unfold appendCleanupBatch at h
  obtain ⟨-, -, h⟩ := bind_eq_ok.mp h
  split at h
  · split at h
    · cases h
    · obtain ⟨-, -, h⟩ := bind_eq_ok.mp h
      obtain ⟨-, -, h⟩ := bind_eq_ok.mp h
      cases h
      exact ⟨_, rfl⟩
  · obtain ⟨-, -, h⟩ := bind_eq_ok.mp h
    cases h
    exact ⟨_, rfl⟩

theorem appendItem_eq_ok {index index' : LibraryIndex} {context : MutationJournalContext}
    {now : ℤ} {batchId : Option ℤ} (h : index.appendItem context now = .ok (index', batchId)) :
    ∃ batches, index' = { index with batches := batches } := by
  unfold appendItem at h
  split at h
  · next append _ =>
    cases hresult : index.appendCleanupBatch append now with
    | error e =>
      rw [hresult] at h
      cases h
    | ok result =>
      rw [hresult] at h
      cases h
      exact appendCleanupBatch_eq_ok hresult
  · cases h
    exact ⟨_, rfl⟩

/-- What finishing a mutation does: the state advances, the tracks and their originals stay,
and the journal, which was applying, is committed. -/
theorem finishLibraryIndexMutation_eq_ok {index index' : LibraryIndex}
    {journalId operation : String} {affectedTracks : ℕ} {effect : LibraryCatalogEffect}
    {context : MutationJournalContext} {now : ℤ} {batchId : Option ℤ}
    (h : index.finishLibraryIndexMutation journalId operation affectedTracks effect context now =
      .ok (index', batchId)) :
    index.advance affectedTracks effect = .ok index'.state ∧ index'.tracks = index.tracks ∧
      index'.originals = index.originals ∧
      index'.journals = index.journals.updateWhere
        (fun entry => entry.id = journalId && entry.domain = context.domain &&
          entry.plan.operation = operation && entry.state = .applying)
        (fun entry => entry.moveTo .committed now) := by
  unfold finishLibraryIndexMutation at h
  obtain ⟨state, hstate, h⟩ := bind_eq_ok.mp h
  obtain ⟨⟨appended, batch⟩, happend, h⟩ := bind_eq_ok.mp h
  obtain ⟨-, -, h⟩ := bind_eq_ok.mp h
  cases h
  obtain ⟨batches, rfl⟩ := appendItem_eq_ok happend
  exact ⟨hstate, rfl, rfl, rfl⟩

end LibraryIndex

end MusicServer
