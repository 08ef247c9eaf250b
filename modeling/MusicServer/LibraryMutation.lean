/-
# Library file mutations and their journals

The nine mutations of the library's files, what their effects report, and the journal that
is written around each of them.  A journal's plan is kept as the value it encodes; its
JSON text, which the journal parses back to the same value, is not modelled.
-/
import MusicServer.LibraryPath
import MusicServer.PlaybackState

namespace MusicServer

/-! ## Track metadata -/

structure TrackMetadata where
  title : String
  artist : String
  albumArtist : String
  album : String
  releaseDate : String
  originalReleaseDate : String
  composer : String
  trackNo : Option ℕ
  discNo : Option ℕ
  year : Option ℕ
  genre : String
  bpm : Option ℕ
  deriving DecidableEq

inductive TrackMetadataField where
  | title
  | artist
  | albumArtist
  | album
  | releaseDate
  | originalReleaseDate
  | composer
  | trackNumber
  | discNumber
  | year
  | genre
  | bpm
  | displayTitle
  | origin
  deriving DecidableEq

namespace TrackMetadataField

def asStr : TrackMetadataField → String
  | .title => "title"
  | .artist => "artist"
  | .albumArtist => "album_artist"
  | .album => "album"
  | .releaseDate => "release_date"
  | .originalReleaseDate => "original_release_date"
  | .composer => "composer"
  | .trackNumber => "track_no"
  | .discNumber => "disc_no"
  | .year => "year"
  | .genre => "genre"
  | .bpm => "bpm"
  | .displayTitle => "display_title"
  | .origin => "origin"

def isTagBacked : TrackMetadataField → Bool
  | .displayTitle => false
  | .origin => false
  | _ => true

def isNumeric : TrackMetadataField → Bool
  | .trackNumber => true
  | .discNumber => true
  | .year => true
  | .bpm => true
  | _ => false

end TrackMetadataField

inductive TrackMetadataPatchValue where
  | text (value : String)
  | number (value : ℕ)
  | cleared
  deriving DecidableEq

/-- The changes of a patch, at most one for each field. -/
structure TrackMetadataPatch where
  changes : List (TrackMetadataField × TrackMetadataPatchValue)
  distinct : (changes.map Prod.fst).Nodup
  deriving DecidableEq

namespace TrackMetadataPatch

def isEmpty (patch : TrackMetadataPatch) : Bool := patch.changes.isEmpty

def hasTagChanges (patch : TrackMetadataPatch) : Bool :=
  patch.changes.any fun change => change.1.isTagBacked

end TrackMetadataPatch

/-- What a conversion kept: its size and time are the original file's. -/
structure TrackOriginal where
  extension : List Char
  sizeBytes : ℕ
  mtimeUnixSeconds : ℤ
  deriving DecidableEq

/-- A media file as a scan or an effect reports it; its duration is in nanoseconds. -/
structure DiscoveredTrack where
  path : LibraryPath
  metadata : TrackMetadata
  duration : ℕ
  sizeBytes : ℕ
  mtimeUnixSeconds : ℤ
  deriving DecidableEq

/-! ## Mutations -/

inductive LibraryFileMutation where
  | createFolder (path : LibraryPath)
  | renameFolder (source destination : LibraryPath)
  | deleteFolder (path : LibraryPath) (recursive : Bool)
  | moveTrack (trackId : TrackId) (source destination : LibraryPath)
  | deleteTrack (trackId : TrackId) (path : LibraryPath)
  | updateTrackMetadata (trackId : TrackId) (path : LibraryPath) (patch : TrackMetadataPatch)
  | publishUpload (staged destination : LibraryPath) (replaceExisting : Bool)
  | convertTrack (trackId : TrackId) (source staged destination : LibraryPath)
  | restoreTrack (trackId : TrackId) (path destination : LibraryPath)
  deriving DecidableEq

inductive LibraryFileMutationOutcome where
  | folder (path : LibraryPath) (hasChildren : Bool)
  | trackMoved (trackId : TrackId) (track : DiscoveredTrack)
  | trackDeleted (trackId : TrackId)
  | trackMetadataUpdated (trackId : TrackId) (discovered : Option DiscoveredTrack)
      (original : Option TrackOriginal)
  | uploadPublished (destination : LibraryPath) (discovered : Option DiscoveredTrack)
  | trackConverted (trackId : TrackId) (track : DiscoveredTrack) (original : TrackOriginal)
  | trackRestored (trackId : TrackId) (track : DiscoveredTrack)
  | deleted
  deriving DecidableEq

inductive LibraryMutationFailureKind where
  | notFound
  | conflict
  | notEmpty
  | invalid
  | io
  deriving DecidableEq

structure LibraryMutationFailure where
  kind : LibraryMutationFailureKind
  code : String
  recoveryRequired : Bool
  deriving DecidableEq

/-! ## Cleanup history -/

inductive CleanupInputValue where
  | integer (value : ℤ)
  | text (value : String)
  deriving DecidableEq

/-- One item of a cleanup batch, as the batch's JSON records it.  A tag item keeps the old
value of the index and, where the key `file_old` is there, the one read from the file; an
item that does not parse keeps only its track id and its size. -/
inductive CleanupItem where
  | rename (trackId : ℤ) (pathBefore pathAfter : LibraryPath)
  | tag (trackId : ℤ) (field : TrackMetadataField) (old : Option CleanupInputValue)
      (fileOld : Option (Option CleanupInputValue)) (new : Option CleanupInputValue)
      (path : LibraryPath)
  | folderRename (pathBefore pathAfter : LibraryPath)
  | malformed (trackId : ℤ) (jsonLength : ℕ)
  deriving DecidableEq

namespace CleanupItem

/-- The size of a text in JSON, its quotes and escapes included. -/
def textLength (text : List Char) : ℕ :=
  2 + (text.map fun c =>
    if c = '"' ∨ c = '\\' ∨ c = '\n' ∨ c = '\r' ∨ c = '\t' ∨ c.toNat = 8 ∨ c.toNat = 12 then 2
    else if c.toNat < 0x20 then 6
    else c.utf8Size).sum

def integerLength (value : ℤ) : ℕ := (toString value).length

def valueLength : Option CleanupInputValue → ℕ
  | none => 4
  | some (.integer value) => integerLength value
  | some (.text value) => textLength value.toList

/-- The size of an object from its keys and the sizes of their values. -/
def objectLength (fields : List (String × ℕ)) : ℕ :=
  1 + (fields.map fun field => field.1.length + 4 + field.2).sum

def itemLength : CleanupItem → ℕ
  | .rename trackId pathBefore pathAfter =>
    objectLength [("kind", textLength "rename".toList), ("track_id", integerLength trackId),
      ("path_before", textLength pathBefore.encoded), ("path_after", textLength pathAfter.encoded)]
  | .tag trackId field old fileOld new path =>
    objectLength ([("kind", textLength "tag".toList), ("track_id", integerLength trackId),
      ("field", textLength field.asStr.toList), ("old", valueLength old),
      ("new", valueLength new), ("path", textLength path.encoded)] ++
      (fileOld.map fun value => ("file_old", valueLength value)).toList)
  | .folderRename pathBefore pathAfter =>
    objectLength [("kind", textLength "folder_rename".toList),
      ("path_before", textLength pathBefore.encoded), ("path_after", textLength pathAfter.encoded)]
  | .malformed _ jsonLength => jsonLength

/-- The size of the items of a batch as its column holds them. -/
def jsonLength (items : List CleanupItem) : ℕ :=
  1 + (items.map fun item => item.itemLength + 1).sum

end CleanupItem

structure CleanupBatchAppend where
  batchId : Option ℤ
  scopeLabel : String
  item : CleanupItem
  deriving DecidableEq

structure CleanupRevertMutation where
  batchId : Option ℤ
  itemIndex : ℕ
  deriving DecidableEq

/-! ## Recovery journals -/

inductive RecoveryDomain where
  | library
  | sfx
  | modes
  | authoring
  | cleanup
  deriving DecidableEq

inductive RecoveryState where
  | planned
  | applying
  | committed
  | rollingBack
  | rolledBack
  | failed
  deriving DecidableEq

namespace RecoveryState

def isTerminal : RecoveryState → Bool
  | .committed => true
  | .rolledBack => true
  | .failed => true
  | _ => false

def allows : RecoveryState → RecoveryState → Bool
  | .planned, .applying => true
  | .planned, .rollingBack => true
  | .planned, .failed => true
  | .applying, .committed => true
  | .applying, .rollingBack => true
  | .applying, .failed => true
  | .rollingBack, .rolledBack => true
  | .rollingBack, .failed => true
  | .failed, .rollingBack => true
  | _, _ => false

end RecoveryState

/-- What a journal plans: a mutation, alone or as an item of a cleanup batch or of its
revert, or the revert of a whole batch. -/
inductive RecoveryPlan where
  | mutation (mutation : LibraryFileMutation)
  | cleanupBatch (append : CleanupBatchAppend) (mutation : LibraryFileMutation)
  | cleanupRevert (revert : CleanupRevertMutation) (mutation : LibraryFileMutation)
  | revertBatch (batchId : ℤ)
  deriving DecidableEq

end MusicServer
