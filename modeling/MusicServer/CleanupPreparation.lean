/-
# Preparing a tag edit of a cleanup

`prepare_cleanup_tag`: an edit that a review selected is checked against the track as the index
has it now and becomes a patch of one field.  A refusal is a skip with its reason.
-/
import MusicServer.CatalogEvidence
import MusicServer.LibraryIndex

namespace MusicServer

open LibraryIndex

/-! ## Building patches -/

inductive TrackMetadataPatchError where
  | unknownField
  | invalidDate (field : TrackMetadataField)
  | invalidJson
  | duplicateField (field : TrackMetadataField)
  | wrongValueType (field : TrackMetadataField)
  | textTooLong (field : TrackMetadataField) (maximum : ℕ)
  | invalidTextCharacter (field : TrackMetadataField)
  | numberOutOfRange (field : TrackMetadataField)
  deriving DecidableEq

namespace TrackMetadataPatch

def maxTextLength : ℕ := 512
def maxGenreLength : ℕ := 128
def maxNumericValue : ℕ := 9999

def maxLength (field : TrackMetadataField) : ℕ :=
  if field = .genre then maxGenreLength else maxTextLength

def empty : TrackMetadataPatch := ⟨[], List.nodup_nil⟩

def insert (patch : TrackMetadataPatch) (field : TrackMetadataField)
    (value : TrackMetadataPatchValue) : Except TrackMetadataPatchError TrackMetadataPatch :=
  if h : field ∈ patch.changes.map Prod.fst then .error (.duplicateField field)
  else .ok ⟨(field, value) :: patch.changes, List.nodup_cons.mpr ⟨h, patch.distinct⟩⟩

def isDate : TrackMetadataField → Bool
  | .releaseDate => true
  | .originalReleaseDate => true
  | _ => false

def insertText (patch : TrackMetadataPatch) (field : TrackMetadataField) (value : Option String) :
    Except TrackMetadataPatchError TrackMetadataPatch :=
  if field.isNumeric then .error (.wrongValueType field)
  else
    match value with
    | none => patch.insert field .cleared
    | some text =>
      if '\x00' ∈ text.toList then .error (.invalidTextCharacter field)
      else if isDate field ∧ text ≠ "" ∧ metadataDateYear text = none then .error (.invalidDate field)
      else if maxLength field < text.length then .error (.textTooLong field (maxLength field))
      else patch.insert field (.text text)

def insertNumber (patch : TrackMetadataPatch) (field : TrackMetadataField) (value : Option ℕ) :
    Except TrackMetadataPatchError TrackMetadataPatch :=
  if field.isNumeric = false then .error (.wrongValueType field)
  else
    match value with
    | none => patch.insert field .cleared
    | some number =>
      if maxNumericValue < number then .error (.numberOutOfRange field)
      else patch.insert field (.number number)

end TrackMetadataPatch

namespace TrackMetadataPatchError

def display : TrackMetadataPatchError → String
  | .invalidDate field => field.asStr ++ " must be a calendar date: YYYY, YYYY-MM or YYYY-MM-DD"
  | .unknownField => "metadata patch field is unknown"
  | .invalidJson => "metadata patch JSON is invalid"
  | .duplicateField field => "metadata patch repeats " ++ field.asStr
  | .wrongValueType field => "metadata patch has the wrong type for " ++ field.asStr
  | .textTooLong field maximum =>
    field.asStr ++ " exceeds " ++ toString maximum ++ " characters"
  | .invalidTextCharacter field => field.asStr ++ " contains a null character"
  | .numberOutOfRange field =>
    field.asStr ++ " exceeds " ++ toString TrackMetadataPatch.maxNumericValue

end TrackMetadataPatchError

/-! ## Operations -/

inductive CleanupOperationKind where
  | rename
  | tag
  | folderRename
  deriving DecidableEq

structure CleanupApplyOperation where
  trackId : ℤ
  kind : CleanupOperationKind
  field : Option String
  old : Option CleanupInputValue
  new : Option CleanupInputValue
  path : String
  deriving DecidableEq

structure CleanupSkip where
  trackId : ℤ
  reason : String
  deriving DecidableEq

inductive CleanupMutationValidationError where
  | invalidBatchId
  | scopeLabelTooLong
  | invalidJournalPlan
  deriving DecidableEq

inductive CleanupPreparationError where
  | skip (skip : CleanupSkip)
  | dependency (operation : String)
  | invalidCleanupMutation (error : CleanupMutationValidationError)
  deriving DecidableEq

structure PreparedCleanupTag where
  trackId : ℤ
  mutation : LibraryFileMutation
  append : CleanupBatchAppend
  deriving DecidableEq

def maxCleanupScopeLabelChars : ℕ := 512

/-- `CleanupBatchAppend::new`; the items of this model are never empty objects. -/
def CleanupBatchAppend.check (batchId : Option ℤ) (scopeLabel : String) (item : CleanupItem) :
    Except CleanupMutationValidationError CleanupBatchAppend :=
  if batchId.any fun id => id ≤ 0 then .error .invalidBatchId
  else if maxCleanupScopeLabelChars < scopeLabel.length then .error .scopeLabelTooLong
  else .ok ⟨batchId, scopeLabel, item⟩

/-! ## Preparing a tag edit -/

def cleanupTagField (field : String) : Option TrackMetadataField :=
  if field = "title" then some .title
  else if field = "artist" then some .artist
  else if field = "album_artist" then some .albumArtist
  else if field = "album" then some .album
  else if field = "track_no" then some .trackNumber
  else if field = "disc_no" then some .discNumber
  else if field = "year" then some .year
  else if field = "release_date" then some .releaseDate
  else if field = "original_release_date" then some .originalReleaseDate
  else if field = "composer" then some .composer
  else none

def cleanupTrackValue (track : IndexedTrack) : TrackMetadataField → Option CleanupInputValue
  | .title => some (.text track.metadata.title)
  | .artist => some (.text track.metadata.artist)
  | .albumArtist => some (.text track.metadata.albumArtist)
  | .album => some (.text track.metadata.album)
  | .trackNumber => track.metadata.trackNo.map fun value => .integer value
  | .discNumber => track.metadata.discNo.map fun value => .integer value
  | .year => track.metadata.year.map fun value => .integer value
  | .releaseDate => some (.text track.metadata.releaseDate)
  | .originalReleaseDate => some (.text track.metadata.originalReleaseDate)
  | .composer => some (.text track.metadata.composer)
  | .genre => none
  | .bpm => none
  | .displayTitle => none
  | .origin => none

def cleanupValueAbsent : Option CleanupInputValue → Bool
  | none => true
  | some (.text text) => text = ""
  | some (.integer _) => false

def cleanupValuesMatch (current expected : Option CleanupInputValue) : Bool :=
  current = expected || (cleanupValueAbsent current && cleanupValueAbsent expected)

def cleanupInputText : Option CleanupInputValue → String
  | some (.text value) => value
  | some (.integer value) => toString value
  | none => ""

/-- The number that a value stands for, where it stands for one. -/
def cleanupInputNumber (field : TrackMetadataField) :
    Option CleanupInputValue → Except TrackMetadataPatchError (Option ℕ)
  | none => .ok none
  | some (.text value) =>
    if value = "" then .ok none
    else
      match parseU32 value.toList with
      | some number => .ok (some number)
      | none => .error (.wrongValueType field)
  | some (.integer value) =>
    if 0 ≤ value ∧ value < 2 ^ 32 then .ok (some value.toNat) else .error (.numberOutOfRange field)

def cleanupTagPatch (field : TrackMetadataField) (value : Option CleanupInputValue) :
    Except TrackMetadataPatchError TrackMetadataPatch :=
  if field.isNumeric then
    (cleanupInputNumber field value).bind (TrackMetadataPatch.empty.insertNumber field)
  else
    let text := cleanupInputText value
    TrackMetadataPatch.empty.insertText field (if text = "" then none else some text)

/-- What a preparation reads: the index, and one tag of a file. -/
structure CleanupReads where
  track : TrackId → Except StorageError (Option IndexedTrack)
  readFileTag : LibraryPath → TrackMetadataField →
    Except LibraryMutationFailure (Option CleanupInputValue)

def trackIdOf (value : ℤ) : Option TrackId :=
  if h : 0 < value then some ⟨value, h⟩ else none

def cleanupSkip {α : Type} (trackId : ℤ) (reason : String) : Except CleanupPreparationError α :=
  .error (.skip ⟨trackId, reason⟩)

/-- The edit of one field of a track that was found. -/
def prepareTagOf (reads : CleanupReads) (batchId : Option ℤ) (scopeLabel : String)
    (operation : CleanupApplyOperation) (trackId : TrackId) (track : IndexedTrack)
    (field : TrackMetadataField) : Except CleanupPreparationError PreparedCleanupTag :=
  if cleanupValuesMatch (cleanupTrackValue track field) operation.old = false then
    cleanupSkip operation.trackId (field.asStr ++ " changed since analysis")
  else
    match cleanupTagPatch field operation.new with
    | .error reason =>
      cleanupSkip operation.trackId ("invalid " ++ field.asStr ++ " value: " ++ reason.display)
    | .ok patch =>
      match reads.readFileTag track.path field with
      | .error failure =>
        cleanupSkip operation.trackId
          (if failure.kind = .notFound then "source file missing on disk"
          else "tag read failed: " ++ failure.code)
      | .ok fileOld =>
        let item := CleanupItem.tag operation.trackId field operation.old (some fileOld)
          operation.new track.path
        match CleanupBatchAppend.check batchId scopeLabel item with
        | .error error => .error (.invalidCleanupMutation error)
        | .ok append =>
          .ok ⟨operation.trackId, .updateTrackMetadata trackId track.path patch, append⟩

def prepareCleanupTag (rules : TextRules) (reads : CleanupReads) (batchId : Option ℤ)
    (scopeLabel : String) (operation : CleanupApplyOperation) :
    Except CleanupPreparationError PreparedCleanupTag :=
  match trackIdOf operation.trackId with
  | none => cleanupSkip operation.trackId "track not found"
  | some trackId =>
    match reads.track trackId with
    | .error _ => .error (.dependency "load a track for cleanup tagging")
    | .ok none => cleanupSkip operation.trackId "track not found"
    | .ok (some track) =>
      let fieldName := operation.field.getD ""
      match cleanupTagField fieldName with
      | none =>
        cleanupSkip operation.trackId ("unsupported tag field: " ++ rules.debug fieldName)
      | some field => prepareTagOf reads batchId scopeLabel operation trackId track field

end MusicServer
