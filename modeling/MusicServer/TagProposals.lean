/-
# Proposals from the catalog

The tag edits that an enrichment result offers: what an identified recording and its release
say, the choice of an edition, a source that was imported for review, and the candidate that a
model chose.
-/
import MusicServer.CleanupPreparation
import MusicServer.IdentityResolution

namespace MusicServer

namespace Enrichment

open LibraryIndex

/-! ## Operations -/

/-- An operation of a result, with its old and new value as they are submitted. -/
structure TagOperation where
  opId : String
  trackId : TrackId
  field : String
  old : Option CleanupInputValue
  new : Option CleanupInputValue
  rules : List String
  confidence : String
  verified : Bool
  evidence : List (String × Option String)
  deriving DecidableEq

/-- What the details of a release say about the track. -/
structure ReleaseDetail where
  id : String
  title : String
  artist : String
  date : Option String
  originalReleaseDate : Option String
  releaseGroupId : Option String
  trackNo : Option ℕ
  discNo : Option ℕ
  deriving DecidableEq

structure CanonicalMetadata where
  title : String
  artist : String
  albumArtist : String
  album : String
  trackNo : Option ℕ
  discNo : Option ℕ
  releaseDate : String
  originalReleaseDate : String
  composer : String
  genre : String
  deriving DecidableEq

/-! ## What the catalog says -/

/-- The genres in one text of at most 128 bytes; one that does not fit is left out. -/
def joinGenres (genres : List String) : String :=
  genres.foldl
    (fun joined genre =>
      let separator := if joined = "" then "" else "; "
      if joined.utf8ByteSize + separator.utf8ByteSize + genre.utf8ByteSize ≤ 128 then
        joined ++ separator ++ genre
      else joined) ""

def joinComposers (composers : List String) : String := "; ".intercalate composers

/-- A date in one of the forms that are kept, or nothing. -/
def keptDate (date : Option String) : String :=
  (date.filter fun date => (metadataDateYear date).isSome).getD ""

def canonicalMetadata (recording : Recording) (release : Option ReleaseDetail) :
    CanonicalMetadata where
  title := recording.title
  artist := recording.artist
  albumArtist := (release.map (·.artist)).getD ""
  album := (release.map (·.title)).getD ""
  trackNo := release.bind (·.trackNo)
  discNo := release.bind (·.discNo)
  releaseDate := keptDate (release.bind (·.date))
  originalReleaseDate :=
    keptDate ((release.filter fun release => release.releaseGroupId.isSome).bind
      (·.originalReleaseDate))
  composer := joinComposers recording.composers
  genre := joinGenres recording.genres

variable (rules : TextRules) (track : IndexedTrack)

def typographic (c : Char) : Char :=
  if c.toNat = 0x2018 ∨ c.toNat = 0x2019 then '\''
  else if c.toNat = 0x2010 ∨ c.toNat = 0x2011 then '-'
  else c

def titleSpelling (value : String) : List Char :=
  (rules.lowercase value).toList.map typographic

def catalogOperation (field : String) (old new : Option CleanupInputValue) (recordingId : String) :
    TagOperation where
  opId := "catalog:" ++ toString track.id.get ++ ":" ++ field ++ ":" ++ recordingId
  trackId := track.id
  field := field
  old := old
  new := new
  rules := ["catalog_identity"]
  confidence := "low"
  verified := true
  evidence := []

/-- The operation for a text, unless there is nothing to say or only the spelling differs. -/
def pushTextOperation (field old new recordingId : String) : List TagOperation :=
  if trim new = "" ∨ old = new then []
  else if field = "title" ∧ titleSpelling rules old = titleSpelling rules new then []
  else [catalogOperation track field (some (.text old)) (some (.text new)) recordingId]

def numberValue (value : Option ℕ) : Option CleanupInputValue :=
  value.map fun value => .integer value

def pushNumberOperation (field : String) (old new : Option ℕ) (recordingId : String) :
    List TagOperation :=
  if new = none ∨ old = new then []
  else [catalogOperation track field (numberValue old) (numberValue new) recordingId]

/-- A less precise date does not replace the one it agrees with. -/
def pushDateOperation (field old new recordingId : String) : List TagOperation :=
  if (metadataDateYear old).isSome ∧ new.utf8ByteSize < old.utf8ByteSize ∧
      new.toList <+: old.toList then []
  else pushTextOperation rules track field old new recordingId

def metadataOperations (metadata : CanonicalMetadata) (recordingId : String) :
    List TagOperation :=
  let text (field old new : String) := pushTextOperation rules track field old new recordingId
  let number (field : String) (old new : Option ℕ) :=
    pushNumberOperation track field old new recordingId
  let date (field old new : String) := pushDateOperation rules track field old new recordingId
  text "genre" track.metadata.genre metadata.genre ++
  text "title" track.metadata.title metadata.title ++
  text "artist" track.metadata.artist metadata.artist ++
  text "album_artist" track.metadata.albumArtist metadata.albumArtist ++
  text "album" track.metadata.album metadata.album ++
  number "track_no" track.metadata.trackNo metadata.trackNo ++
  number "disc_no" track.metadata.discNo metadata.discNo ++
  date "release_date" track.metadata.releaseDate metadata.releaseDate ++
  date "original_release_date" track.metadata.originalReleaseDate metadata.originalReleaseDate ++
  (if trim track.metadata.composer = "" then
    text "composer" track.metadata.composer metadata.composer
  else [])

/-- The entity of the catalog that a field was taken from. -/
def catalogEntity (field : String) : String :=
  if field = "title" ∨ field = "artist" ∨ field = "genre" then "recording"
  else if field = "composer" then "work"
  else if field = "original_release_date" then "release_group"
  else "release"

/-- The operations of an identified track.  The credits of the artist and of the album artist
stay as they are where the catalog only spells them in another way. -/
def identifiedOperations (recordingId : String) (method : IdentityMethod) (recording : Recording)
    (selected : Option ReleaseDetail) (keepArtist keepAlbumArtist : Bool) : List TagOperation :=
  let operations := metadataOperations rules track (canonicalMetadata recording selected) recordingId
  let kept := operations.filter fun op =>
    !(keepArtist && op.field = "artist" || keepAlbumArtist && op.field = "album_artist")
  kept.map fun op => { op with
    evidence := [("entity", some (catalogEntity op.field)), ("method", some method.asStr),
      ("recording_id", some recordingId), ("release_group_id", selected.bind (·.releaseGroupId)),
      ("release_id", selected.map (·.id)), ("source", some "musicbrainz")] }

/-! ## The choice of an edition -/

def isEditionField (field : String) : Bool :=
  ["album", "album_artist", "track_no", "disc_no", "release_date",
    "original_release_date"].contains field

/-- The operations of one edition; `detail` has the position of the track's slot on it. -/
def editionOperations (recordingId : String) (recording : Recording) (detail : ReleaseDetail)
    (slotId : Option String) (keepAlbumArtist : Bool) : List TagOperation :=
  let operations :=
    metadataOperations rules track (canonicalMetadata recording (some detail)) recordingId
  let kept := operations.filter fun op =>
    !(keepAlbumArtist && op.field = "album_artist") && isEditionField op.field
  kept.map fun op => { op with
    opId := "edition:" ++ toString track.id.get ++ ":" ++ detail.id ++ ":" ++ op.field
    evidence := [("date", detail.date),
      ("entity", some (if op.field = "original_release_date" then "release_group" else "release")),
      ("id", some detail.id), ("release_group_id", detail.releaseGroupId),
      ("release_track_id", slotId), ("source", some "musicbrainz")] }

/-! ## Imported sources -/

structure ImportedTrackEvidence where
  trackId : ℤ
  fields : List (EvidenceField × String)
  source : Option String
  propose : Bool
  deriving DecidableEq

namespace ImportedTrackEvidence

def isDate : EvidenceField → Bool
  | .date => true
  | .originalDate => true
  | _ => false

def validField (imported : ImportedTrackEvidence) (field : EvidenceField × String) : Bool :=
  (normalizedValue rules field.1 field.2).isSome &&
    (!imported.propose || !isDate field.1 || (metadataDateYear (trim field.2)).isSome)

def valid (imported : ImportedTrackEvidence) : Bool :=
  0 < imported.trackId &&
    (imported.source.all fun source =>
      trim source ≠ "" && source.utf8ByteSize ≤ 512 && !source.toList.any isControl) &&
    (!imported.propose || imported.source.isSome) &&
    !imported.fields.isEmpty && imported.fields.length ≤ 17 &&
    imported.fields.all (imported.validField rules)

end ImportedTrackEvidence

/-- The field of the track that an observation proposes, with its old and its new value. -/
def importedProposal (field : EvidenceField) (value : String) :
    Option (String × Option CleanupInputValue × Option CleanupInputValue) :=
  let text (name old : String) := some (name, some (.text old), some (.text value))
  let metadata := track.metadata
  match field with
  | .title => text "title" metadata.title
  | .artist => text "artist" metadata.artist
  | .albumArtist => text "album_artist" metadata.albumArtist
  | .album => text "album" metadata.album
  | .genre => if value.utf8ByteSize ≤ 128 then text "genre" metadata.genre else none
  | .trackNo =>
    some ("track_no", numberValue metadata.trackNo, numberValue (parseU32 value.toList))
  | .discNo => some ("disc_no", numberValue metadata.discNo, numberValue (parseU32 value.toList))
  | .date => text "release_date" metadata.releaseDate
  | .originalDate => text "original_release_date" metadata.originalReleaseDate
  | .composer => text "composer" metadata.composer
  | _ => none

/-- The operation of one imported field; `digest` is the digest of the import. -/
def importedOperation (digest : String) (imported : ImportedTrackEvidence)
    (field : EvidenceField × String) : Option TagOperation := do
  let value ← normalizedValue rules field.1 field.2
  let (name, old, new) ← importedProposal track field.1 value
  if old = new ∨ new = none then none
  else
    some {
      opId := "import:" ++ toString track.id.get ++ ":" ++ name ++ ":" ++ (digest.take 16).toString
      trackId := track.id
      field := name
      old := old
      new := new
      rules := ["imported_metadata"]
      confidence := "low"
      verified := false
      evidence := [("entity", some "operator_source"), ("field", some name),
        ("reference", some (trim (imported.source.getD ""))), ("source", some "imported_metadata")] }

/-- The operations that `append_review_import` adds. -/
def importedOperations (digest : String) (imported : ImportedTrackEvidence) : List TagOperation :=
  if imported.propose && imported.valid rules && imported.trackId = track.id.get then
    imported.fields.filterMap (importedOperation rules track digest imported)
  else []

/-! ## The candidate that a model chose -/

/-- The candidates that can be put to a model: not too many, each once, with short names. -/
def reviewableCandidates (candidates : List Candidate) : Bool :=
  !candidates.isEmpty && candidates.length ≤ 25 &&
    (candidates.all fun candidate =>
      candidate.title.utf8ByteSize ≤ 512 && candidate.artist.utf8ByteSize ≤ 512) &&
    (candidates.map (·.id)).Nodup

/-- The candidate of a name that the model was given. -/
def reviewedCandidate (candidates : List Candidate) (id : String) : Option Candidate :=
  (candidates.zipIdx.find? fun entry => id = "candidate-" ++ toString entry.2).map Prod.fst

def modelOperation (jobId : String) (candidate : Candidate) (field old new : String) :
    List TagOperation :=
  if old ≠ new ∧ new ≠ "" then
    [{opId := "model-catalog:" ++ toString track.id.get ++ ":" ++ field ++ ":" ++ jobId
      trackId := track.id
      field := field
      old := some (.text old)
      new := some (.text new)
      rules := ["model_catalog_choice"]
      confidence := "low"
      verified := false
      evidence := [("entity", some "recording"), ("id", some candidate.id),
        ("method", some "model_adjudication"), ("source", some "musicbrainz")] }]
  else []

/-- The operations of the model's choice among candidates that were put to it. -/
def modelOperations (jobId : String) (candidates : List Candidate) (chosen : String) :
    List TagOperation :=
  if reviewableCandidates candidates then
    match reviewedCandidate candidates chosen with
    | none => []
    | some candidate =>
      modelOperation track jobId candidate "title" track.metadata.title candidate.title ++
        modelOperation track jobId candidate "artist" track.metadata.artist candidate.artist
  else []

end Enrichment

end MusicServer
