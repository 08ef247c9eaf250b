/-
# Catalog evidence of a track

`song_evidence.rs`: the catalog claims that a stored enrichment record supports for a track,
each list bounded by its number of entries and each text by its characters; and how many bytes
the claims take as JSON.
-/
import MusicServer.CatalogEvidence
import MusicServer.JsonValue

namespace MusicServer

/-! ## Documents -/

namespace JsonObject

def insert (key : String) (value : Json) : JsonObject → JsonObject
  | [] => [(key, value)]
  | entry :: rest =>
    if entry.1 = key then (key, value) :: rest
    else if key < entry.1 then (key, value) :: entry :: rest
    else entry :: insert key value rest

def ofFields (fields : List (String × Json)) : JsonObject :=
  fields.foldl (fun object field => insert field.1 field.2 object) []

end JsonObject

namespace Json

def get (value : Json) (key : String) : Option Json :=
  value.asObject.bind (JsonObject.get · key)

/-- `value[key]`, which is null where there is nothing. -/
def index (value : Json) (key : String) : Json := (value.get key).getD .null

def isNull : Json → Bool
  | .null => true
  | _ => false

/-- `as_i64`, of an integer that an `i64` holds. -/
def asInteger : Json → Option ℤ
  | .number (.integer value) => some value
  | _ => none

def asNatural : Json → Option ℕ
  | .number (.integer value) => if 0 ≤ value then some value.toNat else none
  | _ => none

def naturalJson (value : ℕ) : Json := .number (.integer value)

def strings (values : List String) : Json := .array (values.map .string)

open CleanupItem in
mutual

/-- The bytes of `to_string`, with those of a double given. -/
def jsonLength (floatLength : BitVec 64 → ℕ) : Json → ℕ
  | .null => 4
  | .bool value => if value then 4 else 5
  | .number (.integer value) => integerLength value
  | .number (.float bits) => floatLength bits
  | .string value => textLength value.toList
  | .array items => if items.isEmpty then 2 else 1 + itemsLength floatLength items
  | .object fields => if fields.isEmpty then 2 else 1 + fieldsLength floatLength fields

/-- The entries of an array, each with the comma or the bracket behind it. -/
def itemsLength (floatLength : BitVec 64 → ℕ) : List Json → ℕ
  | [] => 0
  | item :: rest => jsonLength floatLength item + 1 + itemsLength floatLength rest

/-- The fields of an object, each with its colon and the comma or the brace behind it. -/
def fieldsLength (floatLength : BitVec 64 → ℕ) : List (String × Json) → ℕ
  | [] => 0
  | (key, value) :: rest =>
    textLength key.toList + 1 + jsonLength floatLength value + 1 + fieldsLength floatLength rest

end

end Json

namespace Tagging

open LibraryIndex Enrichment CleanupItem

/-! ## Claims -/

structure CleanupEnrichmentRecord where
  trackId : TrackId
  evidenceRevision : ℤ
  sourceSignature : String
  result : JsonObject

def catalogEvidencePolicyContract : String := "catalog-evidence-policy/v13"

def validText (value : String) : Bool :=
  Enrichment.trim value ≠ "" && value.length ≤ 128 && !value.toList.any isControl

def boundedStrings (value : Json) (limit : ℕ) : List String :=
  (((value.asArray.getD []).filterMap Json.asString).filter validText).take limit

def catalogClaim (id source scope kind recordingId : String) (retrievedAt value : Json) : Json :=
  .object [("id", .string id), ("kind", .string kind), ("recording_id", .string recordingId),
    ("retrieved_at", retrievedAt), ("scope", .string scope), ("source", .string source),
    ("value", value)]

/-- The valid values of one list of observations. -/
def observedValues (result : Json) (field : String) : List String :=
  boundedStrings ((result.index "recording_observations").index field) 12

def observationClaim (result : Json) (recordingId : String) (retrievedAt : ℕ)
    (field scope : String) : List Json :=
  let values := observedValues result field
  if values.isEmpty then []
  else
    [catalogClaim ("catalog.musicbrainz." ++ field) "musicbrainz" scope field recordingId
      (.naturalJson retrievedAt) (.strings values)]

def firstReleaseDate (result : Json) : Option String :=
  ((result.index "recording_observations").index "first_release_date").asString.filter fun date =>
    (metadataDateYear date).isSome

def releaseDateClaim (result : Json) (recordingId : String) (retrievedAt : ℕ) : List Json :=
  match firstReleaseDate result with
  | none => []
  | some date =>
    [catalogClaim "catalog.musicbrainz.first_release_date" "musicbrainz" "recording"
      "first_release_date" recordingId (.naturalJson retrievedAt) (.string date)]

/-- The labels of the community, of the first twelve entries those with a valid name. -/
def communityTags (community : Json) : List (String × ℕ) :=
  ((((community.index "tags").asArray).getD []).take 12).filterMap fun tag =>
    match (tag.index "name").asString.filter validText, (tag.index "count").asNatural with
    | some name, some count => some (name, count)
    | _, _ => none

def communityTag (tag : String × ℕ) : Json :=
  .object [("count", .naturalJson tag.2), ("name", .string tag.1)]

/-- The community's observations are of this recording and of this revision. -/
def communityCurrent (community : Json) (recordingId : String) (revision : ℤ) : Bool :=
  (community.index "status").asString = some "available" &&
    (community.index "recording_mbid").asString = some recordingId &&
    (community.index "evidence_revision").asInteger = some revision &&
    (community.index "policy_contract").asString = some catalogEvidencePolicyContract

def communityClaim (result : Json) (recordingId : String) (revision : ℤ) (lastfmEnabled : Bool) :
    List Json :=
  let community := result.index "community_observations"
  if lastfmEnabled && communityCurrent community recordingId revision then
    let tags := communityTags community
    if tags.isEmpty then []
    else
      [catalogClaim "catalog.lastfm.community_tags" "lastfm" "recording" "weak_community_labels"
        recordingId (community.index "retrieved_at") (.array (tags.map communityTag))]
  else []

def catalogClaims (result : Json) (recordingId : String) (retrievedAt : ℕ) (revision : ℤ)
    (lastfmEnabled : Bool) : List Json :=
  observationClaim result recordingId retrievedAt "genres" "recording" ++
    observationClaim result recordingId retrievedAt "composers" "recording_credit" ++
    releaseDateClaim result recordingId retrievedAt ++
    communityClaim result recordingId revision lastfmEnabled

def catalogDocument (revision : ℤ) (claims : List Json) : Json :=
  .object [("claims", .array claims), ("evidence_revision", .number (.integer revision)),
    ("schema_version", .string "song-catalog-evidence/v1")]

/-- The recording a record identifies, where it may be shown for the track. -/
def identifiedRecording (sourceSignature : IndexedTrack → Option String) (track : IndexedTrack)
    (record : CleanupEnrichmentRecord) (musicbrainzEnabled : Bool) : Option (String × ℕ) :=
  let result := Json.object record.result
  let status := (result.index "status").asString
  if !musicbrainzEnabled || record.trackId ≠ track.id ||
      sourceSignature track ≠ some record.sourceSignature ||
      !(status = some "identified" || status = some "fingerprinted") then none
  else
    match ((result.index "identity").index "recording_mbid").asString,
      (result.index "retrieved_at").asNatural with
    | some recordingId, some retrievedAt =>
      if recordingId.utf8ByteSize > 64 || recordingId = "" then none
      else some (recordingId, retrievedAt)
    | _, _ => none

def songCatalogEvidence (sourceSignature : IndexedTrack → Option String) (track : IndexedTrack)
    (record : CleanupEnrichmentRecord) (musicbrainzEnabled lastfmEnabled : Bool) : Option Json :=
  match identifiedRecording sourceSignature track record musicbrainzEnabled with
  | none => none
  | some (recordingId, retrievedAt) =>
    let claims := catalogClaims (.object record.result) recordingId retrievedAt
      record.evidenceRevision lastfmEnabled
    if claims.isEmpty then none else some (catalogDocument record.evidenceRevision claims)

def withoutRecordingId : Json → Json
  | .object fields => .object (fields.filter fun field => field.1 ≠ "recording_id")
  | other => other

def projectField (field : String × Json) : String × Json :=
  match field.2 with
  | .array claims =>
    if field.1 = "claims" then (field.1, .array (claims.map withoutRecordingId)) else field
  | _ => field

def withoutRecordingIds : Json → Json
  | .object fields => .object (fields.map projectField)
  | other => other

/-! ## Bytes -/

/-- The bytes of an array with these entries. -/
def arrayLength (entries : List ℕ) : ℕ :=
  if entries.isEmpty then 2 else 1 + (entries.map (· + 1)).sum

/-- A claim takes the bytes of its texts, of the time it was retrieved and of its value. -/
def claimLength (id source scope kind : String) (retrievedAt value : ℕ) : ℕ :=
  objectLength [("id", textLength id.toList), ("kind", textLength kind.toList),
    ("retrieved_at", retrievedAt), ("scope", textLength scope.toList),
    ("source", textLength source.toList), ("value", value)]

def valuesLength (values : List String) : ℕ :=
  arrayLength (values.map fun value => textLength value.toList)

def tagsLength (tags : List (String × ℕ)) : ℕ :=
  arrayLength (tags.map fun tag =>
    objectLength [("count", integerLength tag.2), ("name", textLength tag.1.toList)])

def observationLengths (result : Json) (retrievedAt : ℕ) (field scope : String) : List ℕ :=
  let values := observedValues result field
  if values.isEmpty then []
  else
    [claimLength ("catalog.musicbrainz." ++ field) "musicbrainz" scope field
      (integerLength retrievedAt) (valuesLength values)]

def releaseDateLengths (result : Json) (retrievedAt : ℕ) : List ℕ :=
  match firstReleaseDate result with
  | none => []
  | some date =>
    [claimLength "catalog.musicbrainz.first_release_date" "musicbrainz" "recording"
      "first_release_date" (integerLength retrievedAt) (textLength date.toList)]

variable (floatLength : BitVec 64 → ℕ)

def communityLengths (result : Json) (recordingId : String) (revision : ℤ)
    (lastfmEnabled : Bool) : List ℕ :=
  let community := result.index "community_observations"
  if lastfmEnabled && communityCurrent community recordingId revision then
    let tags := communityTags community
    if tags.isEmpty then []
    else
      [claimLength "catalog.lastfm.community_tags" "lastfm" "recording" "weak_community_labels"
        ((community.index "retrieved_at").jsonLength floatLength) (tagsLength tags)]
  else []

def claimLengths (result : Json) (recordingId : String) (retrievedAt : ℕ) (revision : ℤ)
    (lastfmEnabled : Bool) : List ℕ :=
  observationLengths result retrievedAt "genres" "recording" ++
    observationLengths result retrievedAt "composers" "recording_credit" ++
    releaseDateLengths result retrievedAt ++
    communityLengths floatLength result recordingId revision lastfmEnabled

/-- The bytes a model is shown of what a record supports for a track; none where it supports
nothing. -/
def catalogLength (sourceSignature : IndexedTrack → Option String) (track : IndexedTrack)
    (record : CleanupEnrichmentRecord) (musicbrainzEnabled lastfmEnabled : Bool) : ℕ :=
  match identifiedRecording sourceSignature track record musicbrainzEnabled with
  | none => 0
  | some (recordingId, retrievedAt) =>
    let claims := claimLengths floatLength (.object record.result) recordingId retrievedAt
      record.evidenceRevision lastfmEnabled
    if claims.isEmpty then 0
    else
      objectLength [("claims", arrayLength claims),
        ("evidence_revision", integerLength record.evidenceRevision),
        ("schema_version", textLength "song-catalog-evidence/v1".toList)]

variable {floatLength}

theorem itemsLength_eq (items : List Json) :
    Json.itemsLength floatLength items =
      ((items.map (Json.jsonLength floatLength)).map (· + 1)).sum := by
  induction items with
  | nil => rfl
  | cons item rest ih =>
    rw [Json.itemsLength, ih]
    rfl

theorem jsonLength_array (items : List Json) :
    (Json.array items).jsonLength floatLength =
      arrayLength (items.map (Json.jsonLength floatLength)) := by
  rw [Json.jsonLength, itemsLength_eq, arrayLength, List.isEmpty_map]

theorem jsonLength_claim (id source scope kind recordingId : String) (retrievedAt value : Json) :
    (withoutRecordingId (catalogClaim id source scope kind recordingId retrievedAt
      value)).jsonLength floatLength =
      claimLength id source scope kind (retrievedAt.jsonLength floatLength)
        (value.jsonLength floatLength) := by
  have hfields : withoutRecordingId (catalogClaim id source scope kind recordingId retrievedAt
      value) =
      .object [("id", .string id), ("kind", .string kind), ("retrieved_at", retrievedAt),
        ("scope", .string scope), ("source", .string source), ("value", value)] := by
    simp [withoutRecordingId, catalogClaim]
  rw [hfields]
  unfold claimLength objectLength
  simp only [Json.jsonLength, Json.fieldsLength, List.isEmpty_cons, Bool.false_eq_true, if_false,
    List.map_cons, List.map_nil, List.sum_cons, List.sum_nil]
  have hid : textLength "id".toList = 4 := by decide
  have hkind : textLength "kind".toList = 6 := by decide
  have hretrieved : textLength "retrieved_at".toList = 14 := by decide
  have hscope : textLength "scope".toList = 7 := by decide
  have hsource : textLength "source".toList = 8 := by decide
  have hvalue : textLength "value".toList = 7 := by decide
  have hlengths : "id".length = 2 ∧ "kind".length = 4 ∧ "retrieved_at".length = 12 ∧
      "scope".length = 5 ∧ "source".length = 6 ∧ "value".length = 5 := by decide
  obtain ⟨h1, h2, h3, h4, h5, h6⟩ := hlengths
  rw [hid, hkind, hretrieved, hscope, hsource, hvalue, h1, h2, h3, h4, h5, h6]
  omega

theorem jsonLength_strings (values : List String) :
    (Json.strings values).jsonLength floatLength = valuesLength values := by
  unfold Json.strings valuesLength
  rw [jsonLength_array, List.map_map]
  rfl

theorem jsonLength_communityTag (tag : String × ℕ) :
    (communityTag tag).jsonLength floatLength =
      objectLength [("count", integerLength tag.2), ("name", textLength tag.1.toList)] := by
  unfold communityTag objectLength
  simp only [Json.jsonLength, Json.fieldsLength, Json.naturalJson, List.isEmpty_cons,
    Bool.false_eq_true, if_false, List.map_cons, List.map_nil, List.sum_cons, List.sum_nil]
  have hcount : textLength "count".toList = 7 ∧ textLength "name".toList = 6 ∧
      "count".length = 5 ∧ "name".length = 4 := by decide
  obtain ⟨h1, h2, h3, h4⟩ := hcount
  rw [h1, h2, h3, h4]
  omega

section Claims

variable (result : Json) (recordingId : String) (retrievedAt : ℕ)

def shownLengths (floatLength : BitVec 64 → ℕ) (claims : List Json) : List ℕ :=
  (claims.map withoutRecordingId).map (Json.jsonLength floatLength)

theorem shownLengths_append (first second : List Json) :
    shownLengths floatLength (first ++ second) =
      shownLengths floatLength first ++ shownLengths floatLength second := by
  unfold shownLengths
  rw [List.map_append, List.map_append]

theorem shownLengths_observation (field scope : String) :
    shownLengths floatLength (observationClaim result recordingId retrievedAt field scope) =
      observationLengths result retrievedAt field scope := by
  unfold observationClaim observationLengths shownLengths
  dsimp only
  split
  · rfl
  · rw [List.map_singleton, List.map_singleton, jsonLength_claim, jsonLength_strings]
    rfl

theorem shownLengths_releaseDate :
    shownLengths floatLength (releaseDateClaim result recordingId retrievedAt) =
      releaseDateLengths result retrievedAt := by
  unfold releaseDateClaim releaseDateLengths shownLengths
  cases firstReleaseDate result with
  | none => rfl
  | some date =>
    dsimp only
    rw [List.map_singleton, List.map_singleton, jsonLength_claim]
    rfl

theorem shownLengths_community (revision : ℤ) (lastfmEnabled : Bool) :
    shownLengths floatLength (communityClaim result recordingId revision lastfmEnabled) =
      communityLengths floatLength result recordingId revision lastfmEnabled := by
  unfold communityClaim communityLengths shownLengths tagsLength
  dsimp only
  split
  · split
    · rfl
    · have htags : ((communityTags (result.index "community_observations")).map
          communityTag).map (Json.jsonLength floatLength) =
          (communityTags (result.index "community_observations")).map fun tag =>
            objectLength [("count", integerLength tag.2), ("name", textLength tag.1.toList)] := by
        rw [List.map_map]
        refine List.map_congr_left fun tag _ => jsonLength_communityTag tag
      rw [List.map_singleton, List.map_singleton, jsonLength_claim, jsonLength_array, htags]
  · rfl

theorem shownLengths_claims (revision : ℤ) (lastfmEnabled : Bool) :
    shownLengths floatLength
      (catalogClaims result recordingId retrievedAt revision lastfmEnabled) =
      claimLengths floatLength result recordingId retrievedAt revision lastfmEnabled := by
  unfold catalogClaims claimLengths
  rw [shownLengths_append, shownLengths_append, shownLengths_append, shownLengths_observation,
    shownLengths_observation, shownLengths_releaseDate, shownLengths_community]

end Claims

theorem jsonLength_document (revision : ℤ) (claims : List Json) :
    (withoutRecordingIds (catalogDocument revision claims)).jsonLength floatLength =
      objectLength [("claims", arrayLength (shownLengths floatLength claims)),
        ("evidence_revision", integerLength revision),
        ("schema_version", textLength "song-catalog-evidence/v1".toList)] := by
  have hfields : withoutRecordingIds (catalogDocument revision claims) =
      .object [("claims", .array (claims.map withoutRecordingId)),
        ("evidence_revision", .number (.integer revision)),
        ("schema_version", .string "song-catalog-evidence/v1")] := by
    simp [withoutRecordingIds, catalogDocument, projectField]
  rw [hfields]
  unfold objectLength
  simp only [Json.jsonLength, Json.fieldsLength, List.isEmpty_cons, Bool.false_eq_true, if_false,
    List.map_cons, List.map_nil, List.sum_cons, List.sum_nil]
  have harray := @jsonLength_array floatLength (claims.map withoutRecordingId)
  unfold Json.jsonLength at harray
  rw [harray]
  have hkeys : textLength "claims".toList = 8 ∧ textLength "evidence_revision".toList = 19 ∧
      textLength "schema_version".toList = 16 ∧ "claims".length = 6 ∧
      "evidence_revision".length = 17 ∧ "schema_version".length = 14 := by decide
  obtain ⟨h1, h2, h3, h4, h5, h6⟩ := hkeys
  rw [h1, h2, h3, h4, h5, h6]
  unfold shownLengths
  omega

theorem jsonLength_songCatalogEvidence {sourceSignature : IndexedTrack → Option String}
    {track : IndexedTrack} {record : CleanupEnrichmentRecord} {musicbrainzEnabled lastfmEnabled : Bool}
    {catalog : Json}
    (h : songCatalogEvidence sourceSignature track record musicbrainzEnabled lastfmEnabled =
      some catalog) :
    (withoutRecordingIds catalog).jsonLength floatLength =
      catalogLength floatLength sourceSignature track record musicbrainzEnabled lastfmEnabled := by
  unfold songCatalogEvidence at h
  unfold catalogLength
  cases hrecording : identifiedRecording sourceSignature track record musicbrainzEnabled with
  | none =>
    rw [hrecording] at h
    cases h
  | some recording =>
    obtain ⟨recordingId, retrievedAt⟩ := recording
    rw [hrecording] at h
    dsimp only at h ⊢
    split at h
    · cases h
    · next hclaims =>
      cases h
      have hlengths := @shownLengths_claims floatLength (.object record.result)
        recordingId retrievedAt record.evidenceRevision lastfmEnabled
      have hempty : ¬ (claimLengths floatLength (.object record.result) recordingId retrievedAt
          record.evidenceRevision lastfmEnabled).isEmpty := by
        rw [← hlengths]
        unfold shownLengths
        rwa [List.isEmpty_map, List.isEmpty_map]
      rw [if_neg hempty, jsonLength_document, hlengths]

end Tagging

end MusicServer
