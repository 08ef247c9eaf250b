/-
# The input of the model tagger

`model_tagger.rs`: what a model is shown of a track, how a batch checks it again and numbers
its tracks, and how the tracks of a job are planned into batches.  Doubles are read, rounded
and printed by parameters, as are the predictions of the audio models and the questions of a
native task.
-/
import MusicServer.SongEvidence

namespace MusicServer.Tagging

open LibraryIndex

/-! ## Projections of a context -/

/-- What is done with doubles: a duration in seconds, a number rounded to hundredths, and the
bytes it prints. -/
structure Doubles where
  seconds : ℕ → Json
  hundredths : BitVec 64 → Json
  length : BitVec 64 → ℕ

structure CurrentTrackContext where
  analyzerId : String
  completeness : String
  summary : JsonObject
  sections : List JsonObject

variable (doubles : Doubles)

/-- The fields of these names that are there. -/
def fields (value : Json) (keys : List String) : Json :=
  .object (JsonObject.ofFields (keys.filterMap fun key => (value.get key).map fun field => (key, field)))

mutual

def roundNumbers : Json → Json
  | .number (.float bits) => doubles.hundredths bits
  | .array items => .array (roundItems items)
  | .object fields => .object (roundFields fields)
  | other => other

def roundItems : List Json → List Json
  | [] => []
  | item :: rest => roundNumbers item :: roundItems rest

def roundFields : List (String × Json) → List (String × Json)
  | [] => []
  | (key, value) :: rest => (key, roundNumbers value) :: roundFields rest

end

def axes : List String :=
  ["loudness", "relative_level", "rhythmic_drive", "brightness", "density", "spectral_flux"]

def compactTrajectories (context : Json) : Json :=
  .object (JsonObject.ofFields (axes.filterMap fun axis =>
    ((context.index "trajectories").get axis).map fun value =>
      (axis, fields value ["typical", "low", "high", "start", "end", "peak_at_fraction", "shape"])))

def compactSections (context : Json) : List Json :=
  ((((context.index "sections").asArray).getD []).take 10).map fun part =>
    fields part ["id", "start_fraction", "end_fraction", "relative_level", "rhythmic_drive",
      "brightness", "density", "changes_from_previous", "repeats_section_ids"]

def withheldTempo : Json :=
  .object [("reason", .string ("Coarse envelope tempo is withheld from mood inference; " ++
      "half/double-time ambiguity is unresolved.")), ("status", .string "unverified")]

def compactContextEvidence (context : Json) : Json :=
  roundNumbers doubles (.object [
    ("analyzer_id", context.index "analyzer_id"),
    ("completeness", context.index "completeness"),
    ("coverage", fields (context.index "coverage") ["decoded_seconds", "scope"]),
    ("measurement_reliability", fields (context.index "measurement_reliability")
      ["loudness", "relative_level", "rhythmic_drive", "brightness", "density", "spectral_flux",
        "tempo", "structure", "voice"]),
    ("sections", .array (compactSections context)),
    ("structure", fields (context.index "structure")
      ["section_count", "major_change_count", "repeated_section_count", "development"]),
    ("tempo", withheldTempo),
    ("trajectories", compactTrajectories context),
    ("voice", fields (context.index "voice")
      ["status", "voice_score", "vocal_coverage", "analyzed_windows"])])

def compactContextProjection (context : CurrentTrackContext) : Json :=
  let field (key : String) := (key, (context.summary.get key).getD .null)
  compactContextEvidence doubles (.object [("analyzer_id", .string context.analyzerId),
    ("completeness", .string context.completeness), field "coverage",
    field "measurement_reliability", ("sections", .array (context.sections.map .object)),
    field "structure", field "tempo", field "trajectories", field "voice"])

/-! ## Evidence ids -/

def stripPrefix (text start : String) : Option String :=
  if start.toList <+: text.toList then some (.ofList (text.toList.drop start.toList.length))
  else none

def insertId (id : String) : List String → List String
  | [] => [id]
  | other :: rest =>
    if id = other then other :: rest
    else if id < other then id :: other :: rest
    else other :: insertId id rest

/-- A text says something, and so does any other value but null. -/
def stated (value : Json) : Bool :=
  match value with
  | .null => false
  | .string text => Enrichment.trim text ≠ ""
  | _ => true

/-- An object has a field, and any other value but null counts. -/
def supplied (value : Json) : Bool :=
  match value with
  | .null => false
  | .object fields => !fields.isEmpty
  | _ => true

def metadataKeys : List String := ["artist", "album", "origin", "genre", "length_s", "bpm"]

def metadataIds (input : Json) : List String :=
  (metadataKeys.filter fun key => (input.get key).any stated).map ("metadata." ++ ·)

def contextKeys : List String := ["coverage", "structure", "voice", "measurement_reliability"]

def contextIds (input : Json) : List String :=
  match input.get "context_evidence" with
  | some (.object context) =>
    let value := Json.object context
    (contextKeys.filter fun key => (value.get key).any supplied).map ("audio." ++ ·) ++
      ((((value.get "trajectories").bind Json.asObject).getD []).map fun axis =>
        "audio.trajectories." ++ axis.1) ++
      ((((value.get "sections").bind Json.asArray).getD []).filterMap fun part =>
        ((part.get "id").bind Json.asString).map ("audio.sections." ++ ·))
  | _ => []

def catalogIds (input : Json) : List String :=
  ((((input.get "catalog_evidence").bind fun catalog => catalog.get "claims").bind
    Json.asArray).getD []).filterMap fun claim =>
      ((claim.get "id").bind Json.asString).filter fun id =>
        (stripPrefix id "catalog.").isSome && id.utf8ByteSize ≤ 128

-- the kinds of the predictions of the audio models, where they are well formed
variable (predictionKinds : Json → Option (List String))

def predictionIds (input : Json) : List String :=
  (((input.get "audio_predictions").bind predictionKinds).getD []).map ("prediction." ++ ·)

def suppliedIds (input : Json) : List String :=
  predictionIds predictionKinds input ++ metadataIds input ++ contextIds input ++ catalogIds input

def evidenceIds (input : Json) : List String :=
  (suppliedIds predictionKinds input).foldl (fun ids id => insertId id ids) []

/-! ## The input of a track -/

def modelTagTrackInput (track : IndexedTrack) (context : Option CurrentTrackContext)
    (catalog : Option Json) : Json :=
  let input : JsonObject := [("album", .string track.metadata.album),
    ("artist", .string track.metadata.artist),
    ("bpm", (track.metadata.bpm.map Json.naturalJson).getD .null),
    ("catalog_evidence", (catalog.map withoutRecordingIds).getD .null),
    ("context_evidence", (context.map (compactContextProjection doubles)).getD .null),
    ("evidence_contract", .string "song-evidence/v1"), ("genre", .string track.metadata.genre),
    ("length_s", doubles.seconds track.duration), ("origin", .string track.origin),
    ("track_id", .number (.integer track.id.get))]
  .object (input.insert "evidence_ids" (.strings (evidenceIds predictionKinds (.object input))))

/-! ## A batch -/

structure ModelTaskError where
  code : String
  deriving DecidableEq

def inputInvalid : ModelTaskError := ⟨"model_input_invalid"⟩

def requestTooLarge : ModelTaskError := ⟨"request_too_large"⟩

def allowedFields : List String :=
  ["track_id", "artist", "album", "origin", "genre", "length_s", "bpm", "context_evidence",
    "catalog_evidence", "audio_predictions", "evidence_contract", "evidence_ids"]

def orNull (key : String) (track : JsonObject) : JsonObject :=
  if (track.get key).isSome then track else track.insert key .null

/-- The text fields are there, none too long. -/
def textsFit (track : JsonObject) : Bool :=
  ["artist", "album", "origin", "genre"].all fun field =>
    ((track.get field).bind Json.asString).any fun value => value.length ≤ 512

/-- `entry(key)` changed where it is there and not null. -/
def compactField (track : JsonObject) : JsonObject :=
  match track.get "context_evidence" with
  | none | some .null => track
  | some context => track.insert "context_evidence" (compactContextEvidence doubles context)

def normalizeTrackInput (track : Json) : Except ModelTaskError JsonObject :=
  match track.asObject with
  | none => .error inputInvalid
  | some track =>
    if track.any fun field => field.1 ∉ allowedFields then .error inputInvalid
    else
      let track := track.insert "evidence_contract" (.string "song-evidence/v1")
      if (track.get "audio_predictions").any fun value =>
          !value.isNull && (predictionKinds value).isNone then .error inputInvalid
      else if (track.get "catalog_evidence").any fun value =>
          8192 < value.jsonLength doubles.length then .error inputInvalid
      else
        let track := compactField doubles (orNull "bpm" (orNull "context_evidence" track))
        if !textsFit track then .error inputInvalid
        else
          .ok (track.insert "evidence_ids" (.strings (evidenceIds predictionKinds (.object track))))

structure ModelTaggerBatch where
  tracks : List Json
  trackIds : List ℤ

def modelTagBatchSize : ℕ := 20

/-- The tracks of a batch in turn: each is checked, takes a number in place of its id, and
its id may not come twice. -/
def addTracks (batch : ModelTaggerBatch) : List Json → Except ModelTaskError ModelTaggerBatch
  | [] => .ok batch
  | track :: rest =>
    match normalizeTrackInput doubles predictionKinds track with
    | .error error => .error error
    | .ok track =>
      match ((track.get "track_id").bind Json.asInteger).filter fun id => 0 < id with
      | none => .error inputInvalid
      | some id =>
        if id ∈ batch.trackIds then .error inputInvalid
        else
          let ids := batch.trackIds ++ [id]
          addTracks ⟨batch.tracks ++
            [.object (track.insert "track_id" (.naturalJson ids.length))], ids⟩ rest

/-- `ModelTaggerBatch::new`; the vocabulary is kept beside it. -/
def ModelTaggerBatch.new (tracks : List Json) : Except ModelTaskError ModelTaggerBatch :=
  if tracks.isEmpty || tracks.length > modelTagBatchSize then .error inputInvalid
  else addTracks doubles predictionKinds ⟨[], []⟩ tracks

/-! ## Planning -/

-- whether the transport takes the request of a batch, plain or corrective
variable (validate : ModelTaggerBatch → Bool → Except ModelTaskError Unit)

def validated (task : ModelTaggerBatch) : Except ModelTaskError Unit :=
  match validate task false with
  | .error error => .error error
  | .ok () => validate task true

/-- A batch that can be sent, and how many inputs it takes. -/
structure SelectedBatch where
  length : ℕ
  positive : 0 < length
  task : ModelTaggerBatch

/-- The widest batch from the front that can be sent, by halving. -/
def widestBatch (inputs : List Json) (lower upper : ℕ) (hlower : 0 < lower)
    (selected : Option SelectedBatch) : Except ModelTaskError (Option SelectedBatch) :=
  if lower ≤ upper then
    let length := lower + (upper - lower) / 2
    have hlength : 0 < length := Nat.lt_of_lt_of_le hlower (Nat.le_add_right _ _)
    match ModelTaggerBatch.new doubles predictionKinds (inputs.take length) with
    | .error error => .error error
    | .ok task =>
      match validated validate task with
      | .ok () => widestBatch inputs (length + 1) upper (Nat.succ_pos _) (some ⟨length, hlength, task⟩)
      | .error error =>
        if error = requestTooLarge then widestBatch inputs lower (length - 1) hlower selected
        else .error error
  else .ok selected
termination_by upper + 1 - lower

structure PlannedTaggerBatch where
  start : ℕ
  length : ℕ
  task : ModelTaggerBatch

/-- Batches from the front, `start` being the place of the first input. -/
def planModelTaggerBatches (start : ℕ) (inputs : List Json) :
    Except ModelTaskError (List PlannedTaggerBatch) :=
  if inputs = [] then .ok []
  else
    match widestBatch doubles predictionKinds validate inputs 1
      (min modelTagBatchSize inputs.length) Nat.one_pos none with
    | .error error => .error error
    | .ok none => .error requestTooLarge
    | .ok (some selected) =>
      match planModelTaggerBatches (start + selected.length) (inputs.drop selected.length) with
      | .error error => .error error
      | .ok rest => .ok (⟨start, selected.length, selected.task⟩ :: rest)
termination_by inputs.length
decreasing_by
  have hpos := selected.positive
  have hinputs : 0 < inputs.length := List.length_pos_iff.mpr ‹_›
  rw [List.length_drop]
  omega

/-! ## Native tasks -/

/-- The first entry of a list whose field has this text. -/
def namedItem (list : Option Json) (key name : String) : Option Json :=
  (list.bind Json.asArray).bind fun items =>
    items.find? fun item => (item.index key).asString = some name

def observation (input : Json) (id : String) : Option Json :=
  match stripPrefix id "prediction." with
  | some kind => namedItem ((input.get "audio_predictions").bind (·.get "sources")) "kind" kind
  | none =>
  match stripPrefix id "metadata." with
  | some key => input.get key
  | none =>
  match stripPrefix id "audio.trajectories." with
  | some key => ((input.get "context_evidence").bind (·.get "trajectories")).bind (·.get key)
  | none =>
  match stripPrefix id "audio.sections." with
  | some name => namedItem ((input.get "context_evidence").bind (·.get "sections")) "id" name
  | none =>
  match stripPrefix id "audio." with
  | some key => (input.get "context_evidence").bind (·.get key)
  | none => namedItem ((input.get "catalog_evidence").bind (·.get "claims")) "id" id

inductive TypedRequestError where
  | invalidRequest
  | requestTooLarge

def TypedRequestError.toTaskError : TypedRequestError → ModelTaskError
  | .invalidRequest => ⟨"invalid_request"⟩
  | .requestTooLarge => Tagging.requestTooLarge

/-- The observations a native task judges, each with its id. -/
def observations (input : Json) : List String → Except ModelTaskError (List (String × Json))
  | [] => .ok []
  | id :: rest =>
    match observation input id with
    | none => .error inputInvalid
    | some value =>
      match observations input rest with
      | .error error => .error error
      | .ok others => .ok ((id, value) :: others)

-- the questions of a task under the vocabulary, and how many requests they take at most
variable (questions : ModelTaggerBatch → List (String × Json) → Except TypedRequestError ℕ)

structure JevTaggerTask where
  validator : ModelTaggerBatch
  trackId : ℤ
  maxRequests : ℕ

def JevTaggerTask.new (input : Json) : Except ModelTaskError JevTaggerTask :=
  match (input.index "track_id").asInteger with
  | none => .error inputInvalid
  | some trackId =>
    match ModelTaggerBatch.new doubles predictionKinds [input] with
    | .error error => .error error
    | .ok validator =>
      let input := validator.tracks.headD .null
      match observations input (evidenceIds predictionKinds input) with
      | .error error => .error error
      | .ok observed =>
        match questions validator observed with
        | .error error => .error error.toTaskError
        | .ok maxRequests => .ok ⟨validator, trackId, maxRequests⟩

/-- The tasks in turn, and the requests they may take together. -/
def addJevTasks (requests : ℕ) : List Json → Except ModelTaskError (List JevTaggerTask)
  | [] => .ok []
  | input :: rest =>
    match JevTaggerTask.new doubles predictionKinds questions input with
    | .error error => .error error
    | .ok task =>
      let requests := requests + task.maxRequests
      if requests > 1000 then .error ⟨"tagging_budget_too_small"⟩
      else
        match addJevTasks requests rest with
        | .error error => .error error
        | .ok tasks => .ok (task :: tasks)

def planJevTagging (inputs : List Json) : Except ModelTaskError (List JevTaggerTask) :=
  if inputs.length > 1000 then .error requestTooLarge
  else addJevTasks doubles predictionKinds questions 0 inputs

/-- The batches of the native tasks, one input each. -/
def nativeBatches : ℕ → List Json → Except ModelTaskError (List PlannedTaggerBatch)
  | _, [] => .ok []
  | start, input :: rest =>
    match ModelTaggerBatch.new doubles predictionKinds [input] with
    | .error error => .error error
    | .ok task =>
      match nativeBatches (start + 1) rest with
      | .error error => .error error
      | .ok batches => .ok (⟨start, 1, task⟩ :: batches)

def typesafeAdapter : String := "typesafe-systemone/v1"

def planTaggerEngineBatches (adapterId : String) (inputs : List Json) :
    Except ModelTaskError (List PlannedTaggerBatch) :=
  if adapterId ≠ typesafeAdapter then
    planModelTaggerBatches doubles predictionKinds validate 0 inputs
  else
    match planJevTagging doubles predictionKinds questions inputs with
    | .error error => .error error
    | .ok _ => nativeBatches doubles predictionKinds 0 inputs

end MusicServer.Tagging
