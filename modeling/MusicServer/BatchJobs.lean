/-
# The jobs that submit and collect a batch

Submission writes a row before each step towards the provider.  Collection looks where a row
stands and takes it one step further; it counts every result from the ledger of the submission
and saves the results before it deletes anything.
-/
import MusicServer.TaggingBatches

namespace MusicServer

open CrashProgram Program EvidenceRules EvidenceTables ProviderUsageAccumulator

/-! ## The transport -/

def openaiResponsesAdapter : String := "openai-responses/v1"

def openaiApiBaseUrl : String := "https://api.openai.com/v1"

def identifier (value : String) : Except String String :=
  if value = "" ∨ 128 < value.utf8ByteSize ∨
      value.toList.all (fun c => c.isAlphanum || c = '_' || c = '-') = false then
    .error "batch_invalid_identifier"
  else .ok value

def optionalIdentifier : Option String → Except String (Option String)
  | none => .ok none
  | some value => (identifier value).map some

structure ProviderBatchStatus where
  runId : String
  state : BatchState
  inputFileId : String
  outputFileId : Option String
  errorFileId : Option String

/-- The states in which the provider may say a batch is. -/
def providerStates : List String :=
  ["validating", "in_progress", "finalizing", "completed", "failed", "expired", "cancelling",
    "cancelled"]

def readStatus (batchId : String) (answer : BatchAnswer) : Except String ProviderBatchStatus := do
  ensure (answer.id = batchId ∧ answer.endpoint = "/v1/responses") "batch_identity_mismatch"
  let state ← identifier answer.status
  ensure (state ∈ providerStates) "batch_invalid_response"
  let runId ← identifier answer.musicRunId
  let inputFileId ← identifier answer.inputFileId
  let outputFileId ← optionalIdentifier answer.outputFileId
  let errorFileId ← optionalIdentifier answer.errorFileId
  return ⟨runId, BatchState.parse state, inputFileId, outputFileId, errorFileId⟩

structure ProviderBatchResult where
  customId : String
  result : StructuredModelResult

/-- The lines of a result file, no identifier twice. -/
def parseBatchResults : List ProviderBatchResult → List ResultLine →
    Except String (List ProviderBatchResult)
  | results, [] => .ok results
  | results, line :: rest => do
    ensure (results.length < maxModelBatchRequests ∧ line.bytes ≤ maxExecutionResponseBytes)
      "response_too_large"
    let customId ← identifier line.customId
    ensure (customId ∉ results.map ProviderBatchResult.customId) "batch_duplicate_result"
    parseBatchResults (results ++ [⟨customId, line.result⟩]) rest

def withoutSlashes (value : String) : String := String.ofList (value.toList.rdropWhile (· = '/'))

section

variable {δ : Type} (execution : String) (target : ProviderExecutionTarget)

def batchTarget : Except String Unit :=
  ensure (target.adapterId = openaiResponsesAdapter ∧
    withoutSlashes target.baseUrl = openaiApiBaseUrl) "batch_unsupported_adapter"

namespace Transport

def upload (batchId : String) (attempts : List (ℕ × String)) : ModelProgram δ String := do
  ofExcept ((batchTarget target).mapError .new)
  let id ← providerCall execution (.upload batchId) attempts
    (fun world => world.provider.upload world.calls.length) id
  ofExcept ((identifier id).mapError .new)

def submit (fileId runId : String) (attempts : List (ℕ × String)) : ModelProgram δ String := do
  let _ ← ofExcept ((identifier fileId).mapError .new)
  ofExcept ((batchTarget target).mapError .new)
  let id ← providerCall execution (.submit runId) attempts
    (fun world => world.provider.submit world.calls.length) id
  ofExcept ((identifier id).mapError .new)

def status (batchId : String) : ModelProgram δ ProviderBatchStatus := do
  let batchId ← ofExcept ((identifier batchId).mapError .new)
  ofExcept ((batchTarget target).mapError .new)
  let answer ← providerCall execution .status []
    (fun world => world.provider.status world.calls.length batchId) id
  ofExcept ((readStatus batchId answer).mapError .new)

def results (fileId : String) : ModelProgram δ (List ProviderBatchResult) := do
  let fileId ← ofExcept ((identifier fileId).mapError .new)
  ofExcept ((batchTarget target).mapError .new)
  let lines ← providerCall execution .results []
    (fun world => if fileId ∈ world.deleted then .error "batch_not_found"
      else world.provider.results world.calls.length fileId) id
  ofExcept ((parseBatchResults [] lines).mapError .new)

def cancel (batchId : String) : ModelProgram δ Unit := do
  let batchId ← ofExcept ((identifier batchId).mapError .new)
  ofExcept ((batchTarget target).mapError .new)
  providerCall execution .cancel []
    (fun world => world.provider.cancel world.calls.length batchId) id

/-- A file that is not there counts as deleted. -/
def deleteFile (fileId : String) : ModelProgram δ Unit := do
  let fileId ← ofExcept ((identifier fileId).mapError .new)
  ofExcept ((batchTarget target).mapError .new)
  providerCall execution .deleteFile []
    (fun world =>
      if fileId ∈ world.deleted then .ok ()
      else
        match world.provider.deleteFile world.calls.length fileId with
        | .ok () => .ok ()
        | .error code => if code = "batch_not_found" then .ok () else .error code)
    fun world => { world with deleted := fileId :: world.deleted }

end Transport

end

/-! ## Submission -/

section

variable {δ : Type} (rules : TaggingRules δ)

def taggingQualityEvaluationId : String := "music-tagging-quality-v1"

def startModelRun (execution jobId : String) (queueWaitSeconds : Option ℕ)
    (role : ResolvedRoleExecution) (purpose : ModelRunPurpose) :
    ModelProgram δ ProviderUsageAccumulator := do
  let manifest ← ofExcept (ModelRunManifest.new jobId queueWaitSeconds role purpose)
  checkpointCall execution (forRun manifest)
  return forRun manifest

/-- What a tagging job has prepared for a batch. -/
structure PlannedBatch (δ : Type) where
  jobId : String
  queueWaitSeconds : Option ℕ
  parameters : ModelTaggingJobParameters
  role : ResolvedRoleExecution
  inputs : List Json
  requests : List StructuredModelRequest
  ranges : List (ℕ × ℕ)
  templates : List (AnalysisWrite δ)
  same_length : ranges.length = requests.length

/-- The checks of a batch before anything is reserved. -/
def validateSubmission (planned : PlannedBatch δ) : Except JobHandlerError Unit := do
  (rules.validateBatch planned.role.execution planned.requests).mapError .new
  ensure (planned.requests.length ≤ planned.parameters.limits.maxRequests)
    (.new "model_run_request_budget_exhausted")
  ensure (¬ (planned.parameters.limits.stopOnEmptyBatch = true ∧ 1 < planned.requests.length))
    (.new "batch_pilot_required")

/-- The ledger of a batch: a run of its own, with every request reserved. -/
def reserveSubmission (execution : String) (planned : PlannedBatch δ) :
    ModelProgram δ ProviderUsageAccumulator := do
  let usage ← startModelRun execution planned.jobId planned.queueWaitSeconds planned.role
    { evaluationId := taggingQualityEvaluationId
      disclosureVersion := some planned.parameters.disclosureVersion
      scopeFingerprint := planned.parameters.scopeFingerprint
      evidenceFingerprint :=
        rules.evidenceFingerprint (planned.templates.map AnalysisWrite.sourceSignature)
      maxAttempts := planned.requests.length
      destination := .trackTagReview }
  let limited := usage.limitTokenReservation planned.parameters.limits.maxTokenReservation
  ofExcept (reserveBatch rules.toUsageRules planned.role limited planned.requests)

def submissionRecord (planned : PlannedBatch δ) (usage : ProviderUsageAccumulator) :
    ModelBatchRecord δ :=
  ⟨planned.jobId, planned.role.connectionId, .uploading, none, none,
    .submission ⟨planned.parameters, planned.inputs, planned.templates, planned.ranges,
      usage.summary⟩⟩

/-- The attempts of a batch, by number and digest. -/
def batchAttempts (requests : List StructuredModelRequest) : List (ℕ × String) :=
  requests.zipIdx.map fun entry => (entry.2 + 1, rules.requestFingerprint entry.1)

/-- The network steps of a submission, from a row that was just created. -/
def sendBatch (execution : String) (planned : PlannedBatch δ) (record : ModelBatchRecord δ) :
    ModelProgram δ (BatchOutcome δ) := do
  let attempts := batchAttempts rules planned.requests
  let file ← Transport.upload execution planned.role.execution record.id attempts
  let record ← persist rules { record with inputFileId := some file } .uploaded
  checkCancelledCall
  let record ← persist rules record .submitting
  let remote ← Transport.submit execution planned.role.execution file record.id attempts
  let record ← persist rules { record with remoteBatchId := some remote } .submitted
  return .waiting record.id record.state remote

def submitTaggingBatch (execution : String) (planned : PlannedBatch δ) :
    ModelProgram δ (BatchOutcome δ) := do
  ofExcept (validateSubmission rules planned)
  let usage ← reserveSubmission rules execution planned
  let record := submissionRecord planned usage
  checkCancelledCall
  let created ← createModelBatch rules execution record
  ofExcept (ensure (created = true) (.new "model_batch_pending"))
  -- From here on a failure leaves a durable row that blocks the next submission.
  checkpointCall execution usage
  sendBatch rules execution planned record

/-! ## The services a collection uses -/

/-- The target of a batch's connection, for managing it only. -/
def prepareBatchManagement (connectionId : String) : ModelProgram δ ProviderExecutionTarget := do
  let found ← readCall "provider_dependency_unavailable"
    fun world => world.tables.loadConnection connectionId
  match found with
  | none => fail (.new "connection_not_found")
  | some connection => ofExcept (if rules.decrypts connection = true then
      .ok ⟨connection.adapterId, connection.baseUrl, "", 60, 0, .providerDefault⟩
    else .error (.new "credential_unavailable"))

/-- Stores the first vocabulary where there is none, and reads the one that is there. -/
def initializeVocabulary (world : ModelWorld δ) :
    Except IoErrorKind (TagVocabularyDocument × ModelWorld δ) :=
  let document := world.tables.vocabulary.getD rules.defaultVocabulary
  .ok (document, { world with tables := { world.tables with vocabulary := some document } })

def vocabularyCall : ModelProgram δ TagVocabularyDocument := do
  let found ← readCall "assistant_storage_failed" fun world => world.tables.vocabulary
  match found with
  | some document => return document
  | none => writeCall "assistant_storage_failed" (initializeVocabulary rules)

def ensureVocabularyUnchanged (fingerprint : String) : ModelProgram δ Unit := do
  let document ← vocabularyCall rules
  ofExcept (ensure (rules.vocabularyFingerprint document = fingerprint)
    (.new "tag_vocabulary_changed"))

/-- The inference fingerprint of the tagging role, if it has a connection. -/
def currentInferenceFingerprint : ModelProgram δ (Option String) := do
  let role ← readCall "assistant_storage_failed" fun world => world.tables.loadRole "music_tagger"
  match role with
  | none => return none
  | some role =>
    let connection ← readCall "assistant_storage_failed"
      fun world => world.tables.loadConnection role.connectionId
    return connection.map fun connection => rules.modelTagInferenceFingerprint role connection

/-! ### Storing analyses -/

def validHexDigest (value : String) : Bool :=
  value.utf8ByteSize = 64 &&
    value.toList.all fun c => c.isDigit || ('a' ≤ c && c ≤ 'f')

def validProfile (profile : AnalysisWrite δ) : Bool :=
  validHexDigest profile.sourceSignature && !profile.evidence.isEmpty &&
    profile.moods.length = profile.decisions.length &&
    (profile.decisions.zip profile.moods).all fun entry =>
      rules.decisionTag entry.1 = entry.2 && rules.decisionHasEvidence entry.1

def validModelProfile (profile : AnalysisWrite δ) : Bool :=
  validProfile rules profile && profile.evidence.length ≤ maxModelEvidenceItems &&
    rules.validTagDecisions profile.decisions profile.moods
      ((profile.metrics.get "input_snapshot").getD .null) &&
    (profile.metrics.get "contract").bind Json.asString = some modelTaggerOutputContract

def analysisRow (profile : AnalysisWrite δ) : AnalysisRow δ :=
  ⟨profile.trackId, modelTagAnalyzerId, profile.sourceSignature, some profile.moods,
    some profile.evidence, some profile.metrics, some profile.decisions⟩

/-- `INSERT … ON CONFLICT(track_id, analyzer_id) DO UPDATE`. -/
def upsertAnalysis (row : AnalysisRow δ) : List (AnalysisRow δ) → List (AnalysisRow δ)
  | [] => [row]
  | other :: rest =>
    if other.trackId = row.trackId ∧ other.analyzerId = row.analyzerId then row :: rest
    else other :: upsertAnalysis row rest

/-- The signature of the present evidence of a track, under the fingerprints of a batch. -/
def modelSignature (tables : EvidenceTables δ) (parameters : ModelTaggingJobParameters)
    (voice : Option String) (track : LibraryIndex.IndexedTrack) : String :=
  rules.modelTagSourceSignature track parameters.inferenceFingerprint
    parameters.vocabularyFingerprint
    (tables.currentModelContext rules.toEvidenceRules track voice)
    (tables.currentSongCatalog rules.toEvidenceRules track)

/-- One profile: stored where its track is there and its signature the present one. -/
def storeProfile (parameters : ModelTaggingJobParameters) (voice : Option String)
    (tables : EvidenceTables δ) (profile : AnalysisWrite δ) :
    Except IoErrorKind (Bool × EvidenceTables δ) :=
  if validModelProfile rules profile = false then .error .invalidInput
  else
    match tables.loadTrack profile.trackId with
    | .error _ => .error .invalidInput
    | .ok none => .ok (false, tables)
    | .ok (some track) =>
      if modelSignature rules tables parameters voice track = profile.sourceSignature then
        .ok (true, { tables with analyses := upsertAnalysis (analysisRow profile) tables.analyses })
      else .ok (false, tables)

/-- The profiles of one transaction, and how many were stored. -/
def storeProfiles (parameters : ModelTaggingJobParameters) (voice : Option String) :
    EvidenceTables δ → List (AnalysisWrite δ) → Except IoErrorKind (ℕ × EvidenceTables δ)
  | tables, [] => .ok (0, tables)
  | tables, profile :: rest => do
    let (stored, tables') ← storeProfile rules parameters voice tables profile
    let (count, final) ← storeProfiles parameters voice tables' rest
    return ((if stored = true then 1 else 0) + count, final)

def storeModelAnalysis (parameters : ModelTaggingJobParameters) (voice : Option String)
    (profiles : List (AnalysisWrite δ)) : ModelProgram δ ℕ :=
  writeCall "assistant_storage_failed" fun world =>
    if validHexDigest parameters.inferenceFingerprint = false ∨
        validHexDigest parameters.vocabularyFingerprint = false then .error .invalidInput
    else (storeProfiles rules parameters voice world.tables profiles).map fun (count, tables) =>
      (count, { world with tables := tables })

/-! ## Collection -/

structure BatchAction where
  batchId : String
  roleId : String
  cancel : Bool
  remoteBatchId : Option String
  abandonUncertain : Bool
  deriving DecidableEq

/-- The request a result belongs to: `request-{index}`. -/
def requestIndex (count : ℕ) (customId : String) : Option ℕ :=
  (List.range count).find? fun index => customId = s!"request-{index}"

/-- Takes the results of one file; none may come twice. -/
def insertResults (count : ℕ) : List (ℕ × StructuredModelResult) → List ProviderBatchResult →
    Except JobHandlerError (List (ℕ × StructuredModelResult))
  | responses, [] => .ok responses
  | responses, item :: rest =>
    match requestIndex count item.customId with
    | none => .error (.new "batch_unknown_result")
    | some index =>
      if index ∈ responses.map Prod.fst then .error (.new "batch_duplicate_result")
      else insertResults count ((index, item.result) :: responses) rest

/-- The results of the output and the error file. -/
def fetchResponses (execution : String) (target : ProviderExecutionTarget) (count : ℕ) :
    List (ℕ × StructuredModelResult) → List String →
      ModelProgram δ (List (ℕ × StructuredModelResult))
  | responses, [] => return responses
  | responses, file :: rest => do
    let items ← Transport.results execution target file
    let responses ← ofExcept (insertResults count responses items)
    fetchResponses execution target count responses rest

/-- The responses in the order of their requests. -/
def inOrder (count : ℕ) (responses : List (ℕ × StructuredModelResult)) :
    List (ℕ × StructuredModelResult) :=
  (List.range count).filterMap fun index => (responses.lookup index).map fun result =>
    (index, result)

def slice {α : Type} (list : List α) (range : ℕ × ℕ) : Option (List α) :=
  if range.1 ≤ range.2 ∧ range.2 ≤ list.length then some ((list.take range.2).drop range.1)
  else none

structure CollectionTally (δ : Type) where
  usage : ProviderUsageAccumulator
  updated : ℕ
  rejected : ℕ
  processed : ℕ
  withSuggestions : ℕ
  suggestedTags : ℕ
  trackResults : List (BatchTrackResult δ)

def trackResultJson (result : BatchTrackResult δ) : Json :=
  .object
    [("decisions", .array (result.decisions.map rules.decisionJson)),
      ("evidence", strings result.evidence),
      ("source_signature", .string result.sourceSignature), ("tags", strings result.tags),
      ("track_id", integer result.trackId.get)]

def progressJson (tally : CollectionTally δ) : Json :=
  .object
    [("processed_tracks", integer tally.processed), ("rejected_tracks", integer tally.rejected),
      ("suggested_tags", integer tally.suggestedTags),
      ("track_results", .array (tally.trackResults.map (trackResultJson rules))),
      ("tracks_with_suggestions", integer tally.withSuggestions),
      ("tracks_without_suggestions", integer (tally.processed - tally.withSuggestions)),
      ("updated_profiles", integer tally.updated)]

/-- The templates of a request with what the model said of their tracks. -/
def profilesOf (outputs : TrackId → Option (ModelTagTrackOutput δ)) :
    List (AnalysisWrite δ) → Except JobHandlerError (List (AnalysisWrite δ))
  | [] => .ok []
  | template :: rest =>
    match outputs template.trackId with
    | none => .error (.new "model_output_track_set_mismatch")
    | some model => do
      let profiles ← profilesOf outputs rest
      return { template with
        moods := model.tags, evidence := model.evidence, decisions := model.decisions } :: profiles

def countProfiles (tally : CollectionTally δ) (profiles : List (AnalysisWrite δ)) :
    CollectionTally δ :=
  { tally with
    processed := tally.processed + profiles.length
    withSuggestions := tally.withSuggestions + profiles.countP fun profile => !profile.moods.isEmpty
    suggestedTags := tally.suggestedTags + (profiles.map fun profile => profile.moods.length).sum
    trackResults := tally.trackResults ++ profiles.map fun profile =>
      ⟨profile.trackId, profile.sourceSignature, profile.moods, profile.evidence,
        profile.decisions⟩ }

/-- What the submission says of one request: its inputs, its templates, and how many. -/
def frozenRequest (frozen : BatchSubmission δ) (index : ℕ) :
    Except JobHandlerError (List Json × (ℕ × ℕ)) :=
  match frozen.ranges[index]?, frozen.ranges[index]?.bind (slice frozen.inputs) with
  | some range, some inputs => .ok (inputs, range)
  | _, _ => .error (.new "batch_record_invalid")

/-- Stores the profiles of one request and counts them. -/
def storeResponse (execution : String) (voice : Option String) (frozen : BatchSubmission δ)
    (tally : CollectionTally δ) (range : ℕ × ℕ)
    (outputs : TrackId → Option (ModelTagTrackOutput δ)) : ModelProgram δ (CollectionTally δ) := do
  let templates ← ofExcept (match slice frozen.templates range with
    | some templates => .ok templates
    | none => .error (.new "batch_record_invalid"))
  let profiles ← ofExcept (profilesOf outputs templates)
  ensureVocabularyUnchanged rules frozen.parameters.vocabularyFingerprint
  let stored ← storeModelAnalysis rules frozen.parameters voice profiles
  let counted := countProfiles tally profiles
  let counted := { counted with updated := tally.updated + stored }
  let usage := counted.usage.setFeatureProgress (progressJson rules counted)
  checkpointCall execution usage
  return { counted with usage := usage }

/-- One result: observed in the ledger, then stored or rejected. -/
def collectResponse (execution : String) (voice : Option String)
    (vocabulary : TagVocabularyDocument) (current : Bool) (frozen : BatchSubmission δ)
    (tally : CollectionTally δ) (response : ℕ × StructuredModelResult) :
    ModelProgram δ (CollectionTally δ) := do
  checkCancelledCall
  let observed := { tally with
    usage := tally.usage.observeBatchResult (response.1 + 1) response.2 }
  checkpointCall execution observed.usage
  let (inputs, range) ← ofExcept (frozenRequest frozen response.1)
  ofExcept ((rules.newTask inputs vocabulary).mapError .new)
  match rules.finishTask inputs vocabulary response.2 with
  | .ok outputs =>
    if current = true then storeResponse rules execution voice frozen observed range outputs
    else return { observed with rejected := observed.rejected + (range.2 - range.1) }
  | .error _ => return { observed with rejected := observed.rejected + (range.2 - range.1) }

def collectResponses (execution : String) (voice : Option String)
    (vocabulary : TagVocabularyDocument) (current : Bool) (frozen : BatchSubmission δ) :
    CollectionTally δ → List (ℕ × StructuredModelResult) → ModelProgram δ (CollectionTally δ)
  | tally, [] => return tally
  | tally, response :: rest => do
    let tally ← collectResponse rules execution voice vocabulary current frozen tally response
    collectResponses execution voice vocabulary current frozen tally rest

def batchResult (record : ModelBatchRecord δ) (status : ProviderBatchStatus)
    (frozen : BatchSubmission δ) (current : Bool) (tally : CollectionTally δ) : BatchResult δ :=
  { batchId := record.id
    state := status.state
    updatedProfiles := tally.updated
    rejectedTracks := tally.rejected
    unavailableOrChangedTracks := frozen.templates.length - (tally.updated + tally.rejected)
    processedTracks := tally.processed
    tracksWithSuggestions := tally.withSuggestions
    tracksWithoutSuggestions := tally.processed - tally.withSuggestions
    suggestedTags := tally.suggestedTags
    trackResults := tally.trackResults
    staleConfiguration := !current
    usage := tally.usage.summary }

/-- Reads, stores and counts the results of a batch that is through, and saves them. -/
def saveResults (execution : String) (voice : Option String) (target : ProviderExecutionTarget)
    (record : ModelBatchRecord δ) (status : ProviderBatchStatus) :
    ModelProgram δ (ModelBatchRecord δ) := do
  match record.document with
  | .submission frozen =>
    let responses ← fetchResponses execution target frozen.ranges.length []
      (status.outputFileId.toList ++ status.errorFileId.toList)
    let vocabulary ← vocabularyCall rules
    let inference ← currentInferenceFingerprint rules
    let current : Bool := inference = some frozen.parameters.inferenceFingerprint &&
      rules.vocabularyFingerprint vocabulary = frozen.parameters.vocabularyFingerprint
    let tally ← collectResponses rules execution voice vocabulary current frozen
      ⟨resume frozen.submissionUsage, 0, 0, 0, 0, 0, []⟩ (inOrder frozen.ranges.length responses)
    persist rules { record with
      document := .results (batchResult record status frozen current tally) status.state
        status.outputFileId status.errorFileId } .resultsSaved
  | _ => fail (.new "batch_record_invalid")

def deleteFiles (execution : String) (target : ProviderExecutionTarget) :
    List String → ModelProgram δ Unit
  | [] => return ()
  | file :: rest => do
    Transport.deleteFile execution target file
    deleteFiles execution target rest

/-- The last step of a batch whose results are saved: its files go, and it is closed. -/
def closeCollected (execution : String) (target : ProviderExecutionTarget)
    (record : ModelBatchRecord δ) : ModelProgram δ (BatchOutcome δ) := do
  match record.document with
  | .results result terminal outputFileId errorFileId =>
    deleteFiles execution target
      (record.inputFileId.toList ++ outputFileId.toList ++ errorFileId.toList)
    let _ ← persist rules record terminal
    return .collected result
  | _ =>
    deleteFiles execution target record.inputFileId.toList
    fail (.new "batch_record_invalid")

def cancelRemote (execution : String) (target : ProviderExecutionTarget) (cancel : Bool)
    (remote : String) (state : BatchState) : ModelProgram δ Unit :=
  if cancel = true ∧ state ≠ .cancelling then Transport.cancel execution target remote
  else return ()

/-- A batch the provider is not through with. -/
def reportWaiting (execution : String) (target : ProviderExecutionTarget) (cancel : Bool)
    (record : ModelBatchRecord δ) (remote : String) (status : ProviderBatchStatus) :
    ModelProgram δ (BatchOutcome δ) := do
  cancelRemote execution target cancel remote status.state
  let record ← persist rules record (if cancel = true then .cancelling else status.state)
  return .waiting record.id record.state remote

/-- The provider's batch is the one of the record. -/
def sameBatch (record : ModelBatchRecord δ) (status : ProviderBatchStatus) :
    Except JobHandlerError Unit :=
  ensure (status.runId = record.id ∧ some status.inputFileId = record.inputFileId)
    (.new "batch_identity_mismatch")

def collectIdentified (execution : String) (voice : Option String)
    (target : ProviderExecutionTarget) (cancel : Bool) (record : ModelBatchRecord δ)
    (remote : String) : ModelProgram δ (BatchOutcome δ) := do
  if record.state = .resultsSaved then closeCollected rules execution target record
  else
    checkCancelledCall
    let status ← Transport.status execution target remote
    ofExcept (sameBatch record status)
    if status.state.isTerminal = false then
      reportWaiting rules execution target cancel record remote status
    else
      let record ← saveResults rules execution voice target record status
      closeCollected rules execution target record

/-- Closes a batch that has no number at the provider, or finds its number again. -/
def collectUnidentified (execution : String) (voice : Option String)
    (target : ProviderExecutionTarget) (action : BatchAction) (record : ModelBatchRecord δ) :
    ModelProgram δ (BatchOutcome δ) := do
  if record.state = .submitting ∧ action.cancel = true ∧ action.abandonUncertain = true then
    let result := .submissionStillUncertain record.id record.document.submissionUsage
    let _ ← persist rules { record with document := .closed result } .cancelled
    return result
  else if record.state = .submitting then
    match action.remoteBatchId with
    | none => fail (.new "batch_submission_uncertain_recover_id")
    | some remote =>
      let status ← Transport.status execution target remote
      ofExcept (sameBatch record status)
      let record ← persist rules { record with remoteBatchId := some remote } .submitted
      collectIdentified rules execution voice target action.cancel record remote
  else if action.cancel = true then
    deleteFiles execution target record.inputFileId.toList
    let result := .noInferenceSubmitted record.id
    let _ ← persist rules { record with document := .closed result } .cancelled
    return result
  else fail (.new "batch_upload_interrupted_cancel_before_retry")

def collectTaggingBatch (execution : String) (voice : Option String) (action : BatchAction) :
    ModelProgram δ (BatchOutcome δ) := do
  ofExcept (ensure (action.roleId = "music_tagger") (.new "invalid_batch_action"))
  let found ← readCall "assistant_storage_failed"
    fun world => modelBatch world.batches action.batchId
  match found with
  | none => fail (.new "batch_not_found")
  | some record =>
    if record.pending = false then return record.document.result
    else
      let target ← prepareBatchManagement rules record.connectionId
      match record.remoteBatchId with
      | none => collectUnidentified rules execution voice target action record
      | some remote => collectIdentified rules execution voice target action.cancel record remote

end

/-! ## A small world -/

/-- Rules under which every batch is valid and takes no room. -/
def freeRules : TaggingRules Unit where
  digest := id
  encode _ := ""
  secondsBits _ := 0
  taggingPrototype := .null
  jevInferenceIdentity := .null
  songCatalogEvidence _ _ _ := none
  validTagDecisions _ _ _ := true
  validExplanation _ := true
  requestFingerprint request := request.userPrompt
  schemaBytes _ := 0
  documentBytes _ := 0
  evidenceFingerprint _ := ""
  decisionTag _ := ""
  decisionHasEvidence _ := true
  decisionJson _ := .null
  newTask _ _ := .ok ()
  finishTask _ _ _ := .ok fun _ => none
  validateBatch _ _ := .ok ()
  decrypts _ := true
  defaultVocabulary := ⟨"", []⟩

def willingProvider : Provider where
  structured _ := ⟨⟨none, none, none⟩, .responseReceived, true, none, none, none, none, none, none⟩
  elapsedMs _ := 0
  upload _ := .ok "file-1"
  submit _ := .ok "batch-1"
  status _ _ := .ok ⟨"batch-1", "/v1/responses", "completed", "job-1", "file-1", none, none⟩
  results _ _ := .ok []
  cancel _ _ := .ok ()
  deleteFile _ _ := .ok ()

def emptyModelWorld : ModelWorld Unit where
  tables :=
    { index := LibraryIndex.empty
      analyses := []
      contexts := []
      enrichments := []
      catalogRevision := 0
      sourcePolicies := []
      vocabulary := none
      roles := []
      connections := [] }
  batches := []
  provider := willingProvider
  deleted := []
  checkpoints := []
  calls := []
  creators := []

def oneRequest : PlannedBatch Unit where
  jobId := "job-1"
  queueWaitSeconds := none
  parameters := ⟨"", ⟨1, 1, 10000, false⟩, "", "", ""⟩
  role := ⟨"", "connection-1", "music_tagger",
    ⟨openaiResponsesAdapter, openaiApiBaseUrl, "", 60, 100, .providerDefault⟩, "", "", ""⟩
  inputs := []
  requests := [⟨"", "", 100, none, none⟩]
  ranges := [(0, 0)]
  templates := []
  same_length := rfl

end MusicServer
