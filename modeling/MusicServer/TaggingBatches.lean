/-
# Batches of tagging requests

A batch is a row of its own beside the job that made it: it goes through local states until the
provider has it, then keeps the provider's state, then its results.  A row changes only from the
state its writer saw.  Every network call, storage statement and look at the job is a call of a
program, so that a process may die at any of them and a reply may be lost.
-/
import MusicServer.CrashProgram
import MusicServer.TagReview
import MusicServer.UsageLedger

namespace MusicServer

open CrashProgram Program EvidenceRules EvidenceTables

/-! ## The states of a batch -/

inductive BatchState where
  | uploading
  | uploaded
  | submitting
  | submitted
  | cancelling
  | resultsSaved
  | completed
  | failed
  | expired
  | cancelled
  | provider (state : String)
  deriving DecidableEq

namespace BatchState

def parse (value : String) : BatchState :=
  if value = "uploading" then .uploading
  else if value = "uploaded" then .uploaded
  else if value = "submitting" then .submitting
  else if value = "submitted" then .submitted
  else if value = "cancelling" then .cancelling
  else if value = "results_saved" then .resultsSaved
  else if value = "completed" then .completed
  else if value = "failed" then .failed
  else if value = "expired" then .expired
  else if value = "cancelled" then .cancelled
  else .provider value

def asStr : BatchState → String
  | .uploading => "uploading"
  | .uploaded => "uploaded"
  | .submitting => "submitting"
  | .submitted => "submitted"
  | .cancelling => "cancelling"
  | .resultsSaved => "results_saved"
  | .completed => "completed"
  | .failed => "failed"
  | .expired => "expired"
  | .cancelled => "cancelled"
  | .provider state => state

/-- The provider will not change a batch in this state again. -/
def isTerminal : BatchState → Bool
  | .completed | .failed | .expired | .cancelled => true
  | _ => false

/-- `state NOT IN ('completed','cancelled','failed','expired')` of a stored state. -/
def isOpen (state : String) : Bool :=
  state ∉ ["completed", "cancelled", "failed", "expired"]

theorem asStr_parse (value : String) : (parse value).asStr = value := by
  unfold parse
  repeat' split
  all_goals first | exact Eq.symm ‹_› | rfl

theorem isTerminal_parse (value : String) : (parse value).isTerminal = !isOpen value := by
  unfold isOpen
  by_cases hcompleted : value = "completed"
  · subst hcompleted
    decide
  by_cases hcancelled : value = "cancelled"
  · subst hcancelled
    decide
  by_cases hfailed : value = "failed"
  · subst hfailed
    decide
  by_cases hexpired : value = "expired"
  · subst hexpired
    decide
  unfold parse
  simp only [hcompleted, hcancelled, hfailed, hexpired, if_false]
  repeat' split
  all_goals simp [isTerminal, hcompleted, hcancelled, hfailed, hexpired]

end BatchState

/-! ## What a row holds -/

structure ModelTaggingLimits where
  maxTracks : ℕ
  maxRequests : ℕ
  maxTokenReservation : ℕ
  stopOnEmptyBatch : Bool
  deriving DecidableEq

/-- The parameters of a tagging job that a batch depends on; `scopeFingerprint` is the digest of
all of them. -/
structure ModelTaggingJobParameters where
  inferenceFingerprint : String
  limits : ModelTaggingLimits
  disclosureVersion : String
  vocabularyFingerprint : String
  scopeFingerprint : String
  deriving DecidableEq

structure AnalysisWrite (δ : Type) where
  trackId : TrackId
  sourceSignature : String
  moods : List String
  evidence : List String
  metrics : JsonObject
  decisions : List δ

structure ModelTagTrackOutput (δ : Type) where
  tags : List String
  evidence : List String
  decisions : List δ

/-- What a submission freezes; a range is its start and its end. -/
structure BatchSubmission (δ : Type) where
  parameters : ModelTaggingJobParameters
  inputs : List Json
  templates : List (AnalysisWrite δ)
  ranges : List (ℕ × ℕ)
  submissionUsage : ProviderUsageSummary

structure BatchTrackResult (δ : Type) where
  trackId : TrackId
  sourceSignature : String
  tags : List String
  evidence : List String
  decisions : List δ

/-- `assistant-model-batch-result/v2`. -/
structure BatchResult (δ : Type) where
  batchId : String
  state : BatchState
  updatedProfiles : ℕ
  rejectedTracks : ℕ
  unavailableOrChangedTracks : ℕ
  processedTracks : ℕ
  tracksWithSuggestions : ℕ
  tracksWithoutSuggestions : ℕ
  suggestedTags : ℕ
  trackResults : List (BatchTrackResult δ)
  staleConfiguration : Bool
  usage : ProviderUsageSummary

/-- The `result` of a row, and what a collection answers. -/
inductive BatchOutcome (δ : Type) where
  | null
  | submissionStillUncertain (batchId : String) (usage : Option ProviderUsageSummary)
  | noInferenceSubmitted (batchId : String)
  | collected (result : BatchResult δ)
  | waiting (batchId : String) (state : BatchState) (remoteBatchId : String)

inductive BatchDocument (δ : Type) where
  | submission (submission : BatchSubmission δ)
  | closed (result : BatchOutcome δ)
  | results (result : BatchResult δ) (terminalState : BatchState) (outputFileId : Option String)
      (errorFileId : Option String)

namespace BatchDocument

variable {δ : Type}

def result : BatchDocument δ → BatchOutcome δ
  | .submission _ => .null
  | .closed result => result
  | .results result _ _ _ => .collected result

def submissionUsage : BatchDocument δ → Option ProviderUsageSummary
  | .submission frozen => some frozen.submissionUsage
  | _ => none

end BatchDocument

/-- A row of `assistant_model_batches`. -/
structure ModelBatchRow (δ : Type) where
  id : String
  connectionId : String
  state : String
  inputFileId : Option String
  remoteBatchId : Option String
  document : BatchDocument δ

structure ModelBatchRecord (δ : Type) where
  id : String
  connectionId : String
  state : BatchState
  inputFileId : Option String
  remoteBatchId : Option String
  document : BatchDocument δ

namespace ModelBatchRecord

variable {δ : Type}

def pending (record : ModelBatchRecord δ) : Bool := !record.state.isTerminal

def decode (row : ModelBatchRow δ) : ModelBatchRecord δ :=
  ⟨row.id, row.connectionId, BatchState.parse row.state, row.inputFileId, row.remoteBatchId,
    row.document⟩

def encode (record : ModelBatchRecord δ) : ModelBatchRow δ :=
  ⟨record.id, record.connectionId, record.state.asStr, record.inputFileId, record.remoteBatchId,
    record.document⟩

end ModelBatchRecord

/-! ## What the programs take from elsewhere -/

/-- Encodings, the reading and checking of model output, the check of a batch by the transport,
and the decryption of a credential. -/
structure TaggingRules (δ : Type) extends EvidenceRules δ, UsageRules where
  documentBytes : BatchDocument δ → ℕ
  evidenceFingerprint : List String → String
  decisionTag : δ → String
  decisionHasEvidence : δ → Bool
  decisionJson : δ → Json
  newTask : List Json → TagVocabularyDocument → Except String Unit
  finishTask : List Json → TagVocabularyDocument → StructuredModelResult →
    Except String (TrackId → Option (ModelTagTrackOutput δ))
  validateBatch : ProviderExecutionTarget → List StructuredModelRequest → Except String Unit
  decrypts : ProviderConnectionRecord → Bool
  defaultVocabulary : TagVocabularyDocument

def maxModelBatchRequests : ℕ := 500

def maxExecutionResponseBytes : ℕ := 2 * 1024 * 1024

def maxBatchDocumentBytes : ℕ := 64 * 1024 * 1024

structure BatchAnswer where
  id : String
  endpoint : String
  status : String
  musicRunId : String
  inputFileId : String
  outputFileId : Option String
  errorFileId : Option String

/-- A line of a result file, with what the adapter reads from it. -/
structure ResultLine where
  bytes : ℕ
  customId : String
  result : StructuredModelResult

/-- What the provider answers to a call, which may depend on how many calls came before. -/
structure Provider where
  structured : ℕ → StructuredModelResult
  elapsedMs : ℕ → ℕ
  upload : ℕ → Except String String
  submit : ℕ → Except String String
  status : ℕ → String → Except String BatchAnswer
  results : ℕ → String → Except String (List ResultLine)
  cancel : ℕ → String → Except String Unit
  deleteFile : ℕ → String → Except String Unit

inductive ProviderCallKind where
  | structured
  | upload (batchId : String)
  | submit (batchId : String)
  | status
  | results
  | cancel
  | deleteFile
  deriving DecidableEq

structure UsageCheckpoint where
  usage : ProviderUsageSummary
  featureProgress : Option Json

/-- A call that was started: the attempts that go out with it, by number and digest, and the last
checkpoint its job had stored by then. -/
structure ProviderCall where
  execution : String
  kind : ProviderCallKind
  attempts : List (ℕ × String)
  checkpoint : Option UsageCheckpoint

/-- The tables the model jobs read and write, the provider's side, and what was done so far: the
checkpoints and the calls with the newest first, and which execution created which batch. -/
structure ModelWorld (δ : Type) where
  tables : EvidenceTables δ
  batches : List (ModelBatchRow δ)
  provider : Provider
  deleted : List String
  checkpoints : List (String × UsageCheckpoint)
  calls : List ProviderCall
  creators : List (String × String)

abbrev ModelProgram (δ α : Type) := Program (ModelWorld δ) JobHandlerError α

/-! ## Calls -/

section

variable {δ β : Type}

def readCall (code : String) (read : ModelWorld δ → β) : ModelProgram δ β :=
  syscall (fun _ => .new code) fun world => .ok (read world, world)

/-- One write.  Where its reply is lost it may have been made. -/
def writeCall (code : String) (write : ModelWorld δ → Except IoErrorKind (β × ModelWorld δ)) :
    ModelProgram δ β :=
  syscallTorn (fun _ => .new code) write fun progress world =>
    if progress = 0 then world
    else
      match write world with
      | .ok (_, world') => world'
      | .error _ => world

/-- `context.check_cancelled()`: a failing call stands for each of its errors. -/
def checkCancelledCall : ModelProgram δ Unit :=
  syscall (fun _ => .fromExecution .cancelled) fun world => .ok ((), world)

def ModelWorld.checkpointed (world : ModelWorld δ) (execution : String)
    (usage : ProviderUsageAccumulator) : ModelWorld δ :=
  { world with
    checkpoints := (execution, ⟨usage.summary, usage.featureProgress⟩) :: world.checkpoints }

/-- `context.checkpoint(..)`: it may be stored and still be refused. -/
def checkpointCall (execution : String) (usage : ProviderUsageAccumulator) :
    ModelProgram δ Unit :=
  syscallTorn (fun _ => .fromExecution .cancelled)
    (fun world => .ok ((), world.checkpointed execution usage))
    fun progress world => if progress = 0 then world else world.checkpointed execution usage

namespace ModelWorld

/-- The last checkpoint that an execution stored. -/
def lastCheckpoint (world : ModelWorld δ) (execution : String) : Option UsageCheckpoint :=
  world.checkpoints.lookup execution

def called (world : ModelWorld δ) (execution : String) (kind : ProviderCallKind)
    (attempts : List (ℕ × String)) : ModelWorld δ :=
  { world with calls := ⟨execution, kind, attempts, world.lastCheckpoint execution⟩ :: world.calls }

end ModelWorld

/-- A call to the provider, with what it does there if it succeeds. -/
def answered (execution : String) (kind : ProviderCallKind) (attempts : List (ℕ × String))
    (answer : ModelWorld δ → Except String β) (effect : ModelWorld δ → ModelWorld δ)
    (world : ModelWorld δ) : ModelWorld δ :=
  match answer world with
  | .ok _ => effect (world.called execution kind attempts)
  | .error _ => world.called execution kind attempts

/-- One call to the provider.  Where the reply is lost the call may have been started. -/
def providerCall (execution : String) (kind : ProviderCallKind) (attempts : List (ℕ × String))
    (answer : ModelWorld δ → Except String β) (effect : ModelWorld δ → ModelWorld δ) :
    ModelProgram δ β := do
  let result ← syscallTorn (fun _ => JobHandlerError.new "batch_network_uncertain")
    (fun world => .ok (answer world, answered execution kind attempts answer effect world))
    fun progress world =>
      if progress = 0 then world else answered execution kind attempts answer effect world
  ofExcept (result.mapError .new)

end

/-! ## The table of batches -/

section

variable {δ : Type} (rules : TaggingRules δ)

def modelBatch (batches : List (ModelBatchRow δ)) (id : String) : Option (ModelBatchRecord δ) :=
  (batches.find? fun row => row.id = id).map ModelBatchRecord.decode

def pendingModelBatch (batches : List (ModelBatchRow δ)) : Option (ModelBatchRecord δ) :=
  (batches.find? fun row => BatchState.isOpen row.state).map ModelBatchRecord.decode

/-- Looks for a pending batch and inserts under one admission. -/
def createModelBatch (execution : String) (record : ModelBatchRecord δ) : ModelProgram δ Bool :=
  writeCall "assistant_storage_failed" fun world =>
    if maxBatchDocumentBytes < rules.documentBytes record.document then .error .invalidInput
    else if (pendingModelBatch world.batches).isSome = true then .ok (false, world)
    else if record.id ∈ world.batches.map ModelBatchRow.id then .error .alreadyExists
    else
      .ok (true, { world with
        batches := world.batches ++
          [{ record.encode with inputFileId := none, remoteBatchId := none }]
        creators := (record.id, execution) :: world.creators })

/-- `UPDATE … WHERE id=? AND connection_id=? AND state=?`. -/
def matchesUpdate (expected : BatchState) (record : ModelBatchRecord δ) (row : ModelBatchRow δ) :
    Bool :=
  row.id = record.id && row.connectionId = record.connectionId && row.state = expected.asStr

def updateModelBatch (expected : BatchState) (record : ModelBatchRecord δ) :
    ModelProgram δ Bool :=
  writeCall "assistant_storage_failed" fun world =>
    if maxBatchDocumentBytes < rules.documentBytes record.document then .error .invalidInput
    else
      .ok (world.batches.countP (matchesUpdate expected record) = 1, { world with
        batches := world.batches.map fun row =>
          if matchesUpdate expected record row = true then record.encode else row })

/-- Moves a row to its next state, if it is still in the one of the record. -/
def persist (record : ModelBatchRecord δ) (next : BatchState) :
    ModelProgram δ (ModelBatchRecord δ) := do
  let record' := { record with state := next }
  let changed ← updateModelBatch rules record.state record'
  if changed = true then return record' else fail (.new "batch_state_changed")

end

end MusicServer
