/-
# The ledger of provider usage

A model run counts its requests before they go out and settles them when they come back.  An
attempt is uncertain from the moment it is begun until its result is known, and the ledger keeps
the records of the last attempts only.  Its limits are checked when an attempt is begun.
-/
import MusicServer.JobService
import MusicServer.PlaybackState
import MusicServer.ReviewEvidence

namespace MusicServer

/-! ## Roles, requests and results -/

structure ProviderExecutionTarget where
  adapterId : String
  baseUrl : String
  modelId : String
  timeoutSeconds : ℕ
  maxOutputTokens : ℕ
  thinkingMode : ThinkingMode
  deriving DecidableEq

structure ResolvedRoleExecution where
  inferenceFingerprint : String
  connectionId : String
  roleId : String
  execution : ProviderExecutionTarget
  fingerprint : String
  roleConfigurationFingerprint : String
  connectionFingerprint : String
  deriving DecidableEq

structure StructuredModelRequest where
  systemPrompt : String
  userPrompt : String
  maxOutputTokens : ℕ
  outputSchemaName : Option String
  outputSchema : Option Json

/-- Transport facts, independent of schema validation and provider billing. -/
inductive ProviderAttemptOutcome where
  | preflightRejected
  | notSent
  | responseReceived
  | uncertain
  deriving DecidableEq

structure ModelTokenDetails where
  cachedInputTokens : Option ℕ
  cacheWriteTokens : Option ℕ
  reasoningOutputTokens : Option ℕ
  deriving DecidableEq

structure StructuredModelResult where
  tokenDetails : ModelTokenDetails
  outcome : ProviderAttemptOutcome
  succeeded : Bool
  errorCode : Option String
  payload : Option Json
  providerModelId : Option String
  finishReason : Option String
  inputTokens : Option ℕ
  outputTokens : Option ℕ

/-! ## The manifest of a run -/

inductive ModelReviewDestination where
  | eqAuthoring
  | playlistPreview
  | tagCleanupReview
  | libraryCleanupReview
  | trackTagReview
  | qualityEvaluation
  deriving DecidableEq

/-- Frozen before execution; only fingerprints of scope and evidence are retained. -/
structure ModelRunManifest where
  schemaVersion : String
  jobId : String
  roleId : String
  roleFingerprint : String
  roleConfigurationFingerprint : String
  connectionFingerprint : String
  adapterId : String
  modelId : String
  thinkingMode : ThinkingMode
  timeoutSeconds : ℕ
  maxOutputTokensPerRequest : ℕ
  maxAttempts : ℕ
  outputTokenCeiling : ℕ
  evaluationId : String
  disclosureVersion : Option String
  scopeFingerprint : String
  evidenceFingerprint : String
  reviewDestination : ModelReviewDestination
  queueWaitSeconds : Option ℕ
  maxTokenReservation : Option ℕ
  deriving DecidableEq

structure ModelRunPurpose where
  evaluationId : String
  disclosureVersion : Option String
  scopeFingerprint : String
  evidenceFingerprint : String
  maxAttempts : ℕ
  destination : ModelReviewDestination
  deriving DecidableEq

def effectiveOutputAllowance (role : ResolvedRoleExecution) : ℕ :=
  if role.execution.adapterId = typesafeAdapter then 0 else role.execution.maxOutputTokens

namespace JobHandlerError

def new (code : String) : JobHandlerError := ⟨code, .failed⟩

def fromExecution : JobExecutionError → JobHandlerError
  | .cancelled => ⟨"job cancellation was requested", .cancelled⟩
  | .stopping => ⟨"job runner is stopping", .stopping⟩
  | .leaseLost => ⟨"job execution lease was lost", .leaseLost⟩
  | .dependency => ⟨"job storage is unavailable", .dependency⟩

end JobHandlerError

def ModelRunManifest.new (jobId : String) (queueWaitSeconds : Option ℕ)
    (role : ResolvedRoleExecution) (purpose : ModelRunPurpose) :
    Except JobHandlerError ModelRunManifest :=
  let maxOutputTokens := effectiveOutputAllowance role
  if u64Max < purpose.maxAttempts ∨ u64Max < purpose.maxAttempts * maxOutputTokens then
    .error (.new "model_run_budget_overflow")
  else
    .ok
      { schemaVersion := "assistant-model-run/v1"
        jobId := jobId
        roleId := role.roleId
        roleFingerprint := role.fingerprint
        roleConfigurationFingerprint := role.roleConfigurationFingerprint
        connectionFingerprint := role.connectionFingerprint
        adapterId := role.execution.adapterId
        modelId := role.execution.modelId
        thinkingMode := role.execution.thinkingMode
        timeoutSeconds := role.execution.timeoutSeconds
        maxOutputTokensPerRequest := maxOutputTokens
        maxAttempts := purpose.maxAttempts
        outputTokenCeiling := purpose.maxAttempts * maxOutputTokens
        evaluationId := purpose.evaluationId
        disclosureVersion := purpose.disclosureVersion
        scopeFingerprint := purpose.scopeFingerprint
        evidenceFingerprint := purpose.evidenceFingerprint
        reviewDestination := purpose.destination
        queueWaitSeconds := queueWaitSeconds
        maxTokenReservation := none }

/-! ## The summary -/

structure ProviderAttemptRecord where
  sequence : ℕ
  requestFingerprint : String
  maxOutputTokens : ℕ
  outcome : ProviderAttemptOutcome
  elapsedMs : Option ℕ
  deriving DecidableEq

structure ProviderTokenUsage where
  cachedInputTokens : ℕ
  cachedInputReportedRequests : ℕ
  cacheWriteTokens : ℕ
  cacheWriteReportedRequests : ℕ
  reasoningOutputTokens : ℕ
  reasoningOutputReportedRequests : ℕ
  deriving DecidableEq

structure ProviderUsageSummary where
  tokenDetails : ProviderTokenUsage
  reservedTokens : ℕ
  schemaVersion : String
  attemptedRequests : ℕ
  inputTokens : ℕ
  outputTokens : ℕ
  inputTokensReportedRequests : ℕ
  outputTokensReportedRequests : ℕ
  providerModelIds : List String
  providerModelIdsTruncated : Bool
  preflightRejectedRequests : ℕ
  notSentRequests : ℕ
  responseReceivedRequests : ℕ
  uncertainRequests : ℕ
  responsesMissingUsage : ℕ
  completedAttemptElapsedMs : ℕ
  attempts : List ProviderAttemptRecord
  attemptsTruncated : Bool
  runManifest : ModelRunManifest
  deriving DecidableEq

structure ProviderUsageAccumulator where
  summary : ProviderUsageSummary
  pending : Bool
  featureProgress : Option Json

def maxProviderModelIds : ℕ := 8

def maxAttemptRecords : ℕ := 128

/-- The encodings the ledger takes of a request: the digest of its text, and the length of its
schema. -/
structure UsageRules where
  requestFingerprint : StructuredModelRequest → String
  schemaBytes : Json → ℕ

def modelRequestReservation (rules : UsageRules) (request : StructuredModelRequest)
    (outputLimit : ℕ) : ℕ :=
  let schemaBytes := (request.outputSchema.map rules.schemaBytes).getD 0
  request.systemPrompt.utf8ByteSize + request.userPrompt.utf8ByteSize + schemaBytes + 1024 +
    min request.maxOutputTokens outputLimit

namespace ProviderUsageAccumulator

def resume (summary : ProviderUsageSummary) : ProviderUsageAccumulator := ⟨summary, false, none⟩

def forRun (runManifest : ModelRunManifest) : ProviderUsageAccumulator where
  summary :=
    { tokenDetails := ⟨0, 0, 0, 0, 0, 0⟩
      reservedTokens := 0
      schemaVersion := "assistant-provider-usage/v2"
      attemptedRequests := 0
      inputTokens := 0
      outputTokens := 0
      inputTokensReportedRequests := 0
      outputTokensReportedRequests := 0
      providerModelIds := []
      providerModelIdsTruncated := false
      preflightRejectedRequests := 0
      notSentRequests := 0
      responseReceivedRequests := 0
      uncertainRequests := 0
      responsesMissingUsage := 0
      completedAttemptElapsedMs := 0
      attempts := []
      attemptsTruncated := false
      runManifest := runManifest }
  pending := false
  featureProgress := none

def limitTokenReservation (usage : ProviderUsageAccumulator) (maximum : ℕ) :
    ProviderUsageAccumulator :=
  { usage with
    summary := { usage.summary with
      runManifest := { usage.summary.runManifest with maxTokenReservation := some maximum } } }

def setFeatureProgress (usage : ProviderUsageAccumulator) (progress : Json) :
    ProviderUsageAccumulator :=
  { usage with featureProgress := some progress }

/-- The role is still the one of the manifest. -/
def sameRole (manifest : ModelRunManifest) (role : ResolvedRoleExecution) : Bool :=
  role.roleId = manifest.roleId && role.fingerprint = manifest.roleFingerprint &&
    role.roleConfigurationFingerprint = manifest.roleConfigurationFingerprint &&
    role.connectionFingerprint = manifest.connectionFingerprint &&
    role.execution.adapterId = manifest.adapterId && role.execution.modelId = manifest.modelId &&
    role.execution.thinkingMode = manifest.thinkingMode &&
    role.execution.timeoutSeconds = manifest.timeoutSeconds &&
    effectiveOutputAllowance role = manifest.maxOutputTokensPerRequest

/-- The records of the attempts with one more, and the first dropped where they are full. -/
def pushAttempt (summary : ProviderUsageSummary) (record : ProviderAttemptRecord) :
    ProviderUsageSummary :=
  if summary.attempts.length = maxAttemptRecords then
    { summary with attempts := summary.attempts.tail ++ [record], attemptsTruncated := true }
  else { summary with attempts := summary.attempts ++ [record] }

/-- Counts an attempt as uncertain before anything is sent. -/
def begin (rules : UsageRules) (usage : ProviderUsageAccumulator) (role : ResolvedRoleExecution)
    (request : StructuredModelRequest) : Except JobHandlerError ProviderUsageAccumulator :=
  let manifest := usage.summary.runManifest
  if usage.pending = true ∨ manifest.maxAttempts ≤ usage.summary.attemptedRequests then
    .error (.new "model_run_request_budget_exhausted")
  else if sameRole manifest role = false then .error (.new "role_changed")
  else
    let reservation := modelRequestReservation rules request role.execution.maxOutputTokens
    let reserved := saturatingAdd usage.summary.reservedTokens reservation
    if manifest.maxTokenReservation.any fun maximum => maximum < reserved then
      .error (.new "model_run_token_budget_exhausted")
    else
      let sequence := usage.summary.attemptedRequests + 1
      let counted : ProviderUsageSummary :=
        { usage.summary with
          reservedTokens := reserved
          attemptedRequests := sequence
          uncertainRequests := usage.summary.uncertainRequests + 1 }
      .ok
        { usage with
          summary := pushAttempt counted
            ⟨sequence, rules.requestFingerprint request,
              min request.maxOutputTokens manifest.maxOutputTokensPerRequest, .uncertain, none⟩
          pending := true }

def reserveBatch (rules : UsageRules) (role : ResolvedRoleExecution) :
    ProviderUsageAccumulator → List StructuredModelRequest →
      Except JobHandlerError ProviderUsageAccumulator
  | usage, [] => .ok usage
  | usage, request :: rest =>
    match begin rules usage role request with
    | .ok usage' => reserveBatch rules role { usage' with pending := false } rest
    | .error error => .error error

/-- A reported number of tokens, added to its total, and its report counted. -/
def report (value : Option ℕ) (total reported : ℕ) : ℕ × ℕ :=
  match value with
  | some value => (saturatingAdd total value, reported + 1)
  | none => (total, reported)

/-- Gives the record of an attempt its outcome. -/
def settleAttempt (sequence : ℕ) (outcome : ProviderAttemptOutcome) (elapsedMs : ℕ) :
    List ProviderAttemptRecord → List ProviderAttemptRecord
  | [] => []
  | attempt :: rest =>
    if attempt.sequence = sequence then
      { attempt with outcome := outcome, elapsedMs := some elapsedMs } :: rest
    else attempt :: settleAttempt sequence outcome elapsedMs rest

/-- Takes one attempt from the uncertain ones and counts it under its outcome. -/
def countOutcome (summary : ProviderUsageSummary) (outcome : ProviderAttemptOutcome) :
    ProviderUsageSummary :=
  let summary := { summary with uncertainRequests := summary.uncertainRequests - 1 }
  match outcome with
  | .preflightRejected =>
    { summary with preflightRejectedRequests := summary.preflightRejectedRequests + 1 }
  | .notSent => { summary with notSentRequests := summary.notSentRequests + 1 }
  | .responseReceived =>
    { summary with responseReceivedRequests := summary.responseReceivedRequests + 1 }
  | .uncertain => { summary with uncertainRequests := summary.uncertainRequests + 1 }

/-- Remembers which models answered, up to a limit. -/
def noteModel (summary : ProviderUsageSummary) (modelId : Option String) : ProviderUsageSummary :=
  match modelId.filter fun modelId => modelId ≠ "" && modelId.length ≤ 256 with
  | none => summary
  | some modelId =>
    if modelId ∈ summary.providerModelIds then summary
    else if summary.providerModelIds.length < maxProviderModelIds then
      { summary with providerModelIds := summary.providerModelIds ++ [modelId] }
    else { summary with providerModelIdsTruncated := true }

/-- Adds what a result reports of its tokens. -/
def noteTokens (summary : ProviderUsageSummary) (result : StructuredModelResult) :
    ProviderUsageSummary :=
  let cached := report result.tokenDetails.cachedInputTokens
    summary.tokenDetails.cachedInputTokens summary.tokenDetails.cachedInputReportedRequests
  let written := report result.tokenDetails.cacheWriteTokens
    summary.tokenDetails.cacheWriteTokens summary.tokenDetails.cacheWriteReportedRequests
  let reasoning := report result.tokenDetails.reasoningOutputTokens
    summary.tokenDetails.reasoningOutputTokens summary.tokenDetails.reasoningOutputReportedRequests
  let input := report result.inputTokens summary.inputTokens summary.inputTokensReportedRequests
  let output := report result.outputTokens summary.outputTokens
    summary.outputTokensReportedRequests
  { summary with
    tokenDetails := ⟨cached.1, cached.2, written.1, written.2, reasoning.1, reasoning.2⟩
    responsesMissingUsage := summary.responsesMissingUsage +
      if result.outcome = .responseReceived ∧
        (result.inputTokens.isNone = true ∨ result.outputTokens.isNone = true) then 1 else 0
    inputTokens := input.1
    inputTokensReportedRequests := input.2
    outputTokens := output.1
    outputTokensReportedRequests := output.2 }

/-- The summary once an attempt has its result, the model's name apart. -/
def settle (summary : ProviderUsageSummary) (sequence : ℕ) (result : StructuredModelResult)
    (elapsedMs : ℕ) : ProviderUsageSummary :=
  let counted := countOutcome (noteTokens summary result) result.outcome
  { counted with
    attempts := settleAttempt sequence result.outcome elapsedMs counted.attempts
    completedAttemptElapsedMs := saturatingAdd counted.completedAttemptElapsedMs elapsedMs }

def finishAt (usage : ProviderUsageAccumulator) (sequence : ℕ) (result : StructuredModelResult)
    (elapsedMs : ℕ) : ProviderUsageAccumulator :=
  { usage with
    summary := noteModel (settle usage.summary sequence result elapsedMs) result.providerModelId
    pending := false }

def finish (usage : ProviderUsageAccumulator) (result : StructuredModelResult) (elapsedMs : ℕ) :
    ProviderUsageAccumulator :=
  finishAt usage usage.summary.attemptedRequests result elapsedMs

def observeBatchResult (usage : ProviderUsageAccumulator) (sequence : ℕ)
    (result : StructuredModelResult) : ProviderUsageAccumulator :=
  finishAt usage sequence result 0

end ProviderUsageAccumulator

/-! ## What the ledger keeps -/

open ProviderUsageAccumulator

/-- The numbers of the last attempts, in their order. -/
def lastAttempts (attempted : ℕ) : List ℕ :=
  List.range' (attempted - min attempted maxAttemptRecords + 1) (min attempted maxAttemptRecords)

/-- A summary whose counters add up, within its limits, with the records of the last attempts. -/
structure Balanced (summary : ProviderUsageSummary) : Prop where
  balance : summary.attemptedRequests = summary.preflightRejectedRequests +
    summary.notSentRequests + summary.responseReceivedRequests + summary.uncertainRequests
  attempted_le : summary.attemptedRequests ≤ summary.runManifest.maxAttempts
  reserved_le : ∀ maximum ∈ summary.runManifest.maxTokenReservation,
    summary.reservedTokens ≤ maximum
  window : summary.attempts.map ProviderAttemptRecord.sequence
    = lastAttempts summary.attemptedRequests

/-- The last attempt is recorded, and as uncertain. -/
def LastUncertain (summary : ProviderUsageSummary) : Prop :=
  1 ≤ summary.uncertainRequests ∧
    ∃ record ∈ summary.attempts, record.sequence = summary.attemptedRequests ∧
      record.outcome = .uncertain ∧ record.elapsedMs = none

def AllUncertain (summary : ProviderUsageSummary) : Prop :=
  summary.uncertainRequests = summary.attemptedRequests ∧
    ∀ record ∈ summary.attempts, record.outcome = .uncertain

theorem balanced_forRun (manifest : ModelRunManifest)
    (h : manifest.maxTokenReservation = none) : Balanced (forRun manifest).summary where
  balance := rfl
  attempted_le := Nat.zero_le _
  reserved_le := by
    intro maximum hmaximum
    rw [show (forRun manifest).summary.runManifest = manifest from rfl, h] at hmaximum
    exact absurd hmaximum (Option.not_mem_none _)
  window := rfl

variable {role : ResolvedRoleExecution}

theorem maxTokenReservation_new {jobId : String} {queueWaitSeconds : Option ℕ}
    {purpose : ModelRunPurpose} {manifest : ModelRunManifest}
    (h : ModelRunManifest.new jobId queueWaitSeconds role purpose = .ok manifest) :
    manifest.maxTokenReservation = none ∧ manifest.maxAttempts = purpose.maxAttempts := by
  unfold ModelRunManifest.new at h
  simp only at h
  split at h
  · cases h
  · cases h
    exact ⟨rfl, rfl⟩

theorem balanced_limit {usage : ProviderUsageAccumulator} (h : Balanced usage.summary)
    (hnone : usage.summary.reservedTokens = 0) (maximum : ℕ) :
    Balanced (usage.limitTokenReservation maximum).summary where
  balance := h.balance
  attempted_le := h.attempted_le
  reserved_le := by
    intro limit _
    show usage.summary.reservedTokens ≤ limit
    rw [hnone]
    exact Nat.zero_le _
  window := h.window

theorem range'_shift (start length : ℕ) :
    List.range' (start + 1) (length + 1)
      = (List.range' start (length + 1)).tail ++ [start + length + 1] := by
  rw [List.range'_concat, List.range'_succ, List.tail_cons]
  simp only [Nat.one_mul]
  rw [Nat.add_right_comm]

theorem lastAttempts_succ (attempted : ℕ) :
    lastAttempts (attempted + 1)
      = (if attempted < maxAttemptRecords then lastAttempts attempted
          else (lastAttempts attempted).tail) ++ [attempted + 1] := by
  obtain ⟨size, hsize⟩ : ∃ size, maxAttemptRecords = size + 1 := ⟨127, rfl⟩
  unfold lastAttempts
  rw [hsize]
  split
  · next h =>
    rw [min_eq_left (by omega : attempted + 1 ≤ size + 1),
      min_eq_left (by omega : attempted ≤ size + 1), Nat.sub_self, Nat.sub_self,
      List.range'_concat]
    simp only [Nat.zero_add, Nat.one_mul]
    rw [Nat.add_comm 1 attempted]
  · next h =>
    rw [min_eq_right (by omega : size + 1 ≤ attempted + 1),
      min_eq_right (by omega : size + 1 ≤ attempted)]
    obtain ⟨start, hstart⟩ : ∃ start, attempted = start + (size + 1) :=
      ⟨attempted - (size + 1), by omega⟩
    subst hstart
    have hbefore : start + (size + 1) - (size + 1) + 1 = start + 1 := by omega
    have hafter : start + (size + 1) + 1 - (size + 1) + 1 = start + 1 + 1 := by omega
    rw [hbefore, hafter, range'_shift]
    congr 2
    omega

theorem length_lastAttempts (attempted : ℕ) :
    (lastAttempts attempted).length = min attempted maxAttemptRecords := List.length_range'

variable {usage usage' : ProviderUsageAccumulator} {rules : UsageRules}

theorem begin_ok {request : StructuredModelRequest}
    (h : begin rules usage role request = .ok usage') (hbalanced : Balanced usage.summary) :
    usage'.pending = true ∧ Balanced usage'.summary ∧ LastUncertain usage'.summary ∧
      usage'.summary.attemptedRequests = usage.summary.attemptedRequests + 1 ∧
      usage'.summary.uncertainRequests = usage.summary.uncertainRequests + 1 ∧
      (AllUncertain usage.summary → AllUncertain usage'.summary) := by
  unfold begin at h
  simp only at h
  split at h
  · cases h
  · next hroom =>
    split at h
    · cases h
    · split at h
      · cases h
      · next hreserved =>
        cases h
        rw [not_or, not_le] at hroom
        have hlength : usage.summary.attempts.length
            = min usage.summary.attemptedRequests maxAttemptRecords := by
          rw [← length_lastAttempts, ← hbalanced.window, List.length_map]
        have hsplit : usage.summary.attempts.length = maxAttemptRecords ↔
            ¬ usage.summary.attemptedRequests < maxAttemptRecords := by
          rw [hlength]
          omega
        refine ⟨rfl, ⟨?_, ?_, ?_, ?_⟩, ⟨?_, ?_⟩, ?_, ?_, ?_⟩
        all_goals unfold pushAttempt
        · have := hbalanced.balance
          split <;> simp only <;> omega
        · split <;> exact hroom.2
        · intro maximum hmaximum
          have hlimit : usage.summary.runManifest.maxTokenReservation = some maximum := by
            split at hmaximum <;> exact hmaximum
          rw [hlimit, Option.any_some, decide_eq_true_eq, not_lt] at hreserved
          split <;> exact hreserved
        · simp only [hsplit]
          split
          · next hfull =>
            simp only [lastAttempts_succ]
            rw [if_neg hfull, List.map_append, List.map_tail, hbalanced.window]
            rfl
          · next hroom' =>
            simp only [lastAttempts_succ]
            rw [if_pos (not_not.mp hroom'), List.map_append, hbalanced.window]
            rfl
        · split <;> exact Nat.le_add_left _ _
        · split
          · exact ⟨_, List.mem_append_right _ (List.mem_singleton.mpr rfl), rfl, rfl, rfl⟩
          · exact ⟨_, List.mem_append_right _ (List.mem_singleton.mpr rfl), rfl, rfl, rfl⟩
        · split <;> rfl
        · split <;> rfl
        · rintro ⟨hall, hrecords⟩
          refine ⟨?_, ?_⟩
          · split <;> exact congrArg (· + 1) hall
          · intro record hrecord
            split at hrecord
            · rcases List.mem_append.mp hrecord with hold | hnew
              · exact hrecords record (List.mem_of_mem_tail hold)
              · rw [List.mem_singleton.mp hnew]
            · rcases List.mem_append.mp hrecord with hold | hnew
              · exact hrecords record hold
              · rw [List.mem_singleton.mp hnew]

theorem map_sequence_settleAttempt (sequence : ℕ) (outcome : ProviderAttemptOutcome)
    (elapsedMs : ℕ) (attempts : List ProviderAttemptRecord) :
    (settleAttempt sequence outcome elapsedMs attempts).map ProviderAttemptRecord.sequence
      = attempts.map ProviderAttemptRecord.sequence := by
  induction attempts with
  | nil => rfl
  | cons attempt rest ih =>
    unfold settleAttempt
    split
    · rfl
    · rw [List.map_cons, ih, List.map_cons]

theorem noteModel_kept (summary : ProviderUsageSummary) (modelId : Option String) :
    noteModel summary modelId = { summary with
      providerModelIds := (noteModel summary modelId).providerModelIds
      providerModelIdsTruncated := (noteModel summary modelId).providerModelIdsTruncated } := by
  unfold noteModel
  split
  · rfl
  · split
    · rfl
    · split <;> rfl

/-- Settling an attempt keeps what was attempted, reserved and allowed, and the numbers of the
records. -/
theorem finishAt_kept (usage : ProviderUsageAccumulator) (sequence : ℕ)
    (result : StructuredModelResult) (elapsedMs : ℕ) :
    (usage.finishAt sequence result elapsedMs).summary.attemptedRequests
        = usage.summary.attemptedRequests ∧
      (usage.finishAt sequence result elapsedMs).summary.reservedTokens
        = usage.summary.reservedTokens ∧
      (usage.finishAt sequence result elapsedMs).summary.runManifest
        = usage.summary.runManifest ∧
      (usage.finishAt sequence result elapsedMs).summary.attempts.map
          ProviderAttemptRecord.sequence
        = usage.summary.attempts.map ProviderAttemptRecord.sequence := by
  simp only [finishAt]
  rw [noteModel_kept]
  unfold settle
  cases result.outcome <;> exact ⟨rfl, rfl, rfl, map_sequence_settleAttempt _ _ _ _⟩

theorem finishAt_counts (usage : ProviderUsageAccumulator) (sequence : ℕ)
    (result : StructuredModelResult) (elapsedMs : ℕ) :
    (usage.finishAt sequence result elapsedMs).summary.uncertainRequests
        = usage.summary.uncertainRequests - 1 + (if result.outcome = .uncertain then 1 else 0) ∧
      (usage.finishAt sequence result elapsedMs).summary.preflightRejectedRequests +
        (usage.finishAt sequence result elapsedMs).summary.notSentRequests +
        (usage.finishAt sequence result elapsedMs).summary.responseReceivedRequests
        = usage.summary.preflightRejectedRequests + usage.summary.notSentRequests +
          usage.summary.responseReceivedRequests +
          (if result.outcome = .uncertain then 0 else 1) := by
  simp only [finishAt]
  rw [noteModel_kept]
  unfold settle
  cases result.outcome
  all_goals
    refine ⟨rfl, ?_⟩
    simp only [countOutcome, noteTokens, reduceCtorEq, if_false, if_true]
    omega

theorem balanced_finishAt {usage : ProviderUsageAccumulator} (h : Balanced usage.summary)
    (huncertain : 1 ≤ usage.summary.uncertainRequests) (sequence : ℕ)
    (result : StructuredModelResult) (elapsedMs : ℕ) :
    Balanced (usage.finishAt sequence result elapsedMs).summary := by
  obtain ⟨hattempted, hreserved, hmanifest, hsequences⟩ :=
    finishAt_kept usage sequence result elapsedMs
  obtain ⟨hleft, hsettled⟩ := finishAt_counts usage sequence result elapsedMs
  refine ⟨?_, ?_, ?_, ?_⟩
  · have := h.balance
    rw [hattempted, hsettled, hleft]
    split <;> omega
  · rw [hattempted, hmanifest]
    exact h.attempted_le
  · rw [hreserved, hmanifest]
    exact h.reserved_le
  · rw [hsequences, hattempted]
    exact h.window

theorem uncertain_finishAt (usage : ProviderUsageAccumulator) (sequence : ℕ)
    (result : StructuredModelResult) (elapsedMs : ℕ) :
    usage.summary.uncertainRequests
      ≤ (usage.finishAt sequence result elapsedMs).summary.uncertainRequests + 1 := by
  rw [(finishAt_counts usage sequence result elapsedMs).1]
  omega

theorem reserveBatch_ok {requests : List StructuredModelRequest}
    (h : reserveBatch rules role usage requests = .ok usage') (hbalanced : Balanced usage.summary)
    (hall : AllUncertain usage.summary) :
    Balanced usage'.summary ∧ AllUncertain usage'.summary ∧
      usage'.summary.attemptedRequests = usage.summary.attemptedRequests + requests.length := by
  induction requests generalizing usage with
  | nil =>
    cases h
    exact ⟨hbalanced, hall, rfl⟩
  | cons request rest ih =>
    unfold reserveBatch at h
    split at h
    · next begun hbegun =>
      obtain ⟨_, hbalanced', _, hattempted, _, hall'⟩ := begin_ok hbegun hbalanced
      obtain ⟨hresult, hresult', hcount⟩ := ih h hbalanced' (hall' hall)
      refine ⟨hresult, hresult', ?_⟩
      rw [hcount, List.length_cons]
      show begun.summary.attemptedRequests + rest.length = _
      rw [hattempted]
      omega
    · cases h

/-! ## The records of the attempts -/

/-- The number of an attempt and the digest of its request. -/
def ProviderAttemptRecord.key (record : ProviderAttemptRecord) : ℕ × String :=
  (record.sequence, record.requestFingerprint)

theorem begin_recorded {request : StructuredModelRequest}
    (h : begin rules usage role request = .ok usage') :
    ∃ kept record, kept <:+ usage.summary.attempts ∧
      usage'.summary.attempts = kept ++ [record] ∧
      record.key = (usage.summary.attemptedRequests + 1, rules.requestFingerprint request) ∧
      record.outcome = .uncertain := by
  unfold begin at h
  simp only at h
  split at h
  · cases h
  · split at h
    · cases h
    · split at h
      · cases h
      · cases h
        unfold pushAttempt
        split
        · exact ⟨_, _, List.tail_suffix _, rfl, rfl, rfl⟩
        · exact ⟨_, _, List.suffix_refl _, rfl, rfl, rfl⟩

/-- The attempts that a batch announces, by number and digest. -/
def announcedFrom (rules : UsageRules) (attempted : ℕ) (requests : List StructuredModelRequest) :
    List (ℕ × String) :=
  (requests.zipIdx attempted).map fun entry => (entry.2 + 1, rules.requestFingerprint entry.1)

theorem numbers_announcedFrom (rules : UsageRules) (attempted : ℕ)
    (requests : List StructuredModelRequest) :
    (announcedFrom rules attempted requests).map Prod.fst
      = List.range' (attempted + 1) requests.length := by
  unfold announcedFrom
  induction requests generalizing attempted with
  | nil => rfl
  | cons request rest ih =>
    rw [List.zipIdx_cons, List.map_cons, List.map_cons, ih, List.length_cons, List.range'_succ]

theorem reserveBatch_recorded {requests : List StructuredModelRequest}
    (h : reserveBatch rules role usage requests = .ok usage') (hbalanced : Balanced usage.summary)
    {before : List (ℕ × String)}
    (hbefore : usage.summary.attempts.map ProviderAttemptRecord.key <:+ before) :
    usage'.summary.attempts.map ProviderAttemptRecord.key
      <:+ before ++ announcedFrom rules usage.summary.attemptedRequests requests := by
  induction requests generalizing usage before with
  | nil =>
    cases h
    unfold announcedFrom
    rw [List.zipIdx_nil, List.map_nil, List.append_nil]
    exact hbefore
  | cons request rest ih =>
    unfold reserveBatch at h
    split at h
    · next begun hbegun =>
      obtain ⟨_, hbalanced', _, hattempted, _, _⟩ := begin_ok hbegun hbalanced
      obtain ⟨kept, record, hkept, hattempts, hkey, _⟩ := begin_recorded hbegun
      have hnow : begun.summary.attempts.map ProviderAttemptRecord.key
          <:+ before ++ [(usage.summary.attemptedRequests + 1, rules.requestFingerprint request)] := by
        rw [hattempts, List.map_append, List.map_singleton, hkey]
        obtain ⟨dropped, hdropped⟩ := (hkept.map ProviderAttemptRecord.key).trans hbefore
        exact ⟨dropped, by rw [← List.append_assoc, hdropped]⟩
      have hrest := ih h hbalanced' hnow
      rw [List.append_assoc, show ({ begun with pending := false } :
        ProviderUsageAccumulator).summary = begun.summary from rfl, hattempted] at hrest
      unfold announcedFrom at hrest ⊢
      rw [List.zipIdx_cons, List.map_cons]
      exact hrest
    · cases h

/-- An attempt among the last ones has a record, where the records end a list of attempts with
different numbers. -/
theorem exists_record {summary : ProviderUsageSummary} (h : Balanced summary)
    {announced : List (ℕ × String)}
    (hsuffix : summary.attempts.map ProviderAttemptRecord.key <:+ announced)
    (hnodup : (announced.map Prod.fst).Nodup) {attempt : ℕ × String} (hattempt : attempt ∈ announced)
    (hlast : attempt.1 ∈ lastAttempts summary.attemptedRequests) :
    ∃ record ∈ summary.attempts, record.key = attempt := by
  rw [← h.window] at hlast
  obtain ⟨record, hrecord, hsequence⟩ := List.mem_map.mp hlast
  refine ⟨record, hrecord, ?_⟩
  have hkey : record.key ∈ announced := hsuffix.subset (List.mem_map_of_mem hrecord)
  exact List.inj_on_of_nodup_map hnodup hkey hattempt hsequence

end MusicServer
