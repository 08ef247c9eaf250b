/-
# Requests that are recorded before they go out

A model job announces each attempt in its checkpoint before the request goes out, and settles it
when the answer is there.  A batch is announced as a whole.  Whatever happens between two steps,
a request that may have gone out is one the last stored checkpoint counts as uncertain, within the
limits of its run.
-/
import MusicServer.BatchJobs
import MusicServer.Interleaving

namespace MusicServer

open CrashProgram Program Transition ProviderUsageAccumulator

/-! ## Recorded requests -/

def typedDecisionContract : String := "typed-decisions/v1"

/-- A request for native decisions, its questions as they are encoded. -/
structure TypedDecisionRequest where
  state : Json
  questions : JsonObject

/-- The checks the transports make of a request before they send it. -/
structure RecordedRules (δ : Type) extends TaggingRules δ where
  validateRequest : ProviderExecutionTarget → StructuredModelRequest → Except String Unit
  validateTypedRequest : ProviderExecutionTarget → TypedDecisionRequest → Except String Unit

section

variable {δ : Type}

/-- The ledger counts a request for decisions as a structured one. -/
def accountingRequest (rules : RecordedRules δ) (request : TypedDecisionRequest) :
    StructuredModelRequest :=
  ⟨typedDecisionContract,
    rules.encode (.object [("questions", .object request.questions), ("state", request.state)]),
    0, none, none⟩

/-- The result of a request that did not pass its check. -/
def preflightRejected (code : String) : StructuredModelResult :=
  ⟨⟨none, none, none⟩, .preflightRejected, false, some code, none, none, none, none, none⟩

/-- The result of a request whose answer never came. -/
def answerLost : StructuredModelResult :=
  ⟨⟨none, none, none⟩, .uncertain, false, some "network_error", none, none, none, none, none⟩

/-- The network call of a structured or a typed request, with the time it took. -/
def structuredCall (execution : String) (announced : ℕ × String) :
    ModelProgram δ (StructuredModelResult × ℕ) := do
  let answer ← (providerCall execution .structured [announced]
    (fun world => .ok (world.provider.structured world.calls.length,
      world.provider.elapsedMs world.calls.length)) id).attempt
  return answer.toOption.getD (answerLost, 0)

/-- What a recorded request leaves to its job: its result, or why there is none, and the ledger. -/
abbrev Recorded := Except JobHandlerError StructuredModelResult × ProviderUsageAccumulator

/-- Settles the last attempt and stores the ledger. -/
def settleRecorded (execution : String) (usage : ProviderUsageAccumulator)
    (result : StructuredModelResult) (elapsedMs : ℕ) : ModelProgram δ Recorded := do
  let settled := usage.finish result elapsedMs
  let stored ← (checkpointCall execution settled).attempt
  return (stored.map fun _ => result, settled)

/-- Sends a request whose attempt is stored. -/
def sendAnnounced (execution : String) (fingerprint : String) (usage : ProviderUsageAccumulator) :
    ModelProgram δ Recorded := do
  let checked ← checkCancelledCall.attempt
  match checked with
  | .error error => return (.error error, usage)
  | .ok () =>
    let answer ← structuredCall execution (usage.summary.attemptedRequests, fingerprint)
    settleRecorded execution usage answer.1 answer.2

/-- Stores the attempt, then sends the request. -/
def announceAndSend (execution : String) (fingerprint : String)
    (usage : ProviderUsageAccumulator) : ModelProgram δ Recorded := do
  let stored ← (checkpointCall execution usage).attempt
  match stored with
  | .error error => return (.error error, usage)
  | .ok () => sendAnnounced execution fingerprint usage

/-- The common body of both kinds of requests: `accounting` is what the ledger counts. -/
def executeRecorded (rules : RecordedRules δ) (execution : String) (role : ResolvedRoleExecution)
    (accounting : StructuredModelRequest) (validated : Except String Unit)
    (usage : ProviderUsageAccumulator) : ModelProgram δ Recorded := do
  let checked ← checkCancelledCall.attempt
  match checked, begin rules.toUsageRules usage role accounting with
  | .error error, _ => return (.error error, usage)
  | .ok (), .error error => return (.error error, usage)
  | .ok (), .ok begun =>
    match validated with
    | .error code => settleRecorded execution begun (preflightRejected code) 0
    | .ok () => announceAndSend execution (rules.requestFingerprint accounting) begun

def executeRecordedProviderRequest (rules : RecordedRules δ) (execution : String)
    (role : ResolvedRoleExecution) (request : StructuredModelRequest)
    (usage : ProviderUsageAccumulator) : ModelProgram δ Recorded :=
  executeRecorded rules execution role request (rules.validateRequest role.execution request) usage

def executeRecordedTypedRequest (rules : RecordedRules δ) (execution : String)
    (role : ResolvedRoleExecution) (request : TypedDecisionRequest)
    (usage : ProviderUsageAccumulator) : ModelProgram δ Recorded :=
  executeRecorded rules execution role (accountingRequest rules request)
    (rules.validateTypedRequest role.execution request) usage

/-! ## Model jobs -/

/-- What a model job does with its ledger: requests, whose results decide how it goes on, and
reports of its progress. -/
inductive ModelJob where
  | finish
  | structured (role : ResolvedRoleExecution) (request : StructuredModelRequest)
      (next : Except JobHandlerError StructuredModelResult → ModelJob)
  | typed (role : ResolvedRoleExecution) (request : TypedDecisionRequest)
      (next : Except JobHandlerError StructuredModelResult → ModelJob)
  | report (progress : Json) (next : Except JobHandlerError Unit → ModelJob)

def runModelJob (rules : RecordedRules δ) (execution : String) :
    ModelJob → ProviderUsageAccumulator → ModelProgram δ Unit
  | .finish, _ => return ()
  | .structured role request next, usage => do
    let recorded ← executeRecordedProviderRequest rules execution role request usage
    runModelJob rules execution (next recorded.1) recorded.2
  | .typed role request next, usage => do
    let recorded ← executeRecordedTypedRequest rules execution role request usage
    runModelJob rules execution (next recorded.1) recorded.2
  | .report progress next, usage => do
    let stored ← (checkpointCall execution (usage.setFeatureProgress progress)).attempt
    runModelJob rules execution (next stored) (usage.setFeatureProgress progress)

/-- Sets a limit for the tokens of a run, where the job has one. -/
def limitRun (execution : String) (limit : Option ℕ) (usage : ProviderUsageAccumulator) :
    ModelProgram δ ProviderUsageAccumulator :=
  match limit with
  | none => return usage
  | some maximum => do
    checkpointCall execution (usage.limitTokenReservation maximum)
    return usage.limitTokenReservation maximum

/-- A model job from its first checkpoint on. -/
def modelJobRun (rules : RecordedRules δ) (execution jobId : String)
    (queueWaitSeconds : Option ℕ) (role : ResolvedRoleExecution) (purpose : ModelRunPurpose)
    (limit : Option ℕ) (job : ModelJob) : ModelProgram δ Unit := do
  let usage ← startModelRun execution jobId queueWaitSeconds role purpose
  let usage ← limitRun execution limit usage
  runModelJob rules execution job usage

end

end MusicServer
