/-
# The answer to a batch of tagging requests

The model answers by slots.  An answer is taken when every slot of the batch is answered once, when
each choice of tags rests on evidence of the track in the slot, and when every tag is one of the
vocabulary; its slots are then put back to the ids of the tracks.
-/
import MusicServer.TaggerPlanning
import MusicServer.UsageLedger

namespace MusicServer.Tagging

open LibraryIndex

/-- The code of an error, and what is said about it. -/
structure DiagnosedError where
  code : String
  diagnostic : Option String
  deriving DecidableEq

def DiagnosedError.new (code : String) : DiagnosedError := ⟨code, none⟩

def DiagnosedError.invalidOutput (diagnostic : String) : DiagnosedError :=
  ⟨"model_output_schema_invalid", some diagnostic⟩

/-- The code of a failed execution; a code that is not plain is left out. -/
def safeExecutionError (code : Option String) : String :=
  match code with
  | none => "model_execution_failed"
  | some code =>
    if code ≠ "" ∧ code.utf8ByteSize ≤ 64 ∧
        (code.toList.all fun c => c.isLower || c.isDigit || c = '_') then
      "model_execution_" ++ code
    else "model_execution_failed"

/-! ## Choices -/

inductive TagSupport where
  | supported
  | tentative
  deriving DecidableEq

structure TagDecision where
  tag : String
  support : TagSupport
  evidence : List String
  evidenceIds : List String
  contradictionIds : List String
  deriving DecidableEq

structure ModelTagDecisionChoice where
  tagId : String
  support : TagSupport
  evidence : List String
  evidenceIds : List String
  contradictionIds : List String
  deriving DecidableEq

structure ModelTagTrackChoice where
  trackId : ℤ
  decisions : List ModelTagDecisionChoice
  abstentionReason : Option String
  deriving DecidableEq

structure ModelTaggerOutput where
  schemaVersion : String
  tracks : List ModelTagTrackChoice
  deriving DecidableEq

structure ModelTagTrackOutput where
  trackId : ℤ
  tags : List String
  decisions : List TagDecision
  evidence : List String
  deriving DecidableEq

def modelTaggerOutputContract : String := "assistant-music-tagger-output/v5"

def maxModelTagsPerTrack : ℕ := 8

def maxModelEvidenceItems : ℕ := 4

def maxModelEvidenceLength : ℕ := 512

def validExplanation (text : String) : Bool :=
  Enrichment.trim text ≠ "" && text.length ≤ maxModelEvidenceLength &&
    !text.toList.any fun c => isControl c && !(c = '\n' || c = '\t')

def allDifferent (texts : List String) : Bool :=
  (.ofList texts : BTreeSet String).size = texts.length

def refsValid (refs available : List String) : Bool :=
  refs.length ≤ maxModelEvidenceItems && allDifferent refs && refs.all fun id => id ∈ available

def validSupport (evidence support contradictions available : List String) : Bool :=
  !evidence.isEmpty && evidence.length ≤ maxModelEvidenceItems && evidence.all validExplanation &&
    !support.isEmpty && refsValid support available && refsValid contradictions available &&
      !support.any fun id => id ∈ contradictions

variable (predictionKinds : Json → Option (List String))

def validateTrackChoice (choice : ModelTagTrackChoice) (input : Json) :
    Except DiagnosedError Unit :=
  let available := evidenceIds predictionKinds input
  let abstains := choice.decisions.isEmpty
  if maxModelTagsPerTrack < choice.decisions.length ||
      !allDifferent (choice.decisions.map (·.tagId)) ||
      (if abstains then choice.abstentionReason.all fun text => !validExplanation text
        else choice.abstentionReason.isSome) ||
      (choice.decisions.any fun decision =>
        !validSupport decision.evidence decision.evidenceIds decision.contradictionIds
          available) then
    .error (.invalidOutput "invalid per-tag support or abstention")
  else .ok ()

/-! ## An answer -/

-- the ids of the vocabulary's tags with their names
variable (entries : List (String × String))

/-- The decisions of a choice, by the names of the tags; `index` is its place in the answer. -/
def nameDecisions (index : ℕ) :
    List ModelTagDecisionChoice → Except DiagnosedError (List TagDecision)
  | [] => .ok []
  | decision :: rest =>
    match (.ofList entries : BTreeMap String String)[decision.tagId]? with
    | none =>
      .error ⟨"model_output_unknown_tag_id",
        some ("tracks." ++ toString index ++ ".decisions: unsupported tag ID")⟩
    | some name =>
      (nameDecisions index rest).map fun decisions =>
        ⟨name, decision.support, decision.evidence, decision.evidenceIds,
          decision.contradictionIds⟩ :: decisions

/-- What is recorded for the track of a choice. -/
def trackOutput (id : ℤ) (choice : ModelTagTrackChoice) (decisions : List TagDecision) :
    ModelTagTrackOutput where
  trackId := id
  tags := decisions.map (·.tag)
  decisions := decisions
  evidence :=
    match choice.abstentionReason with
    | some reason => [reason]
    | none => (decisions.flatMap (·.evidence)).take maxModelEvidenceItems

/-- The choices in turn, each checked against the track in its slot. -/
def resolveTracks (batch : ModelTaggerBatch) :
    ℕ → List ModelTagTrackChoice → BTreeMap ℤ ModelTagTrackOutput →
      Except DiagnosedError (BTreeMap ℤ ModelTagTrackOutput)
  | _, [], resolved => .ok resolved
  | index, choice :: rest, resolved =>
    let slot := (choice.trackId - 1).toNat
    match validateTrackChoice predictionKinds choice ((batch.tracks[slot]?).getD .null) with
    | .error error => .error error
    | .ok () =>
      match nameDecisions entries index choice.decisions with
      | .error error => .error error
      | .ok decisions =>
        let id := (batch.trackIds[slot]?).getD 0
        resolveTracks batch (index + 1) rest (resolved.insert id (trackOutput id choice decisions))

-- how a payload is read as an answer; what is said where it is none
variable (decode : Json → Except String ModelTaggerOutput)

def ModelTaggerBatch.finish (batch : ModelTaggerBatch) (result : StructuredModelResult) :
    Except DiagnosedError (BTreeMap ℤ ModelTagTrackOutput) :=
  if result.succeeded = false then .error (.new (safeExecutionError result.errorCode))
  else if result.finishReason = some "length" ∨ result.finishReason = some "max_tokens" then
    .error (.new "model_output_incomplete")
  else
    match result.payload with
    | none => .error (.new "model_execution_failed")
    | some payload =>
      match decode payload with
      | .error error => .error (.invalidOutput error)
      | .ok output =>
        if output.schemaVersion ≠ modelTaggerOutputContract ∨ output.tracks = [] ∨
            modelTagBatchSize < output.tracks.length then
          .error (.invalidOutput "invalid tagger output fields")
        else
          let returned : BTreeSet ℤ := .ofList (output.tracks.map (·.trackId))
          let slots : BTreeSet ℤ :=
            .ofList ((List.range' 1 batch.trackIds.length).map fun slot : ℕ => (slot : ℤ))
          if returned.size ≠ output.tracks.length ∨ returned.toList ≠ slots.toList then
            .error (.new "model_output_track_set_mismatch")
          else resolveTracks predictionKinds entries batch 0 output.tracks ∅

end MusicServer.Tagging
