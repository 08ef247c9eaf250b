/-
# What a collection comes to

A collection reads the result files of a batch and stores the profiles of one request after the
other.  What it stores and saves depends on the provider, the library, the vocabulary and the
role, and not on analyses that are stored already:

* `planResponses`: the rows a collection stores, in their order, and what it counts;
* `planCollection`: those rows, and the document of the batch in the end.
-/
import MusicServer.BatchJobs

namespace MusicServer

open CrashProgram Program EvidenceRules EvidenceTables ProviderUsageAccumulator

section

variable {δ : Type}

/-! ## Stored rows -/

def AnalysisRow.key (row : AnalysisRow δ) : TrackId × String := (row.trackId, row.analyzerId)

/-- The tables with some rows stored, one after the other. -/
def storeRows (rows : List (AnalysisRow δ)) (tables : EvidenceTables δ) : EvidenceTables δ :=
  { tables with
    analyses := rows.foldl (fun analyses row => upsertAnalysis row analyses) tables.analyses }

theorem storeRows_append (rows rest : List (AnalysisRow δ)) (tables : EvidenceTables δ) :
    storeRows (rows ++ rest) tables = storeRows rest (storeRows rows tables) := by
  unfold storeRows
  rw [List.foldl_append]

theorem find_upsertAnalysis (row : AnalysisRow δ) (track : TrackId) (analyzerId : String)
    (analyses : List (AnalysisRow δ)) :
    (upsertAnalysis row analyses).find?
        (fun other => other.trackId = track && other.analyzerId = analyzerId)
      = if row.key = (track, analyzerId) then some row
        else analyses.find? fun other => other.trackId = track && other.analyzerId = analyzerId := by
  induction analyses with
  | nil =>
    unfold upsertAnalysis AnalysisRow.key
    rw [List.find?_cons, List.find?_nil]
    by_cases h : row.trackId = track ∧ row.analyzerId = analyzerId
    · rw [if_pos (Prod.ext h.1 h.2), h.1, h.2, decide_eq_true rfl, decide_eq_true rfl]
      rfl
    · rw [if_neg (fun heq => h (Prod.mk.inj heq))]
      split
      · next hfound =>
        rw [Bool.and_eq_true, decide_eq_true_eq, decide_eq_true_eq] at hfound
        exact absurd hfound h
      · rfl
  | cons other rest ih =>
    unfold upsertAnalysis
    split
    · next hsame =>
      -- The row that is replaced answers to the same key.
      by_cases h : row.key = (track, analyzerId)
      · obtain ⟨htrack, hanalyzer⟩ := Prod.mk.inj h
        rw [if_pos h, List.find?_cons, htrack, hanalyzer, decide_eq_true rfl, decide_eq_true rfl]
        rfl
      · rw [if_neg h, List.find?_cons, List.find?_cons, hsame.1, hsame.2]
        split
        · next hfound =>
          rw [Bool.and_eq_true, decide_eq_true_eq, decide_eq_true_eq] at hfound
          exact absurd (Prod.ext hfound.1 hfound.2) h
        · rfl
    · next hother =>
      rw [List.find?_cons, List.find?_cons, ih]
      split
      · next hfound =>
        rw [Bool.and_eq_true, decide_eq_true_eq, decide_eq_true_eq] at hfound
        rw [if_neg]
        intro h
        obtain ⟨htrack, hanalyzer⟩ := Prod.mk.inj h
        exact hother ⟨hfound.1.trans htrack.symm, hfound.2.trans hanalyzer.symm⟩
      · rfl

theorem analysisOf_storeRows_cons (row : AnalysisRow δ) (rows : List (AnalysisRow δ))
    (tables : EvidenceTables δ) :
    storeRows (row :: rows) tables = storeRows rows (storeRows [row] tables) := rfl

theorem analysisOf_storeRows_singleton (row : AnalysisRow δ) (tables : EvidenceTables δ)
    (track : TrackId) (analyzerId : String) :
    (storeRows [row] tables).analysisOf track analyzerId
      = if row.key = (track, analyzerId) then some row else tables.analysisOf track analyzerId :=
  find_upsertAnalysis row track analyzerId tables.analyses

/-- The tables agree on every analysis outside some keys. -/
def Agree (keys : List (TrackId × String)) (tables tables' : EvidenceTables δ) : Prop :=
  ∀ track analyzerId, (track, analyzerId) ∉ keys →
    tables'.analysisOf track analyzerId = tables.analysisOf track analyzerId

theorem Agree.refl (keys : List (TrackId × String)) (tables : EvidenceTables δ) :
    Agree keys tables tables := fun _ _ _ => rfl

theorem agree_storeRows {keys : List (TrackId × String)} {base tables : EvidenceTables δ}
    (h : Agree keys base tables) {rows : List (AnalysisRow δ)}
    (hrows : ∀ row ∈ rows, row.key ∈ keys) : Agree keys base (storeRows rows tables) := by
  induction rows generalizing tables with
  | nil => exact h
  | cons row rest ih =>
    rw [analysisOf_storeRows_cons]
    refine ih ?_ fun row hrow => hrows row (List.mem_cons_of_mem _ hrow)
    intro track analyzerId hkey
    rw [analysisOf_storeRows_singleton, if_neg]
    · exact h track analyzerId hkey
    · intro heq
      exact hkey (heq ▸ hrows row List.mem_cons_self)

theorem analysisOf_storeRows {rows : List (AnalysisRow δ)} {base tables : EvidenceTables δ}
    (h : Agree (rows.map AnalysisRow.key) base tables) (track : TrackId) (analyzerId : String) :
    (storeRows rows tables).analysisOf track analyzerId
      = (storeRows rows base).analysisOf track analyzerId := by
  induction rows generalizing base tables with
  | nil => exact h track analyzerId List.not_mem_nil
  | cons row rest ih =>
    rw [analysisOf_storeRows_cons, analysisOf_storeRows_cons row rest base]
    refine ih ?_
    intro track analyzerId hkey
    rw [analysisOf_storeRows_singleton, analysisOf_storeRows_singleton]
    split
    · rfl
    · next hrow =>
      refine h track analyzerId ?_
      rw [List.map_cons, List.mem_cons, not_or]
      exact ⟨fun heq => hrow heq.symm, hkey⟩

/-! ## What one request stores -/

variable (rules : TaggingRules δ)

/-- The row of a profile, if its track is there and its signature the present one. -/
def rowToStore (parameters : ModelTaggingJobParameters) (voice : Option String)
    (tables : EvidenceTables δ) (profile : AnalysisWrite δ) :
    Except IoErrorKind (List (AnalysisRow δ)) :=
  if validModelProfile rules profile = false then .error .invalidInput
  else
    match tables.loadTrack profile.trackId with
    | .error _ => .error .invalidInput
    | .ok none => .ok []
    | .ok (some track) =>
      .ok (if modelSignature rules tables parameters voice track = profile.sourceSignature then
        [analysisRow profile] else [])

def rowsToStore (parameters : ModelTaggingJobParameters) (voice : Option String)
    (tables : EvidenceTables δ) : List (AnalysisWrite δ) → Except IoErrorKind (List (AnalysisRow δ))
  | [] => .ok []
  | profile :: rest => do
    let rows ← rowToStore rules parameters voice tables profile
    let others ← rowsToStore parameters voice tables rest
    return rows ++ others

theorem rowsToStore_evidence (parameters : ModelTaggingJobParameters) (voice : Option String)
    (tables : EvidenceTables δ) (analyses : List (AnalysisRow δ))
    (vocabulary : Option TagVocabularyDocument) (profiles : List (AnalysisWrite δ)) :
    rowsToStore rules parameters voice
        { tables with analyses := analyses, vocabulary := vocabulary } profiles
      = rowsToStore rules parameters voice tables profiles := by
  induction profiles with
  | nil => rfl
  | cons profile rest ih =>
    unfold rowsToStore
    rw [ih]
    rfl

theorem storeProfile_eq (parameters : ModelTaggingJobParameters) (voice : Option String)
    (tables : EvidenceTables δ) (profile : AnalysisWrite δ) :
    storeProfile rules parameters voice tables profile
      = (rowToStore rules parameters voice tables profile).map fun rows =>
        (!rows.isEmpty, storeRows rows tables) := by
  unfold storeProfile rowToStore
  split
  · rfl
  · cases tables.loadTrack profile.trackId with
    | error error => rfl
    | ok found =>
      cases found with
      | none => rfl
      | some track =>
        dsimp only
        split
        · rfl
        · rfl

theorem length_rowToStore {parameters : ModelTaggingJobParameters} {voice : Option String}
    {tables : EvidenceTables δ} {profile : AnalysisWrite δ} {rows : List (AnalysisRow δ)}
    (h : rowToStore rules parameters voice tables profile = .ok rows) :
    rows.length = if (!rows.isEmpty) = true then 1 else 0 := by
  unfold rowToStore at h
  split at h
  · cases h
  · split at h
    · cases h
    · cases h
      rfl
    · cases h
      split <;> rfl

theorem storeProfiles_eq (parameters : ModelTaggingJobParameters) (voice : Option String)
    (tables : EvidenceTables δ) (profiles : List (AnalysisWrite δ)) :
    storeProfiles rules parameters voice tables profiles
      = (rowsToStore rules parameters voice tables profiles).map fun rows =>
        (rows.length, storeRows rows tables) := by
  induction profiles generalizing tables with
  | nil => rfl
  | cons profile rest ih =>
    unfold storeProfiles rowsToStore
    rw [storeProfile_eq]
    cases hrows : rowToStore rules parameters voice tables profile with
    | error error => rfl
    | ok rows =>
      have hsame : rowsToStore rules parameters voice (storeRows rows tables) rest
          = rowsToStore rules parameters voice tables rest :=
        rowsToStore_evidence rules parameters voice tables _ tables.vocabulary rest
      simp only [Except.map, Bind.bind, Except.bind]
      rw [ih, hsame]
      cases hothers : rowsToStore rules parameters voice tables rest with
      | error error => rfl
      | ok others =>
        simp only [Except.map, Pure.pure, Except.pure]
        rw [List.length_append, storeRows_append, length_rowToStore rules hrows]

/-! ## Plans -/

/-- The rows that a part of a collection stores, and how it ends. -/
abbrev CollectionPlan (δ α : Type) := List (AnalysisRow δ) × Except JobHandlerError α

/-- One part after the other; the first error ends the plan. -/
def andThen {α β : Type} (plan : CollectionPlan δ α) (next : α → CollectionPlan δ β) :
    CollectionPlan δ β :=
  match plan.2 with
  | .error error => (plan.1, .error error)
  | .ok a => (plan.1 ++ (next a).1, (next a).2)

theorem mem_andThen_first {α β : Type} {plan : CollectionPlan δ α} {next : α → CollectionPlan δ β}
    {row : AnalysisRow δ} (h : row ∈ plan.1) : row ∈ (andThen plan next).1 := by
  unfold andThen
  split
  · exact h
  · exact List.mem_append_left _ h

theorem mem_andThen_next {α β : Type} {plan : CollectionPlan δ α} {next : α → CollectionPlan δ β}
    {a : α} (ha : plan.2 = .ok a) {row : AnalysisRow δ} (h : row ∈ (next a).1) :
    row ∈ (andThen plan next).1 := by
  unfold andThen
  rw [ha]
  exact List.mem_append_right _ h

def planOf {α : Type} (result : Except JobHandlerError α) : CollectionPlan δ α := ([], result)

/-- The transaction that stores the profiles of one request. -/
def planStore (voice : Option String) (tables : EvidenceTables δ)
    (parameters : ModelTaggingJobParameters) (profiles : List (AnalysisWrite δ)) :
    CollectionPlan δ ℕ :=
  if validHexDigest parameters.inferenceFingerprint = false ∨
      validHexDigest parameters.vocabularyFingerprint = false then
    planOf (.error (.new "assistant_storage_failed"))
  else
    match rowsToStore rules parameters voice tables profiles with
    | .error _ => planOf (.error (.new "assistant_storage_failed"))
    | .ok rows => (rows, .ok rows.length)

/-- The tally once the profiles of a request are stored. -/
def storedTally (tally : CollectionTally δ) (profiles : List (AnalysisWrite δ)) (stored : ℕ) :
    CollectionTally δ :=
  let counted := { countProfiles tally profiles with updated := tally.updated + stored }
  { counted with usage := counted.usage.setFeatureProgress (progressJson rules counted) }

def planStored (voice : Option String) (tables : EvidenceTables δ)
    (vocabulary : TagVocabularyDocument) (frozen : BatchSubmission δ) (tally : CollectionTally δ)
    (range : ℕ × ℕ) (outputs : TrackId → Option (ModelTagTrackOutput δ)) :
    CollectionPlan δ (CollectionTally δ) :=
  andThen (planOf (match slice frozen.templates range with
    | some templates => .ok templates
    | none => .error (.new "batch_record_invalid"))) fun templates =>
  andThen (planOf (profilesOf outputs templates)) fun profiles =>
  andThen (planOf (ensure
    (rules.vocabularyFingerprint vocabulary = frozen.parameters.vocabularyFingerprint)
    (.new "tag_vocabulary_changed"))) fun _ =>
  andThen (planStore rules voice tables frozen.parameters profiles) fun stored =>
  planOf (.ok (storedTally rules tally profiles stored))

/-- One result: what is stored for it, and the tally after it. -/
def planResponse (voice : Option String) (tables : EvidenceTables δ)
    (vocabulary : TagVocabularyDocument) (current : Bool) (frozen : BatchSubmission δ)
    (tally : CollectionTally δ) (response : ℕ × StructuredModelResult) :
    CollectionPlan δ (CollectionTally δ) :=
  let observed := { tally with
    usage := tally.usage.observeBatchResult (response.1 + 1) response.2 }
  andThen (planOf (frozenRequest frozen response.1)) fun entry =>
  andThen (planOf ((rules.newTask entry.1 vocabulary).mapError .new)) fun _ =>
  match rules.finishTask entry.1 vocabulary response.2 with
  | .ok outputs =>
    if current = true then planStored rules voice tables vocabulary frozen observed entry.2 outputs
    else planOf (.ok { observed with
      rejected := observed.rejected + (entry.2.2 - entry.2.1) })
  | .error _ => planOf (.ok { observed with
      rejected := observed.rejected + (entry.2.2 - entry.2.1) })

def planResponses (voice : Option String) (tables : EvidenceTables δ)
    (vocabulary : TagVocabularyDocument) (current : Bool) (frozen : BatchSubmission δ) :
    CollectionTally δ → List (ℕ × StructuredModelResult) → CollectionPlan δ (CollectionTally δ)
  | tally, [] => planOf (.ok tally)
  | tally, response :: rest =>
    andThen (planResponse rules voice tables vocabulary current frozen tally response) fun tally =>
    planResponses voice tables vocabulary current frozen tally rest

/-! ## What the provider has -/

/-- What the provider says of a batch and of its files does not depend on when it is asked. -/
structure Provider.Steady (provider : Provider) : Prop where
  status : ∀ calls id, provider.status calls id = provider.status 0 id
  results : ∀ calls file, provider.results calls file = provider.results 0 file

def managementTarget (tables : EvidenceTables δ) (connectionId : String) :
    Except JobHandlerError ProviderExecutionTarget :=
  match tables.loadConnection connectionId with
  | none => .error (.new "connection_not_found")
  | some connection =>
    if rules.decrypts connection = true then
      .ok ⟨connection.adapterId, connection.baseUrl, "", 60, 0, .providerDefault⟩
    else .error (.new "credential_unavailable")

def statusOf (provider : Provider) (target : ProviderExecutionTarget) (remote : String) :
    Except JobHandlerError ProviderBatchStatus := do
  let batchId ← (identifier remote).mapError .new
  (batchTarget target).mapError .new
  let answer ← (provider.status 0 batchId).mapError .new
  (readStatus batchId answer).mapError .new

def resultsOf (provider : Provider) (deleted : List String) (target : ProviderExecutionTarget)
    (fileId : String) : Except JobHandlerError (List ProviderBatchResult) := do
  let fileId ← (identifier fileId).mapError .new
  (batchTarget target).mapError .new
  let lines ← (if fileId ∈ deleted then .error "batch_not_found"
    else provider.results 0 fileId).mapError .new
  (parseBatchResults [] lines).mapError .new

def responsesOf (provider : Provider) (deleted : List String) (target : ProviderExecutionTarget)
    (count : ℕ) : List (ℕ × StructuredModelResult) → List String →
      Except JobHandlerError (List (ℕ × StructuredModelResult))
  | responses, [] => .ok responses
  | responses, file :: rest => do
    let items ← resultsOf provider deleted target file
    let responses ← insertResults count responses items
    responsesOf provider deleted target count responses rest

def inferenceOf (tables : EvidenceTables δ) : Option String :=
  (tables.loadRole "music_tagger").bind fun role =>
    (tables.loadConnection role.connectionId).map fun connection =>
      rules.modelTagInferenceFingerprint role connection

/-- What a collection that comes to the results has in hand. -/
structure Fetched (δ : Type) where
  frozen : BatchSubmission δ
  status : ProviderBatchStatus
  responses : List (ℕ × StructuredModelResult)

/-- The way to the results; an error stands for every end before them. -/
def planFetch (base : ModelWorld δ) (record : ModelBatchRecord δ) (remote : String) :
    Except JobHandlerError (Fetched δ) := do
  ensure (record.pending = true ∧ record.state ≠ .resultsSaved) (.new "batch_record_invalid")
  let target ← managementTarget rules base.tables record.connectionId
  let status ← statusOf base.provider target remote
  sameBatch record status
  match record.document, status.state.isTerminal with
  | .submission frozen, true => do
    let responses ← responsesOf base.provider base.deleted target frozen.ranges.length []
      (status.outputFileId.toList ++ status.errorFileId.toList)
    return ⟨frozen, status, responses⟩
  | _, _ => .error (.new "batch_record_invalid")

def vocabularyOf (base : ModelWorld δ) : TagVocabularyDocument :=
  base.tables.vocabulary.getD rules.defaultVocabulary

/-- The role and the vocabulary are still those of the submission. -/
def currentBatch (base : ModelWorld δ) (frozen : BatchSubmission δ) : Bool :=
  inferenceOf rules base.tables = some frozen.parameters.inferenceFingerprint &&
    rules.vocabularyFingerprint (vocabularyOf rules base) = frozen.parameters.vocabularyFingerprint

/-- The tally a collection starts from: the ledger of the submission, and no counts. -/
def firstTally (frozen : BatchSubmission δ) : CollectionTally δ :=
  ⟨resume frozen.submissionUsage, 0, 0, 0, 0, 0, []⟩

def planTally (voice : Option String) (base : ModelWorld δ) (fetched : Fetched δ) :
    CollectionPlan δ (CollectionTally δ) :=
  planResponses rules voice base.tables (vocabularyOf rules base)
    (currentBatch rules base fetched.frozen) fetched.frozen (firstTally fetched.frozen)
    (inOrder fetched.frozen.ranges.length fetched.responses)

def planDocument (base : ModelWorld δ) (record : ModelBatchRecord δ) (fetched : Fetched δ)
    (tally : CollectionTally δ) : BatchDocument δ :=
  .results (batchResult record fetched.status fetched.frozen
    (currentBatch rules base fetched.frozen) tally) fetched.status.state
    fetched.status.outputFileId fetched.status.errorFileId

/-- The rows that a collection stores, and the document of its batch in the end. -/
def planCollection (voice : Option String) (base : ModelWorld δ) (record : ModelBatchRecord δ)
    (remote : String) : List (AnalysisRow δ) × BatchDocument δ :=
  match planFetch rules base record remote with
  | .error _ => ([], record.document)
  | .ok fetched =>
    match (planTally rules voice base fetched).2 with
    | .error _ => ((planTally rules voice base fetched).1, record.document)
    | .ok tally =>
      ((planTally rules voice base fetched).1,
        if maxBatchDocumentBytes < rules.documentBytes (planDocument rules base record fetched tally)
        then record.document else planDocument rules base record fetched tally)

end

end MusicServer
