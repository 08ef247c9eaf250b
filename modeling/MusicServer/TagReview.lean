/-
# Reviewing suggested tags

One transaction checks every target of a review against the tables as they are now, plans what
is carried out, and carries it out.  A target that fails a check is reported and changes
nothing.
-/
import MusicServer.ReviewEvidence

namespace MusicServer

open LibraryIndex EvidenceRules ReviewPlan

/-! ## Reading documents -/

def parseObjectArray (value : Option Json) : Option (List JsonObject) :=
  (value.bind Json.asArray).bind fun items => items.mapM Json.asObject

/-- The context of a row whose documents have the shape of the current analyzer. -/
def parseContextState (row : ContextRow) : Option CurrentTrackContext := do
  if row.completeness ≠ "full" ∧ row.completeness ≠ "partial" then none
  else
    let summary ← row.summary.bind Json.asObject
    if (summary.get "schema_version").bind Json.asString ≠ some localContextAnalyzerId then none
    else
      let timeline ← parseObjectArray row.timeline
      if timeline.any fun fields => fields.any fun field => !field.2.isNumber then none
      else
        let _ ← parseObjectArray row.sections
        let _ ← row.technical.bind Json.asObject
        let _ ← row.stages.bind Json.asObject
        return ⟨row.sourceSignature, row.completeness⟩

/-! ## What the tables say now -/

namespace EvidenceTables

variable {δ : Type} (rules : EvidenceRules δ) (tables : EvidenceTables δ)

def loadTrack (id : TrackId) : Except StorageError (Option IndexedTrack) :=
  match tables.index.tracks.find id with
  | none => .ok none
  | some row => (indexedTrackFromRow tables.index row).map some

def loadRole (roleId : String) : Option ModelRoleRecord :=
  tables.roles.find? fun role => role.roleId = roleId

def loadConnection (id : String) : Option ProviderConnectionRecord :=
  tables.connections.find? fun connection => connection.id = id

def analysisOf (track : TrackId) (analyzerId : String) : Option (AnalysisRow δ) :=
  tables.analyses.find? fun row => row.trackId = track && row.analyzerId = analyzerId

def currentModelContext (track : IndexedTrack) (voiceSignature : Option String) :
    Option CurrentTrackContext :=
  let expected := rules.contextSourceSignature track localContextImplementationId voiceSignature
  (tables.contexts.find? fun row =>
      row.trackId = track.id && row.analyzerId = localContextAnalyzerId).bind fun row =>
    if row.sourceSignature = expected then parseContextState row else none

def sourceEnabled (source : String) (otherwise : Bool) : Bool :=
  (tables.sourcePolicies.lookup source).getD otherwise

def songCatalogRows (track : TrackId) : List EnrichmentRow :=
  tables.enrichments.filter fun row =>
    row.evidenceRevision = tables.catalogRevision && tables.sourceEnabled "musicbrainz" true &&
      row.trackId = track

def songCatalogProjection (row : EnrichmentRow) (track : IndexedTrack) : Option Json :=
  if 1024 * 1024 < row.resultBytes ∨ row.result.isNone = true then none
  else rules.songCatalogEvidence track row (tables.sourceEnabled "lastfm" false)

def currentSongCatalog (track : IndexedTrack) : Option Json :=
  (tables.songCatalogRows track.id).head?.bind fun row =>
    tables.songCatalogProjection rules row track

end EvidenceTables

open EvidenceTables

/-- What a review of model suggestions found out before its transaction. -/
structure ModelTagReviewGuard where
  role : ModelRoleReviewIdentity
  vocabularyFingerprint : String
  voiceSignature : Option String
  deriving DecidableEq

section

variable {δ : Type} (rules : EvidenceRules δ) (tables : EvidenceTables δ)

/-- The vocabulary, where role, connection and vocabulary are still those of the guard. -/
def currentReviewVocabulary (guard : ModelTagReviewGuard) : Option TagVocabularyDocument := do
  let role ← tables.loadRole "music_tagger"
  if rules.configurationFingerprint role ≠ guard.role.configurationFingerprint then none
  else
    let connection ← tables.loadConnection role.connectionId
    if rules.connectionFingerprint connection ≠ guard.role.connectionFingerprint then none
    else
      let vocabulary ← tables.vocabulary
      if rules.vocabularyFingerprint vocabulary = guard.vocabularyFingerprint then some vocabulary
      else none

def namesTag (vocabulary : TagVocabularyDocument) (tag : String) : Bool :=
  vocabulary.groups.any fun group => group.tags.any fun entry => entry.name = tag

/-- The stored profile of a model is complete and of the current contract. -/
def modelTagProfileIsCurrent (row : AnalysisRow δ) (expectedSignature : String) : Bool :=
  match row.moods, row.evidence, row.metrics, row.decisions with
  | some moods, some evidence, some metrics, some decisions =>
    row.analyzerId = modelTagAnalyzerId && row.sourceSignature = expectedSignature &&
      (metrics.get "contract").bind Json.asString = some modelTaggerOutputContract &&
      rules.validTagDecisions decisions moods ((metrics.get "input_snapshot").getD .null) &&
      !evidence.isEmpty && evidence.length ≤ maxModelEvidenceItems &&
      evidence.all rules.validExplanation
  | _, _, _, _ => false

/-! ## The checks of one target -/

abbrev Refusal := AnalysisReviewFailureCode × String

/-- The checks on the stored profile, once the signature of the present evidence is known. -/
def checkProfile (row : AnalysisRow δ) (target : AnalysisReviewTarget)
    (currentSignature : String) : Except StorageError (Option Refusal) :=
  if currentSignature ≠ target.sourceSignature then
    .ok (some (.stale,
      "Track or analyzer settings changed; rerun analysis before reviewing this tag"))
  else if target.analyzerId = modelTagAnalyzerId ∧
      modelTagProfileIsCurrent rules row currentSignature = false then
    .ok (some (.stale, "Model profile is invalid; regenerate suggestions before reviewing"))
  else
    match row.moods with
    | none => .error (.invalidLibraryRecord "moods")
    | some moods =>
      if target.tag ∈ moods then .ok none
      else .ok (some (.notFound, "Tag is not present in the current analysis profile"))

/-- The signature of the present evidence for a model's profile. -/
def currentModelSignature (track : IndexedTrack) (guard : ModelTagReviewGuard) : String :=
  rules.modelTagSourceSignature track guard.role.inferenceFingerprint guard.vocabularyFingerprint
    (tables.currentModelContext rules track guard.voiceSignature)
    (tables.currentSongCatalog rules track)

def checkAnalyzer (guard : Option ModelTagReviewGuard) (track : IndexedTrack)
    (row : AnalysisRow δ) (target : AnalysisReviewTarget) : Except StorageError (Option Refusal) :=
  if target.analyzerId = modelTagAnalyzerId then
    match guard, guard.bind (currentReviewVocabulary rules tables) with
    | some guard, some vocabulary =>
      if namesTag vocabulary target.tag = false then
        .ok (some (.stale, "Tag is no longer in the model vocabulary"))
      else checkProfile rules row target (currentModelSignature rules tables track guard)
    | _, _ =>
      .ok (some (.stale, "Model settings or vocabulary changed; refresh before reviewing"))
  else
    checkProfile rules row target (rules.catalogTagSourceSignature track tables.catalogRevision)

/-- Checks one target; `none` is a target that may be carried out. -/
def checkTarget (guard : Option ModelTagReviewGuard) (target : AnalysisReviewTarget) :
    Except StorageError (Option Refusal) := do
  match ← tables.loadTrack target.trackId with
  | none => return some (.notFound, "Track not found")
  | some track =>
    if target.analyzerId ≠ catalogTagAnalyzerId ∧ target.analyzerId ≠ modelTagAnalyzerId then
      return some (.notFound, "Analysis profile not found")
    else
      match tables.analysisOf target.trackId target.analyzerId with
      | none => return some (.notFound, "Analysis profile not found")
      | some row =>
        if row.sourceSignature ≠ target.sourceSignature then
          return some (.stale, "Analysis changed; refresh before reviewing this tag")
        else checkAnalyzer rules tables guard track row target

/-! ## The transaction -/

structure AnalysisReviewOutcome where
  target : AnalysisReviewTarget
  decision : AnalysisReviewDecision
  deriving DecidableEq

structure AnalysisReviewBatch where
  requestedItems : ℕ
  applied : List AnalysisReviewOutcome
  failures : List AnalysisReviewFailure
  deriving DecidableEq

/-- The row of `track_analysis_tag_reviews` that a target decides. -/
def reviewKey (target : AnalysisReviewTarget) : TrackId × String × String :=
  (target.trackId, target.analyzerId, target.tag)

def ReviewRow.key (row : ReviewRow) : TrackId × String × String :=
  (row.trackId, row.analyzerId, row.tag)

/-- The reviews once a target is decided: reopened, or decided by the one row of its key. -/
def recordReview (decision : AnalysisReviewDecision) (reviews : List ReviewRow)
    (target : AnalysisReviewTarget) : List ReviewRow :=
  let others := reviews.filter fun row => row.key ≠ reviewKey target
  match decision with
  | .pending => others
  | .accepted | .rejected =>
    others ++ [⟨target.trackId, target.analyzerId, target.tag, target.sourceSignature, decision⟩]

def applyPlanned (decision : AnalysisReviewDecision) (progress : ManualTags × List ReviewRow)
    (planned : PlannedReview) : Except StorageError (ManualTags × List ReviewRow) := do
  let (tags, reviews) := progress
  let reviews' := recordReview decision reviews planned.target
  if decision = .accepted ∧ planned.insertManualTag = true then
    ensure ((planned.target.trackId, planned.target.tag) ∉ tags) .constraintViolation
    return (insert (planned.target.trackId, planned.target.tag) tags, reviews')
  else return (tags, reviews')

def reviewInTransaction (tags : ManualTags) (reviews : List ReviewRow)
    (targets : List AnalysisReviewTarget) (decision : AnalysisReviewDecision)
    (guard : Option ModelTagReviewGuard) :
    Except StorageError (ManualTags × List ReviewRow × AnalysisReviewBatch) := do
  let checked ← targets.mapM fun target => do
    return (target, ← checkTarget rules tables guard target)
  let valid := (checked.filter fun entry => entry.2.isNone).map Prod.fst
  let refused := checked.filterMap fun entry =>
    entry.2.map fun refusal => (⟨entry.1, refusal.1, refusal.2⟩ : AnalysisReviewFailure)
  let plan := planDecisions valid decision tags.tagsOf
  let (tags', reviews') ← plan.operations.foldlM (applyPlanned decision) (tags, reviews)
  return (tags', reviews',
    ⟨targets.length, plan.accepted.map fun target => ⟨target, decision⟩, refused ++ plan.failures⟩)

end

/-! ## What the transaction does -/

section

variable {δ : Type} {rules : EvidenceRules δ} {tables : EvidenceTables δ}
  {guard : Option ModelTagReviewGuard}

def passes (rules : EvidenceRules δ) (tables : EvidenceTables δ)
    (guard : Option ModelTagReviewGuard) (target : AnalysisReviewTarget) : Bool :=
  match checkTarget rules tables guard target with
  | .ok none => true
  | _ => false

theorem passes_iff {target : AnalysisReviewTarget} :
    passes rules tables guard target = true ↔ checkTarget rules tables guard target = .ok none := by
  unfold passes
  split
  · next h => simp [h]
  · next h => simpa using h

variable {targets : List AnalysisReviewTarget}

theorem check_all {checked : List (AnalysisReviewTarget × Option Refusal)}
    (h : targets.mapM (fun target => do
      return (target, ← checkTarget rules tables guard target)) = .ok checked) :
    (∀ target ∈ targets, ∃ outcome, checkTarget rules tables guard target = .ok outcome) ∧
      (checked.filter fun entry => entry.2.isNone).map Prod.fst
        = targets.filter (passes rules tables guard) ∧
      (checked.filterMap fun entry => entry.2.map fun refusal =>
          (⟨entry.1, refusal.1, refusal.2⟩ : AnalysisReviewFailure)).map
          AnalysisReviewFailure.target
        = targets.filter fun target => !passes rules tables guard target := by
  induction targets generalizing checked with
  | nil =>
    rw [List.mapM_nil] at h
    cases h
    exact ⟨fun _ h => absurd h List.not_mem_nil, rfl, rfl⟩
  | cons target rest ih =>
    rw [List.mapM_cons] at h
    obtain ⟨entry, hentry, h⟩ := bind_eq_ok.mp h
    obtain ⟨outcome, houtcome, hentry⟩ := bind_eq_ok.mp hentry
    obtain ⟨others, hothers, h⟩ := bind_eq_ok.mp h
    cases hentry
    cases h
    obtain ⟨hall, hvalid, hrefused⟩ := ih hothers
    refine ⟨?_, ?_, ?_⟩
    · intro other hother
      rcases List.mem_cons.mp hother with rfl | hother
      · exact ⟨outcome, houtcome⟩
      · exact hall other hother
    · cases outcome with
      | none =>
        have hpasses := passes_iff.mpr houtcome
        rw [List.filter_cons_of_pos (by rfl), List.map_cons, hvalid,
          List.filter_cons_of_pos hpasses]
      | some refusal =>
        have hfails : passes rules tables guard target = false := by
          unfold passes
          rw [houtcome]
        rw [List.filter_cons_of_neg (by simp), hvalid, List.filter_cons_of_neg (by simp [hfails])]
    · cases outcome with
      | none =>
        have hpasses := passes_iff.mpr houtcome
        rw [List.filter_cons_of_neg (by simp [hpasses]), ← hrefused]
        rfl
      | some refusal =>
        have hfails : passes rules tables guard target = false := by
          unfold passes
          rw [houtcome]
        rw [List.filter_cons_of_pos (by simp [hfails]), ← hrefused]
        rfl

theorem check_all_ok
    (h : ∀ target ∈ targets, ∃ outcome, checkTarget rules tables guard target = .ok outcome) :
    ∃ checked, targets.mapM (fun target => do
      return (target, ← checkTarget rules tables guard target)) = .ok checked := by
  induction targets with
  | nil => exact ⟨[], rfl⟩
  | cons target rest ih =>
    obtain ⟨outcome, houtcome⟩ := h target List.mem_cons_self
    obtain ⟨others, hothers⟩ := ih fun other hother => h other (List.mem_cons_of_mem _ hother)
    refine ⟨(target, outcome) :: others, ?_⟩
    rw [List.mapM_cons, houtcome, hothers]
    rfl

variable {decision : AnalysisReviewDecision}

theorem foldlM_applyPlanned {operations : List PlannedReview} {tags : ManualTags}
    {reviews : List ReviewRow} (hnodup : (insertions operations).Nodup)
    (hnew : ∀ row ∈ insertions operations, row ∉ tags)
    (hdecision : decision ≠ .accepted → insertions operations = []) :
    operations.foldlM (applyPlanned decision) (tags, reviews)
      = .ok (tags ∪ (insertions operations).toFinset,
          (operations.map PlannedReview.target).foldl (recordReview decision) reviews) := by
  induction operations generalizing tags reviews with
  | nil =>
    rw [List.foldlM_nil]
    simp [insertions, pure, Except.pure]
  | cons operation rest ih =>
    rw [List.foldlM_cons, List.map_cons, List.foldl_cons]
    by_cases hinsert : operation.insertManualTag = true
    · have hcons : insertions (operation :: rest)
          = (operation.target.trackId, operation.target.tag) :: insertions rest := by
        unfold insertions
        rw [List.filter_cons_of_pos hinsert, List.map_cons]
      rw [hcons] at hnodup hnew hdecision ⊢
      have haccepted : decision = .accepted := by
        by_contra hne
        exact absurd (hdecision hne) (List.cons_ne_nil _ _)
      rw [List.nodup_cons] at hnodup
      have hfresh := hnew _ List.mem_cons_self
      have hstep : applyPlanned decision (tags, reviews) operation
          = .ok (insert (operation.target.trackId, operation.target.tag) tags,
              recordReview decision reviews operation.target) := by
        unfold applyPlanned
        simp only [haccepted, hinsert, and_self, if_true, ensure, hfresh, not_false_eq_true]
        rfl
      rw [hstep]
      rw [List.toFinset_cons, Finset.union_insert, ← Finset.insert_union]
      refine ih hnodup.2 ?_ (fun hne => absurd haccepted hne)
      intro row hrow
      rw [Finset.mem_insert, not_or]
      refine ⟨?_, hnew row (List.mem_cons_of_mem _ hrow)⟩
      rintro rfl
      exact hnodup.1 hrow
    · have hskip : insertions (operation :: rest) = insertions rest := by
        unfold insertions
        rw [List.filter_cons_of_neg hinsert]
      rw [hskip] at hnodup hnew hdecision ⊢
      have hstep : applyPlanned decision (tags, reviews) operation
          = .ok (tags, recordReview decision reviews operation.target) := by
        unfold applyPlanned
        simp only [hinsert, Bool.false_eq_true, and_false, if_false]
        rfl
      rw [hstep]
      exact ih hnodup hnew hdecision

def reviewPlan (rules : EvidenceRules δ) (tables : EvidenceTables δ) (tags : ManualTags)
    (targets : List AnalysisReviewTarget) (decision : AnalysisReviewDecision)
    (guard : Option ModelTagReviewGuard) : ReviewPlan :=
  planDecisions (targets.filter (passes rules tables guard)) decision tags.tagsOf

theorem carriedOut (tags : ManualTags) (reviews : List ReviewRow)
    (targets : List AnalysisReviewTarget) (decision : AnalysisReviewDecision) :
    (planDecisions targets decision tags.tagsOf).operations.foldlM (applyPlanned decision)
        (tags, reviews)
      = .ok (tags ∪ (planDecisions targets decision tags.tagsOf).inserted.toFinset,
          (planDecisions targets decision tags.tagsOf).accepted.foldl (recordReview decision)
            reviews) := by
  by_cases hdecision : decision = .accepted
  · subst hdecision
    obtain ⟨hmem, hnodup⟩ :=
      mem_inserted (overflows targets .accepted tags.tagsOf) tags.tagsOf targets
    refine foldlM_applyPlanned hnodup ?_ (fun hne => absurd rfl hne)
    rintro ⟨track, tag⟩ hrow htags
    exact ((hmem track tag).mp hrow).1 (ManualTags.mem_tagsOf.mpr htags)
  · have hempty : insertions (planDecisions targets decision tags.tagsOf).operations = [] :=
      inserted_of_not_accepted hdecision tags.tagsOf targets
    refine foldlM_applyPlanned ?_ ?_ (fun _ => hempty)
    · rw [hempty]
      exact List.nodup_nil
    · intro row hrow
      rw [hempty] at hrow
      exact absurd hrow List.not_mem_nil

variable {reviews reviews' : List ReviewRow} {batch : AnalysisReviewBatch} {tags tags' : ManualTags}

theorem reviewInTransaction_ok
    (h : reviewInTransaction rules tables tags reviews targets decision guard
      = .ok (tags', reviews', batch)) :
    tags' = tags ∪ (reviewPlan rules tables tags targets decision guard).inserted.toFinset ∧
      reviews' = (reviewPlan rules tables tags targets decision guard).accepted.foldl
        (recordReview decision) reviews ∧
      batch.requestedItems = targets.length ∧
      batch.applied = (reviewPlan rules tables tags targets decision guard).accepted.map
        (fun target => ⟨target, decision⟩) ∧
      batch.failures.map AnalysisReviewFailure.target
        = targets.filter (fun target => !passes rules tables guard target) ++
          (reviewPlan rules tables tags targets decision guard).failures.map
            AnalysisReviewFailure.target := by
  obtain ⟨checked, hchecked, hrest⟩ := bind_eq_ok.mp h
  obtain ⟨⟨final, finalReviews⟩, happly, hresult⟩ := bind_eq_ok.mp hrest
  obtain ⟨_, hvalid, hrefused⟩ := check_all hchecked
  rw [hvalid] at happly hresult
  rw [carriedOut] at happly
  cases happly
  cases hresult
  refine ⟨rfl, rfl, rfl, rfl, ?_⟩
  rw [List.map_append, hrefused]
  rfl

theorem reviewInTransaction_of_checks
    (h : ∀ target ∈ targets, ∃ outcome, checkTarget rules tables guard target = .ok outcome)
    (tags : ManualTags) (reviews : List ReviewRow) (decision : AnalysisReviewDecision) :
    ∃ result, reviewInTransaction rules tables tags reviews targets decision guard
      = .ok result := by
  obtain ⟨checked, hchecked⟩ := check_all_ok h
  obtain ⟨_, hvalid, _⟩ := check_all hchecked
  have hcarried := carriedOut tags reviews (targets.filter (passes rules tables guard)) decision
  rw [← hvalid] at hcarried
  cases hresult : reviewInTransaction rules tables tags reviews targets decision guard with
  | ok result => exact ⟨result, rfl⟩
  | error error =>
    unfold reviewInTransaction at hresult
    rw [hchecked] at hresult
    simp only [bind, Except.bind] at hcarried hresult
    rw [hcarried] at hresult
    cases hresult

theorem reviewInTransaction_without {target : AnalysisReviewTarget}
    (h : reviewInTransaction rules tables tags reviews targets decision guard
      = .ok (tags', reviews', batch)) (hfails : passes rules tables guard target = false) :
    ∃ batch', reviewInTransaction rules tables tags reviews (targets.filter (· ≠ target)) decision
        guard = .ok (tags', reviews', batch') ∧ batch'.applied = batch.applied := by
  obtain ⟨htags, hreviews, _, happlied, _⟩ := reviewInTransaction_ok h
  obtain ⟨checked, hchecked, _⟩ := bind_eq_ok.mp h
  obtain ⟨hall, _⟩ := check_all hchecked
  obtain ⟨⟨tags'', reviews'', batch'⟩, hresult⟩ := reviewInTransaction_of_checks
    (fun other hother => hall other (List.mem_of_mem_filter hother)) tags reviews decision
  obtain ⟨htags', hreviews', _, happlied', _⟩ := reviewInTransaction_ok hresult
  have hsame : reviewPlan rules tables tags (targets.filter (· ≠ target)) decision guard
      = reviewPlan rules tables tags targets decision guard := by
    unfold reviewPlan
    rw [List.filter_filter]
    have hpasses : ∀ other, (passes rules tables guard other && decide (other ≠ target))
        = passes rules tables guard other := by
      intro other
      by_cases heq : other = target
      · rw [heq, hfails, Bool.false_and]
      · rw [decide_eq_true heq, Bool.and_true]
    simp only [hpasses]
  rw [hsame] at htags' hreviews' happlied'
  refine ⟨batch', ?_, happlied'.trans happlied.symm⟩
  rw [hresult, htags', hreviews', htags, hreviews]

theorem applied_failures_perm
    (h : reviewInTransaction rules tables tags reviews targets decision guard
      = .ok (tags', reviews', batch)) :
    (batch.applied.map AnalysisReviewOutcome.target ++
      batch.failures.map AnalysisReviewFailure.target).Perm targets := by
  obtain ⟨_, _, _, happlied, hfailures⟩ := reviewInTransaction_ok h
  obtain ⟨haccepted, hrefused⟩ := accepted_planFrom
    (fun track (_ : overflows (targets.filter (passes rules tables guard)) decision tags.tagsOf
      track = true) => rfl) (targets.filter (passes rules tables guard))
  rw [happlied, hfailures, List.map_map]
  unfold reviewPlan planDecisions
  have htarget : (AnalysisReviewOutcome.target ∘ fun target => ⟨target, decision⟩) = id := rfl
  rw [htarget, List.map_id, haccepted, hrefused]
  -- The targets that pass are kept or refused by the plan, the others stand between the two.
  have hkept := List.filter_append_perm
    (refused (overflows (targets.filter (passes rules tables guard)) decision tags.tagsOf) decision
      tags.tagsOf) (targets.filter (passes rules tables guard))
  have hall := List.filter_append_perm (passes rules tables guard) targets
  refine List.Perm.trans ?_ hall
  refine List.Perm.trans ?_ (hkept.append_right _)
  refine List.Perm.trans (List.Perm.append_left _ List.perm_append_comm) ?_
  rw [← List.append_assoc]
  exact List.Perm.append_right _ List.perm_append_comm

end

end MusicServer
