/-
# The limit on manual tags

Manual tags have four writers: the patch of many tracks, the rename of a tag, the cleanup and
the review.  None of them takes a track past the limit, and a review that would takes none of
the new tags of that track.
-/
import MusicServer.StaleReview

namespace MusicServer

open LibraryIndex EvidenceRules EvidenceTables ReviewPlan ManualTags Transition

/-! ## The writers in any order -/

/-- A call of one of the writers, with what it finds in the other tables. -/
inductive TagAction (δ ν : Type) where
  | patchTags (stored : TrackId → Bool) (trackIds : List TrackId) (add remove : List String)
  | renameTag (source target : String)
  | applyCleanup (vocabulary : Option ν) (expectedCatalogSignature : String)
      (expectedVocabularyFingerprint : String) (selections : List CleanupSelection)
      (allowedPairs : Option (List CleanupSelection))
  | reviewAnalysis (tables : EvidenceTables δ) (reviews : List ReviewRow)
      (targets : List AnalysisReviewTarget) (decision : AnalysisReviewDecision)
      (guard : Option ModelTagReviewGuard)
  /-- Tracks are deleted, and their tags with them. -/
  | deleteTracks (deleted : TrackId → Bool)

/-- The tags after a call; one that fails is rolled back. -/
def nextTags {δ ν : Type} (rules : EvidenceRules δ) (cleanup : CleanupRules ν)
    (tags : ManualTags) : TagAction δ ν → ManualTags
  | .patchTags stored trackIds add remove => (ManualTags.patchTags tags stored trackIds add remove).1
  | .renameTag source target => (ManualTags.renameTag tags source target).1
  | .applyCleanup vocabulary catalogSignature vocabularyFingerprint selections allowedPairs =>
    match ManualTags.applyCleanup cleanup tags vocabulary catalogSignature vocabularyFingerprint
      selections allowedPairs with
    | .ok (tags', _) => tags'
    | .error _ => tags
  | .reviewAnalysis tables reviews targets decision guard =>
    match reviewInTransaction rules tables tags reviews targets decision guard with
    | .ok (tags', _, _) => tags'
    | .error _ => tags
  | .deleteTracks deleted => tags.filter fun row => !deleted row.1

/-- The table of manual tags, empty at first. -/
def tagSystem {δ ν : Type} (rules : EvidenceRules δ) (cleanup : CleanupRules ν) :
    System ManualTags (TagAction δ ν) where
  init tags := tags = ∅
  step tags action tags' := tags' = nextTags rules cleanup tags action

section

variable {δ ν : Type} {rules : EvidenceRules δ} {cleanup : CleanupRules ν}

theorem bounded_subset {tags tags' : ManualTags} (h : Bounded tags) (hsubset : tags' ⊆ tags) :
    Bounded tags' := by
  intro track
  refine le_trans (Finset.card_le_card ?_) (h track)
  intro tag htag
  rw [mem_tagsOf] at htag ⊢
  exact hsubset htag

theorem bounded_nextTags {tags : ManualTags} (h : Bounded tags) (action : TagAction δ ν) :
    Bounded (nextTags rules cleanup tags action) := by
  cases action with
  | patchTags stored trackIds add remove => exact bounded_patchTags h stored trackIds add remove
  | renameTag source target => exact bounded_renameTag h source target
  | applyCleanup vocabulary catalogSignature vocabularyFingerprint selections allowedPairs =>
    simp only [nextTags]
    split
    · next hcleanup => exact bounded_applyCleanup h hcleanup
    · exact h
  | reviewAnalysis tables reviews targets decision guard =>
    simp only [nextTags]
    split
    · next hreview =>
      rw [(reviewInTransaction_ok hreview).1]
      exact bounded_inserted h _ decision
    · exact h
  | deleteTracks deleted => exact bounded_subset h (Finset.filter_subset _ _)

theorem bounded_of_reachable {tags : ManualTags}
    (h : (tagSystem rules cleanup).Reachable tags) : Bounded tags := by
  refine h.invariant ?_ ?_
  · rintro tags rfl
    exact bounded_empty
  · rintro tags action tags' hbounded rfl
    exact bounded_nextTags hbounded action

/-! ## What one review accepts -/

variable {tables : EvidenceTables δ} {tags tags' : ManualTags} {reviews reviews' : List ReviewRow}
  {targets : List AnalysisReviewTarget} {decision : AnalysisReviewDecision}
  {guard : Option ModelTagReviewGuard} {batch : AnalysisReviewBatch}

theorem applied_eq (h : reviewInTransaction rules tables tags reviews targets decision guard
      = .ok (tags', reviews', batch)) :
    batch.applied.map AnalysisReviewOutcome.target
      = (reviewPlan rules tables tags targets decision guard).accepted := by
  rw [(reviewInTransaction_ok h).2.2.2.1, List.map_map]
  exact List.map_id _

theorem applied_perm (h : reviewInTransaction rules tables tags reviews targets decision guard
      = .ok (tags', reviews', batch)) {targets' : List AnalysisReviewTarget}
    (hperm : targets'.Perm targets) :
    ∃ reviews'' batch', reviewInTransaction rules tables tags reviews targets' decision guard
        = .ok (tags', reviews'', batch') ∧
      (batch'.applied.map AnalysisReviewOutcome.target).Perm
        (batch.applied.map AnalysisReviewOutcome.target) := by
  obtain ⟨checked, hchecked, _⟩ := bind_eq_ok.mp h
  obtain ⟨hall, _⟩ := check_all hchecked
  obtain ⟨⟨tags'', reviews'', batch'⟩, hresult⟩ := reviewInTransaction_of_checks
    (fun other hother => hall other (hperm.mem_iff.mp hother)) tags reviews decision
  have haccepted := accepted_perm (hperm.filter (passes rules tables guard)) decision tags.tagsOf
  have htags : tags'' = tags' := by
    rw [(reviewInTransaction_ok hresult).1, (reviewInTransaction_ok h).1]
    congr 1
    ext ⟨track, tag⟩
    rw [List.mem_toFinset, List.mem_toFinset]
    unfold reviewPlan planDecisions at *
    by_cases hdecision : decision = .accepted
    · subst hdecision
      rw [(mem_inserted _ _ _).1, (mem_inserted _ _ _).1]
      simp only [haccepted.mem_iff]
    · rw [inserted_of_not_accepted hdecision, inserted_of_not_accepted hdecision]
  subst htags
  refine ⟨reviews'', batch', hresult, ?_⟩
  rw [applied_eq hresult, applied_eq h]
  exact haccepted

/-- In every state that the writers reach from an empty table, a track has at most the allowed
number of tags.  A review, whatever it finds in the other tables, carries out all the targets
with new tags of a track that stand its checks, or none of them; in any order of the targets
it carries out the same; and a target that stands its checks is carried out where the track
has the tag already. -/
theorem manual_tag_limit (rules : EvidenceRules δ) (cleanup : CleanupRules ν) {tags : ManualTags}
    (hreachable : (tagSystem rules cleanup).Reachable tags) :
    (∀ track, (tags.tagsOf track).card ≤ maxTagsPerTrack) ∧
    ∀ tables reviews targets decision guard tags' reviews' batch,
      reviewInTransaction rules tables tags reviews targets decision guard
        = .ok (tags', reviews', batch) →
      (∀ track,
        (∀ target ∈ targets, passes rules tables guard target = true → target.trackId = track →
          target.tag ∉ tags.tagsOf track →
          target ∈ batch.applied.map AnalysisReviewOutcome.target) ∨
        (∀ target ∈ targets, target.trackId = track → target.tag ∉ tags.tagsOf track →
          target ∉ batch.applied.map AnalysisReviewOutcome.target)) ∧
      (∀ targets', targets'.Perm targets → ∃ reviews'' batch',
        reviewInTransaction rules tables tags reviews targets' decision guard
          = .ok (tags', reviews'', batch') ∧
        (batch'.applied.map AnalysisReviewOutcome.target).Perm
          (batch.applied.map AnalysisReviewOutcome.target)) ∧
      (∀ target ∈ targets, passes rules tables guard target = true →
        target.tag ∈ tags.tagsOf target.trackId →
        target ∈ batch.applied.map AnalysisReviewOutcome.target) := by
  refine ⟨bounded_of_reachable hreachable, ?_⟩
  intro tables reviews targets decision guard tags' reviews' batch h
  rw [applied_eq h]
  refine ⟨?_, ?_, ?_⟩
  · intro track
    rcases all_new_or_none (targets.filter (passes rules tables guard)) decision tags.tagsOf track
      with hall | hnone
    · left
      intro target hmem hpasses hid hnew
      exact hall target (List.mem_filter.mpr ⟨hmem, hpasses⟩) hid hnew
    · right
      intro target _ hid hnew haccepted
      exact hnone target (mem_accepted.mp haccepted).1 hid hnew haccepted
  · intro targets' hperm
    rw [← applied_eq h]
    exact applied_perm h hperm
  · intro target hmem hpasses hhas
    exact present_accepted (List.mem_filter.mpr ⟨hmem, hpasses⟩) hhas

end

/-! ## A stale target beside a fresh one -/

def plainRules : EvidenceRules Unit where
  digest := id
  encode _ := ""
  secondsBits _ := 0
  taggingPrototype := .null
  jevInferenceIdentity := .null
  songCatalogEvidence _ _ _ := none
  validTagDecisions _ _ _ := true
  validExplanation _ := true

/-- One track with a catalog profile that suggests one tag. -/
def suggestedLibrary : ReviewWorld Unit where
  tables :=
    { index := { LibraryIndex.empty with
        tracks := ⟨[⟨⟨1, Int.one_pos⟩, "a.mp3".toList,
          ⟨"", "", "", "", "", "", "", none, none, none, "", none⟩, 0, "", "", 1000, 1, 1⟩],
          by decide, by decide⟩ }
      analyses := [⟨⟨1, Int.one_pos⟩, catalogTagAnalyzerId, "", some ["calm"], some [], some [],
        some []⟩]
      contexts := []
      enrichments := []
      catalogRevision := 0
      sourcePolicies := []
      vocabulary := none
      roles := []
      connections := [] }
  tags := ∅
  reviews := []
  voice := none
  roles := []
  identities := []
  guards := []
  digested := []

/-- The suggestion, and the same one with the signature of another profile. -/
def suggestion (sourceSignature : String) : AnalysisReviewTarget :=
  ⟨⟨1, Int.one_pos⟩, "calm", catalogTagAnalyzerId, sourceSignature⟩

def plainCleanup : CleanupRules Unit where
  normalized := some
  vocabularyFingerprint _ := ""
  catalogSignature _ := ""
  suggestions _ _ := []

def nearLimit : ManualTags :=
  nextTags plainRules plainCleanup ∅ (.patchTags (fun _ => true) [⟨1, Int.one_pos⟩]
    ("calm" :: (List.range 30).map fun index => s!"tag {index}") [])

/-- The profile of the track suggests three tags. -/
def moodyTables : EvidenceTables Unit :=
  { suggestedLibrary.tables with
    analyses := [⟨⟨1, Int.one_pos⟩, catalogTagAnalyzerId, "", some ["bright", "calm", "dim"],
      some [], some [], some []⟩] }

def moodTargets : List AnalysisReviewTarget :=
  ["bright", "calm", "dim"].map fun tag => ⟨⟨1, Int.one_pos⟩, tag, catalogTagAnalyzerId, ""⟩

theorem manual_tag_limit_patched :
    (nearLimit.tagsOf ⟨1, Int.one_pos⟩).card = 31 ∧
    (∀ track, (nearLimit.tagsOf track).card ≤ maxTagsPerTrack) ∧
    ∃ reviews' batch,
      reviewInTransaction plainRules moodyTables nearLimit [] moodTargets .accepted none =
        .ok (nearLimit, reviews', batch) ∧
      batch.applied.map AnalysisReviewOutcome.target = [suggestion ""] ∧
      ∀ targets', targets'.Perm moodTargets → ∃ reviews'' batch',
        reviewInTransaction plainRules moodyTables nearLimit [] targets' .accepted none =
          .ok (nearLimit, reviews'', batch') ∧
        (batch'.applied.map AnalysisReviewOutcome.target).Perm [suggestion ""] := by
  obtain ⟨hlimit, hreviews⟩ := manual_tag_limit plainRules plainCleanup
    (.step (.init rfl) rfl : (tagSystem plainRules plainCleanup).Reachable nearLimit)
  have hresult : ((reviewInTransaction plainRules moodyTables nearLimit [] moodTargets .accepted
      none).map fun result => (result.1, result.2.2.applied.map AnalysisReviewOutcome.target)) =
        .ok (nearLimit, [suggestion ""]) := by
    decide +kernel
  cases hreview : reviewInTransaction plainRules moodyTables nearLimit [] moodTargets .accepted
      none with
  | error error =>
    rw [hreview] at hresult
    cases hresult
  | ok result =>
    obtain ⟨tags', reviews', batch⟩ := result
    rw [hreview] at hresult
    obtain ⟨rfl, happlied⟩ := Prod.mk.inj (Except.ok.inj hresult)
    obtain ⟨-, horders, -⟩ := hreviews _ _ _ _ _ _ _ _ hreview
    rw [happlied] at horders
    exact ⟨by decide +kernel, hlimit, reviews', batch, rfl, happlied, horders⟩

/-- Of two new tags of one track, a review accepts the one whose target is fresh. -/
theorem one_of_two_new_tags_accepted :
    (tagSystem plainRules plainCleanup).Reachable ∅ ∧
    (⟨⟨1, by decide⟩, "bright", catalogTagAnalyzerId, ""⟩ : AnalysisReviewTarget).tag
      ∉ ManualTags.tagsOf ∅ ⟨1, by decide⟩ ∧
    (suggestion "").tag ∉ ManualTags.tagsOf ∅ ⟨1, by decide⟩ ∧
    ∃ tags' reviews' batch,
      reviewInTransaction plainRules suggestedLibrary.tables ∅ []
        [⟨⟨1, by decide⟩, "bright", catalogTagAnalyzerId, ""⟩, suggestion ""] .accepted none
        = .ok (tags', reviews', batch) ∧
      suggestion "" ∈ batch.applied.map AnalysisReviewOutcome.target ∧
      ⟨⟨1, by decide⟩, "bright", catalogTagAnalyzerId, ""⟩
        ∉ batch.applied.map AnalysisReviewOutcome.target := by
  refine ⟨.init rfl, by decide, by decide, _, _, _, rfl, ?_, ?_⟩
  · exact List.mem_singleton.mpr rfl
  · decide

end MusicServer
