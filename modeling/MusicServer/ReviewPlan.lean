/-
# The plan of a tag review

Which of the checked targets of a review are carried out.  Accepting is bounded: the new tags
of a track are taken together, and where the track would pass the limit none of them is, in
whatever order they stand; a tag the track has already is confirmed either way.
-/
import MusicServer.ManualTags

namespace MusicServer

inductive AnalysisReviewDecision where
  | pending
  | accepted
  | rejected
  deriving DecidableEq

inductive AnalysisReviewFailureCode where
  | notFound
  | stale
  | tagLimit
  deriving DecidableEq

structure AnalysisReviewTarget where
  trackId : TrackId
  tag : String
  analyzerId : String
  sourceSignature : String
  deriving DecidableEq

structure AnalysisReviewFailure where
  target : AnalysisReviewTarget
  code : AnalysisReviewFailureCode
  error : String
  deriving DecidableEq

structure PlannedReview where
  target : AnalysisReviewTarget
  insertManualTag : Bool
  deriving DecidableEq

structure ReviewPlan where
  operations : List PlannedReview
  failures : List AnalysisReviewFailure
  deriving DecidableEq

namespace ReviewPlan

/-- The manual tags of the tracks under review. -/
abbrev Manual := TrackId → Finset String

/-- The tags that accepting the targets would add to a track. -/
def additions (targets : List AnalysisReviewTarget) (manual : Manual) (track : TrackId) :
    Finset String :=
  ((targets.filter fun target => target.trackId = track && target.tag ∉ manual track).map
    AnalysisReviewTarget.tag).toFinset

/-- The track has new tags, and more than fit. -/
def overflows (targets : List AnalysisReviewTarget) (decision : AnalysisReviewDecision)
    (manual : Manual) (track : TrackId) : Bool :=
  decision = .accepted && additions targets manual track ≠ ∅ &&
    maxTagsPerTrack < (manual track).card + (additions targets manual track).card

def reviewLimitError : String :=
  s!"selected suggestions would exceed the {maxTagsPerTrack}-tag limit"

/-- The loop over the targets; `current` is what the tracks have by now. -/
def planFrom (overflow : TrackId → Bool) (decision : AnalysisReviewDecision) :
    Manual → List AnalysisReviewTarget → ReviewPlan
  | _, [] => ⟨[], []⟩
  | current, target :: rest =>
    if decision = .accepted ∧ overflow target.trackId = true ∧
        target.tag ∉ current target.trackId then
      let plan := planFrom overflow decision current rest
      { plan with failures := ⟨target, .tagLimit, reviewLimitError⟩ :: plan.failures }
    else
      let inserts := decision = .accepted && target.tag ∉ current target.trackId
      let current' := if decision = .accepted then
          Function.update current target.trackId (insert target.tag (current target.trackId))
        else current
      let plan := planFrom overflow decision current' rest
      { plan with operations := ⟨target, inserts⟩ :: plan.operations }

def planDecisions (targets : List AnalysisReviewTarget) (decision : AnalysisReviewDecision)
    (manual : Manual) : ReviewPlan :=
  planFrom (overflows targets decision manual) decision manual targets

/-- The targets carried out, in their order. -/
def accepted (plan : ReviewPlan) : List AnalysisReviewTarget :=
  plan.operations.map PlannedReview.target

/-! ## What is carried out -/

/-- A target is refused where it would add a tag to a track that overflows. -/
def refused (overflow : TrackId → Bool) (decision : AnalysisReviewDecision) (manual : Manual)
    (target : AnalysisReviewTarget) : Bool :=
  decision = .accepted && overflow target.trackId && target.tag ∉ manual target.trackId

variable {decision : AnalysisReviewDecision} {overflow : TrackId → Bool}

/-- The tracks that overflow gain nothing on the way, so what is refused does not depend on
what came before. -/
theorem accepted_planFrom {manual current : Manual}
    (h : ∀ track, overflow track = true → current track = manual track)
    (targets : List AnalysisReviewTarget) :
    (planFrom overflow decision current targets).accepted
        = targets.filter (fun target => !refused overflow decision manual target) ∧
      (planFrom overflow decision current targets).failures.map AnalysisReviewFailure.target
        = targets.filter (refused overflow decision manual) := by
  induction targets generalizing current with
  | nil => exact ⟨rfl, rfl⟩
  | cons target rest ih =>
    unfold planFrom
    split
    · next hrefused =>
      obtain ⟨haccepted, hoverflow, hnew⟩ := hrefused
      have hyes : refused overflow decision manual target = true := by
        rw [h _ hoverflow] at hnew
        simp [refused, haccepted, hoverflow, hnew]
      obtain ⟨hops, hfail⟩ := ih h
      rw [List.filter_cons_of_neg (by simp [hyes]), List.filter_cons_of_pos (by simp [hyes])]
      refine ⟨hops, ?_⟩
      rw [← hfail]
      rfl
    · next hkept =>
      have hno : refused overflow decision manual target = false := by
        by_contra hyes
        rw [Bool.not_eq_false] at hyes
        simp only [refused, Bool.and_eq_true, decide_eq_true_eq] at hyes
        obtain ⟨⟨haccepted, hoverflow⟩, hnew⟩ := hyes
        rw [← h _ hoverflow] at hnew
        exact hkept ⟨haccepted, hoverflow, hnew⟩
      have hnext : ∀ track, overflow track = true →
          (if decision = .accepted then
            Function.update current target.trackId (insert target.tag (current target.trackId))
            else current) track = manual track := by
        intro track hoverflow
        split
        · next haccepted =>
          by_cases hsame : track = target.trackId
          · subst hsame
            have hhas : target.tag ∈ current target.trackId := by
              by_contra hnew
              exact hkept ⟨haccepted, hoverflow, hnew⟩
            rw [Function.update_self, Finset.insert_eq_of_mem hhas]
            exact h _ hoverflow
          · rw [Function.update_of_ne hsame]
            exact h _ hoverflow
        · exact h _ hoverflow
      obtain ⟨hops, hfail⟩ := ih hnext
      rw [List.filter_cons_of_pos (by simp [hno]), List.filter_cons_of_neg (by simp [hno])]
      refine ⟨?_, hfail⟩
      rw [← hops]
      rfl

/-! ## What is inserted -/

/-- The rows that planned operations insert, in their order. -/
def insertions (operations : List PlannedReview) : List (TrackId × String) :=
  (operations.filter PlannedReview.insertManualTag).map fun operation =>
    (operation.target.trackId, operation.target.tag)

def inserted (plan : ReviewPlan) : List (TrackId × String) := insertions plan.operations

theorem inserted_of_not_accepted (h : decision ≠ .accepted) (current : Manual)
    (targets : List AnalysisReviewTarget) :
    (planFrom overflow decision current targets).inserted = [] := by
  induction targets generalizing current with
  | nil => rfl
  | cons target rest ih =>
    unfold planFrom
    rw [if_neg (fun hrefused => h hrefused.1)]
    simpa [inserted, insertions, h] using ih _

/-- What the tracks have once a target is accepted. -/
def gained (current : Manual) (target : AnalysisReviewTarget) : Manual :=
  Function.update current target.trackId (insert target.tag (current target.trackId))

variable {target : AnalysisReviewTarget}

theorem mem_gained {current : Manual} {track : TrackId} {tag : String} :
    tag ∈ gained current target track ↔
      tag ∈ current track ∨ (track, tag) = (target.trackId, target.tag) := by
  unfold gained
  by_cases hsame : track = target.trackId
  · subst hsame
    rw [Function.update_self, Finset.mem_insert, Prod.mk.injEq]
    simp only [true_and]
    exact or_comm
  · rw [Function.update_of_ne hsame, Prod.mk.injEq]
    simp only [hsame, false_and, or_false]

theorem planFrom_refused {current : Manual} {rest : List AnalysisReviewTarget}
    (h : overflow target.trackId = true ∧ target.tag ∉ current target.trackId) :
    (planFrom overflow .accepted current (target :: rest)).operations
      = (planFrom overflow .accepted current rest).operations := by
  conv_lhs => unfold planFrom
  rw [if_pos ⟨rfl, h⟩]

theorem planFrom_kept {current : Manual} {rest : List AnalysisReviewTarget}
    (h : ¬ (overflow target.trackId = true ∧ target.tag ∉ current target.trackId)) :
    (planFrom overflow .accepted current (target :: rest)).operations
      = ⟨target, decide (target.tag ∉ current target.trackId)⟩ ::
        (planFrom overflow .accepted (gained current target) rest).operations := by
  conv_lhs => unfold planFrom
  rw [if_neg (fun hrefused => h hrefused.2)]
  simp only [decide_true, Bool.true_and, if_true]
  rfl

theorem mem_inserted (overflow : TrackId → Bool) (current : Manual)
    (targets : List AnalysisReviewTarget) :
    (∀ track tag, (track, tag) ∈ (planFrom overflow .accepted current targets).inserted ↔
      tag ∉ current track ∧ ∃ target ∈ (planFrom overflow .accepted current targets).accepted,
        (track, tag) = (target.trackId, target.tag)) ∧
      (planFrom overflow .accepted current targets).inserted.Nodup := by
  induction targets generalizing current with
  | nil =>
    refine ⟨?_, List.nodup_nil⟩
    intro track tag
    simp [planFrom, inserted, insertions, accepted]
  | cons target rest ih =>
    by_cases hrefused : overflow target.trackId = true ∧ target.tag ∉ current target.trackId
    · unfold inserted accepted
      rw [planFrom_refused hrefused]
      exact ih current
    · obtain ⟨hmem, hnodup⟩ := ih (gained current target)
      unfold inserted insertions at hmem hnodup ⊢
      unfold accepted at hmem ⊢
      rw [planFrom_kept hrefused]
      have hfresh : ∀ track tag, tag ∉ gained current target track →
          tag ∉ current track ∧ (track, tag) ≠ (target.trackId, target.tag) := by
        intro track tag hlacks
        rw [mem_gained, not_or] at hlacks
        exact hlacks
      constructor
      · intro track tag
        rw [List.map_cons]
        by_cases hthis : (track, tag) = (target.trackId, target.tag)
        · obtain ⟨rfl, rfl⟩ := Prod.mk.inj hthis
          by_cases hnew : target.tag ∈ current target.trackId
          · have hno : ¬ (target.tag ∉ gained current target target.trackId) := by
              rw [mem_gained]
              exact fun h => h (Or.inl hnew)
            rw [List.filter_cons_of_neg (by simp [hnew]), hmem]
            simp only [hno, false_and, false_iff, not_and]
            exact fun h => absurd hnew h
          · rw [List.filter_cons_of_pos (by simp [hnew])]
            simp only [List.map_cons, List.mem_cons, true_or, true_iff]
            exact ⟨hnew, target, Or.inl rfl, rfl⟩
        · have hgained : tag ∉ gained current target track ↔ tag ∉ current track := by
            rw [mem_gained, not_or]
            exact and_iff_left hthis
          have hrest : (track, tag) ∈ List.map (fun operation =>
                (operation.target.trackId, operation.target.tag))
              (List.filter PlannedReview.insertManualTag
                (⟨target, decide (target.tag ∉ current target.trackId)⟩ ::
                  (planFrom overflow .accepted (gained current target) rest).operations)) ↔
              (track, tag) ∈ List.map (fun operation =>
                (operation.target.trackId, operation.target.tag))
              (List.filter PlannedReview.insertManualTag
                (planFrom overflow .accepted (gained current target) rest).operations) := by
            by_cases hnew : target.tag ∈ current target.trackId
            · rw [List.filter_cons_of_neg (by simp [hnew])]
            · rw [List.filter_cons_of_pos (by simp [hnew]), List.map_cons, List.mem_cons]
              exact or_iff_right hthis
          rw [hrest, hmem, hgained]
          refine and_congr_right fun _ => ?_
          simp only [List.mem_cons, exists_eq_or_imp, hthis, false_or]
      · by_cases hnew : target.tag ∈ current target.trackId
        · rw [List.filter_cons_of_neg (by simp [hnew])]
          exact hnodup
        · rw [List.filter_cons_of_pos (by simp [hnew]), List.map_cons, List.nodup_cons]
          refine ⟨?_, hnodup⟩
          rw [hmem]
          rintro ⟨hlacks, _⟩
          exact (hfresh _ _ hlacks).2 rfl

/-! ## The limit -/

variable {targets : List AnalysisReviewTarget}

theorem mem_additions {manual : Manual} {track : TrackId} {tag : String} :
    tag ∈ additions targets manual track ↔
      tag ∉ manual track ∧ ∃ target ∈ targets, (track, tag) = (target.trackId, target.tag) := by
  unfold additions
  rw [List.mem_toFinset, List.mem_map]
  constructor
  · rintro ⟨target, htarget, rfl⟩
    rw [List.mem_filter, Bool.and_eq_true, decide_eq_true_eq, decide_eq_true_eq] at htarget
    obtain ⟨hmem, rfl, hnew⟩ := htarget
    exact ⟨hnew, target, hmem, rfl⟩
  · rintro ⟨hnew, target, hmem, heq⟩
    obtain ⟨rfl, rfl⟩ := Prod.mk.inj heq
    refine ⟨target, ?_, rfl⟩
    rw [List.mem_filter, Bool.and_eq_true, decide_eq_true_eq, decide_eq_true_eq]
    exact ⟨hmem, rfl, hnew⟩

theorem mem_accepted {manual : Manual} :
    target ∈ (planDecisions targets decision manual).accepted ↔
      target ∈ targets ∧
        refused (overflows targets decision manual) decision manual target = false := by
  unfold planDecisions
  rw [(accepted_planFrom (fun _ _ => rfl) targets).1, List.mem_filter, Bool.not_eq_true']

theorem bounded_inserted {tags : ManualTags} (h : tags.Bounded)
    (targets : List AnalysisReviewTarget) (decision : AnalysisReviewDecision) :
    ManualTags.Bounded (tags ∪ (planDecisions targets decision tags.tagsOf).inserted.toFinset) := by
  intro track
  by_cases hdecision : decision = .accepted
  · subst hdecision
    obtain ⟨hmem, _⟩ := mem_inserted (overflows targets .accepted tags.tagsOf) tags.tagsOf targets
    have hsubset : ManualTags.tagsOf
        (tags ∪ (planDecisions targets .accepted tags.tagsOf).inserted.toFinset) track ⊆
        if overflows targets .accepted tags.tagsOf track = true then tags.tagsOf track
        else tags.tagsOf track ∪ additions targets tags.tagsOf track := by
      intro tag htag
      rw [ManualTags.mem_tagsOf, Finset.mem_union, List.mem_toFinset, planDecisions, hmem] at htag
      rcases htag with hold | ⟨hnew, target, htarget, heq⟩
      · rw [← ManualTags.mem_tagsOf] at hold
        split
        · exact hold
        · exact Finset.mem_union_left _ hold
      · obtain ⟨rfl, rfl⟩ := Prod.mk.inj heq
        obtain ⟨hlisted, hkept⟩ := mem_accepted.mp htarget
        split
        · next hoverflow =>
          simp [refused, hoverflow, hnew] at hkept
        · exact Finset.mem_union_right _ (mem_additions.mpr ⟨hnew, target, hlisted, rfl⟩)
    refine le_trans (Finset.card_le_card hsubset) ?_
    split
    · exact h track
    · next hroom =>
      have hunion := Finset.card_union_le (tags.tagsOf track)
        (additions targets tags.tagsOf track)
      by_cases hempty : additions targets tags.tagsOf track = ∅
      · rw [hempty, Finset.union_empty]
        exact h track
      · simp only [overflows, hempty, ne_eq, not_false_eq_true, decide_true, Bool.and_self,
          Bool.true_and, decide_eq_true_eq, not_lt] at hroom
        omega
  · unfold planDecisions
    rw [inserted_of_not_accepted hdecision, List.toFinset_nil, Finset.union_empty]
    exact h track

theorem overflows_perm {targets targets' : List AnalysisReviewTarget} (h : targets.Perm targets')
    (decision : AnalysisReviewDecision) (manual : Manual) :
    overflows targets decision manual = overflows targets' decision manual := by
  funext track
  have hadditions : additions targets manual track = additions targets' manual track := by
    ext tag
    rw [mem_additions, mem_additions]
    simp only [h.mem_iff]
  unfold overflows
  rw [hadditions]

theorem accepted_perm {targets targets' : List AnalysisReviewTarget} (h : targets.Perm targets')
    (decision : AnalysisReviewDecision) (manual : Manual) :
    (planDecisions targets decision manual).accepted.Perm
      (planDecisions targets' decision manual).accepted := by
  unfold planDecisions
  rw [(accepted_planFrom (fun _ _ => rfl) targets).1,
    (accepted_planFrom (fun _ _ => rfl) targets').1, overflows_perm h]
  exact h.filter _

theorem all_new_or_none (targets : List AnalysisReviewTarget) (decision : AnalysisReviewDecision)
    (manual : Manual) (track : TrackId) :
    (∀ target ∈ targets, target.trackId = track → target.tag ∉ manual track →
        target ∈ (planDecisions targets decision manual).accepted) ∨
      (∀ target ∈ targets, target.trackId = track → target.tag ∉ manual track →
        target ∉ (planDecisions targets decision manual).accepted) := by
  by_cases hoverflow : overflows targets decision manual track = true
  · right
    rintro target _ rfl hnew haccepted
    have hkept := (mem_accepted.mp haccepted).2
    have hdecision : decision = .accepted := by
      simp only [overflows, Bool.and_eq_true, decide_eq_true_eq] at hoverflow
      exact hoverflow.1.1
    subst hdecision
    simp [refused, hoverflow, hnew] at hkept
  · left
    rintro target hmem rfl _
    rw [mem_accepted]
    refine ⟨hmem, ?_⟩
    simp [refused, hoverflow]

theorem present_accepted {manual : Manual} (hmem : target ∈ targets)
    (hhas : target.tag ∈ manual target.trackId) :
    target ∈ (planDecisions targets decision manual).accepted := by
  rw [mem_accepted]
  refine ⟨hmem, ?_⟩
  simp [refused, hhas]

end ReviewPlan

end MusicServer
