/-
# Manual tags

The tags a user gave to tracks, as the set of pairs the table holds, and its writers: the
patch of many tracks, the rename of one tag, the cleanup of many, and the plan of a review.
Each of them leaves a track with at most `maxTagsPerTrack` tags if it had no more.
-/
import MusicServer.RecoveryJournal

namespace MusicServer

def maxTagsPerTrack : ℕ := 32

/-- The rows of `track_user_tags`: its primary key is the pair. -/
abbrev ManualTags := Finset (TrackId × String)

namespace ManualTags

/-- `SELECT tag FROM track_user_tags WHERE track_id = ?`. -/
def tagsOf (tags : ManualTags) (track : TrackId) : Finset String :=
  (tags.filter fun row => row.1 = track).image Prod.snd

variable {tags : ManualTags}

theorem mem_tagsOf {track : TrackId} {tag : String} :
    tag ∈ tagsOf tags track ↔ (track, tag) ∈ tags := by
  unfold tagsOf
  rw [Finset.mem_image]
  constructor
  · rintro ⟨⟨track', tag'⟩, hrow, rfl⟩
    obtain ⟨hmem, rfl⟩ := Finset.mem_filter.mp hrow
    exact hmem
  · intro hmem
    exact ⟨(track, tag), Finset.mem_filter.mpr ⟨hmem, rfl⟩, rfl⟩

def Bounded (tags : ManualTags) : Prop := ∀ track, (tagsOf tags track).card ≤ maxTagsPerTrack

theorem bounded_empty : Bounded ∅ := by
  intro track
  have hnone : tagsOf ∅ track = ∅ := rfl
  rw [hnone, Finset.card_empty]
  exact Nat.zero_le _

/-! ## The patch of many tracks -/

structure BulkTagOutcome where
  requestedTracks : ℕ
  matchedTracks : ℕ
  changedTrackIds : List TrackId
  missingTrackIds : List TrackId
  failures : List (TrackId × String)

def tagLimitError : String := s!"track would exceed the {maxTagsPerTrack}-tag limit"

/-- What the patch makes of the tags of one track. -/
def patched (before add remove : Finset String) : Finset String := (before \ remove) ∪ add

/-- Deletes the tags that go and inserts those that come. -/
def replaceTags (tags : ManualTags) (track : TrackId) (before after : Finset String) : ManualTags :=
  (tags \ (before \ after).image fun tag => (track, tag)) ∪
    (after \ before).image fun tag => (track, tag)

def patchTrack (add remove : Finset String) (progress : ManualTags × BulkTagOutcome)
    (track : TrackId) : ManualTags × BulkTagOutcome :=
  let (tags, outcome) := progress
  let before := tagsOf tags track
  let after := patched before add remove
  if maxTagsPerTrack < after.card then
    (tags, { outcome with failures := outcome.failures ++ [(track, tagLimitError)] })
  else if after = before then (tags, outcome)
  else
    (replaceTags tags track before after,
      { outcome with changedTrackIds := outcome.changedTrackIds ++ [track] })

/-- The ids without repetition, in ascending order. -/
def requestedIds (trackIds : List TrackId) : List TrackId :=
  trackIds.dedup.insertionSort fun left right => left.get ≤ right.get

def patchTags (tags : ManualTags) (stored : TrackId → Bool) (trackIds : List TrackId)
    (add remove : List String) : ManualTags × BulkTagOutcome :=
  let requested := requestedIds trackIds
  let existing := requested.filter stored
  let outcome : BulkTagOutcome :=
    ⟨requested.length, existing.length, [], requested.filter fun id => !stored id, []⟩
  existing.foldl (patchTrack add.toFinset remove.toFinset) (tags, outcome)

theorem tagsOf_replaceTags {track : TrackId} {after : Finset String} (other : TrackId) :
    tagsOf (replaceTags tags track (tagsOf tags track) after) other
      = if other = track then after else tagsOf tags other := by
  ext tag
  rw [mem_tagsOf, replaceTags, Finset.mem_union, Finset.mem_sdiff, Finset.mem_image,
    Finset.mem_image]
  split
  · next hsame =>
    subst hsame
    simp only [Finset.mem_sdiff, mem_tagsOf, Prod.mk.injEq, true_and, exists_eq_right]
    tauto
  · next hne =>
    have hfar : ∀ {p : String → Prop}, ¬ ∃ other', p other' ∧ (track, other') = (other, tag) := by
      rintro p ⟨other', _, heq⟩
      exact hne (congrArg Prod.fst heq).symm
    rw [mem_tagsOf]
    constructor
    · rintro (⟨hmem, _⟩ | hnew)
      · exact hmem
      · exact absurd hnew hfar
    · intro hmem
      exact Or.inl ⟨hmem, hfar⟩

theorem bounded_patchTrack {add remove : Finset String} {progress : ManualTags × BulkTagOutcome}
    (h : Bounded progress.1) (track : TrackId) :
    Bounded (patchTrack add remove progress track).1 := by
  unfold patchTrack
  simp only
  split
  · exact h
  · next hle =>
    split
    · exact h
    · intro other
      rw [tagsOf_replaceTags]
      split
      · exact not_lt.mp hle
      · exact h other

theorem bounded_patchTags (h : Bounded tags) (stored : TrackId → Bool) (trackIds : List TrackId)
    (add remove : List String) :
    Bounded (patchTags tags stored trackIds add remove).1 := by
  unfold patchTags
  simp only
  refine List.foldlRecOn (motive := fun progress : ManualTags × BulkTagOutcome => Bounded progress.1) _ _ h ?_
  intro progress hprogress track _
  exact bounded_patchTrack hprogress track

/-! ## Renaming a tag -/

structure RenameTagOutcome where
  source : String
  target : String
  affectedTracks : ℕ
  merged : Bool

/-- `INSERT OR IGNORE … SELECT track_id, target … WHERE tag = source`, then
`DELETE … WHERE tag = source`. -/
def mergeTag (tags : ManualTags) (source target : String) : ManualTags :=
  (tags ∪ (tags.filter fun row => row.2 = source).image fun row => (row.1, target)).filter
    fun row => row.2 ≠ source

def affectedBy (tags : ManualTags) (tag : String) : ℕ := (tags.filter fun row => row.2 = tag).card

def renameTag (tags : ManualTags) (source target : String) :
    ManualTags × Option RenameTagOutcome :=
  let affected := affectedBy tags source
  if affected = 0 then (tags, none)
  else
    (mergeTag tags source target,
      some ⟨source, target, affected, affectedBy tags target ≠ 0⟩)

theorem mem_mergeTag {source target : String} {track : TrackId} {tag : String} :
    (track, tag) ∈ mergeTag tags source target ↔
      ((track, tag) ∈ tags ∨ (track, source) ∈ tags ∧ tag = target) ∧ tag ≠ source := by
  unfold mergeTag
  rw [Finset.mem_filter, Finset.mem_union, Finset.mem_image]
  refine and_congr_left fun _ => or_congr_right ?_
  constructor
  · rintro ⟨⟨track', tag'⟩, hrow, heq⟩
    obtain ⟨hmem, rfl⟩ := Finset.mem_filter.mp hrow
    obtain ⟨rfl, rfl⟩ := Prod.mk.inj heq
    exact ⟨hmem, rfl⟩
  · rintro ⟨hmem, rfl⟩
    exact ⟨(track, source), Finset.mem_filter.mpr ⟨hmem, rfl⟩, rfl⟩

theorem tagsOf_mergeTag_subset {source target : String} (track : TrackId) :
    tagsOf (mergeTag tags source target) track ⊆
      if source ∈ tagsOf tags track then insert target ((tagsOf tags track).erase source)
      else tagsOf tags track := by
  intro tag htag
  rw [mem_tagsOf, mem_mergeTag] at htag
  obtain ⟨hold, hne⟩ := htag
  split
  · rw [Finset.mem_insert, Finset.mem_erase, mem_tagsOf]
    rcases hold with hmem | ⟨_, htarget⟩
    · exact Or.inr ⟨hne, hmem⟩
    · exact Or.inl htarget
  · next habsent =>
    rw [mem_tagsOf] at habsent ⊢
    rcases hold with hmem | ⟨hsource, _⟩
    · exact hmem
    · exact absurd hsource habsent

theorem bounded_mergeTag (h : Bounded tags) (source target : String) :
    Bounded (mergeTag tags source target) := by
  intro track
  refine le_trans (Finset.card_le_card (tagsOf_mergeTag_subset track)) ?_
  split
  · next hsource =>
    have herase : ((tagsOf tags track).erase source).card + 1 = (tagsOf tags track).card :=
      Finset.card_erase_add_one hsource
    have hinsert := Finset.card_insert_le target ((tagsOf tags track).erase source)
    have hbound := h track
    omega
  · exact h track

theorem bounded_renameTag (h : Bounded tags) (source target : String) :
    Bounded (renameTag tags source target).1 := by
  unfold renameTag
  simp only
  split
  · exact h
  · exact bounded_mergeTag h source target

/-! ## The cleanup of many tags -/

structure CleanupSelection where
  source : String
  target : String
  deriving DecidableEq

structure TagUsage where
  tag : String
  trackCount : ℕ
  deriving DecidableEq

/-- `SELECT tag, COUNT(track_id) … GROUP BY tag ORDER BY tag`. -/
def tagUsage (tags : ManualTags) : List TagUsage :=
  ((tags.image Prod.snd).sort fun left right => left ≤ right).map fun tag =>
    ⟨tag, affectedBy tags tag⟩

/-- What the cleanup takes from the code of the vocabulary and of the previews: the stored
vocabulary as far as it matters, how usage and vocabulary are fingerprinted, and which pairs a
preview suggests. -/
structure CleanupRules (ν : Type) where
  normalized : ν → Option ν
  vocabularyFingerprint : ν → String
  catalogSignature : List TagUsage → String
  suggestions : List TagUsage → ν → List CleanupSelection

inductive CleanupMutation where
  | staleVocabulary
  | staleCatalog
  | invalidSelection
  | applied (outcome : List RenameTagOutcome) (catalogSignature : String)

/-- Renames the selected tags one after the other; none is left where one has no track. -/
def applySelections (tags : ManualTags) :
    List CleanupSelection → Option (ManualTags × List RenameTagOutcome)
  | [] => some (tags, [])
  | item :: rest =>
    match renameTag tags item.source item.target with
    | (_, none) => none
    | (tags', some outcome) =>
      (applySelections tags' rest).map fun (final, outcomes) => (final, outcome :: outcomes)

def applyCleanup {ν : Type} (rules : CleanupRules ν) (tags : ManualTags) (vocabulary : Option ν)
    (expectedCatalogSignature expectedVocabularyFingerprint : String)
    (selections : List CleanupSelection) (allowedPairs : Option (List CleanupSelection)) :
    Except StorageError (ManualTags × CleanupMutation) :=
  match vocabulary with
  | none => .ok (tags, .staleVocabulary)
  | some record =>
    match rules.normalized record with
    | none => .error (.invalidLibraryRecord "invalid vocabulary")
    | some document =>
      let usage := tagUsage tags
      if rules.vocabularyFingerprint document ≠ expectedVocabularyFingerprint then
        .ok (tags, .staleVocabulary)
      else if rules.catalogSignature usage ≠ expectedCatalogSignature then
        .ok (tags, .staleCatalog)
      else if ∃ item ∈ selections,
          item ∉ allowedPairs.getD (rules.suggestions usage document) then
        .ok (tags, .invalidSelection)
      else
        match applySelections tags selections with
        | none => .ok (tags, .staleCatalog)
        | some (tags', outcomes) =>
          .ok (tags', .applied outcomes (rules.catalogSignature (tagUsage tags')))

theorem bounded_applySelections {tags' : ManualTags} (h : Bounded tags)
    {selections : List CleanupSelection} {outcomes : List RenameTagOutcome}
    (happly : applySelections tags selections = some (tags', outcomes)) : Bounded tags' := by
  induction selections generalizing tags outcomes with
  | nil =>
    cases happly
    exact h
  | cons item rest ih =>
    unfold applySelections at happly
    split at happly
    · cases happly
    · next renamed outcome hrename =>
      obtain ⟨⟨final, others⟩, hrest, heq⟩ := Option.map_eq_some_iff.mp happly
      cases heq
      have hbounded := bounded_renameTag h item.source item.target
      rw [hrename] at hbounded
      exact ih hbounded hrest

theorem bounded_applyCleanup {ν : Type} {rules : CleanupRules ν} {tags' : ManualTags}
    {vocabulary : Option ν} {expectedCatalogSignature expectedVocabularyFingerprint : String}
    {selections : List CleanupSelection} {allowedPairs : Option (List CleanupSelection)}
    {outcome : CleanupMutation} (h : Bounded tags)
    (happly : applyCleanup rules tags vocabulary expectedCatalogSignature
      expectedVocabularyFingerprint selections allowedPairs = .ok (tags', outcome)) :
    Bounded tags' := by
  unfold applyCleanup at happly
  split at happly
  · cases happly
    exact h
  · split at happly
    · cases happly
    · simp only at happly
      split at happly
      · cases happly
        exact h
      · split at happly
        · cases happly
          exact h
        · split at happly
          · cases happly
            exact h
          · split at happly
            · cases happly
              exact h
            · next hselections =>
              cases happly
              exact bounded_applySelections h hselections

end ManualTags

end MusicServer
