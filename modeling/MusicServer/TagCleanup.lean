/-
# Tag cleanup as a substitution

The service between a preview and the tables: it reads the tags in use off the tracks, checks
what a user selected, and has the tables rename one tag after the other.  No suggestion of a
preview renames what another one renames to, so the order of the renames does not matter.

* `tagUsage_eq`: the service and the tables count the same tags;
* `applySelections_image`: renames of separate tags are one substitution;
* `cleanup_substitutes`: what a preview suggests is accepted in any order, with one result.
-/
import MusicServer.TagVocabulary

namespace MusicServer

namespace TagCleanup

open ManualTags Vocabulary

/-! ## The service -/

inductive AssistantServiceError where
  | validation (message : String)
  | stale (message : String)
  | invalidCleanupSelection (message : String)
  | vocabulary (error : VocabularyError)
  | dependency (error : StorageError)

structure TagVocabularyRecord where
  revision : ℕ
  document : TagVocabularyDocument

/-- The tables of the manual tags: a tag is on a track of the library. -/
structure TagLibrary where
  tracks : List TrackId
  tags : ManualTags
  vocabulary : Option TagVocabularyRecord
  tracks_nodup : tracks.Nodup
  tagged : ∀ row ∈ tags, row.1 ∈ tracks

structure TagVocabularySnapshot where
  revision : ℕ
  fingerprint : String
  document : TagVocabularyDocument

structure CleanupApplyOutcome where
  applied : List RenameTagOutcome
  catalogSignature : String

/-- The manual tags of every track, as the repository reads them. -/
def manualTags (library : TagLibrary) : List (List String) :=
  library.tracks.map fun track =>
    (tagsOf library.tags track).sort fun left right => left ≤ right

/-- How often each tag is met, in the order of the tags. -/
def tagUsage (tracks : List (List String)) : List TagUsage :=
  (tracks.flatten.toFinset.sort fun left right => left ≤ right).map fun tag =>
    ⟨tag, tracks.flatten.count tag⟩

variable {δ : Type} (rules : TagTextRules) (evidence : EvidenceRules δ)
  (defaultVocabulary : TagVocabularyDocument)

def snapshot (record : TagVocabularyRecord) :
    Except AssistantServiceError TagVocabularySnapshot :=
  if record.revision = 0 then .error (.validation "stored tag vocabulary revision is invalid")
  else
    match normalized rules record.document with
    | .error error => .error (.vocabulary error)
    | .ok document =>
      .ok ⟨record.revision, evidence.vocabularyFingerprint document, document⟩

/-- Stores the bundled vocabulary where there is none yet. -/
def initializeVocabulary (library : TagLibrary) : TagLibrary :=
  { library with vocabulary := some (library.vocabulary.getD ⟨1, defaultVocabulary⟩) }

def vocabulary (library : TagLibrary) :
    TagLibrary × Except AssistantServiceError TagVocabularySnapshot :=
  (initializeVocabulary defaultVocabulary library,
    snapshot rules evidence (library.vocabulary.getD ⟨1, defaultVocabulary⟩))

def cleanupPreview (library : TagLibrary) :
    TagLibrary × Except AssistantServiceError CleanupPreview :=
  let usage := tagUsage (manualTags library)
  let (library, found) := vocabulary rules evidence defaultVocabulary library
  (library, found.map fun vocabulary =>
    buildCleanupPreview evidence usage vocabulary.fingerprint vocabulary.document)

def selectionOf (suggestion : CleanupSuggestion) : CleanupSelection :=
  ⟨suggestion.source, suggestion.target⟩

/-- What the tables use of the code of the vocabulary. -/
def cleanupRules : CleanupRules TagVocabularyDocument where
  normalized document := (normalized rules document).toOption
  vocabularyFingerprint := evidence.vocabularyFingerprint
  catalogSignature := catalogSignature evidence
  suggestions usage document :=
    (buildCleanupPreview evidence usage (evidence.vocabularyFingerprint document)
      document).suggestions.map selectionOf

/-- The selections in their normal form; `sources` are those of the ones before. -/
def normalizeSelections (sources : List String) :
    List CleanupSelection → Except AssistantServiceError (List CleanupSelection)
  | [] => .ok []
  | selection :: rest => do
    let source ← (normalizeManualTag rules selection.source).mapError .validation
    let target ← (normalizeManualTag rules selection.target).mapError .validation
    ensure (source ≠ target ∧ source ∉ sources) (AssistantServiceError.invalidCleanupSelection
      "cleanup sources must be unique and different from their targets")
    let others ← normalizeSelections (source :: sources) rest
    return ⟨source, target⟩ :: others

/-- The checks of the service on what was selected. -/
def checkedSelections (selections : List CleanupSelection) :
    Except AssistantServiceError (List CleanupSelection) := do
  ensure (selections ≠ [] ∧ selections.length ≤ 100)
    (AssistantServiceError.validation "cleanup must contain between 1 and 100 selections")
  let normalized ← normalizeSelections rules [] selections
  ensure (∀ item ∈ normalized, ∀ other ∈ normalized, item.source ≠ other.target)
    (AssistantServiceError.invalidCleanupSelection
      "cleanup selections cannot depend on another selected rename")
  return normalized

/-! ## The renames of the tables -/

variable {tags : ManualTags}

theorem mergeTag_tracked {source target : String} {row : TrackId × String}
    (h : row ∈ mergeTag tags source target) : ∃ old ∈ tags, old.1 = row.1 := by
  obtain ⟨track, tag⟩ := row
  rcases (mem_mergeTag.mp h).1 with hold | ⟨hold, -⟩
  · exact ⟨_, hold, rfl⟩
  · exact ⟨_, hold, rfl⟩

theorem renameTag_tracked {source target : String} {row : TrackId × String}
    (h : row ∈ (renameTag tags source target).1) : ∃ old ∈ tags, old.1 = row.1 := by
  unfold renameTag at h
  dsimp only at h
  split at h
  · exact ⟨row, h, rfl⟩
  · exact mergeTag_tracked h

variable {selections : List CleanupSelection}

theorem applySelections_tracked {tags tags' : ManualTags} {outcomes : List RenameTagOutcome}
    (happly : applySelections tags selections = some (tags', outcomes)) :
    ∀ row ∈ tags', ∃ old ∈ tags, old.1 = row.1 := by
  induction selections generalizing tags outcomes with
  | nil =>
    cases happly
    exact fun row hrow => ⟨row, hrow, rfl⟩
  | cons item rest ih =>
    unfold applySelections at happly
    split at happly
    · cases happly
    · next renamed outcome hrename =>
      obtain ⟨⟨final, others⟩, hrest, heq⟩ := Option.map_eq_some_iff.mp happly
      cases heq
      intro row hrow
      obtain ⟨mid, hmid, htrack⟩ := ih hrest row hrow
      have hstep : mid ∈ (renameTag tags item.source item.target).1 := by rwa [hrename]
      obtain ⟨old, hold, htrack'⟩ := renameTag_tracked hstep
      exact ⟨old, hold, htrack'.trans htrack⟩

theorem applyCleanup_tracked {ν : Type} {cleanup : CleanupRules ν} {tags tags' : ManualTags}
    {document : Option ν} {catalog fingerprint : String}
    {allowedPairs : Option (List CleanupSelection)} {outcome : CleanupMutation}
    (happly : ManualTags.applyCleanup cleanup tags document catalog fingerprint selections
      allowedPairs = .ok (tags', outcome)) :
    ∀ row ∈ tags', ∃ old ∈ tags, old.1 = row.1 := by
  have hsame : ∀ row ∈ tags, ∃ old ∈ tags, old.1 = row.1 := fun row hrow => ⟨row, hrow, rfl⟩
  unfold ManualTags.applyCleanup at happly
  split at happly
  · cases happly
    exact hsame
  · split at happly
    · cases happly
    · dsimp only at happly
      split at happly
      · cases happly
        exact hsame
      · split at happly
        · cases happly
          exact hsame
        · split at happly
          · cases happly
            exact hsame
          · split at happly
            · cases happly
              exact hsame
            · next hselections =>
              cases happly
              exact applySelections_tracked hselections

def applyTables (library : TagLibrary) (expectedCatalogSignature : String)
    (expectedVocabularyFingerprint : String) (selections : List CleanupSelection)
    (allowedPairs : Option (List CleanupSelection)) :
    TagLibrary × Except StorageError CleanupMutation :=
  match h : ManualTags.applyCleanup (cleanupRules rules evidence) library.tags
      (library.vocabulary.map TagVocabularyRecord.document) expectedCatalogSignature
      expectedVocabularyFingerprint selections allowedPairs with
  | .error error => (library, .error error)
  | .ok (tags, outcome) =>
    ({ library with
        tags := tags
        tagged := fun row hrow => by
          obtain ⟨old, hold, htrack⟩ := applyCleanup_tracked h row hrow
          rw [← htrack]
          exact library.tagged old hold }, .ok outcome)

def mutationResult : CleanupMutation → Except AssistantServiceError CleanupApplyOutcome
  | .applied outcome signature => .ok ⟨outcome, signature⟩
  | .staleCatalog =>
    .error (.stale "database mood tags changed after this cleanup preview was created")
  | .staleVocabulary =>
    .error (.stale "tag vocabulary changed after this cleanup preview was created")
  | .invalidSelection => .error (.invalidCleanupSelection "cleanup suggestion is not current")

def applyCleanupInternal (library : TagLibrary) (expectedCatalogSignature : String)
    (expectedVocabularyFingerprint : String) (selections : List CleanupSelection)
    (allowedPairs : Option (List CleanupSelection)) :
    TagLibrary × Except AssistantServiceError CleanupApplyOutcome :=
  match checkedSelections rules selections with
  | .error error => (library, .error error)
  | .ok normalized =>
    match applyTables rules evidence library expectedCatalogSignature
        expectedVocabularyFingerprint normalized allowedPairs with
    | (library, .error error) => (library, .error (.dependency error))
    | (library, .ok mutation) => (library, mutationResult mutation)

def applyCleanup (library : TagLibrary) (expectedCatalogSignature : String)
    (expectedVocabularyFingerprint : String) (selections : List CleanupSelection) :
    TagLibrary × Except AssistantServiceError CleanupApplyOutcome :=
  applyCleanupInternal rules evidence library expectedCatalogSignature
    expectedVocabularyFingerprint selections none

/-! ## The two counts of the tags in use -/

theorem count_sort_tags (tags : ManualTags) (track : TrackId) (tag : String) :
    ((tagsOf tags track).sort fun left right => left ≤ right).count tag
      = if (track, tag) ∈ tags then 1 else 0 := by
  rw [List.Nodup.count (Finset.sort_nodup _ _)]
  simp only [Finset.mem_sort, mem_tagsOf]

theorem affectedBy_eq (library : TagLibrary) (tag : String) :
    affectedBy library.tags tag
      = (library.tracks.filter fun track => (track, tag) ∈ library.tags).length := by
  have hnodup := library.tracks_nodup.filter fun track => (track, tag) ∈ library.tags
  rw [← List.toFinset_card_of_nodup hnodup]
  unfold affectedBy
  refine Finset.card_bij (fun row _ => row.1) ?_ ?_ ?_
  · rintro ⟨track, other⟩ hrow
    obtain ⟨hmem, rfl⟩ := Finset.mem_filter.mp hrow
    rw [List.mem_toFinset, List.mem_filter]
    exact ⟨library.tagged _ hmem, decide_eq_true hmem⟩
  · rintro ⟨track, other⟩ hrow ⟨track', other'⟩ hrow' heq
    obtain ⟨-, rfl⟩ := Finset.mem_filter.mp hrow
    obtain ⟨-, rfl⟩ := Finset.mem_filter.mp hrow'
    exact Prod.ext heq rfl
  · intro track htrack
    rw [List.mem_toFinset, List.mem_filter] at htrack
    exact ⟨(track, tag), Finset.mem_filter.mpr ⟨of_decide_eq_true htrack.2, rfl⟩, rfl⟩

theorem count_manualTags (library : TagLibrary) (tag : String) :
    (manualTags library).flatten.count tag = affectedBy library.tags tag := by
  rw [affectedBy_eq, manualTags, List.count_flatten, List.map_map]
  induction library.tracks with
  | nil => rfl
  | cons track rest ih =>
    rw [List.map_cons, List.sum_cons, ih, List.filter_cons]
    have hcount := count_sort_tags library.tags track tag
    by_cases hmem : (track, tag) ∈ library.tags
    · rw [if_pos hmem] at hcount
      rw [if_pos (decide_eq_true hmem), List.length_cons, Function.comp_apply, hcount]
      omega
    · rw [if_neg hmem] at hcount
      rw [if_neg (by simpa using hmem), Function.comp_apply, hcount]
      omega

theorem toFinset_manualTags (library : TagLibrary) :
    (manualTags library).flatten.toFinset = library.tags.image Prod.snd := by
  ext tag
  rw [List.mem_toFinset, Finset.mem_image, List.mem_flatten]
  constructor
  · rintro ⟨tags, htags, htag⟩
    obtain ⟨track, -, rfl⟩ := List.mem_map.mp htags
    rw [Finset.mem_sort, mem_tagsOf] at htag
    exact ⟨_, htag, rfl⟩
  · rintro ⟨⟨track, other⟩, hrow, rfl⟩
    refine ⟨_, List.mem_map_of_mem (library.tagged _ hrow), ?_⟩
    rw [Finset.mem_sort, mem_tagsOf]
    exact hrow

theorem tagUsage_eq (library : TagLibrary) :
    tagUsage (manualTags library) = ManualTags.tagUsage library.tags := by
  unfold tagUsage ManualTags.tagUsage
  rw [toFinset_manualTags]
  refine List.map_congr_left fun tag _ => ?_
  rw [count_manualTags]

theorem mem_usage {tag : String} :
    tag ∈ (ManualTags.tagUsage tags).map TagUsage.tag ↔ ∃ track, (track, tag) ∈ tags := by
  unfold ManualTags.tagUsage
  rw [List.map_map, List.mem_map]
  constructor
  · rintro ⟨other, hother, rfl⟩
    rw [Finset.mem_sort, Finset.mem_image] at hother
    obtain ⟨⟨track, tag⟩, hrow, rfl⟩ := hother
    exact ⟨track, hrow⟩
  · rintro ⟨track, hrow⟩
    refine ⟨tag, ?_, rfl⟩
    rw [Finset.mem_sort, Finset.mem_image]
    exact ⟨_, hrow, rfl⟩

/-! ## Renames as a substitution -/

/-- Where a tag goes when all the selections act at once. -/
def substitute (selections : List CleanupSelection) (tag : String) : String :=
  ((selections.find? fun item => item.source = tag).map CleanupSelection.target).getD tag

def substituteRows (selections : List CleanupSelection) (tags : ManualTags) : ManualTags :=
  tags.image fun row => (row.1, substitute selections row.2)

/-- No selection takes another one's source, or renames to one. -/
structure Separate (selections : List CleanupSelection) : Prop where
  sources : (selections.map CleanupSelection.source).Nodup
  disjoint : ∀ item ∈ selections, ∀ other ∈ selections, item.source ≠ other.target

variable {item : CleanupSelection}

theorem Separate.tail {rest : List CleanupSelection} (h : Separate (item :: rest)) :
    Separate rest :=
  ⟨(List.nodup_cons.mp h.sources).2, fun left hleft right hright =>
    h.disjoint left (List.mem_cons_of_mem _ hleft) right (List.mem_cons_of_mem _ hright)⟩

theorem substitute_other {tag : String} (h : ∀ item ∈ selections, item.source ≠ tag) :
    substitute selections tag = tag := by
  have hnone : selections.find? (fun item => item.source = tag) = none := by
    rw [List.find?_eq_none]
    intro item hitem hsource
    exact h item hitem (of_decide_eq_true hsource)
  unfold substitute
  rw [hnone]
  rfl

theorem substitute_source (hsources : (selections.map CleanupSelection.source).Nodup)
    (hitem : item ∈ selections) :
    substitute selections item.source = item.target := by
  have hsome : (selections.find? fun other => other.source = item.source).isSome := by
    rw [List.find?_isSome]
    exact ⟨item, hitem, decide_eq_true rfl⟩
  obtain ⟨found, hfound⟩ := Option.isSome_iff_exists.mp hsome
  have hsame : found = item :=
    List.inj_on_of_nodup_map hsources (List.mem_of_find?_eq_some hfound) hitem
      (by simpa using List.find?_some hfound)
  unfold substitute
  rw [hfound, hsame]
  rfl

theorem substitute_perm {selections selections' : List CleanupSelection}
    (hsources : (selections.map CleanupSelection.source).Nodup)
    (hperm : selections.Perm selections') (tag : String) :
    substitute selections tag = substitute selections' tag := by
  have hsources' := (hperm.map CleanupSelection.source).nodup_iff.mp hsources
  by_cases h : ∃ item ∈ selections, item.source = tag
  · obtain ⟨item, hitem, rfl⟩ := h
    rw [substitute_source hsources hitem,
      substitute_source hsources' (hperm.mem_iff.mp hitem)]
  · push Not at h
    rw [substitute_other h, substitute_other fun item hitem => h item (hperm.mem_iff.mpr hitem)]

theorem mergeTag_image (hne : item.source ≠ item.target) :
    mergeTag tags item.source item.target = substituteRows [item] tags := by
  have hsingle : ∀ tag, substitute [item] tag = if item.source = tag then item.target else tag := by
    intro tag
    unfold substitute
    by_cases h : item.source = tag <;> simp [h]
  ext ⟨track, tag⟩
  rw [mem_mergeTag, substituteRows, Finset.mem_image]
  constructor
  · rintro ⟨hmem | ⟨hmem, rfl⟩, hother⟩
    · refine ⟨_, hmem, ?_⟩
      rw [hsingle, if_neg (Ne.symm hother)]
    · refine ⟨_, hmem, ?_⟩
      rw [hsingle, if_pos rfl]
  · rintro ⟨⟨track', old⟩, hmem, heq⟩
    rw [hsingle] at heq
    by_cases hsource : item.source = old
    · rw [if_pos hsource] at heq
      obtain ⟨rfl, rfl⟩ := Prod.mk.inj heq
      subst hsource
      exact ⟨Or.inr ⟨hmem, rfl⟩, Ne.symm hne⟩
    · rw [if_neg hsource] at heq
      obtain ⟨rfl, rfl⟩ := Prod.mk.inj heq
      exact ⟨Or.inl hmem, Ne.symm hsource⟩

theorem substitute_cons {rest : List CleanupSelection} (h : Separate (item :: rest)) (tag : String) :
    substitute rest (substitute [item] tag) = substitute (item :: rest) tag := by
  by_cases hsource : item.source = tag
  · subst hsource
    have hsingle : [item].map CleanupSelection.source = [item.source] := rfl
    rw [substitute_source (hsingle ▸ List.nodup_singleton _) (List.mem_singleton_self item),
      substitute_source h.sources List.mem_cons_self]
    refine substitute_other fun other hother => ?_
    exact h.disjoint other (List.mem_cons_of_mem _ hother) item List.mem_cons_self
  · have hsingle : substitute [item] tag = tag :=
      substitute_other fun other hother => by rwa [List.mem_singleton.mp hother]
    rw [hsingle]
    unfold substitute
    rw [List.find?_cons_of_neg (by simpa using hsource)]

theorem applySelections_image (h : Separate selections)
    (hused : ∀ item ∈ selections, ∃ track, (track, item.source) ∈ tags) :
    ∃ outcomes, applySelections tags selections = some (substituteRows selections tags, outcomes) := by
  induction selections generalizing tags with
  | nil =>
    refine ⟨[], ?_⟩
    have hsame : substituteRows [] tags = tags := Finset.image_id'
    rw [hsame]
    rfl
  | cons item rest ih =>
    have haffected : affectedBy tags item.source ≠ 0 := by
      obtain ⟨track, hrow⟩ := hused item List.mem_cons_self
      exact Finset.card_ne_zero_of_mem (Finset.mem_filter.mpr ⟨hrow, rfl⟩)
    have hne := h.disjoint item List.mem_cons_self item List.mem_cons_self
    -- A source of the rest is not renamed by the first selection.
    have hkept : ∀ other ∈ rest, ∃ track,
        (track, other.source) ∈ mergeTag tags item.source item.target := by
      intro other hother
      obtain ⟨track, hrow⟩ := hused other (List.mem_cons_of_mem _ hother)
      refine ⟨track, mem_mergeTag.mpr ⟨Or.inl hrow, fun heq => ?_⟩⟩
      exact (List.nodup_cons.mp h.sources).1 (heq ▸ List.mem_map_of_mem hother)
    obtain ⟨outcomes, hrest⟩ := ih h.tail hkept
    have himage : substituteRows rest (mergeTag tags item.source item.target)
        = substituteRows (item :: rest) tags := by
      rw [mergeTag_image hne]
      unfold substituteRows
      rw [Finset.image_image]
      refine Finset.image_congr fun row _ => ?_
      exact Prod.ext rfl (substitute_cons h row.2)
    refine ⟨⟨item.source, item.target, affectedBy tags item.source,
      affectedBy tags item.target ≠ 0⟩ :: outcomes, ?_⟩
    unfold applySelections renameTag
    dsimp only
    rw [if_neg haffected]
    dsimp only
    rw [hrest, himage]
    rfl

/-! ## What the service accepts -/

theorem normalizeSelections_normal {rules : TagTextRules} {sources : List String}
    (hnormal : ∀ item ∈ selections, NormalTag rules item.source ∧ NormalTag rules item.target)
    (hseparate : Separate selections) (hnew : ∀ item ∈ selections, item.source ∉ sources) :
    normalizeSelections rules sources selections = .ok selections := by
  induction selections generalizing sources with
  | nil => rfl
  | cons item rest ih =>
    obtain ⟨hsource, htarget⟩ := hnormal item List.mem_cons_self
    have hne := hseparate.disjoint item List.mem_cons_self item List.mem_cons_self
    have hrest : normalizeSelections rules (item.source :: sources) rest = .ok rest := by
      refine ih (fun other hother => hnormal other (List.mem_cons_of_mem _ hother))
        hseparate.tail fun other hother hmem => ?_
      rcases List.mem_cons.mp hmem with heq | hmem
      · exact (List.nodup_cons.mp hseparate.sources).1 (heq ▸ List.mem_map_of_mem hother)
      · exact hnew other (List.mem_cons_of_mem _ hother) hmem
    have hguard : item.source ≠ item.target ∧ item.source ∉ sources :=
      ⟨hne, hnew item List.mem_cons_self⟩
    unfold normalizeSelections
    rw [hsource, htarget]
    simp only [Except.mapError, ensure, hguard, hrest, bind, Except.bind, pure, Except.pure,
      ne_eq, not_false_eq_true, and_self, if_true]

theorem checkedSelections_normal {rules : TagTextRules}
    (hnormal : ∀ item ∈ selections, NormalTag rules item.source ∧ NormalTag rules item.target)
    (hseparate : Separate selections) (hsome : selections ≠ []) (hmany : selections.length ≤ 100) :
    checkedSelections rules selections = .ok selections := by
  have hsize : selections ≠ [] ∧ selections.length ≤ 100 := ⟨hsome, hmany⟩
  have hloop := normalizeSelections_normal hnormal hseparate fun _ _ => List.not_mem_nil
  unfold checkedSelections
  rw [hloop]
  unfold ensure
  rw [if_pos hsize]
  simp only [bind, Except.bind]
  rw [if_pos hseparate.disjoint]
  rfl

theorem applyTables_accepts {δ : Type} {rules : TagTextRules} {evidence : EvidenceRules δ}
    {library : TagLibrary} {record : TagVocabularyRecord}
    (hstored : library.vocabulary = some record)
    (hnormal : normalized rules record.document = .ok record.document)
    (hallowed : ∀ item ∈ selections, item ∈ (buildCleanupPreview evidence
      (ManualTags.tagUsage library.tags) (evidence.vocabularyFingerprint record.document)
      record.document).suggestions.map selectionOf) (hseparate : Separate selections)
    (hused : ∀ item ∈ selections, ∃ track, (track, item.source) ∈ library.tags) :
    ∃ cleaned outcomes signature,
      applyTables rules evidence library
          (catalogSignature evidence (ManualTags.tagUsage library.tags))
          (evidence.vocabularyFingerprint record.document) selections none
        = (cleaned, .ok (.applied outcomes signature)) ∧
      cleaned.tags = substituteRows selections library.tags ∧
      cleaned.tracks = library.tracks ∧ cleaned.vocabulary = library.vocabulary := by
  obtain ⟨outcomes, happly⟩ := applySelections_image hseparate hused
  have htables : ManualTags.applyCleanup (cleanupRules rules evidence) library.tags
      (library.vocabulary.map TagVocabularyRecord.document)
      (catalogSignature evidence (ManualTags.tagUsage library.tags))
      (evidence.vocabularyFingerprint record.document) selections none
        = .ok (substituteRows selections library.tags, .applied outcomes
          (catalogSignature evidence
            (ManualTags.tagUsage (substituteRows selections library.tags)))) := by
    have hnone : ¬ ∃ item ∈ selections, item ∉ (none : Option (List CleanupSelection)).getD
        ((cleanupRules rules evidence).suggestions (ManualTags.tagUsage library.tags)
          record.document) := by
      rintro ⟨item, hitem, hforeign⟩
      exact hforeign (hallowed item hitem)
    have hdocument : (cleanupRules rules evidence).normalized record.document
        = some record.document := congrArg Except.toOption hnormal
    have hfingerprint : ¬ (cleanupRules rules evidence).vocabularyFingerprint record.document
        ≠ evidence.vocabularyFingerprint record.document := not_not.mpr rfl
    have hsignature : ¬ (cleanupRules rules evidence).catalogSignature
          (ManualTags.tagUsage library.tags)
        ≠ catalogSignature evidence (ManualTags.tagUsage library.tags) := not_not.mpr rfl
    unfold ManualTags.applyCleanup
    rw [hstored]
    dsimp only [Option.map_some]
    rw [hdocument]
    dsimp only
    rw [if_neg hfingerprint, if_neg hsignature, if_neg hnone, happly]
    rfl
  unfold applyTables
  split
  · next error herror =>
    rw [htables] at herror
    cases herror
  · next tags outcome hok =>
    rw [htables] at hok
    cases hok
    exact ⟨_, _, _, rfl, rfl, rfl, rfl⟩

/-! ## A set of suggestions -/

/-- Suggestions of which none renames what another one renames, or renames to. -/
structure Apart (suggestions : List CleanupSuggestion) : Prop where
  nodup : suggestions.Nodup
  unique : ∀ suggestion ∈ suggestions, ∀ other ∈ suggestions,
    suggestion.source = other.source → suggestion = other
  disjoint : ∀ suggestion ∈ suggestions, ∀ other ∈ suggestions, suggestion.source ≠ other.target

theorem apart_preview {δ : Type} {evidence : EvidenceRules δ} {usage : List TagUsage}
    {fingerprint : String} {document : TagVocabularyDocument} :
    Apart (buildCleanupPreview evidence usage fingerprint document).suggestions := by
  refine ⟨?_, fun _ h _ hother => suggestions_unique h hother,
    fun _ h _ hother => suggestions_disjoint h hother⟩
  refine (Finset.sort_nodup _ _).filterMap fun source source' suggestion hmade hmade' => ?_
  rw [← (cleanupSuggestion_spec hmade).1, ← (cleanupSuggestion_spec hmade').1]

theorem Apart.separate {suggestions order : List CleanupSuggestion} (h : Apart suggestions)
    (hnodup : order.Nodup) (hsub : ∀ suggestion ∈ order, suggestion ∈ suggestions) :
    Separate (order.map selectionOf) := by
  constructor
  · rw [List.map_map]
    refine hnodup.map_on fun left hleft right hright hsource => ?_
    exact h.unique left (hsub left hleft) right (hsub right hright) hsource
  · intro item hitem other hother
    obtain ⟨left, hleft, rfl⟩ := List.mem_map.mp hitem
    obtain ⟨right, hright, rfl⟩ := List.mem_map.mp hother
    exact h.disjoint left (hsub left hleft) right (hsub right hright)

/-- The selections of the chosen suggestions, in the order of the preview. -/
def chosenSelections (preview : CleanupPreview) (chosen : Finset CleanupSuggestion) :
    List CleanupSelection :=
  (preview.suggestions.filter fun suggestion => suggestion ∈ chosen).map selectionOf

section Chosen

variable {preview : CleanupPreview} {chosen : Finset CleanupSuggestion}
variable {suggestion : CleanupSuggestion}

theorem mem_chosen (hsub : ∀ suggestion ∈ chosen, suggestion ∈ preview.suggestions) :
    suggestion ∈ preview.suggestions.filter (fun suggestion => suggestion ∈ chosen) ↔
      suggestion ∈ chosen := by
  rw [List.mem_filter, decide_eq_true_iff]
  exact ⟨And.right, fun h => ⟨hsub suggestion h, h⟩⟩

theorem separate_chosen (h : Apart preview.suggestions) :
    Separate (chosenSelections preview chosen) :=
  h.separate (h.nodup.filter _) fun _ hmem => List.mem_of_mem_filter hmem

theorem substitute_chosen (h : Apart preview.suggestions)
    (hsub : ∀ suggestion ∈ chosen, suggestion ∈ preview.suggestions) (hmem : suggestion ∈ chosen) :
    substitute (chosenSelections preview chosen) suggestion.source = suggestion.target :=
  substitute_source (separate_chosen h).sources (List.mem_map_of_mem ((mem_chosen hsub).mpr hmem))

theorem substitute_unchosen (hsub : ∀ suggestion ∈ chosen, suggestion ∈ preview.suggestions)
    {tag : String} (hforeign : ∀ suggestion ∈ chosen, suggestion.source ≠ tag) :
    substitute (chosenSelections preview chosen) tag = tag := by
  refine substitute_other fun item hitem => ?_
  obtain ⟨suggestion, hsuggestion, rfl⟩ := List.mem_map.mp hitem
  exact hforeign suggestion ((mem_chosen hsub).mp hsuggestion)

theorem substitute_ne_source (h : Apart preview.suggestions)
    (hsub : ∀ suggestion ∈ chosen, suggestion ∈ preview.suggestions) (hmem : suggestion ∈ chosen)
    (tag : String) :
    substitute (chosenSelections preview chosen) tag ≠ suggestion.source := by
  by_cases hrenamed : ∃ other ∈ chosen, other.source = tag
  · obtain ⟨other, hother, rfl⟩ := hrenamed
    rw [substitute_chosen h hsub hother]
    exact (h.disjoint suggestion (hsub suggestion hmem) other (hsub other hother)).symm
  · push Not at hrenamed
    rw [substitute_unchosen hsub hrenamed]
    exact (hrenamed suggestion hmem).symm

theorem substituteRows_order (h : Apart preview.suggestions)
    (hsub : ∀ suggestion ∈ chosen, suggestion ∈ preview.suggestions)
    {order : List CleanupSuggestion} (hnodup : order.Nodup) (horder : order.toFinset = chosen)
    (tags : ManualTags) :
    substituteRows (order.map selectionOf) tags
      = substituteRows (chosenSelections preview chosen) tags := by
  have hmem : ∀ suggestion, suggestion ∈ order ↔ suggestion ∈ chosen := by
    intro suggestion
    rw [← horder, List.mem_toFinset]
  have hperm : order.Perm (preview.suggestions.filter fun suggestion => suggestion ∈ chosen) := by
    refine (List.perm_ext_iff_of_nodup hnodup (h.nodup.filter _)).mpr fun suggestion => ?_
    rw [mem_chosen hsub, hmem]
  have hseparate := h.separate hnodup fun suggestion hitem =>
    hsub suggestion ((hmem suggestion).mp hitem)
  refine Finset.image_congr fun row _ => Prod.ext rfl ?_
  exact substitute_perm hseparate.sources (hperm.map selectionOf) row.2

end Chosen

section Preview

variable {δ : Type} {rules : TagTextRules} {evidence : EvidenceRules δ}
  {defaultVocabulary : TagVocabularyDocument} {library stored : TagLibrary}
  {preview : CleanupPreview}

theorem cleanupPreview_spec
    (h : cleanupPreview rules evidence defaultVocabulary library = (stored, .ok preview)) :
    ∃ record document, stored.vocabulary = some record ∧
      normalized rules record.document = .ok document ∧
      stored.tags = library.tags ∧ stored.tracks = library.tracks ∧
      preview = buildCleanupPreview evidence (ManualTags.tagUsage stored.tags)
        (evidence.vocabularyFingerprint document) document := by
  unfold cleanupPreview vocabulary snapshot at h
  dsimp only at h
  rw [tagUsage_eq] at h
  obtain ⟨rfl, hpreview⟩ := Prod.mk.inj h
  split at hpreview
  · cases hpreview
  · split at hpreview
    · cases hpreview
    · next document hdocument =>
      refine ⟨_, document, rfl, hdocument, rfl, rfl, ?_⟩
      exact (Except.ok.inj hpreview).symm

theorem applyCleanup_accepts {record : TagVocabularyRecord}
    (hstored : stored.vocabulary = some record)
    (hnormal : normalized rules record.document = .ok record.document)
    (htags : ∀ row ∈ stored.tags, NormalTag rules row.2)
    (hpreview : preview = buildCleanupPreview evidence (ManualTags.tagUsage stored.tags)
      (evidence.vocabularyFingerprint record.document) record.document)
    {order : List CleanupSuggestion} (hnodup : order.Nodup)
    (hsub : ∀ suggestion ∈ order, suggestion ∈ preview.suggestions) (hsome : order ≠ [])
    (hmany : order.length ≤ 100) :
    ∃ cleaned outcome,
      applyCleanup rules evidence stored preview.catalogSignature preview.vocabularyFingerprint
        (order.map selectionOf) = (cleaned, .ok outcome) ∧
      cleaned.tags = substituteRows (order.map selectionOf) stored.tags ∧
      cleaned.tracks = stored.tracks ∧ cleaned.vocabulary = stored.vocabulary := by
  have hseparate := (hpreview ▸ apart_preview : Apart preview.suggestions).separate hnodup hsub
  rw [hpreview] at hsub
  have hused : ∀ item ∈ order.map selectionOf, ∃ track, (track, item.source) ∈ stored.tags := by
    intro item hitem
    obtain ⟨suggestion, h, rfl⟩ := List.mem_map.mp hitem
    exact mem_usage.mp (suggestions_source (hsub suggestion h)).1
  have hnormals : ∀ item ∈ order.map selectionOf,
      NormalTag rules item.source ∧ NormalTag rules item.target := by
    intro item hitem
    obtain ⟨track, hrow⟩ := hused item hitem
    obtain ⟨suggestion, h, rfl⟩ := List.mem_map.mp hitem
    refine ⟨htags (track, suggestion.source) hrow, ?_⟩
    obtain ⟨entry, hentry, hname⟩ := List.mem_map.mp (suggestions_target (hsub suggestion h))
    have hentryNormal := entry_normal hnormal hentry
    rwa [hname] at hentryNormal
  have hchecked : checkedSelections rules (order.map selectionOf)
      = .ok (order.map selectionOf) := by
    refine checkedSelections_normal hnormals hseparate ?_ ?_
    · rwa [ne_eq, List.map_eq_nil_iff]
    · rwa [List.length_map]
  have hallowed : ∀ item ∈ order.map selectionOf, item ∈ (buildCleanupPreview evidence
      (ManualTags.tagUsage stored.tags) (evidence.vocabularyFingerprint record.document)
      record.document).suggestions.map selectionOf := by
    intro item hitem
    obtain ⟨suggestion, h, rfl⟩ := List.mem_map.mp hitem
    exact List.mem_map_of_mem (hsub suggestion h)
  obtain ⟨cleaned, outcomes, signature, happly, hcleaned, htracks, hkept⟩ :=
    applyTables_accepts hstored hnormal hallowed hseparate hused
  refine ⟨cleaned, ⟨outcomes, signature⟩, ?_, hcleaned, htracks, hkept⟩
  have hsignature : preview.catalogSignature
      = catalogSignature evidence (ManualTags.tagUsage stored.tags) := by rw [hpreview]; rfl
  have hfingerprint : preview.vocabularyFingerprint
      = evidence.vocabularyFingerprint record.document := by rw [hpreview]; rfl
  unfold applyCleanup applyCleanupInternal
  rw [hchecked, hsignature, hfingerprint]
  dsimp only
  rw [happly]
  rfl

theorem cleanup_substitutes
    (hpreview : cleanupPreview rules evidence defaultVocabulary library = (stored, .ok preview))
    (htags : ∀ row ∈ library.tags, NormalTag rules row.2)
    (hvocabulary : ∀ record, stored.vocabulary = some record →
      normalized rules record.document = .ok record.document) :
    (∀ suggestion ∈ preview.suggestions, ∀ other ∈ preview.suggestions,
      suggestion.source ≠ other.target) ∧
    ∀ chosen : Finset CleanupSuggestion, (∀ suggestion ∈ chosen, suggestion ∈ preview.suggestions) →
      chosen.Nonempty → chosen.card ≤ 100 →
      (∀ order : List CleanupSuggestion, order.Nodup → order.toFinset = chosen →
        ∃ cleaned outcome,
          applyCleanup rules evidence stored preview.catalogSignature preview.vocabularyFingerprint
            (order.map selectionOf) = (cleaned, .ok outcome) ∧
          cleaned.tags = substituteRows (chosenSelections preview chosen) library.tags ∧
          cleaned.tracks = stored.tracks ∧ cleaned.vocabulary = stored.vocabulary) ∧
      (∀ suggestion ∈ chosen,
        substitute (chosenSelections preview chosen) suggestion.source = suggestion.target) ∧
      (∀ tag, (∀ suggestion ∈ chosen, suggestion.source ≠ tag) →
        substitute (chosenSelections preview chosen) tag = tag) ∧
      ∀ suggestion ∈ chosen, ∀ track, (track, suggestion.source) ∉
        substituteRows (chosenSelections preview chosen) library.tags := by
  obtain ⟨record, document, hstored, hdocument, hsame, -, hbuilt⟩ := cleanupPreview_spec hpreview
  have hnormal := hvocabulary record hstored
  obtain rfl : record.document = document := Except.ok.inj (hnormal.symm.trans hdocument)
  have hapart : Apart preview.suggestions := hbuilt ▸ apart_preview
  refine ⟨hapart.disjoint, ?_⟩
  intro chosen hsub hne hcard
  refine ⟨?_, fun suggestion h => substitute_chosen hapart hsub h,
    fun tag hforeign => substitute_unchosen hsub hforeign, ?_⟩
  · intro order hnodup horder
    have hmem : ∀ suggestion ∈ order, suggestion ∈ chosen := fun suggestion h =>
      horder ▸ List.mem_toFinset.mpr h
    have hsome : order ≠ [] := by
      rintro rfl
      rw [← horder, List.toFinset_nil] at hne
      exact Finset.not_nonempty_empty hne
    have hmany : order.length ≤ 100 := by
      rw [← List.toFinset_card_of_nodup hnodup, horder]
      exact hcard
    obtain ⟨cleaned, outcome, happly, hcleaned, hrest⟩ :=
      applyCleanup_accepts hstored hnormal (hsame ▸ htags) hbuilt hnodup
        (fun suggestion h => hsub suggestion (hmem suggestion h)) hsome hmany
    refine ⟨cleaned, outcome, happly, ?_, hrest⟩
    rw [hcleaned, hsame]
    exact substituteRows_order hapart hsub hnodup horder library.tags
  · intro suggestion h track hrow
    obtain ⟨row, -, heq⟩ := Finset.mem_image.mp hrow
    exact substitute_ne_source hapart hsub h row.2 (Prod.mk.inj heq).2

/-! ### An alias, a plural and a typo -/

/-- Lower-case letters are in every normal form. -/
def lowercaseText : TagTextRules where
  nfkc text := text
  caseFold text := text
  isUnicodeOther _ := false

def readableEvidence : EvidenceRules Unit where
  digest text := text
  encode := rendered
  secondsBits _ := 0
  taggingPrototype := .null
  jevInferenceIdentity := .null
  songCatalogEvidence _ _ _ := none
  validTagDecisions _ _ _ := true
  validExplanation _ := true

def moodVocabulary : TagVocabularyDocument :=
  ⟨tagVocabularySchema, [⟨"mood", "Mood", "",
    [⟨"bright", "bright", "Sunny", [], []⟩, ⟨"calm", "calm", "Quiet", ["tranquil"], []⟩]⟩]⟩

def firstTrack : TrackId := ⟨1, Int.one_pos⟩

theorem two_positive : (0 : ℤ) < 2 := by decide

def secondTrack : TrackId := ⟨2, two_positive⟩

theorem tracks_distinct : [firstTrack, secondTrack].Nodup := by decide

/-- One track carries two names of a mood, the other one the mood itself and a misspelt one. -/
def misnamedTags : ManualTags :=
  {(firstTrack, "calms"), (firstTrack, "tranquil"), (secondTrack, "brigt"), (secondTrack, "calm"),
    (secondTrack, "tranquil")}

theorem misnamed_tracked : ∀ row ∈ misnamedTags, row.1 ∈ [firstTrack, secondTrack] := by decide

def misnamedLibrary : TagLibrary where
  tracks := [firstTrack, secondTrack]
  tags := misnamedTags
  vocabulary := some ⟨1, moodVocabulary⟩
  tracks_nodup := tracks_distinct
  tagged := misnamed_tracked

def misnamedPreview : CleanupPreview :=
  buildCleanupPreview readableEvidence (tagUsage (manualTags misnamedLibrary))
    (readableEvidence.vocabularyFingerprint moodVocabulary) moodVocabulary

theorem moodVocabulary_normal : normalized lowercaseText moodVocabulary = .ok moodVocabulary := by
  decide

theorem misnamedPreview_selections : misnamedPreview.suggestions.map selectionOf =
    [⟨"brigt", "bright"⟩, ⟨"calms", "calm"⟩, ⟨"tranquil", "calm"⟩] := by
  have hsorted : (["brigt", "calm", "calms", "tranquil"].toFinset.sort fun left right =>
      left ≤ right) = ["brigt", "calm", "calms", "tranquil"] :=
    (List.toFinset_sort _ (by decide)).mpr (by decide)
  have husage : tagUsage (manualTags misnamedLibrary) =
      [⟨"brigt", 1⟩, ⟨"calm", 1⟩, ⟨"calms", 1⟩, ⟨"tranquil", 2⟩] := by
    have himage : misnamedLibrary.tags.image Prod.snd =
        ["brigt", "calm", "calms", "tranquil"].toFinset := by decide
    rw [tagUsage_eq]
    unfold ManualTags.tagUsage
    rw [himage, hsorted]
    decide
  unfold misnamedPreview buildCleanupPreview
  rw [husage, List.map_cons, List.map_cons, List.map_cons, List.map_cons, List.map_nil, hsorted]
  decide +kernel

theorem misnamedPreview_ok :
    cleanupPreview lowercaseText readableEvidence moodVocabulary misnamedLibrary
      = (misnamedLibrary, .ok misnamedPreview) := by
  have hsnapshot : snapshot lowercaseText readableEvidence ⟨1, moodVocabulary⟩
      = .ok ⟨1, readableEvidence.vocabularyFingerprint moodVocabulary, moodVocabulary⟩ := by
    unfold snapshot
    rw [moodVocabulary_normal]
    rfl
  refine Prod.ext rfl ?_
  exact congrArg (Except.map fun vocabulary => buildCleanupPreview readableEvidence
    (tagUsage (manualTags misnamedLibrary)) vocabulary.fingerprint vocabulary.document) hsnapshot

/-- Both names of the mood are merged into it, in either order. -/
theorem cleanup_substitutes_plural :
    misnamedPreview.suggestions.map selectionOf =
      [⟨"brigt", "bright"⟩, ⟨"calms", "calm"⟩, ⟨"tranquil", "calm"⟩] ∧
    ∀ order ∈ [misnamedPreview.suggestions, misnamedPreview.suggestions.reverse],
      ∃ cleaned outcome,
        applyCleanup lowercaseText readableEvidence misnamedLibrary
          misnamedPreview.catalogSignature misnamedPreview.vocabularyFingerprint
          (order.map selectionOf) = (cleaned, .ok outcome) ∧
        cleaned.tags =
          {(firstTrack, "calm"), (secondTrack, "bright"), (secondTrack, "calm")} := by
  refine ⟨misnamedPreview_selections, ?_⟩
  have hnormal : ∀ row ∈ misnamedLibrary.tags, NormalTag lowercaseText row.2 :=
    show ∀ row ∈ misnamedTags, normalizeManualTag lowercaseText row.2 = .ok row.2 by decide
  obtain ⟨-, hchosen⟩ := cleanup_substitutes misnamedPreview_ok hnormal fun record hrecord => by
    cases hrecord
    exact moodVocabulary_normal
  have hnodup : misnamedPreview.suggestions.Nodup :=
    List.Nodup.of_map selectionOf (misnamedPreview_selections ▸ by decide)
  have hlength : misnamedPreview.suggestions.length = 3 := by
    rw [← List.length_map selectionOf, misnamedPreview_selections]
    rfl
  obtain ⟨happly, -, -, -⟩ := hchosen misnamedPreview.suggestions.toFinset
    (fun suggestion h => List.mem_toFinset.mp h)
    (Finset.card_pos.mp (by rw [List.toFinset_card_of_nodup hnodup, hlength]; decide))
    (by rw [List.toFinset_card_of_nodup hnodup, hlength]; decide)
  have hselections : chosenSelections misnamedPreview misnamedPreview.suggestions.toFinset =
      [⟨"brigt", "bright"⟩, ⟨"calms", "calm"⟩, ⟨"tranquil", "calm"⟩] := by
    rw [← misnamedPreview_selections]
    unfold chosenSelections
    rw [List.filter_eq_self.mpr fun suggestion h => decide_eq_true (List.mem_toFinset.mpr h)]
  rw [hselections] at happly
  intro order horder
  have hperm : order.Nodup ∧ order.toFinset = misnamedPreview.suggestions.toFinset := by
    rcases List.mem_cons.mp horder with rfl | hreverse
    · exact ⟨hnodup, rfl⟩
    · rw [List.mem_singleton.mp hreverse]
      exact ⟨List.nodup_reverse.mpr hnodup, List.toFinset_reverse⟩
  obtain ⟨cleaned, outcome, hresult, htags, -, -⟩ := happly order hperm.1 hperm.2
  refine ⟨cleaned, outcome, hresult, ?_⟩
  rw [htags]
  decide

end Preview

end TagCleanup

end MusicServer
