/-
# The tag vocabulary and its cleanup preview

`assistant/vocabulary.rs`: how a vocabulary document is normalised, when two tags are one
spelling edit apart, and which renames a preview of the tags in use suggests.  The Unicode
tables of the normal form, of the case folding and of the general categories are given by
`TagTextRules`.

* `isSingleEdit_exact`: the spelling check decides `OneEdit`, and is symmetric;
* `suggestions_source`, `suggestions_target`, `suggestions_unique`: a preview renames tags in
  use that are no canonical names, each once, to canonical names.
-/
import MusicServer.CatalogEvidence
import MusicServer.ManualTags
import MusicServer.RecoveryJournal
import MusicServer.ReviewEvidence
import MusicServer.SingleEdit

namespace MusicServer

/-- What the normal form of a tag takes from the Unicode tables. -/
structure TagTextRules where
  nfkc : List Char → List Char
  caseFold : List Char → List Char
  isUnicodeOther : Char → Bool

namespace Vocabulary

open Enrichment

/-! ## Texts -/

def splitWhitespace (text : List Char) : List (List Char) :=
  (text.splitOnP isWhiteSpace).filter fun word => word ≠ []

def collapseWhitespace (value : String) : String :=
  String.ofList (List.intercalate [' '] (splitWhitespace value.toList))

def maxTagLength : ℕ := 64

variable (rules : TagTextRules)

def normalizeManualTag (value : String) : Except String String :=
  let words := splitWhitespace (rules.nfkc value.toList)
  let normalized := rules.caseFold (List.intercalate [' '] words)
  if normalized = [] then .error "tags cannot be blank"
  else if maxTagLength < normalized.length then
    .error ("tags cannot exceed " ++ toString maxTagLength ++ " characters")
  else if normalized.any rules.isUnicodeOther then
    .error "tags cannot contain control characters"
  else .ok (String.ofList normalized)

def NormalTag (tag : String) : Prop := normalizeManualTag rules tag = .ok tag

/-! ## The document -/

def tagVocabularySchema : String := "assistant-tag-vocabulary/v1"
def tagCleanupPreviewSchema : String := "assistant-tag-cleanup-preview/v2"
def maxVocabularyTags : ℕ := 200

inductive VocabularyError where
  | invalidSchema
  | invalidGroupCount
  | invalidGroupKey
  | invalidGroupLabel
  | invalidGroupDescription
  | invalidTagCount
  | invalidTagId
  | invalidTagName
  | invalidTagDescription
  | tooManyAliases
  | tooManyContextCues
  | duplicateGroup
  | duplicateTagId
  | duplicateTagName
  | aliasConflictsWithName (term : String)
  | duplicateAlias (term : String)
  deriving DecidableEq

/-- The bytes of an identifier are ASCII, so they are its characters. -/
def validIdentifier (value : String) (maximum : ℕ) (allowDot : Bool) : Bool :=
  let lead (c : Char) : Bool := ('a' ≤ c && c ≤ 'z') || c.isDigit
  (2 ≤ value.utf8ByteSize && value.utf8ByteSize ≤ maximum) &&
    value.toList.head?.any lead &&
    value.toList.all fun c => lead c || c = '_' || c = '-' || (allowDot && c = '.')

/-- The terms in their normal form, without repetition. -/
def normalizeTerms (values : List String) : Except VocabularyError (List String) :=
  values.foldlM (fun result value =>
    match normalizeManualTag rules value with
    | .error _ => .error .invalidTagName
    | .ok normalized => .ok (if normalized ∈ result then result else result ++ [normalized])) []

/-- What the checks of the groups before have seen. -/
structure VocabularySeen where
  groupKeys : List String
  tagIds : List String
  tagNames : List String

def normalizedEntry (seen : VocabularySeen) (tag : TagVocabularyEntry) :
    Except VocabularyError (TagVocabularyEntry × VocabularySeen) := do
  let id := Enrichment.trim tag.id
  let name ← (normalizeManualTag rules tag.name).mapError fun _ => VocabularyError.invalidTagName
  let description := collapseWhitespace tag.description
  ensure (validIdentifier id 64 true) .invalidTagId
  ensure (2 ≤ description.length ∧ description.length ≤ 300) .invalidTagDescription
  ensure (tag.aliases.length ≤ 24) .tooManyAliases
  ensure (tag.contextCues.length ≤ 32) .tooManyContextCues
  let aliases ← normalizeTerms rules tag.aliases
  let contextCues ← normalizeTerms rules tag.contextCues
  ensure (name ∉ aliases) (.aliasConflictsWithName name)
  ensure (id ∉ seen.tagIds) .duplicateTagId
  ensure (name ∉ seen.tagNames) .duplicateTagName
  return (⟨id, name, description, aliases, contextCues⟩,
    { seen with tagIds := seen.tagIds ++ [id], tagNames := seen.tagNames ++ [name] })

def normalizedEntries (seen : VocabularySeen) :
    List TagVocabularyEntry → Except VocabularyError (List TagVocabularyEntry × VocabularySeen)
  | [] => .ok ([], seen)
  | tag :: rest => do
    let (entry, seen) ← normalizedEntry rules seen tag
    let (entries, seen) ← normalizedEntries seen rest
    return (entry :: entries, seen)

def normalizedGroup (seen : VocabularySeen) (group : TagVocabularyGroup) :
    Except VocabularyError (TagVocabularyGroup × VocabularySeen) := do
  let key := Enrichment.trim group.key
  let label := collapseWhitespace group.label
  let description := collapseWhitespace group.description
  ensure (validIdentifier key 32 false) .invalidGroupKey
  ensure (label ≠ "" ∧ label.length ≤ 64) .invalidGroupLabel
  ensure (description.length ≤ 300) .invalidGroupDescription
  ensure (key ∉ seen.groupKeys) .duplicateGroup
  ensure (group.tags.length ≤ 100) .invalidTagCount
  let (tags, seen) ← normalizedEntries rules
    { seen with groupKeys := seen.groupKeys ++ [key] } group.tags
  return (⟨key, label, description, tags⟩, seen)

def normalizedGroups (seen : VocabularySeen) :
    List TagVocabularyGroup → Except VocabularyError (List TagVocabularyGroup × VocabularySeen)
  | [] => .ok ([], seen)
  | group :: rest => do
    let (group, seen) ← normalizedGroup rules seen group
    let (groups, seen) ← normalizedGroups seen rest
    return (group :: groups, seen)

/-- Every alias belongs to one tag and is no name; `owned` are the aliases met before. -/
def checkAliases (tagNames : List String) :
    List String → List String → Except VocabularyError Unit
  | _, [] => .ok ()
  | owned, term :: rest =>
    if term ∈ tagNames then .error (.aliasConflictsWithName term)
    else if term ∈ owned then .error (.duplicateAlias term)
    else checkAliases tagNames (term :: owned) rest

def entriesOf (document : TagVocabularyDocument) : List TagVocabularyEntry :=
  document.groups.flatMap fun group => group.tags

def normalized (document : TagVocabularyDocument) :
    Except VocabularyError TagVocabularyDocument := do
  ensure (document.schemaVersion = tagVocabularySchema) .invalidSchema
  ensure (1 ≤ document.groups.length ∧ document.groups.length ≤ 20) .invalidGroupCount
  let (groups, seen) ← normalizedGroups rules ⟨[], [], []⟩ document.groups
  let result : TagVocabularyDocument := ⟨document.schemaVersion, groups⟩
  ensure (1 ≤ seen.tagNames.length ∧ seen.tagNames.length ≤ maxVocabularyTags) .invalidTagCount
  checkAliases seen.tagNames [] ((entriesOf result).flatMap TagVocabularyEntry.aliases)
  return result

/-! ## Normal documents -/

variable {rules}

theorem normalizedEntry_name {seen seen' : VocabularySeen} {tag entry : TagVocabularyEntry}
    (h : normalizedEntry rules seen tag = .ok (entry, seen')) :
    normalizeManualTag rules tag.name = .ok entry.name := by
  unfold normalizedEntry at h
  obtain ⟨name, hname, h⟩ := bind_eq_ok.mp h
  have hresult : entry.name = name := by
    obtain ⟨-, -, h⟩ := bind_eq_ok.mp h
    obtain ⟨-, -, h⟩ := bind_eq_ok.mp h
    obtain ⟨-, -, h⟩ := bind_eq_ok.mp h
    obtain ⟨-, -, h⟩ := bind_eq_ok.mp h
    obtain ⟨aliases, -, h⟩ := bind_eq_ok.mp h
    obtain ⟨cues, -, h⟩ := bind_eq_ok.mp h
    obtain ⟨-, -, h⟩ := bind_eq_ok.mp h
    obtain ⟨-, -, h⟩ := bind_eq_ok.mp h
    obtain ⟨-, -, h⟩ := bind_eq_ok.mp h
    cases h
    rfl
  rw [hresult]
  cases hnormal : normalizeManualTag rules tag.name with
  | error e =>
    rw [hnormal] at hname
    cases hname
  | ok value =>
    rw [hnormal] at hname
    cases hname
    rfl

theorem normalizedEntries_names {seen seen' : VocabularySeen}
    {tags entries : List TagVocabularyEntry}
    (h : normalizedEntries rules seen tags = .ok (entries, seen')) :
    List.Forall₂ (fun tag entry => normalizeManualTag rules tag.name =
      .ok entry.name) tags entries := by
  induction tags generalizing seen entries with
  | nil =>
    cases h
    exact .nil
  | cons tag rest ih =>
    obtain ⟨⟨entry, next⟩, hentry, h⟩ := bind_eq_ok.mp h
    obtain ⟨⟨others, last⟩, hothers, h⟩ := bind_eq_ok.mp h
    cases h
    exact .cons (normalizedEntry_name hentry) (ih hothers)

theorem normalizedGroup_names {seen seen' : VocabularySeen} {group group' : TagVocabularyGroup}
    (h : normalizedGroup rules seen group = .ok (group', seen')) :
    List.Forall₂ (fun tag entry => normalizeManualTag rules tag.name =
      .ok entry.name) group.tags group'.tags := by
  unfold normalizedGroup at h
  obtain ⟨-, -, h⟩ := bind_eq_ok.mp h
  obtain ⟨-, -, h⟩ := bind_eq_ok.mp h
  obtain ⟨-, -, h⟩ := bind_eq_ok.mp h
  obtain ⟨-, -, h⟩ := bind_eq_ok.mp h
  obtain ⟨-, -, h⟩ := bind_eq_ok.mp h
  obtain ⟨⟨tags, next⟩, htags, h⟩ := bind_eq_ok.mp h
  cases h
  exact normalizedEntries_names htags

theorem normalizedGroups_names {seen seen' : VocabularySeen}
    {groups groups' : List TagVocabularyGroup}
    (h : normalizedGroups rules seen groups = .ok (groups', seen')) :
    List.Forall₂ (fun group group' => List.Forall₂ (fun tag entry : TagVocabularyEntry =>
      normalizeManualTag rules tag.name = .ok entry.name) group.tags group'.tags) groups groups' := by
  induction groups generalizing seen groups' with
  | nil =>
    cases h
    exact .nil
  | cons group rest ih =>
    obtain ⟨⟨group', next⟩, hgroup, h⟩ := bind_eq_ok.mp h
    obtain ⟨⟨others, last⟩, hothers, h⟩ := bind_eq_ok.mp h
    cases h
    exact .cons (normalizedGroup_names hgroup) (ih hothers)

theorem forall₂_diagonal {α : Type} {R : α → α → Prop} {l : List α} (h : List.Forall₂ R l l) :
    ∀ a ∈ l, R a a := by
  induction l with
  | nil => exact fun a ha => by cases ha
  | cons a rest ih =>
    cases h with
    | cons hhead htail => exact List.forall_mem_cons.mpr ⟨hhead, ih htail⟩

theorem entry_normal {document : TagVocabularyDocument}
    (h : normalized rules document = .ok document) {entry : TagVocabularyEntry}
    (hentry : entry ∈ entriesOf document) : NormalTag rules entry.name := by
  unfold normalized at h
  obtain ⟨-, -, h⟩ := bind_eq_ok.mp h
  obtain ⟨-, -, h⟩ := bind_eq_ok.mp h
  obtain ⟨⟨groups, seen⟩, hgroups, h⟩ := bind_eq_ok.mp h
  obtain ⟨-, -, h⟩ := bind_eq_ok.mp h
  obtain ⟨-, -, h⟩ := bind_eq_ok.mp h
  have hsame : groups = document.groups := congrArg TagVocabularyDocument.groups (Except.ok.inj h)
  subst hsame
  obtain ⟨group, hgroup, hmem⟩ := List.mem_flatMap.mp hentry
  exact forall₂_diagonal (forall₂_diagonal (normalizedGroups_names hgroups) group hgroup) entry hmem

/-! ## One spelling edit -/

def isSingleEdit (source target : String) : Bool :=
  let source := source.toList
  let target := target.toList
  -- the absolute difference of the lengths
  if source = target ∨ 1 < (source.length - target.length) + (target.length - source.length) then
    false
  else if source.length = target.length then SingleEdit.sameLength source target
  else if source.length < target.length then SingleEdit.leaveOneOut source target false
  else SingleEdit.leaveOneOut target source false

theorem isSingleEdit_iff (source target : String) :
    isSingleEdit source target = true ↔ SingleEdit.OneEdit source.toList target.toList := by
  unfold isSingleEdit
  dsimp only
  split
  · next hfar =>
    simp only [Bool.false_eq_true, false_iff]
    intro hedit
    have hlength := hedit.length
    rcases hfar with heq | hfar
    · rw [heq] at hlength
      rcases hlength with h | h | ⟨-, h⟩
      · omega
      · omega
      · exact h rfl
    · omega
  · next hnear =>
    rw [not_or] at hnear
    split
    · next hsame => exact SingleEdit.sameLength_iff hsame
    · next hdiffer =>
      split
      · next hless =>
        have hlength : source.toList.length + 1 = target.toList.length := by omega
        rw [SingleEdit.leaveOneOut_iff hlength, SingleEdit.oneEdit_longer hlength]
      · next hmore =>
        have hlength : target.toList.length + 1 = source.toList.length := by omega
        rw [SingleEdit.leaveOneOut_iff hlength, ← SingleEdit.oneEdit_longer hlength]
        exact ⟨SingleEdit.OneEdit.symm, SingleEdit.OneEdit.symm⟩

theorem isSingleEdit_exact (source target : String) :
    (isSingleEdit source target = true ↔
      SingleEdit.OneEdit source.toList target.toList) ∧
    isSingleEdit source target = isSingleEdit target source := by
  refine ⟨isSingleEdit_iff source target, ?_⟩
  rw [Bool.eq_iff_iff, isSingleEdit_iff, isSingleEdit_iff]
  exact ⟨SingleEdit.OneEdit.symm, SingleEdit.OneEdit.symm⟩

/-! ## The preview of a cleanup -/

inductive CleanupSuggestionReason where
  | vocabularyAlias
  | vocabularyPlural
  | vocabularyTypo
  deriving DecidableEq

def CleanupSuggestionReason.asStr : CleanupSuggestionReason → String
  | .vocabularyAlias => "vocabulary_alias"
  | .vocabularyPlural => "vocabulary_plural"
  | .vocabularyTypo => "vocabulary_typo"

structure CleanupSuggestion where
  id : String
  source : String
  target : String
  reasonCode : CleanupSuggestionReason
  reason : String
  sourceTrackCount : ℕ
  targetTrackCount : ℕ
  merged : Bool
  deriving DecidableEq

structure CleanupPreview where
  catalogSignature : String
  vocabularyFingerprint : String
  suggestions : List CleanupSuggestion

section Preview

variable {δ : Type} (evidence : EvidenceRules δ)

-- the order that tags are sorted by, here and where they are cleaned
scoped instance transTags : IsTrans String (· ≤ ·) := inferInstance
scoped instance antisymmTags : @Std.Antisymm String (· ≤ ·) := inferInstance

def catalogSignature (usage : List ManualTags.TagUsage) : String :=
  evidence.sourceSignature (.object
    [("schema", .string tagCleanupPreviewSchema),
      ("usage", .array (usage.map fun item =>
        .array [.string item.tag, EvidenceRules.integer item.trackCount]))])

/-- The names of the vocabulary, in its order. -/
def canonicalNames (document : TagVocabularyDocument) : List String :=
  (entriesOf document).map TagVocabularyEntry.name

/-- Whose alias a tag is; a map keeps what is inserted last. -/
def aliasTarget (document : TagVocabularyDocument) (source : String) : Option String :=
  ((entriesOf document).reverse.find? fun entry => source ∈ entry.aliases).map
    TagVocabularyEntry.name

/-- How many tracks carry a tag, as the map from the usage has it. -/
def countOf (usage : List ManualTags.TagUsage) (tag : String) : ℕ :=
  ((usage.reverse.find? fun item => item.tag = tag).map ManualTags.TagUsage.trackCount).getD 0

def stripPlural (source : String) : Option String :=
  if source.toList.getLast? = some 's' then some (String.ofList source.toList.dropLast) else none

def cleanupCandidates (document : TagVocabularyDocument) (source : String) :
    List String × CleanupSuggestionReason × String :=
  match aliasTarget document source with
  | some target =>
    ([target], .vocabularyAlias, "Matches an alias defined in the controlled vocabulary.")
  | none =>
    match (stripPlural source).filter fun target => target ∈ canonicalNames document with
    | some target => ([target], .vocabularyPlural, "Matches the plural form of a canonical tag.")
    | none =>
      ((canonicalNames document).filter fun target => isSingleEdit source target,
        .vocabularyTypo, "One clear spelling edit from a canonical tag.")

def cleanupSuggestion (fingerprint : String) (usage : List ManualTags.TagUsage)
    (document : TagVocabularyDocument) (source : String) : Option CleanupSuggestion :=
  if source ∈ canonicalNames document then none
  else
    let (candidates, reasonCode, reason) := cleanupCandidates document source
    match candidates with
    | [target] =>
      let idPayload := String.intercalate "\x00"
        [tagCleanupPreviewSchema, fingerprint, source, target, reasonCode.asStr]
      some ⟨evidence.digest idPayload, source, target, reasonCode, reason, countOf usage source,
        countOf usage target, 0 < countOf usage target⟩
    | _ => none

def buildCleanupPreview (usage : List ManualTags.TagUsage) (fingerprint : String)
    (document : TagVocabularyDocument) : CleanupPreview :=
  let sources := (usage.map ManualTags.TagUsage.tag).toFinset.sort fun left right => left ≤ right
  ⟨catalogSignature evidence usage, fingerprint,
    sources.filterMap (cleanupSuggestion evidence fingerprint usage document)⟩

variable {evidence}

theorem aliasTarget_canonical {document : TagVocabularyDocument} {source target : String}
    (h : aliasTarget document source = some target) : target ∈ canonicalNames document := by
  obtain ⟨entry, hentry, rfl⟩ := Option.map_eq_some_iff.mp h
  have hmem := List.mem_of_find?_eq_some hentry
  exact List.mem_map_of_mem (List.mem_reverse.mp hmem)

theorem candidates_canonical {document : TagVocabularyDocument} {source target : String}
    (h : target ∈ (cleanupCandidates document source).1) : target ∈ canonicalNames document := by
  unfold cleanupCandidates at h
  split at h
  · next owner halias =>
    rw [List.mem_singleton.mp h]
    exact aliasTarget_canonical halias
  · split at h
    · next stripped hplural =>
      rw [List.mem_singleton.mp h]
      exact of_decide_eq_true (Option.filter_eq_some_iff.mp hplural).2
    · exact List.mem_of_mem_filter h

theorem cleanupSuggestion_spec {fingerprint source : String} {usage : List ManualTags.TagUsage}
    {document : TagVocabularyDocument} {suggestion : CleanupSuggestion}
    (h : cleanupSuggestion evidence fingerprint usage document source = some suggestion) :
    suggestion.source = source ∧ source ∉ canonicalNames document ∧
      suggestion.target ∈ canonicalNames document := by
  unfold cleanupSuggestion at h
  split at h
  · cases h
  · next hforeign =>
    dsimp only at h
    split at h
    · next target hcandidates =>
      cases h
      have htarget : target ∈ (cleanupCandidates document source).1 := by
        rw [hcandidates]
        exact List.mem_singleton_self target
      exact ⟨rfl, hforeign, candidates_canonical htarget⟩
    · cases h

section Suggestions

variable {fingerprint : String} {usage : List ManualTags.TagUsage}
  {document : TagVocabularyDocument}

theorem suggestions_source {suggestion : CleanupSuggestion}
    (h : suggestion ∈ (buildCleanupPreview evidence usage fingerprint document).suggestions) :
    suggestion.source ∈ usage.map ManualTags.TagUsage.tag ∧
      suggestion.source ∉ canonicalNames document := by
  obtain ⟨source, hsource, hmade⟩ := List.mem_filterMap.mp h
  rw [Finset.mem_sort, List.mem_toFinset] at hsource
  obtain ⟨rfl, hforeign, -⟩ := cleanupSuggestion_spec hmade
  exact ⟨hsource, hforeign⟩

theorem suggestions_target {suggestion : CleanupSuggestion}
    (h : suggestion ∈ (buildCleanupPreview evidence usage fingerprint document).suggestions) :
    suggestion.target ∈ canonicalNames document := by
  obtain ⟨source, -, hmade⟩ := List.mem_filterMap.mp h
  exact (cleanupSuggestion_spec hmade).2.2

theorem suggestions_disjoint {suggestion other : CleanupSuggestion}
    (h : suggestion ∈ (buildCleanupPreview evidence usage fingerprint document).suggestions)
    (hother : other ∈ (buildCleanupPreview evidence usage fingerprint document).suggestions) :
    suggestion.source ≠ other.target := by
  intro heq
  have hforeign := (suggestions_source h).2
  rw [heq] at hforeign
  exact hforeign (suggestions_target hother)

theorem suggestions_unique {suggestion other : CleanupSuggestion}
    (h : suggestion ∈ (buildCleanupPreview evidence usage fingerprint document).suggestions)
    (hother : other ∈ (buildCleanupPreview evidence usage fingerprint document).suggestions)
    (hsource : suggestion.source = other.source) : suggestion = other := by
  obtain ⟨source, -, hmade⟩ := List.mem_filterMap.mp h
  obtain ⟨source', -, hmade'⟩ := List.mem_filterMap.mp hother
  have hsame : source = source' := by
    rw [← (cleanupSuggestion_spec hmade).1, ← (cleanupSuggestion_spec hmade').1, hsource]
  subst hsame
  exact Option.some.inj (hmade.symm.trans hmade')

end Suggestions

end Preview

end Vocabulary

end MusicServer
