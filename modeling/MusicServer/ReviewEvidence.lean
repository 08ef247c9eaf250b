/-
# The evidence behind a suggested tag

The tables a review reads beside the tracks, and the signatures that tie a stored analysis to
the track, the context, the catalog evidence, the role and the vocabulary it was made from.
Signatures are digests of texts; a digest settles what was hashed as long as none of the texts
at hand collide.
-/
import MusicServer.JsonValue
import MusicServer.LibraryIndex
import MusicServer.ReviewPlan

namespace MusicServer

open LibraryIndex

/-! ## The tables -/

structure TagVocabularyEntry where
  id : String
  name : String
  description : String
  aliases : List String
  contextCues : List String
  deriving DecidableEq

structure TagVocabularyGroup where
  key : String
  label : String
  description : String
  tags : List TagVocabularyEntry
  deriving DecidableEq

structure TagVocabularyDocument where
  schemaVersion : String
  groups : List TagVocabularyGroup
  deriving DecidableEq

inductive ThinkingMode where
  | providerDefault
  | enabled
  | disabled
  | low
  | medium
  | high
  | xhigh
  | max
  deriving DecidableEq

namespace ThinkingMode

def asStr : ThinkingMode → String
  | .providerDefault => "provider_default"
  | .enabled => "enabled"
  | .disabled => "disabled"
  | .low => "low"
  | .medium => "medium"
  | .high => "high"
  | .xhigh => "xhigh"
  | .max => "max"

def parse (value : String) : ThinkingMode :=
  if value = "enabled" then .enabled
  else if value = "disabled" then .disabled
  else if value = "low" then .low
  else if value = "medium" then .medium
  else if value = "high" then .high
  else if value = "xhigh" then .xhigh
  else if value = "max" then .max
  else .providerDefault

theorem asStr_injective : Function.Injective asStr := by
  intro mode mode' h
  cases mode <;> cases mode' <;> first | rfl | exact absurd h (by decide)

end ThinkingMode

/-- The text can be joined with others by a zero character and taken apart again. -/
def Plain (text : String) : Prop := '\x00' ∉ text.toList

/-- A connection as it is stored: its id is generated, its adapter one of a list and its URL
parsed, so none of them holds a zero character. -/
structure ProviderConnectionRecord where
  id : String
  adapterId : String
  baseUrl : String
  encryptedApiKey : String
  apiKeyNonce : String
  allowPrivateNetwork : Bool
  verifiedCapabilityIds : List String
  id_plain : Plain id
  adapterId_plain : Plain adapterId
  baseUrl_plain : Plain baseUrl

/-- A role as it is stored; its connection is named by the id of one. -/
structure ModelRoleRecord where
  roleId : String
  connectionId : String
  modelId : String
  enabled : Bool
  timeoutSeconds : ℕ
  maxOutputTokens : ℕ
  thinkingMode : String
  connectionId_plain : Plain connectionId

/-- A row of `track_analyses`; a column whose document does not decode is `none`. -/
structure AnalysisRow (δ : Type) where
  trackId : TrackId
  analyzerId : String
  sourceSignature : String
  moods : Option (List String)
  evidence : Option (List String)
  metrics : Option JsonObject
  decisions : Option (List δ)

/-- A row of `track_contexts`; a column whose document does not decode is `none`. -/
structure ContextRow where
  trackId : TrackId
  analyzerId : String
  sourceSignature : String
  completeness : String
  summary : Option Json
  timeline : Option Json
  sections : Option Json
  technical : Option Json
  stages : Option Json

/-- A row of `cleanup_track_enrichments`. -/
structure EnrichmentRow where
  trackId : TrackId
  evidenceRevision : ℤ
  sourceSignature : String
  resultBytes : ℕ
  result : Option JsonObject

structure ReviewRow where
  trackId : TrackId
  analyzerId : String
  tag : String
  sourceSignature : String
  decision : AnalysisReviewDecision
  deriving DecidableEq

/-- The tables a review reads and writes, beside the manual tags. -/
structure EvidenceTables (δ : Type) where
  index : LibraryIndex
  analyses : List (AnalysisRow δ)
  contexts : List ContextRow
  enrichments : List EnrichmentRow
  catalogRevision : ℤ
  sourcePolicies : List (String × Bool)
  vocabulary : Option TagVocabularyDocument
  roles : List ModelRoleRecord
  connections : List ProviderConnectionRecord

/-! ## Signatures -/

/-- What the signatures take from elsewhere: the digest, the encoding of a document, the double
of a duration, the two request prototypes, and the readings of catalog evidence and of a
model's decisions, whose results alone matter here. -/
structure EvidenceRules (δ : Type) where
  digest : String → String
  encode : Json → String
  secondsBits : ℕ → BitVec 64
  taggingPrototype : Json
  jevInferenceIdentity : Json
  songCatalogEvidence : IndexedTrack → EnrichmentRow → Bool → Option Json
  validTagDecisions : List δ → List String → Json → Bool
  validExplanation : String → Bool

mutual

def rendered : Json → String
  | .null => "null"
  | .bool value => toString value
  | .number (.integer value) => toString value
  | .number (.float bits) => toString bits.toNat
  | .string value => "|" ++ value ++ "|"
  | .array items => "[" ++ renderedItems items ++ "]"
  | .object fields => "(" ++ renderedFields fields ++ ")"

def renderedItems : List Json → String
  | [] => ""
  | item :: rest => rendered item ++ "," ++ renderedItems rest

def renderedFields : List (String × Json) → String
  | [] => ""
  | (key, value) :: rest => key ++ ":" ++ rendered value ++ "," ++ renderedFields rest

end

def modelTagAnalyzerId : String := "model-context-tagger/v8"

def catalogTagAnalyzerId : String := "catalog-tags/v1"

def localContextAnalyzerId : String := "local-context/v3"

def localContextImplementationId : String :=
  "local-context/v3+rustfft/v2+loudness/v2+rhythm/v2"

def modelTaggerInputContract : String := "assistant-music-tagger-input/v26"

def modelTaggerOutputContract : String := "assistant-music-tagger-output/v5"

def catalogEvidencePolicyContract : String := "catalog-evidence-policy/v13"

def typesafeAdapter : String := "typesafe-systemone/v1"

def maxModelEvidenceItems : ℕ := 4

namespace EvidenceRules

variable {δ : Type} (rules : EvidenceRules δ)

def integer (value : ℤ) : Json := .number (.integer value)

def optionalNumber : Option ℕ → Json
  | none => .null
  | some value => integer value

def strings (values : List String) : Json := .array (values.map Json.string)

/-- The digest of a document, which the signatures of tracks and vocabularies are. -/
def sourceSignature (value : Json) : String := rules.digest (rules.encode value)

/-- A document with the keys of its objects in order, as the map of a value keeps them. -/
def vocabularyJson (document : TagVocabularyDocument) : Json :=
  .object
    [("groups", .array (document.groups.map fun group =>
        .object
          [("description", .string group.description), ("key", .string group.key),
            ("label", .string group.label),
            ("tags", .array (group.tags.map fun tag =>
              .object
                [("aliases", strings tag.aliases), ("context_cues", strings tag.contextCues),
                  ("description", .string tag.description), ("id", .string tag.id),
                  ("name", .string tag.name)]))])),
      ("schema_version", .string document.schemaVersion)]

def vocabularyFingerprint (document : TagVocabularyDocument) : String :=
  rules.sourceSignature (vocabularyJson document)

def metadataSourceSignature (track : IndexedTrack) : String :=
  rules.sourceSignature (.array
    [.string (String.ofList track.path.encoded), .string track.metadata.title,
      .string track.displayTitle, .string track.metadata.artist, .string track.metadata.album,
      .string track.origin, .string track.metadata.genre, optionalNumber track.metadata.bpm])

def catalogTagSourceSignature (track : IndexedTrack) (evidenceRevision : ℤ) : String :=
  rules.sourceSignature (.array
    [.string catalogTagAnalyzerId, .string catalogEvidencePolicyContract,
      .string (rules.metadataSourceSignature track), integer evidenceRevision])

def modelTagEvidenceSignature (track : IndexedTrack) : String :=
  rules.sourceSignature (.array
    [.string track.metadata.artist, .string track.metadata.album, .string track.origin,
      .string track.metadata.genre, .number (.float (rules.secondsBits track.duration)),
      optionalNumber track.metadata.bpm])

/-- The context of a track as far as signatures depend on it. -/
structure CurrentTrackContext where
  sourceSignature : String
  completeness : String

def modelTagSourceSignature (track : IndexedTrack) (roleFingerprint vocabularyFingerprint : String)
    (context : Option CurrentTrackContext) (catalog : Option Json) : String :=
  let contextSignature := (context.map CurrentTrackContext.sourceSignature).getD "no-track-context"
  let catalogSignature := rules.sourceSignature (catalog.getD .null)
  rules.digest (String.intercalate "\x00"
    [modelTagAnalyzerId, roleFingerprint, vocabularyFingerprint,
      rules.modelTagEvidenceSignature track, contextSignature, catalogSignature])

/-- A track is analysed where its audio is: at the kept original, if it has one. -/
def contextSourceSignature (track : IndexedTrack) (implementationId : String)
    (voiceSignature : Option String) : String :=
  let converted := track.original.bind fun original =>
    (track.path.withExtension original.extension).toOption.map fun path =>
      (path, original.sizeBytes, original.mtimeUnixSeconds)
  let (path, sizeBytes, mtimeUnixSeconds) :=
    converted.getD (track.path, track.sizeBytes, track.mtimeUnixSeconds)
  rules.sourceSignature (.array
    ([.string implementationId, .string (String.ofList path.encoded), integer sizeBytes,
      integer mtimeUnixSeconds] ++ voiceSignature.toList.map Json.string))

/-! ### Roles and connections -/

def flag (value : Bool) : String := if value then "1" else "0"

def configurationText (role : ModelRoleRecord) : String :=
  String.intercalate "\x00"
    [role.roleId, role.connectionId, role.modelId, flag role.enabled,
      toString role.timeoutSeconds, toString role.maxOutputTokens,
      (ThinkingMode.parse role.thinkingMode).asStr]

def configurationFingerprint (role : ModelRoleRecord) : String :=
  rules.digest (configurationText role)

def connectionText (connection : ProviderConnectionRecord) : String :=
  String.intercalate "\x00"
    [connection.id, connection.adapterId, connection.baseUrl, connection.encryptedApiKey,
      connection.apiKeyNonce, rules.encode (strings connection.verifiedCapabilityIds),
      flag connection.allowPrivateNetwork]

def connectionFingerprint (connection : ProviderConnectionRecord) : String :=
  rules.digest (rules.connectionText connection)

def modelTagInferenceFingerprint (role : ModelRoleRecord)
    (connection : ProviderConnectionRecord) : String :=
  rules.sourceSignature (.array
    [.string "mood-inference/v1", .string modelTaggerInputContract,
      .string modelTaggerOutputContract,
      if connection.adapterId = typesafeAdapter then rules.jevInferenceIdentity
      else rules.taggingPrototype,
      .string connection.adapterId, .string connection.baseUrl, .string role.modelId,
      integer role.maxOutputTokens, .string (ThinkingMode.parse role.thinkingMode).asStr])

/-- Whom a review of stored proposals takes the model to be. -/
structure ModelRoleReviewIdentity where
  inferenceFingerprint : String
  configurationFingerprint : String
  connectionFingerprint : String
  deriving DecidableEq

def roleReviewIdentity (role : ModelRoleRecord) (connection : ProviderConnectionRecord) :
    ModelRoleReviewIdentity :=
  ⟨rules.modelTagInferenceFingerprint role connection, rules.configurationFingerprint role,
    rules.connectionFingerprint connection⟩

end EvidenceRules

/-! ## What a join determines -/

theorem join_left {separator : Char} {first first' rest rest' : List Char}
    (hfirst : separator ∉ first) (hfirst' : separator ∉ first')
    (h : first ++ separator :: rest = first' ++ separator :: rest') :
    first = first' ∧ rest = rest' := by
  induction first generalizing first' with
  | nil =>
    cases first' with
    | nil => exact ⟨rfl, (List.cons.inj h).2⟩
    | cons c others =>
      rw [List.nil_append, List.cons_append, List.cons.injEq] at h
      exact absurd (h.1 ▸ List.mem_cons_self) hfirst'
  | cons c others ih =>
    cases first' with
    | nil =>
      rw [List.nil_append, List.cons_append, List.cons.injEq] at h
      exact absurd (h.1 ▸ List.mem_cons_self) hfirst
    | cons c' others' =>
      rw [List.cons_append, List.cons_append, List.cons.injEq] at h
      obtain ⟨rfl, h⟩ := h
      rw [List.mem_cons, not_or] at hfirst hfirst'
      obtain ⟨rfl, hrest⟩ := ih hfirst.2 hfirst'.2 h
      exact ⟨rfl, hrest⟩

theorem join_right {separator : Char} {front front' last last' : List Char}
    (hlast : separator ∉ last) (hlast' : separator ∉ last')
    (h : front ++ separator :: last = front' ++ separator :: last') :
    front = front' ∧ last = last' := by
  have hsplit := rsplitOnce_append hlast front
  rw [h, rsplitOnce_append hlast'] at hsplit
  obtain ⟨hfront, hlast⟩ := Prod.mk.inj (Option.some.inj hsplit)
  exact ⟨hfront.symm, hlast.symm⟩

theorem toList_join_cons (text next : String) (rest : List String) :
    (String.intercalate "\x00" (text :: next :: rest)).toList
      = text.toList ++ '\x00' :: (String.intercalate "\x00" (next :: rest)).toList := by
  rw [String.intercalate_cons_cons, String.toList_append, String.toList_append, List.append_assoc]
  rfl

theorem plain_natural (value : ℕ) : Plain (toString value) := by
  intro hmem
  have hdigit : ('\x00' : Char).isDigit = true := by
    refine Nat.isDigit_of_mem_toDigits (b := 10) (n := value) (by decide) (by decide) ?_
    have : (toString value).toList = Nat.toDigits 10 value := by
      rw [Nat.toString_eq_repr, Nat.repr_eq_ofList_toDigits, String.toList_ofList]
    rwa [← this]
  exact absurd hdigit (by decide)

theorem plain_asStr (mode : ThinkingMode) : Plain mode.asStr := by
  cases mode <;> unfold Plain <;> decide

theorem plain_flag (value : Bool) : Plain (EvidenceRules.flag value) := by
  cases value <;> unfold Plain <;> decide

namespace EvidenceRules

/-- The configuration text of a role determines its settings: its connection is read from the
left, what stands after the model's name from the right. -/
theorem configurationText_inj {role role' : ModelRoleRecord} (hid : role.roleId = role'.roleId)
    (h : configurationText role = configurationText role') :
    role.connectionId = role'.connectionId ∧ role.modelId = role'.modelId ∧
      role.maxOutputTokens = role'.maxOutputTokens ∧
      ThinkingMode.parse role.thinkingMode = ThinkingMode.parse role'.thinkingMode := by
  have htext := congrArg String.toList h
  unfold configurationText at htext
  simp only [toList_join_cons, String.intercalate_singleton] at htext
  rw [hid] at htext
  have hrest := (List.cons.inj (List.append_cancel_left htext)).2
  obtain ⟨hconnection, hrest⟩ := join_left role.connectionId_plain role'.connectionId_plain hrest
  -- From here the fields are taken off the end, one after the other.
  have hassoc : ∀ (model enabled timeout tokens mode : List Char),
      model ++ '\x00' :: (enabled ++ '\x00' :: (timeout ++ '\x00' :: (tokens ++ '\x00' :: mode)))
        = (((model ++ '\x00' :: enabled) ++ '\x00' :: timeout) ++ '\x00' :: tokens) ++
          '\x00' :: mode := by
    intro model enabled timeout tokens mode
    simp only [List.append_assoc, List.cons_append]
  rw [hassoc, hassoc] at hrest
  obtain ⟨hrest, hmode⟩ := join_right (plain_asStr _) (plain_asStr _) hrest
  obtain ⟨hrest, htokens⟩ := join_right (plain_natural _) (plain_natural _) hrest
  obtain ⟨hrest, _⟩ := join_right (plain_natural _) (plain_natural _) hrest
  obtain ⟨hmodel, _⟩ := join_right (plain_flag _) (plain_flag _) hrest
  refine ⟨String.toList_inj.mp hconnection, String.toList_inj.mp hmodel, ?_,
    ThinkingMode.asStr_injective (String.toList_inj.mp hmode)⟩
  have htokens := String.toList_inj.mp htokens
  rw [Nat.toString_eq_repr, Nat.toString_eq_repr] at htokens
  exact Nat.repr_injective htokens

theorem connectionText_inj {δ : Type} {rules : EvidenceRules δ}
    {connection connection' : ProviderConnectionRecord}
    (h : rules.connectionText connection = rules.connectionText connection') :
    connection.adapterId = connection'.adapterId ∧ connection.baseUrl = connection'.baseUrl := by
  have htext := congrArg String.toList h
  unfold connectionText at htext
  simp only [toList_join_cons] at htext
  obtain ⟨_, hrest⟩ := join_left connection.id_plain connection'.id_plain htext
  obtain ⟨hadapter, hrest⟩ := join_left connection.adapterId_plain connection'.adapterId_plain hrest
  obtain ⟨hbase, _⟩ := join_left connection.baseUrl_plain connection'.baseUrl_plain hrest
  exact ⟨String.toList_inj.mp hadapter, String.toList_inj.mp hbase⟩

/-- Where the digest tells two pairs of role and connection apart, equal fingerprints mean
equal inference. -/
theorem inferenceFingerprint_eq {δ : Type} {rules : EvidenceRules δ} {role role' : ModelRoleRecord}
    {connection connection' : ProviderConnectionRecord} (hid : role.roleId = role'.roleId)
    (hrole : configurationText role = configurationText role')
    (hconnection : rules.connectionText connection = rules.connectionText connection') :
    rules.modelTagInferenceFingerprint role connection
      = rules.modelTagInferenceFingerprint role' connection' := by
  obtain ⟨_, hmodel, htokens, hmode⟩ := configurationText_inj hid hrole
  obtain ⟨hadapter, hbase⟩ := connectionText_inj hconnection
  unfold modelTagInferenceFingerprint
  rw [hmodel, htokens, hmode, hadapter, hbase]

end EvidenceRules

end MusicServer
